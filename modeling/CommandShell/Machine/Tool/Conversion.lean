import CommandShell.Machine.Tool.Floating

/-!
# Conversions

How numbers, bytes and texts are written as a conversion of a format asks for: in a base or a
notation, with a precision, and filled up to a width. Main statement: what is filled up is at least
as long as the width (`le_length_fill`).
-/

namespace CommandShell.Machine.Tool

open Ascii

/-- How something is converted. -/
structure Conversion where
  /-- Whether it is filled up behind it. -/
  left : Bool
  /-- Whether numbers that are not negative get a plus sign. -/
  plus : Bool
  /-- Whether numbers that are not negative get a space. -/
  blank : Bool
  /-- Whether the other form is wanted. -/
  other : Bool
  /-- Whether numbers are filled up with zeros. -/
  zeros : Bool
  /-- The least width. -/
  width : Nat
  /-- The precision. -/
  precision : Option Nat
  /-- The letter that says what kind of conversion it is. -/
  letter : UInt8
  deriving DecidableEq, Repr

namespace Conversion

/-- A conversion without any wish. -/
def plain (letter : UInt8) : Conversion := ⟨false, false, false, false, false, 0, none, letter⟩

/-- A conversion with one more flag. -/
def flag (c : Conversion) (b : UInt8) : Conversion :=
  if b = minus then { c with left := true }
  else if b = Ascii.plus then { c with plus := true }
  else if b = space then { c with blank := true }
  else if b = numberSign then { c with other := true }
  else if b = zero then { c with zeros := true }
  else c

/-- A text that is filled up with spaces. -/
def fill (c : Conversion) (text : Bytes) : Bytes :=
  let spaces := List.replicate (c.width - text.length) space
  if c.left then text ++ spaces else spaces ++ text

/-- What is filled up is at least as long as the width. -/
theorem le_length_fill (c : Conversion) (text : Bytes) : c.width ≤ (c.fill text).length := by
  rw [fill]
  split <;> simp only [List.length_append, List.length_replicate] <;> omega

/-- A number that is filled up. Zeros go between what is in front of the digits and the digits. -/
def fillNumber (c : Conversion) (withZeros : Bool) (front digits : Bytes) : Bytes :=
  if withZeros && c.zeros && !c.left then
    front ++ List.replicate (c.width - front.length - digits.length) zero ++ digits
  else c.fill (front ++ digits)

/-- The sign of a number. -/
def sign (c : Conversion) (negative : Bool) : Bytes :=
  if negative then [minus] else if c.plus then [Ascii.plus] else if c.blank then [space] else []

/-- Whether the letter is a capital one. -/
def isUpper (c : Conversion) : Bool := byteOf 'A' ≤ c.letter && c.letter ≤ byteOf 'Z'

/-- Letters as the conversion writes them. -/
def cased (c : Conversion) (text : Bytes) : Bytes :=
  if c.isUpper then text.map fun b => if byteOf 'a' ≤ b && b ≤ byteOf 'z' then b - 32 else b
  else text

/-! ### Integers -/

/-- The digits of a number in a base. -/
def digitsIn (base n : Nat) : Bytes := (Nat.toDigits base n).map fun c => byteOf c

/-- The digits of an integer, at least as many as the precision asks for. -/
def integerDigits (c : Conversion) (base n : Nat) : Bytes :=
  let digits := if n = 0 && c.precision = some 0 then [] else digitsIn base n
  List.replicate (c.precision.getD 1 - digits.length) zero ++ digits

/-- A signed integer. -/
def renderSigned (c : Conversion) (n : Int) : Bytes :=
  c.fillNumber c.precision.isNone (c.sign (n < 0)) (c.integerDigits 10 n.natAbs)

/-- An unsigned integer. -/
def renderUnsigned (c : Conversion) (n : Nat) : Bytes :=
  if c.letter = byteOf 'o' then
    let digits := c.integerDigits 8 n
    let digits := if c.other && digits.head? ≠ some zero then zero :: digits else digits
    c.fillNumber c.precision.isNone [] digits
  else if c.letter = byteOf 'u' then c.fillNumber c.precision.isNone [] (c.integerDigits 10 n)
  else
    let front := if c.other && n ≠ 0 then utf8 "0x" else []
    c.fillNumber c.precision.isNone (c.cased front) (c.cased (c.integerDigits 16 n))

/-! ### Floating-point numbers -/

/-- A positive mantissa with a binary exponent as a quotient. -/
def quotientOf (mantissa : Nat) (exponent : Int) : Nat × Nat :=
  if 0 ≤ exponent then (mantissa * twoTo exponent.toNat, 1)
  else (mantissa, twoTo (-exponent).toNat)

/-- A quotient times a power of ten, rounded. -/
def scaled (numerator denominator : Nat) (power : Int) : Nat :=
  if 0 ≤ power then nearest (numerator * tenTo power.toNat) denominator
  else nearest numerator (denominator * tenTo (-power).toNat)

/-- Whether a quotient is less than a power of ten. -/
def isBelow (numerator denominator : Nat) (power : Int) : Bool :=
  if 0 ≤ power then numerator < denominator * tenTo power.toNat
  else numerator * tenTo (-power).toNat < denominator

/-- The decimal exponent of a quotient, looked for from one that is not too small. -/
def decimalExponent (numerator denominator : Nat) (start : Int) : Nat → Int
  | 0 => start
  | fuel + 1 =>
    if isBelow numerator denominator start then
      decimalExponent numerator denominator (start - 1) fuel
    else start

/-- A number that is at least as great as the decimal exponent of a quotient. -/
def decimalBound (numerator denominator : Nat) : Int :=
  let size : Int := (bitLength numerator : Int) - bitLength denominator + 1
  if 0 ≤ size then size * 30103 / 100000 + 1 else -(-size * 30102 / 100000) + 1

/-- The digits of a number rounded to so many of them behind the first one, and its decimal
exponent. -/
def roundedDigits (mantissa : Nat) (exponent : Int) (behind : Nat) : Bytes × Int :=
  if mantissa = 0 then (List.replicate (behind + 1) zero, 0)
  else
    let (n, d) := quotientOf mantissa exponent
    let power := decimalExponent n d (decimalBound n d) 8
    let digits := decimal (scaled n d (behind - power))
    if digits.length ≤ behind + 1 then (digits, power) else (digits.dropLast, power + 1)

/-- Digits with a point behind the first ones, if something stands behind it or it is wanted. -/
def pointed (c : Conversion) (whole fraction : Bytes) : Bytes :=
  whole ++ (if fraction.isEmpty && !c.other then [] else [point]) ++ fraction

/-- A number written with a fraction. -/
def fixed (c : Conversion) (mantissa : Nat) (exponent : Int) (behind : Nat) : Bytes :=
  let (n, d) := quotientOf mantissa exponent
  let digits := decimal (scaled n d behind)
  let digits := List.replicate (behind + 1 - digits.length) zero ++ digits
  c.pointed (digits.take (digits.length - behind)) (digits.drop (digits.length - behind))

/-- An exponent with its sign and at least some digits. -/
def exponentText (letter : Char) (least : Nat) (exponent : Int) : Bytes :=
  let digits := decimal exponent.natAbs
  byteOf letter :: (if exponent < 0 then minus else Ascii.plus) ::
    (List.replicate (least - digits.length) zero ++ digits)

/-- A number written with a decimal exponent. -/
def scientific (c : Conversion) (mantissa : Nat) (exponent : Int) (behind : Nat) : Bytes :=
  let (digits, power) := roundedDigits mantissa exponent behind
  c.pointed (digits.take 1) (digits.drop 1) ++ exponentText 'e' 2 power

/-- Digits without the zeros at their end. -/
def trimZeros (digits : Bytes) : Bytes := (digits.reverse.dropWhile (· = zero)).reverse

/-- A number written in the shorter way. -/
def shorter (c : Conversion) (mantissa : Nat) (exponent : Int) (wanted : Nat) : Bytes :=
  let wanted := max wanted 1
  let (digits, power) := roundedDigits mantissa exponent (wanted - 1)
  let kept := if c.other then digits else
    let trimmed := trimZeros digits
    if trimmed.isEmpty then digits.take 1 else trimmed
  if -4 ≤ power && power < wanted then
    if power < 0 then
      c.pointed [zero] (List.replicate (-power - 1).toNat zero ++ kept)
    else
      let whole := (digits.take (power.toNat + 1))
      c.pointed whole (kept.drop (power.toNat + 1))
  else c.pointed (kept.take 1) (kept.drop 1) ++ exponentText 'e' 2 power

/-- A number written with a binary exponent. The mantissa has so many bits, the first ones of which
are the digit in front of the point. -/
def binary (c : Conversion) (f : FloatFormat) (mantissa : Nat) (exponent : Int) : Bytes :=
  let low := (f.precision - 1) / 4 * 4
  let whole := mantissa / twoTo low
  let fraction := mantissa % twoTo low
  let digits := digitsIn 16 fraction
  let digits := List.replicate (low / 4 - digits.length) zero ++ digits
  let power := if mantissa = 0 then 0 else exponent + low
  match c.precision with
  | none => c.pointed (digitsIn 16 whole) (trimZeros digits) ++ exponentText 'p' 1 power
  | some behind =>
    if low / 4 ≤ behind then
      c.pointed (digitsIn 16 whole) (digits ++ List.replicate (behind - low / 4) zero) ++
        exponentText 'p' 1 power
    else
      let rounded := nearest mantissa (twoTo (low - 4 * behind))
      let whole := rounded / twoTo (4 * behind)
      let rest := digitsIn 16 (rounded % twoTo (4 * behind))
      let rest := if behind = 0 then [] else List.replicate (behind - rest.length) zero ++ rest
      if whole < 16 then c.pointed (digitsIn 16 whole) rest ++ exponentText 'p' 1 power
      else c.pointed [zero + 1] rest ++ exponentText 'p' 1 (power + 4)

/-- The digits of a finite number without its sign, and what stands in front of them. -/
def finiteText (c : Conversion) (f : FloatFormat) (mantissa : Nat) (exponent : Int) :
    Bytes × Bytes :=
  let kind := smallLetter c.letter
  let behind := c.precision.getD 6
  if kind = byteOf 'a' then (utf8 "0x", c.binary f mantissa exponent)
  else if kind = byteOf 'e' then ([], c.scientific mantissa exponent behind)
  else if kind = byteOf 'f' then ([], c.fixed mantissa exponent behind)
  else ([], c.shorter mantissa exponent behind)

/-- A floating-point number. -/
def renderFloating (c : Conversion) (f : FloatFormat) (value : Floating) : Bytes :=
  match value with
  | .finite negative mantissa exponent =>
    let (front, digits) := c.finiteText f mantissa exponent
    c.fillNumber true (c.sign negative ++ c.cased front) (c.cased digits)
  | .infinite negative => c.fill (c.sign negative ++ c.cased (utf8 "inf"))
  | .undefined negative => c.fill (c.sign negative ++ c.cased (utf8 "nan"))

/-! ### Texts -/

/-- The beginning of a text that the precision allows. -/
def renderText (c : Conversion) (text : Bytes) : Bytes :=
  c.fill (match c.precision with
    | none => text
    | some n => text.take n)

/-- A single byte. -/
def renderByte (c : Conversion) (b : UInt8) : Bytes := c.fill [b]

end Conversion

end CommandShell.Machine.Tool
