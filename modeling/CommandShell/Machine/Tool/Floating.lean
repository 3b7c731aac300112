import CommandShell.Machine.Tool.Echo

/-!
# Floating-point numbers

Numbers with a mantissa and a binary exponent of a limited size, as the tools and scripts calculate
with them. A result that is no such number is rounded to the nearest one, and to the even one of
two. Main statements: rounding a quotient is exact if there is no remainder (`nearest_mul`), and a
number is not less than itself (`less_irrefl`).
-/

namespace CommandShell.Machine.Tool

open Ascii

/-- A format of floating-point numbers. -/
structure FloatFormat where
  /-- The number of bits of a mantissa. -/
  precision : Nat
  /-- The least exponent. -/
  minExponent : Int
  /-- The exponent of the greatest mantissas. -/
  maxExponent : Int

namespace FloatFormat

/-- The format with which the tools calculate. -/
def extended : FloatFormat := ⟨64, -16445, 16320⟩

/-- The format with which scripts calculate. -/
def double : FloatFormat := ⟨53, -1074, 971⟩

end FloatFormat

/-- A floating-point number. -/
inductive Floating where
  /-- A mantissa times a power of two. -/
  | finite (negative : Bool) (mantissa : Nat) (exponent : Int)
  /-- An infinite number. -/
  | infinite (negative : Bool)
  /-- No number at all. -/
  | undefined (negative : Bool)
  deriving DecidableEq, Repr

/-- The natural number that is nearest to a quotient, and the even one of two. -/
def nearest (numerator denominator : Nat) : Nat :=
  let quotient := numerator / denominator
  let twice := 2 * (numerator % denominator)
  if denominator < twice || (twice = denominator && quotient % 2 = 1) then quotient + 1
  else quotient

/-- Rounding a quotient is exact if there is no remainder. -/
theorem nearest_mul (n d : Nat) (h : 0 < d) : nearest (n * d) d = n := by
  have hq : n * d / d = n := Nat.mul_div_cancel n h
  have hr : n * d % d = 0 := Nat.mul_mod_left n d
  have hd : ¬ d < 0 := Nat.not_lt_zero d
  have hd' : ¬ 0 = d := fun he => Nat.lt_irrefl 0 (he ▸ h)
  simp [nearest, hq, hr, hd']

/-- The number of binary digits. -/
def bitLength (n : Nat) : Nat := if n = 0 then 0 else n.log2 + 1

/-- A power of two. -/
def twoTo (n : Nat) : Nat := 1 <<< n

/-- A power of ten. -/
def tenTo (n : Nat) : Nat := Nat.pow 10 n

namespace Floating

/-- Zero. -/
def zero : Floating := finite false 0 0

/-- The number that is nearest to a quotient times a power of two, and whether it is out of range:
too great, or too small to be exact. -/
def ofQuotient (f : FloatFormat) (negative : Bool) (numerator denominator : Nat) (scale : Int) :
    Floating × Bool :=
  if numerator = 0 then (finite negative 0 0, false)
  else
    let size : Int := bitLength numerator - bitLength denominator
    -- The quotient lies between two powers of two, so that one of two exponents fits.
    let guess := size + scale - f.precision
    let atExponent := fun (e : Int) =>
      let shift := scale - e
      let n := if 0 ≤ shift then numerator * twoTo shift.toNat else numerator
      let d := if 0 ≤ shift then denominator else denominator * twoTo (-shift).toNat
      (nearest n d, n % d == 0)
    let start := max guess f.minExponent
    let (m, exact) := atExponent start
    let (m, exact, e) :=
      if twoTo f.precision ≤ m then
        let (m, exact) := atExponent (start + 1)
        (m, exact, start + 1)
      else (m, exact, start)
    let (m, e) := if twoTo f.precision ≤ m then (m / 2, e + 1) else (m, e)
    if f.maxExponent < e then (infinite negative, true)
    else (finite negative m e, m < twoTo (f.precision - 1) && !exact)

/-- The number that is nearest to an integer times a power of two. -/
def ofScaled (f : FloatFormat) (value : Int) (scale : Int) : Floating :=
  (ofQuotient f (value < 0) value.natAbs 1 scale).1

/-- The number that is nearest to a natural number. -/
def ofNat (f : FloatFormat) (n : Nat) : Floating := ofScaled f n 0

/-- The mantissa with its sign. -/
def signed (negative : Bool) (mantissa : Nat) : Int := if negative then -mantissa else mantissa

/-- The sum of two numbers, rounded. -/
def add (f : FloatFormat) : Floating → Floating → Floating
  | finite s m e, finite s' m' e' =>
    let least := min e e'
    let sum := signed s m * twoTo (e - least).toNat + signed s' m' * twoTo (e' - least).toNat
    if sum = 0 then finite (s && s') 0 0 else ofScaled f sum least
  | undefined s, _ => undefined s
  | _, undefined s => undefined s
  | infinite s, infinite s' => if s = s' then infinite s else undefined true
  | infinite s, _ => infinite s
  | _, infinite s => infinite s

/-- The product of two numbers, rounded. -/
def mul (f : FloatFormat) : Floating → Floating → Floating
  | finite s m e, finite s' m' e' => (ofQuotient f (s ≠ s') (m * m') 1 (e + e')).1
  | undefined s, _ => undefined s
  | _, undefined s => undefined s
  | infinite s, finite s' m _ => if m = 0 then undefined true else infinite (s ≠ s')
  | finite s m _, infinite s' => if m = 0 then undefined true else infinite (s ≠ s')
  | infinite s, infinite s' => infinite (s ≠ s')

/-- Whether one number is less than another. -/
def less : Floating → Floating → Bool
  | finite s m e, finite s' m' e' =>
    let least := min e e'
    signed s m * twoTo (e - least).toNat < signed s' m' * twoTo (e' - least).toNat
  | undefined _, _ | _, undefined _ => false
  | infinite s, infinite s' => s && !s'
  | infinite s, finite _ _ _ => s
  | finite _ _ _, infinite s => !s

/-- A number is not less than itself. -/
theorem less_irrefl (x : Floating) : x.less x = false := by
  cases x <;> simp [less]

/-- Whether two numbers are equal. No number is equal to what is none. -/
def same (x y : Floating) : Bool :=
  match x, y with
  | undefined _, _ | _, undefined _ => false
  | _, _ => !x.less y && !y.less x

/-- Whether there is no number. -/
def isUndefined : Floating → Bool
  | undefined _ => true
  | _ => false

/-- Whether a number is finite. -/
def isFinite : Floating → Bool
  | finite _ _ _ => true
  | _ => false

/-! ### Reading -/

/-- A number that was read. -/
structure Reading where
  /-- The number. -/
  value : Floating
  /-- Whether it is out of range. -/
  outOfRange : Bool
  /-- What is left behind it. -/
  rest : Bytes

/-- Whether a text begins with a word, whatever the case of its letters. -/
def beginsWith (word : String) (text : Bytes) : Bool :=
  (text.take word.length).map smallLetter = utf8 word

/-- The exponent behind a letter, and what is left behind it. Without digits there is none. -/
def readExponent (letter : UInt8) (text : Bytes) : Int × Bytes :=
  match text with
  | b :: rest =>
    if smallLetter b ≠ letter then (0, text)
    else
      let sign := rest.head?
      let signless := if sign = some minus || sign = some plus then rest.tail else rest
      let digits := signless.takeWhile isDigit
      if digits.isEmpty then (0, text)
      else
        let value := digits.foldl (fun n b => n * 10 + digitValue b) 0
        (if sign = some minus then -value else value, signless.drop digits.length)
  | [] => (0, [])

/-- The digits in front of a point and behind it, and what is left behind them. -/
def readDigits (isDigit : UInt8 → Bool) (text : Bytes) : Bytes × Bytes × Bytes :=
  let whole := text.takeWhile isDigit
  match text.drop whole.length with
  | b :: rest =>
    if b ≠ point then (whole, [], b :: rest)
    else
      let fraction := rest.takeWhile isDigit
      if whole.isEmpty && fraction.isEmpty then ([], [], b :: rest)
      else (whole, fraction, rest.drop fraction.length)
  | [] => (whole, [], [])

/-- A decimal exponent beyond which a number is certainly out of range. -/
def maxDecimalExponent : Int := 5200

/-- The number nearest to some digits times a power of ten. -/
def ofDecimal (f : FloatFormat) (negative : Bool) (digits : Nat) (exponent : Int) :
    Floating × Bool :=
  let size : Int := (bitLength digits : Int) * 30103 / 100000 + exponent
  if digits = 0 then (finite negative 0 0, false)
  else if maxDecimalExponent < size then (infinite negative, true)
  else if size < -maxDecimalExponent then (finite negative 0 0, true)
  else if 0 ≤ exponent then ofQuotient f negative (digits * tenTo exponent.toNat) 1 0
  else ofQuotient f negative digits (tenTo (-exponent).toNat) 0

/-- A binary exponent beyond which a number is certainly out of range. -/
def maxBinaryExponent : Int := 17000

/-- The number nearest to some digits times a power of two. -/
def ofBinary (f : FloatFormat) (negative : Bool) (digits : Nat) (exponent : Int) :
    Floating × Bool :=
  let size : Int := bitLength digits + exponent
  if digits = 0 then (finite negative 0 0, false)
  else if maxBinaryExponent < size then (infinite negative, true)
  else if size < -maxBinaryExponent then (finite negative 0 0, true)
  else ofQuotient f negative digits 1 exponent

/-- Whether a byte is a hexadecimal digit. -/
def isHex (b : UInt8) : Bool := (hexDigit? b).isSome

/-- What may stand between the parentheses behind a word for no number. -/
def isNote (b : UInt8) : Bool := isLetter b || isDigit b || b = underscore

/-- Reads a number without a sign. -/
def readUnsigned (f : FloatFormat) (negative : Bool) (text : Bytes) : Option Reading :=
  if beginsWith "infinity" text then some ⟨infinite negative, false, text.drop 8⟩
  else if beginsWith "inf" text then some ⟨infinite negative, false, text.drop 3⟩
  else if beginsWith "nan" text then
    let rest := text.drop 3
    let noted := match rest with
      | b :: inside =>
        if b = byteOf '(' then
          match inside.dropWhile isNote with
          | c :: behind => if c = byteOf ')' then behind else rest
          | [] => rest
        else rest
      | [] => []
    some ⟨undefined negative, false, noted⟩
  else
    let (whole, fraction, rest) := readDigits isHex (text.drop 2)
    if beginsWith "0x" text && !(whole.isEmpty && fraction.isEmpty) then
      let digits := (whole ++ fraction).foldl (fun n b => n * 16 + (hexDigit? b).getD 0) 0
      let (exponent, rest) := readExponent (byteOf 'p') rest
      let (value, out) := ofBinary f negative digits (exponent - 4 * fraction.length)
      some ⟨value, out, rest⟩
    else
      let (whole, fraction, rest) := readDigits isDigit text
      if whole.isEmpty && fraction.isEmpty then none
      else
        let digits := (whole ++ fraction).foldl (fun n b => n * 10 + digitValue b) 0
        let (exponent, rest) := readExponent (byteOf 'e') rest
        let (value, out) := ofDecimal f negative digits (exponent - fraction.length)
        some ⟨value, out, rest⟩

/-- Reads a number at the beginning of a text. -/
def read (f : FloatFormat) (text : Bytes) : Option Reading :=
  match text.dropWhile isSpace with
  | b :: rest =>
    if b = minus then readUnsigned f true rest
    else if b = plus then readUnsigned f false rest
    else readUnsigned f false (b :: rest)
  | [] => none

/-- The number that a whole text stands for. One that is too small counts as zero, and one that is
too great as none. -/
def ofText? (f : FloatFormat) (text : Bytes) : Option Floating :=
  match read f text with
  | none => none
  | some r =>
    if !r.rest.isEmpty || (r.outOfRange && !r.value.same zero) then none else some r.value

end Floating

end CommandShell.Machine.Tool
