import CommandShell.Machine.Tool.Conversion
import CommandShell.Machine.Tool.Quantity

/-!
# Formatted output

The tool that fills a format with its arguments, again and again until they are used up. A format is
taken apart into directives first; a mistake in it is met only when what is in front of it was
written. Main statement: a format without a percent sign and a backslash is written as it is
(`directives_of_plain`).
-/

namespace CommandShell.Machine.Tool.Printf

open Ascii

/-! ### Formats -/

/-- A part of a format. -/
inductive Directive where
  /-- Bytes that are written as they are. -/
  | text (bytes : Bytes)
  /-- The end of all output. -/
  | stop
  /-- A mistake. -/
  | fault (message : Bytes)
  /-- An argument in which escapes are read. -/
  | escaped
  /-- An argument as a script interpreter reads it back. -/
  | quoted
  /-- An argument that is converted. The width and the precision can be arguments too. The mistake
  is met behind those. -/
  | convert (c : Conversion) (widthGiven precisionGiven : Bool) (mistake : Option Bytes)
  deriving Inhabited

/-- The value of hexadecimal digits. -/
def hexValue (digits : Bytes) : Nat := digits.foldl (fun n b => n * 16 + (hexDigit? b).getD 0) 0

/-- Digits in base sixteen, filled up with zeros. -/
def hexText (width n : Nat) : Bytes :=
  let digits := Conversion.digitsIn 16 n
  List.replicate (width - digits.length) zero ++ digits

/-- Whether a number stands for a character that a format can name. -/
def isNameable (n : Nat) : Bool :=
  !((n ≤ 0x9f && n ≠ 0x24 && n ≠ 0x40 && n ≠ 0x60) || (0xd800 ≤ n && n ≤ 0xdfff))

/-- The mistake of an escape whose digits are missing. -/
def missingDigits : Directive := .fault (utf8 "missing hexadecimal number in escape")

/-- What an escape for a character stands for, and how many bytes it takes. -/
def namedCharacter (letter : UInt8) (count : Nat) (rest : Bytes) : Directive × Nat :=
  let digits := rest.take count
  if digits.length < count || !digits.all Floating.isHex then (missingDigits, 1)
  else
    let n := hexValue digits
    if !isNameable n then
      (.fault (utf8 "invalid universal character name " ++ [backslash, letter] ++ hexText count n),
        1)
    else if n < 128 then (.text [UInt8.ofNat n], count + 1)
    else
      let shown := if n < 0x10000 then utf8 "\\u" ++ hexText 4 n else utf8 "\\U" ++ hexText 8 n
      (.text (shown.map fun b => if byteOf 'a' ≤ b && b ≤ byteOf 'f' then b - 32 else b),
        count + 1)

/-- What a backslash stands for together with what is behind it, and how many bytes of that belong
to it. A leading zero does not count among the three octal digits if `zeroed` says so. -/
def escape (zeroed : Bool) (text : Bytes) : Directive × Nat :=
  match text with
  | [] => (.text [backslash], 0)
  | letter :: rest =>
    if letter = byteOf 'x' then
      let digits := (rest.take 2).takeWhile Floating.isHex
      if digits.isEmpty then (missingDigits, 1)
      else (.text [UInt8.ofNat (hexValue digits)], digits.length + 1)
    else if isOctal letter then
      let skipped := if zeroed && letter = zero then 1 else 0
      let digits := ((text.drop skipped).take 3).takeWhile isOctal
      (.text [octalByte digits], skipped + digits.length)
    else if letter = quoteMark then (.text [quoteMark], 1)
    else if letter = byteOf 'c' then (.stop, 1)
    else match simpleEscapes.lookup letter with
      | some b => (.text [b], 1)
      | none =>
        if letter = byteOf 'u' then namedCharacter letter 4 rest
        else if letter = byteOf 'U' then namedCharacter letter 8 rest
        else (.text [backslash, letter], 1)

/-- The letters of conversions. -/
def conversionLetters : Bytes := utf8 "aAcdeEfFgGiosuxX"

/-- The letters of conversions that a flag does not go with. -/
def forbidden (b : UInt8) : Bytes :=
  if b = apostrophe || b = byteOf 'I' then utf8 "aAceEosxX"
  else if b = numberSign then utf8 "cdisu"
  else if b = zero then utf8 "cs"
  else []

/-- Whether a byte is a flag. -/
def isFlag (b : UInt8) : Bool := (utf8 "I'-+ #0").contains b

/-- Whether a byte says how large a number is, which makes no difference. -/
def isSizeLetter (b : UInt8) : Bool := (utf8 "lLhjtz").contains b

/-- What is read behind a percent sign: a width or a precision that is given, or digits for it, and
what is left. -/
def readSize (text : Bytes) : Bool × Bytes × Bytes :=
  if text.head? = some star then (true, [], text.tail)
  else (false, text.takeWhile isDigit, text.dropWhile isDigit)

/-- The conversion behind a percent sign, and how many bytes belong to it. -/
def readConversion (text : Bytes) : Directive × Nat :=
  let flags := text.takeWhile isFlag
  let (widthGiven, width, rest) := readSize (text.drop flags.length)
  let dotted := rest.head? = some point
  let (precisionGiven, precision, rest) := if dotted then readSize rest.tail else (false, [], rest)
  let rest := rest.dropWhile isSizeLetter
  let letter := rest.headD 0
  let length := text.length - rest.length + min 1 rest.length
  let allowed := conversionLetters.contains letter &&
    !(flags.any fun b => (forbidden b).contains letter) && !(dotted && letter = byteOf 'c')
  let c := flags.foldl Conversion.flag (.plain letter)
  let c := { c with
    width := digitsValue width
    precision := if dotted then some (digitsValue precision) else none }
  (.convert c widthGiven precisionGiven (if allowed then none
    else some (percent :: text.take length ++ utf8 ": invalid conversion specification")), length)

/-- What a percent sign stands for together with what is behind it, and how many bytes of that
belong to it. -/
def directive (text : Bytes) : Directive × Nat :=
  match text with
  | [] => readConversion []
  | letter :: _ =>
    if letter = percent then (.text [percent], 1)
    else if letter = byteOf 'b' then (.escaped, 1)
    else if letter = byteOf 'q' then (.quoted, 1)
    else readConversion text

/-- The parts of a format. The first `skipped` bytes belong to a part in front. -/
def directives (skipped : Nat) : Bytes → List Directive
  | [] => []
  | b :: rest =>
    if 0 < skipped then directives (skipped - 1) rest
    else if b = backslash then
      let (part, length) := escape false rest
      part :: directives length rest
    else if b = percent then
      let (part, length) := directive rest
      part :: directives length rest
    else .text [b] :: directives 0 rest

/-- A format without a percent sign and a backslash is written as it is. -/
theorem directives_of_plain {text : Bytes} (hb : backslash ∉ text) (hp : percent ∉ text) :
    directives 0 text = text.map fun b => .text [b] := by
  induction text with
  | nil => rfl
  | cons b rest ih =>
    have h1 : b ≠ backslash := fun he => hb (he ▸ List.mem_cons_self)
    have h2 : b ≠ percent := fun he => hp (he ▸ List.mem_cons_self)
    rw [directives, if_neg (Nat.lt_irrefl 0), if_neg h1, if_neg h2,
      ih (fun h => hb (List.mem_cons_of_mem _ h)) fun h => hp (List.mem_cons_of_mem _ h)]
    rfl

/-- The parts of an argument in which escapes are read. -/
def escapedParts (skipped : Nat) : Bytes → List Directive
  | [] => []
  | b :: rest =>
    if 0 < skipped then escapedParts (skipped - 1) rest
    else if b = backslash then
      let (part, length) := escape true rest
      part :: escapedParts length rest
    else .text [b] :: escapedParts 0 rest

/-! ### Arguments -/

/-- A number that was read from an argument. -/
structure Parsed (α : Type) where
  /-- The number. -/
  value : α
  /-- Whether it is out of range. -/
  outOfRange : Bool
  /-- What is left behind it. -/
  rest : Bytes

/-- Reads the magnitude of an integer, whose base is seen from how it begins. There is no answer
without a digit. -/
def readMagnitude (text : Bytes) : Option (Nat × Bytes) :=
  let hex := (text.drop 2).takeWhile Floating.isHex
  if Floating.beginsWith "0x" text && !hex.isEmpty then
    some (hexValue hex, text.drop (2 + hex.length))
  else if text.head? = some zero then
    let digits := text.takeWhile isOctal
    some (digits.foldl (fun n b => n * 8 + digitValue b) 0, text.drop digits.length)
  else
    let digits := text.takeWhile isDigit
    if digits.isEmpty then none else some (digitsValue digits, text.drop digits.length)

/-- Reads an integer with its sign. -/
def readInteger (text : Bytes) : Option (Bool × Nat × Bytes) :=
  let trimmed := text.dropWhile isSpace
  let negative := trimmed.head? = some minus
  let signless := if negative || trimmed.head? = some plus then trimmed.tail else trimmed
  (readMagnitude signless).map fun (n, rest) => (negative, n, rest)

/-- The greatest signed integer. -/
def maxSigned : Nat := 9223372036854775807

/-- Reads a signed integer. One that is out of range is the nearest one in range. -/
def readSigned (text : Bytes) : Parsed Int :=
  match readInteger text with
  | none => ⟨0, false, text⟩
  | some (negative, n, rest) =>
    let bound := if negative then maxSigned + 1 else maxSigned
    let n' : Int := min n bound
    ⟨if negative then -n' else n', bound < n, rest⟩

/-- Reads an unsigned integer. A negative one counts from the end. -/
def readUnsigned (text : Bytes) : Parsed Nat :=
  match readInteger text with
  | none => ⟨0, false, text⟩
  | some (negative, n, rest) =>
    if maxQuantity < n then ⟨maxQuantity, true, rest⟩
    else ⟨if negative then (maxQuantity + 1 - n) % (maxQuantity + 1) else n, false, rest⟩

/-- Reads a floating-point number. -/
def readFloating (text : Bytes) : Parsed Floating :=
  match Floating.read .extended text with
  | none => ⟨.zero, false, text⟩
  | some r => ⟨r.value, r.outOfRange, r.rest⟩

/-- The byte that an argument names with a quote in front, and what is behind it. -/
def namedByte (text : Bytes) : Option (UInt8 × Bytes) :=
  match text with
  | mark :: b :: rest =>
    if mark = quoteMark || mark = apostrophe then some (b, rest) else none
  | _ => none

/-- The number of an argument, and whether it is a proper one. Otherwise there is a complaint. -/
def number {α : Type} (t : Invocation) (ofByte : UInt8 → α) (parse : Bytes → Parsed α)
    (text : Bytes) : Act (α × Bool) := do
  match namedByte text with
  | some (b, rest) =>
    if !rest.isEmpty && !t.isStrict then
      t.complain (utf8 "warning: " ++ rest ++
        utf8 ": character(s) following character constant have been ignored")
    return (ofByte b, true)
  | none =>
    let p := parse text
    if p.outOfRange then
      t.complainOf (Tool.quoted text) .outOfRange
      return (p.value, false)
    if !p.rest.isEmpty then
      t.complain (Tool.quoted text ++ utf8 (if p.rest = text then ": expected a numeric value"
        else ": value not completely converted"))
      return (p.value, false)
    return (p.value, true)

/-- The integer that a signed conversion takes from an argument. -/
def signedNumber (t : Invocation) (text : Bytes) : Act (Int × Bool) :=
  number t (fun b => (b.toNat : Int)) readSigned text

/-! ### Output -/

/-- What is left to be done. -/
structure Progress where
  /-- The arguments that are left. -/
  arguments : List Bytes
  /-- Whether all arguments were proper ones. -/
  proper : Bool

/-- The next argument, or an empty one. -/
def Progress.next (p : Progress) : Bytes × Progress :=
  (p.arguments.headD [], { p with arguments := p.arguments.tail })

/-- One more argument that may not be a proper one. -/
def Progress.note (p : Progress) (proper : Bool) : Progress :=
  { p with proper := p.proper && proper }

/-- Ends the tool because of a mistake. -/
def giveUp {α : Type} (t : Invocation) (message : Bytes) : Act α := t.die 1 message

/-- The greatest width and precision. -/
def maxSize : Nat := 2147483647

/-- The width that an argument gives. A negative one fills up behind. -/
def takeWidth (t : Invocation) (c : Conversion) (p : Progress) : Act (Conversion × Progress) := do
  match p.arguments with
  | [] => return ({ c with width := 0 }, p)
  | text :: rest =>
    let (n, proper) ← signedNumber t text
    if n < -(maxSize : Int) - 1 || (maxSize : Int) < n then
      giveUp t (utf8 "invalid field width: " ++ quoted text)
    return ({ c with width := n.natAbs, left := c.left || n < 0 },
      { p with arguments := rest }.note proper)

/-- The precision that an argument gives. A negative one is none. -/
def takePrecision (t : Invocation) (c : Conversion) (p : Progress) :
    Act (Conversion × Progress) := do
  match p.arguments with
  | [] => return ({ c with precision := some 0 }, p)
  | text :: rest =>
    let (n, proper) ← signedNumber t text
    if (maxSize : Int) < n then giveUp t (utf8 "invalid precision: " ++ quoted text)
    return ({ c with precision := if n < 0 then none else some n.toNat },
      { p with arguments := rest }.note proper)

/-- What a conversion makes of an argument, and whether that is a proper one. -/
def render (t : Invocation) (c : Conversion) (text : Bytes) : Act (Bytes × Bool) := do
  if c.letter = byteOf 'd' || c.letter = byteOf 'i' then
    let (n, proper) ← signedNumber t text
    return (c.renderSigned n, proper)
  if (utf8 "ouxX").contains c.letter then
    let (n, proper) ← number t (fun b => b.toNat) readUnsigned text
    return (c.renderUnsigned n, proper)
  if c.letter = byteOf 'c' then return (c.renderByte (text.headD 0), true)
  if c.letter = byteOf 's' then return (c.renderText text, true)
  let (x, proper) ← number t (fun b => Floating.ofNat .extended b.toNat) readFloating text
  return (c.renderFloating .extended x, proper)

/-- Converts an argument. -/
def convert (t : Invocation) (c : Conversion) (text : Bytes) (p : Progress) : Act Progress := do
  if maxSize ≤ c.width || maxSize ≤ c.precision.getD 0 then
    let _ ← render t { c with width := 0, precision := none } text
    t.dieOf 1 (utf8 "cannot perform formatted output") .tooLarge
  let (out, proper) ← render t c text
  putText out
  return p.note proper

/-- Writes the parts of an argument in which escapes are read. -/
def writeEscaped (t : Invocation) : List Directive → Act Unit
  | [] => pure ()
  | .text bytes :: rest => do
    putText bytes
    writeEscaped t rest
  | .fault message :: _ => giveUp t message
  | _ :: _ => t.finish 0 1

/-- Carries out the parts of a format. -/
def carryOut (t : Invocation) (p : Progress) : List Directive → Act Progress
  | [] => pure p
  | part :: rest => do
    match part with
    | .text bytes =>
      putText bytes
      carryOut t p rest
    | .stop => t.finish 0 1
    | .fault message => giveUp t message
    | .escaped =>
      let (text, p) := p.next
      writeEscaped t (escapedParts 0 text)
      carryOut t p rest
    | .quoted =>
      match p.arguments with
      | [] => carryOut t p rest
      | text :: more =>
        putText (shellWord text)
        carryOut t { p with arguments := more } rest
    | .convert c widthGiven precisionGiven mistake =>
      let (c, p) ← if widthGiven then takeWidth t c p else pure (c, p)
      let (c, p) ← if precisionGiven then takePrecision t c p else pure (c, p)
      match mistake with
      | some message => giveUp t message
      | none =>
        let (text, p) := p.next
        carryOut t (← convert t c text p) rest

/-- Carries out a format until the arguments are used up, or once if it uses none. -/
def fillFormat (t : Invocation) (parts : List Directive) (p : Progress) : Nat → Act Progress
  | 0 => pure p
  | fuel + 1 => do
    let before := p.arguments.length
    let p ← carryOut t p parts
    if p.arguments.isEmpty || p.arguments.length = before then return p
    fillFormat t parts p fuel

/-- Writes a format with its arguments. -/
def write (t : Invocation) (format : Bytes) (arguments : List Bytes) : Act Nat := do
  let p ← fillFormat t (directives 0 format) ⟨arguments, true⟩ (arguments.length + 1)
  match p.arguments with
  | [] => pure ()
  | text :: _ =>
    t.complain (utf8 "warning: ignoring excess arguments, starting with " ++ quoted text)
  return if p.proper then 0 else 1

/-- Fills a format with arguments. -/
def tool (t : Invocation) : Task := t.run 1 do
  if t.arguments = [utf8 "--help"] || t.arguments = [utf8 "--version"] then return 0
  let arguments := if t.arguments.head? = some (utf8 "--") then t.arguments.tail else t.arguments
  match arguments with
  | [] => t.refuse 1 (utf8 "missing operand")
  | format :: arguments => write t format arguments

end CommandShell.Machine.Tool.Printf
