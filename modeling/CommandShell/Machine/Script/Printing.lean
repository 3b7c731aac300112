import CommandShell.Machine.Script.Options
import CommandShell.Machine.Tool.Printf

/-!
# Commands that print

The commands of an interpreter that write their arguments as they are and that fill a format with
them. Escapes are read in both, and a mistake in a format is met only when what is in front of it
was put out. Main statement: a text without a backslash is written as it is (`unescape_of_plain`).
-/

namespace CommandShell.Machine.Script.Printing

open Ascii Tool

/-! ### Escapes -/

/-- The byte that a backslash stands for together with what is behind it, and how much of that
belongs to it. A backslash without a meaning stands for itself. -/
def escape (text : Bytes) : UInt8 × Nat :=
  match text with
  | [] => (backslash, 0)
  | letter :: _ =>
    if isOctal letter then
      let digits := (text.take 3).takeWhile isOctal
      (octalByte digits, digits.length)
    else match simpleEscapes.lookup letter with
      | some b => (b, 1)
      | none => (backslash, 0)

/-- A text with its escapes read, and whether all output ends in it. A zero in front of octal digits
does not count among them. The first `skipped` bytes belong to an escape in front. -/
def unescape (skipped : Nat) : Bytes → Bytes × Bool
  | [] => ([], false)
  | b :: rest =>
    if 0 < skipped then unescape (skipped - 1) rest
    else if b ≠ backslash then
      let (more, ended) := unescape 0 rest
      (b :: more, ended)
    else if rest.head? = some (byteOf 'c') then ([], true)
    else
      let isZeroed := rest.head? = some zero && rest.tail.head?.any isOctal
      let (c, length) := escape (if isZeroed then rest.tail else rest)
      let (more, ended) := unescape (if isZeroed then length + 1 else length) rest
      (c :: more, ended)

/-- A text without a backslash is written as it is. -/
theorem unescape_of_plain {text : Bytes} (h : backslash ∉ text) :
    unescape 0 text = (text, false) := by
  induction text with
  | nil => rfl
  | cons b rest ih =>
    have hb : b ≠ backslash := fun he => h (he ▸ List.mem_cons_self)
    rw [unescape, if_neg (Nat.lt_irrefl 0), if_pos hb, ih fun hm => h (List.mem_cons_of_mem _ hm)]

/-! ### Arguments as they are -/

/-- Puts texts out with spaces between them, and the end of the line if `ends` says so. -/
def putTexts (ends : Bool) : List Bytes → Act Unit
  | [] => if ends then put [newline] else pure ()
  | text :: rest => do
    let (bytes, ended) := unescape 0 text
    put bytes
    if ended then return
    if !rest.isEmpty then put [space]
    putTexts ends rest

/-- Writes its arguments. -/
def echo (arguments : List Bytes) : Act Nat := do
  if arguments.head? = some (utf8 "-n") then putTexts false arguments.tail
  else putTexts true arguments
  return 0

/-! ### Formats -/

/-- A part of a format. -/
inductive Part where
  /-- Bytes that are written as they are. -/
  | text (bytes : Bytes)
  /-- A mistake. The sizes in front of it that are arguments are taken before. -/
  | fault (message : Bytes) (sizes : Nat)
  /-- An argument that is converted. The width and the precision can be arguments too. If something
  that means nothing stands in the conversion, it is shown instead, from there on as it is. -/
  | convert (c : Conversion) (widthGiven precisionGiven : Bool) (stray : Bytes)

/-- Whether a byte is a flag. -/
def isFlag (b : UInt8) : Bool := (utf8 "#-+ 0").contains b

/-- The letters of conversions. -/
def conversionLetters : Bytes := utf8 "bcsdiouxXaAeEfFgG"

/-- Whether a byte can stand in a size. -/
def isInSize (b : UInt8) : Bool := b = star || isDigit b

/-- What stands behind the digits of a size and means nothing, and what is left. -/
def readStray (given : Bool) (text : Bytes) : Bytes × Bytes :=
  if given then ([], text) else (text.takeWhile isInSize, text.dropWhile isInSize)

/-- What is shown from something on that means nothing: the rest of the conversion with the letter
for the length of integers, or nothing if there is no such thing. -/
def strayText (letter : UInt8) (front rest : Bytes) : Bytes :=
  if front.isEmpty && rest.isEmpty then []
  else
    let isInteger := (utf8 "diouxX").contains letter
    front ++ rest ++ (if isInteger then [byteOf 'l', letter]
      else [if letter = byteOf 'b' then byteOf 's' else letter])

/-- What a percent sign stands for together with what is behind it, and how much of that belongs to
it. -/
def conversion (text : Bytes) : Part × Nat :=
  let flags := text.takeWhile isFlag
  let (widthGiven, width, rest) := Printf.readSize (text.drop flags.length)
  let (strayWidth, rest) := readStray widthGiven rest
  let behind := rest
  let dotted := rest.head? = some point
  let (precisionGiven, precision, rest) :=
    if dotted then Printf.readSize rest.tail else (false, [], rest)
  let (strayPrecision, rest) := readStray (precisionGiven || !dotted) rest
  let sizes := widthGiven.toNat + precisionGiven.toNat
  match rest with
  | [] => (.fault (utf8 "missing format character") sizes, text.length)
  | letter :: _ =>
    let length := text.length - rest.length + 1
    if !conversionLetters.contains letter then
      (.fault (percent :: text.take length ++ utf8 ": invalid directive") sizes, length)
    else
      let c := flags.foldl Conversion.flag (.plain letter)
      let c := { c with
        width := digitsValue width
        precision := if dotted then some (digitsValue precision) else none }
      let stray := if strayWidth.isEmpty then strayText letter strayPrecision []
        else strayText letter strayWidth (behind.take (behind.length - rest.length))
      (.convert c widthGiven precisionGiven stray, length)

/-- The parts of a format. The first `skipped` bytes belong to a part in front. -/
def parts (skipped : Nat) : Bytes → List Part
  | [] => []
  | b :: rest =>
    if 0 < skipped then parts (skipped - 1) rest
    else if b = backslash then
      let (c, length) := escape rest
      .text [c] :: parts length rest
    else if b ≠ percent then .text [b] :: parts 0 rest
    else if rest.head? = some percent then .text [percent] :: parts 1 rest
    else
      let (part, length) := conversion rest
      part :: parts length rest

/-! ### Conversions -/

/-- What is left to be done. -/
structure Progress where
  /-- The arguments that are left. -/
  arguments : List Bytes
  /-- The status. -/
  status : Nat
  /-- Whether all output has ended. -/
  ended : Bool

/-- The next argument, or an empty one. -/
def Progress.next (p : Progress) : Bytes × Progress :=
  (p.arguments.headD [], { p with arguments := p.arguments.tail })

/-- The number that an argument is. If it is none there is a complaint, and the status tells it. -/
def number {α : Type} (ofByte : UInt8 → α) (parse : Bytes → Printf.Parsed α) (text : Bytes) :
    Act (α × Nat) := do
  if text.head? = some quoteMark || text.head? = some apostrophe then
    return (ofByte (text.tail.headD 0), 0)
  let p := parse text
  if !p.rest.isEmpty then
    warn (text ++ utf8 (if p.rest = text then ": expected numeric value"
      else ": not completely converted"))
    return (p.value, 1)
  if p.outOfRange then
    warn (text ++ utf8 ": " ++ reason .outOfRange)
    return (p.value, 1)
  return (p.value, 0)

/-- A signed number of an argument. -/
def signedNumber (text : Bytes) : Act (Int × Nat) :=
  number (fun b => (b.toNat : Int)) Printf.readSigned text

/-- Reads a floating-point number. -/
def readFloating (text : Bytes) : Printf.Parsed Floating :=
  match Floating.read .double text with
  | none => ⟨.zero, false, text⟩
  | some r => ⟨r.value, r.outOfRange, r.rest⟩

/-- The next argument as a width or a precision. -/
def takeSize (p : Progress) : Act (Int × Progress) := do
  match p.arguments with
  | [] => return (0, p)
  | text :: rest =>
    let (n, status) ← signedNumber text
    return (n.bmod 4294967296, { p with arguments := rest, status := max p.status status })

/-- Takes some arguments as sizes that do not count. -/
def takeSizes (p : Progress) : Nat → Act Unit
  | 0 => pure ()
  | count + 1 => do
    let (_, p) ← takeSize p
    takeSizes p count

/-- A conversion with the sizes that are arguments. -/
def withSizes (c : Conversion) (widthGiven precisionGiven : Bool) (p : Progress) :
    Act (Conversion × Progress) := do
  let (c, p) ← if widthGiven then do
      let (n, p) ← takeSize p
      pure ({ c with width := n.natAbs, left := c.left || n < 0 }, p)
    else pure (c, p)
  if !precisionGiven then return (c, p)
  let (n, p) ← takeSize p
  return ({ c with precision := if n < 0 then none else some n.toNat }, p)

/-- What a conversion makes of an argument, and the status. -/
def render (c : Conversion) (text : Bytes) : Act (Bytes × Nat) := do
  if c.letter = byteOf 'd' || c.letter = byteOf 'i' then
    let (n, status) ← signedNumber text
    return (c.renderSigned n, status)
  if (utf8 "ouxX").contains c.letter then
    let (n, status) ← number (fun b => b.toNat) Printf.readUnsigned text
    return (c.renderUnsigned n, status)
  if c.letter = byteOf 'c' then return (c.renderByte (text.headD 0), 0)
  if c.letter = byteOf 's' then return (c.renderText text, 0)
  let (x, status) ← number (fun b => Floating.ofNat .double b.toNat) readFloating text
  return (c.renderFloating .double x, status)

/-- A conversion as it is shown if something in it means nothing. What stands from there on is
given; the precision is shown in front of it unless it stands there. -/
def shown (c : Conversion) (stray : Bytes) : Bytes :=
  percent :: (if c.other then [numberSign] else []) ++
    (if c.plus then [plus] else if c.blank then [space] else []) ++
    (if c.left then [minus] else if c.zeros then [zero] else []) ++
    (if c.width = 0 then [] else decimal c.width) ++
    (match if stray.contains point then none else c.precision with
      | none => []
      | some n => point :: decimal n) ++ stray

/-- Converts the next argument. -/
def convert (c : Conversion) (stray : Bytes) (p : Progress) : Act Progress := do
  let (text, p) := p.next
  if c.letter = byteOf 'b' then
    let (bytes, ended) := unescape 0 text
    put (if stray.isEmpty then c.renderText bytes else shown c stray)
    return { p with ended := ended }
  let isTooLarge := Printf.maxSize ≤ c.width || Printf.maxSize ≤ c.precision.getD 0
  let (out, status) ← render (if isTooLarge then .plain c.letter else c) text
  if isTooLarge then fail (utf8 "xvsnprintf failed")
  put (if stray.isEmpty then out else shown c stray)
  return { p with status := max p.status status }

/-- Carries out the parts of a format. -/
def carryOut (p : Progress) : List Part → Act Progress
  | [] => pure p
  | part :: rest => do
    match part with
    | .text bytes =>
      put bytes
      carryOut p rest
    | .fault message sizes =>
      takeSizes p sizes
      fail message
    | .convert c widthGiven precisionGiven stray =>
      let (c, p) ← withSizes c widthGiven precisionGiven p
      let p ← convert c stray p
      if p.ended then return p
      carryOut p rest

/-- Carries out a format until the arguments are used up, or once if it uses none. -/
def fillFormat (format : List Part) (p : Progress) : Nat → Act Progress
  | 0 => pure p
  | fuel + 1 => do
    let before := p.arguments.length
    let p ← carryOut p format
    if p.ended || p.arguments.isEmpty || p.arguments.length = before then return p
    fillFormat format p fuel

/-- Fills a format with its arguments. -/
def printf (arguments : List Bytes) : Act Nat := do
  let (_, operands) ← readOptions "" arguments
  match operands with
  | [] => fail (utf8 "usage: printf format [arg ...]")
  | format :: rest =>
    return (← fillFormat (parts 0 format) ⟨rest, 0, false⟩ (rest.length + 1)).status

end CommandShell.Machine.Script.Printing
