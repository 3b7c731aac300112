import CommandShell.Machine.Tool.Conversion
import CommandShell.Machine.Tool.Options
import CommandShell.Machine.Tool.Quantity

/-!
# Sequences of numbers

The tool that writes the numbers from one to another. Whole numbers that do not need anything else
are counted exactly, however great they are; all others are calculated in floating point, each one
from the first.
-/

namespace CommandShell.Machine.Tool.Seq

open Ascii

/-! ### Formats -/

/-- A format with one conversion. -/
structure Layout where
  /-- What is written in front of the number. -/
  before : Bytes
  /-- How the number is written. -/
  conversion : Conversion
  /-- What is written behind the number. -/
  behind : Bytes

/-- A number as a layout writes it. -/
def Layout.render (l : Layout) (x : Floating) : Bytes :=
  l.before ++ l.conversion.renderFloating .extended x ++ l.behind

/-- The text up to a percent sign that is not doubled, and what is behind that sign. -/
def upToPercent : Bytes → Bytes × Option Bytes
  | [] => ([], none)
  | [b] => if b = percent then ([], some []) else ([b], none)
  | b :: c :: rest =>
    if b = percent then
      if c = percent then
        let (before, behind) := upToPercent rest
        (percent :: before, behind)
      else ([], some (c :: rest))
    else
      let (before, behind) := upToPercent (c :: rest)
      (b :: before, behind)

/-- Takes a format apart. -/
def readLayout (format : Bytes) : Except Bytes Layout := do
  let named := utf8 "format " ++ quoted format
  match upToPercent format with
  | (_, none) => .error (named ++ utf8 " has no % directive")
  | (before, some rest) =>
    let flags := rest.takeWhile fun b => (utf8 "-+#0 '").contains b
    let rest := rest.drop flags.length
    let width := rest.takeWhile isDigit
    let rest := rest.drop width.length
    let dotted := rest.head? = some point
    let precision := if dotted then rest.tail.takeWhile isDigit else []
    let rest := if dotted then rest.tail.drop precision.length else rest
    let rest := if rest.head? = some (byteOf 'L') then rest.tail else rest
    match rest with
    | [] => .error (named ++ utf8 " ends in %")
    | letter :: rest =>
      if !(utf8 "efgaEFGA").contains letter then
        .error (named ++ utf8 " has unknown %" ++ [letter] ++ utf8 " directive")
      else match upToPercent rest with
        | (_, some _) => .error (named ++ utf8 " has too many % directives")
        | (behind, none) =>
          let c := flags.foldl Conversion.flag (.plain letter)
          .ok ⟨before, { c with
            width := digitsValue width
            precision := if dotted then some (digitsValue precision) else none }, behind⟩

/-! ### Numbers -/

/-- A number of the command line. -/
structure Endpoint where
  /-- The number. -/
  value : Floating
  /-- The width in which it was written. -/
  width : Int
  /-- The number of digits behind its point, unless that cannot be told. -/
  precision : Option Int

/-- The exponent that is written behind a letter. -/
def writtenExponent (text : Bytes) : Int :=
  let trimmed := text.dropWhile isSpace
  let sign := trimmed.head?
  let signless := if sign = some minus || sign = some plus then trimmed.tail else trimmed
  let n : Int := digitsValue (signless.takeWhile isDigit)
  if sign = some minus then -n else n

/-- The width and the precision of a decimal number with an exponent behind it. -/
def withExponent (text : Bytes) (start : Nat) (dotAt : Option Nat) (fraction : Nat)
    (width precision : Int) : Int × Int :=
  let exponent := writtenExponent (text.drop (start + 1))
  let precision := precision + if exponent < 0 then -exponent else -(min precision exponent)
  let width := width - ((text.length - start : Nat) : Int)
  if exponent < 0 then
    let undone := match dotAt with
      | none => true
      | some dot => start = dot + 1
    ((if undone then width + 1 else width) - exponent, precision)
  else
    let width := if dotAt.isSome && precision = 0 && fraction ≠ 0 then width - 1 else width
    (width + (exponent - min (fraction : Int) exponent), precision)

/-- The number that a text stands for, with the way in which it was written. -/
def endpointOf (value : Floating) (text : Bytes) : Endpoint :=
  let text := text.dropWhile fun b => isSpace b || b = plus
  let dotAt := text.findIdx? (· = point)
  let unfractioned : Option Int :=
    if dotAt.isNone && !text.contains (byteOf 'p') then some 0 else none
  if text.any (fun b => b = byteOf 'x' || b = byteOf 'X') || !value.isFinite then
    ⟨value, 0, unfractioned⟩
  else
    let isMark := fun b => b = byteOf 'e' || b = byteOf 'E'
    let fraction : Nat := match dotAt with
      | none => 0
      | some dot => ((text.drop (dot + 1)).takeWhile (!isMark ·)).length
    let precision : Int := fraction
    let width : Int := match dotAt with
      | none => text.length
      | some dot =>
        let bare := dot = 0 || !((text[dot - 1]?).any isDigit)
        text.length + if fraction = 0 then -1 else if bare then 1 else 0
    let mark := match text.findIdx? (· = byteOf 'e') with
      | some n => some n
      | none => text.findIdx? (· = byteOf 'E')
    match mark with
    | none => ⟨value, width, some precision⟩
    | some start =>
      let (width, precision) := withExponent text start dotAt fraction width precision
      ⟨value, width, some precision⟩

/-- Reads a number of the command line. -/
def readEndpoint (t : Invocation) (text : Bytes) : Act Endpoint := do
  match Floating.ofText? .extended text with
  | none => t.refuse 1 (utf8 "invalid floating point argument: " ++ quoted text)
  | some value =>
    if value.isUndefined then
      t.refuse 1 (utf8 "invalid 'not-a-number' argument: " ++ quoted text)
    return endpointOf value text

/-! ### Counting -/

/-- A way to count. -/
structure Count where
  /-- The step. -/
  step : Nat
  /-- The last number, if there is one. -/
  last : Option Nat
  /-- What is written between numbers. -/
  separator : UInt8

/-- The size of a piece of output. -/
def chunkSize : Nat := 8192

/-- Whether a number is beyond the last one. -/
def Count.isOver (c : Count) (n : Nat) : Bool := c.last.any fun last => last < n

/-- Writes numbers behind others until there are enough bytes. The answer tells the next number. -/
def countChunk (c : Count) (out : ByteArray) (n : Nat) : Nat → ByteArray × Option Nat
  | 0 => (out, some n)
  | fuel + 1 =>
    let out := pushAll out (decimal n)
    if c.isOver (n + c.step) then (out.push newline, none)
    else
      let out := out.push c.separator
      if chunkSize ≤ out.size then (out, some (n + c.step))
      else countChunk c out (n + c.step) fuel

/-- Puts out bytes. A failure ends the tool at once. -/
def putSurely (t : Invocation) (bytes : ByteArray) : Act Unit := do
  match ← put bytes with
  | .ok () => pure ()
  | .error errno =>
    forgive
    t.dieOf 1 writeError errno

/-- Writes numbers from one on. -/
def count (t : Invocation) (c : Count) (n : Nat) : Nat → Act Nat
  | 0 => pure 0
  | fuel + 1 => do
    let (out, next) := countChunk c .empty n (chunkSize + 1)
    putSurely t out
    match next with
    | none => return 0
    | some n => count t c n fuel

/-! ### Calculating -/

/-- A way to calculate. -/
structure Range where
  /-- The first number. -/
  first : Floating
  /-- The step. -/
  step : Floating
  /-- The last number. -/
  last : Floating
  /-- How the numbers are written. -/
  layout : Layout
  /-- What is written between them. -/
  separator : Bytes

/-- Whether the step goes down. -/
def Range.descends (r : Range) : Bool := r.step.less .zero

/-- Whether a number is beyond the last one. -/
def Range.isOver (r : Range) (x : Floating) : Bool :=
  if r.descends then x.less r.last else r.last.less x

/-- A number of the sequence. -/
def Range.at (r : Range) (n : Nat) : Floating :=
  r.first.add .extended ((Floating.ofNat .extended n).mul .extended r.step)

/-- Whether a number is beyond the last one only because of rounding: it is written as the last one,
and not as the number in front of it. -/
def Range.isMissed (r : Range) (before x : Floating) : Bool :=
  let text := r.layout.conversion.renderFloating .extended x
  (Floating.ofText? .extended text).any (·.same r.last) &&
    text ≠ r.layout.conversion.renderFloating .extended before

/-- Writes numbers behind others until there are enough bytes. The answer tells the place of the
next number. The last number is given, which is the next one to be written. -/
def rangeChunk (r : Range) (out : ByteArray) (n : Nat) (x : Floating) :
    Nat → ByteArray × Option (Nat × Floating)
  | 0 => (out, some (n, x))
  | fuel + 1 =>
    let out := pushAll out (r.layout.render x)
    let next := r.at (n + 1)
    if r.isOver next then
      if r.isMissed x next then
        let out := pushAll (pushAll out r.separator) (r.layout.render next)
        (out.push newline, none)
      else (out.push newline, none)
    else
      let out := pushAll out r.separator
      if chunkSize ≤ out.size then (out, some (n + 1, next))
      else rangeChunk r out (n + 1) next fuel

/-- Writes the numbers from a place on. -/
def calculate (t : Invocation) (r : Range) (n : Nat) (x : Floating) : Nat → Act Nat
  | 0 => pure 0
  | fuel + 1 => do
    let (out, next) := rangeChunk r .empty n x (chunkSize + 1)
    putSurely t out
    match next with
    | none => return 0
    | some (n, x) => calculate t r n x fuel

/-! ### The command line -/

/-- What is wanted. -/
structure Settings where
  /-- The format. -/
  format : Option Bytes
  /-- What is written between the numbers. -/
  separator : Bytes
  /-- Whether all numbers are equally wide. -/
  equal : Bool

/-- The format of numbers if none is given. -/
def usualConversion (equal : Bool) (first step last : Endpoint) : Conversion :=
  match first.precision, step.precision, last.precision with
  | some p, some p', some p'' =>
    let precision := max p p'
    let c := { Conversion.plain (byteOf 'f') with precision := some precision.toNat }
    if !equal then c
    else
      let ahead := first.width + (precision - p) + if p = 0 && precision ≠ 0 then 1 else 0
      let behind := last.width + (precision - p'') +
        if p'' ≠ 0 && precision = 0 then -1 else if p'' = 0 && precision ≠ 0 then 1 else 0
      { c with zeros := true, width := (max ahead behind).toNat }
  | _, _, _ => Conversion.plain (byteOf 'g')

/-- The greatest step with which numbers are counted. -/
def maxStep : Nat := 200

/-- The whole number that a floating-point number is, if it is a step with which numbers are
counted. -/
def stepOf (x : Floating) : Option Nat :=
  match x with
  | .finite false mantissa exponent =>
    let (n, d) := Conversion.quotientOf mantissa exponent
    if n % d = 0 && 0 < n / d && n / d ≤ maxStep then some (n / d) else none
  | _ => none

/-- The whole number nearest to a floating-point number. -/
def wholeOf (x : Floating) : Nat :=
  match x with
  | .finite _ mantissa exponent =>
    let (n, d) := Conversion.quotientOf mantissa exponent
    nearest n d
  | _ => 0

/-- The step of a way to count that can be seen from how the numbers are written. -/
def plainStep (operands : List Bytes) : Option Nat :=
  match operands with
  | [_, step, _] => ((natOf? step).bind fun _ => Floating.ofText? .extended step).bind stepOf
  | _ => some 1

/-- The way to count that some operands ask for, with the first number, if all of them are
digits. -/
def plainCount (s : Settings) (operands : List Bytes) : Option (Count × Nat) := do
  match s.equal, s.format, s.separator with
  | false, none, [separator] =>
    let step ← plainStep operands
    let first ← if operands.length = 1 then some 1 else operands.head?.bind natOf?
    let last ← operands.getLast?.bind natOf?
    return (⟨step, some last, separator⟩, first)
  | _, _, _ => none

/-- Whether a number is not less than zero. -/
def isPositive (x : Floating) : Bool := !x.less .zero

/-- The way to count that some numbers ask for, with the first number. -/
def wholeCount (s : Settings) (first step last : Endpoint) : Option (Count × Nat) := do
  match s.equal, s.format, s.separator with
  | false, none, [separator] =>
    if first.precision = some 0 && step.precision = some 0 && last.precision = some 0 &&
        first.value.isFinite && isPositive first.value && isPositive last.value &&
        first.value ≠ .finite true 0 0 && last.value ≠ .finite true 0 0 then
      let step ← stepOf step.value
      let goal := if last.value.isFinite then some (wholeOf last.value) else none
      return (⟨step, goal, separator⟩, wholeOf first.value)
    else none
  | _, _, _ => none

/-- The number one, as an operand that was left out. -/
def one : Endpoint := ⟨.ofNat .extended 1, 1, some 0⟩

/-- Reads the operands. -/
def readEndpoints (t : Invocation) : List Bytes → Act (Endpoint × Endpoint × Endpoint)
  | [last] => do return (one, one, ← readEndpoint t last)
  | [first, last] => do
    let first ← readEndpoint t first
    return (first, one, ← readEndpoint t last)
  | first :: step :: last :: _ => do
    let first ← readEndpoint t first
    let by_ ← readEndpoint t step
    if by_.value.same .zero then
      t.refuse 1 (utf8 "invalid Zero increment value: " ++ quoted step)
    return (first, by_, ← readEndpoint t last)
  | [] => pure (one, one, one)

/-- Writes the numbers that the operands ask for. -/
def write (t : Invocation) (s : Settings) (layout : Option Layout) (operands : List Bytes) :
    Act Nat := do
  match plainCount s operands with
  | some (c, first) => if c.isOver first then return 0 else count t c first endless
  | none =>
    let (first, step, last) ← readEndpoints t operands
    match wholeCount s first step last with
    | some (c, first) => if c.isOver first then return 0 else count t c first endless
    | none =>
      let layout := layout.getD ⟨[], usualConversion s.equal first step last, []⟩
      let r : Range := ⟨first.value, step.value, last.value, layout, s.separator⟩
      if r.isOver r.first then return 0 else calculate t r 0 r.first endless

/-- Reads the format that is given. -/
def readFormat (t : Invocation) (s : Settings) : Act (Option Layout) := do
  match s.format with
  | none => return none
  | some format =>
    match readLayout format with
    | .error fault => t.die 1 fault
    | .ok layout =>
      if s.equal then
        t.refuse 1 (utf8
          "format string may not be specified when printing equal width strings")
      return some layout

/-- The options. -/
def rules : List OptionRule :=
  [.plain 'w' "equal-width", .valued 'f' "format", .valued 's' "separator"]

/-- What an option asks for. -/
def choose (s : Settings) (key : String) (value : Bytes) : Settings :=
  match key with
  | "equal-width" => { s with equal := true }
  | "format" => { s with format := some value }
  | _ => { s with separator := value }

/-- Whether an argument is a negative number and not an option. -/
def isNegative : Bytes → Bool
  | minus :: b :: _ => b = point || isDigit b
  | _ => false

/-- The arguments in front of the first negative number that is met as an argument of its own, and
the others. Whether the first argument is the value of an option is given. -/
def untilNegative (isValue : Bool) : List Bytes → List Bytes × List Bytes
  | [] => ([], [])
  | argument :: rest =>
    if !isValue && isNegative argument then ([], argument :: rest)
    else
      let (front, behind) := untilNegative (!isValue && takesNext rules argument) rest
      (argument :: front, behind)

/-- Writes the numbers from one to another. -/
def tool (t : Invocation) : Task :=
  let (front, behind) := untilNegative false t.arguments
  t.run 1 (withOptions { t with arguments := front } rules false 1 ⟨none, [newline], false⟩
    (fun s key value => pure (choose s key value)) fun s operands => do
      let operands := operands ++ behind
      if operands.isEmpty then t.refuse 1 (utf8 "missing operand")
      if 3 < operands.length then
        t.refuse 1 (utf8 "extra operand " ++ quoted ((operands[3]?).getD []))
      let layout ← readFormat t s
      write t s layout operands)

end CommandShell.Machine.Tool.Seq
