import CommandShell.Machine.Tool.Options
import CommandShell.Machine.Tool.Quoting

/-!
# Copying files

The tool that writes files one after the other, as they are or with their lines numbered and their
invisible bytes shown. What it remembers between two bytes is how many lines have just ended, so
that it makes no difference where the pieces of the input end.
-/

namespace CommandShell.Machine.Tool.Cat

open Ascii

/-- What is wanted of the output. -/
structure Settings where
  /-- All lines are numbered. -/
  number : Bool
  /-- Lines that are not empty are numbered. -/
  numberFilled : Bool
  /-- The ends of lines are marked. -/
  showEnds : Bool
  /-- Of several empty lines only the first one is kept. -/
  squeeze : Bool
  /-- Bytes that are not printable are shown. -/
  showOdd : Bool
  /-- Tabs are shown. -/
  showTabs : Bool

/-- Whether the files are copied as they are. -/
def Settings.isPlain (s : Settings) : Bool :=
  !(s.number || s.showEnds || s.squeeze || s.showOdd || s.showTabs)

/-- What is remembered between two bytes. -/
structure Progress where
  /-- How many lines have just ended: none if a line has begun. -/
  ended : Nat
  /-- Whether a line has begun. -/
  inLine : Bool
  /-- The number of the last line that was numbered. -/
  line : Nat
  /-- Whether a carriage return was held back. -/
  held : Bool

/-- The number of a line as it is written in front of it. -/
def lineLabel (line : Nat) : Bytes :=
  let digits := decimal line
  List.replicate (6 - digits.length) space ++ digits ++ [tab]

/-- A byte that is not printable, shown with printable ones. -/
def showByte (s : Settings) (b : UInt8) : Bytes :=
  let control := fun (b : UInt8) => [byteOf '^', b ^^^ 64]
  if b = tab then if s.showTabs then control b else [b]
  else if !s.showOdd then [b]
  else
    let low := b &&& 127
    let mark := if b < 128 then [] else utf8 "M-"
    mark ++ if low < 32 || low = 127 then control low else [low]

/-- What is written for a byte, and what is remembered then. -/
def step (s : Settings) (p : Progress) (b : UInt8) : Bytes × Progress :=
  if b = newline then
    let ended := if p.inLine then 0 else min 2 (p.ended + 1)
    let p := { p with ended := ended, inLine := false }
    if 2 ≤ ended && s.squeeze then ([], p)
    else
      let numbered := 1 ≤ ended && s.number && !s.numberFilled
      let p := if numbered then { p with line := p.line + 1 } else p
      let mark := if s.showEnds then (if p.held then utf8 "^M" else []) ++ [dollar] else []
      ((if numbered then lineLabel p.line else []) ++ mark ++ [newline], { p with held := false })
  else
    let front := if p.held then [carriageReturn] else []
    let numbered := !p.inLine && s.number
    let line := if numbered then p.line + 1 else p.line
    let front := front ++ if numbered then lineLabel line else []
    let held := b = carriageReturn && s.showEnds && !s.showOdd
    (front ++ if held then [] else showByte s b, ⟨0, true, line, held⟩)

/-- What is written for some bytes, and what is remembered then. -/
def format (s : Settings) (p : Progress) (bytes : ByteArray) : ByteArray × Progress :=
  bytes.foldl (fun (out, p) b =>
    let (text, p) := step s p b
    (pushAll out text, p)) (.empty, p)

/-- The number of bytes that are read at a time. -/
def readSize : Nat := 131072

/-- Writes bytes at once. A failure ends the tool. -/
def writeNow (t : Invocation) (bytes : ByteArray) : Act Unit := do
  match ← StateT.lift (writeAll 1 bytes) with
  | .ok () => pure ()
  | .error errno => t.dieOf 1 writeError errno

/-- Copies what is read from a descriptor. The answer tells whether all of it could be read. -/
def copy (t : Invocation) (s : Settings) (operand : Bytes) (fd : Fd) (p : Progress) :
    Nat → Act (Progress × Bool)
  | 0 => pure (p, true)
  | fuel + 1 => do
    match (← ask (.read fd readSize) : Except Errno ByteArray) with
    | .error errno =>
      t.complainOf (shown operand) errno
      return (p, false)
    | .ok piece =>
      if piece.isEmpty then return (p, true)
      let (out, p) := if s.isPlain then (piece, p) else format s p piece
      writeNow t out
      copy t s operand fd p fuel

/-- Whether an opened file is the one that is written, and something is left of it. -/
def isOwnOutput (output input : FileFacts) (fd : Fd) : Act Bool := do
  if output.kind = .regular && input.node = output.node then
    match (← ask (.seek fd .position 0) : Except Errno Nat) with
    | .ok position => return position < input.size
    | .error _ => return false
  else return false

/-- Copies the file of an operand. The answer tells whether all of it could be read. -/
def copyOperand (t : Invocation) (s : Settings) (output : FileFacts) (p : Progress)
    (operand : Bytes) : Act (Progress × Bool) := do
  match ← openOperand operand with
  | .error errno =>
    t.complainOf (shown operand) errno
    return (p, false)
  | .ok fd =>
    match (← ask (.describe fd) : Except Errno FileFacts) with
    | .error errno =>
      t.complainOf (shown operand) errno
      return (p, false)
    | .ok input =>
      if ← isOwnOutput output input fd then
        t.complain (shown operand ++ utf8 ": input file is output file")
        closeOperand operand fd
        return (p, false)
      let copied ← copy t s operand fd p endless
      closeOperand operand fd
      return copied

/-- Copies the files of operands, one after the other. -/
def copyAll (t : Invocation) (s : Settings) (output : FileFacts) (p : Progress) (code : Nat) :
    List Bytes → Act Nat
  | [] => do
    if p.held then writeNow t (pack [carriageReturn])
    return code
  | operand :: rest => do
    let (p, complete) ← copyOperand t s output p operand
    copyAll t s output p (if complete then code else 1) rest

/-- The options. -/
def rules : List OptionRule := [
  .plain 'b' "number-nonblank", .plain 'n' "number", .plain 's' "squeeze-blank",
  .plain 'v' "show-nonprinting", .plain 'E' "show-ends", .plain 'T' "show-tabs",
  .plain 'A' "show-all", .letterOnly 'e', .letterOnly 't', .letterOnly 'u']

/-- What an option asks for. -/
def choose (s : Settings) (key : String) : Settings :=
  match key with
  | "number-nonblank" => { s with number := true, numberFilled := true }
  | "number" => { s with number := true }
  | "squeeze-blank" => { s with squeeze := true }
  | "show-nonprinting" => { s with showOdd := true }
  | "show-ends" => { s with showEnds := true }
  | "show-tabs" => { s with showTabs := true }
  | "show-all" => { s with showOdd := true, showEnds := true, showTabs := true }
  | "e" => { s with showOdd := true, showEnds := true }
  | "t" => { s with showOdd := true, showTabs := true }
  | _ => s

/-- Copies files to the standard output. -/
def tool (t : Invocation) : Task :=
  t.run 1 (withOptions t rules true 1 ⟨false, false, false, false, false, false⟩
    (fun s key _ => pure (choose s key)) fun s operands => do
      match (← ask (.describe 1) : Except Errno FileFacts) with
      | .error errno => t.dieOf 1 (utf8 "standard output") errno
      | .ok output =>
        let operands := operandsOr operands
        let code ← copyAll t s output ⟨0, false, 0, false⟩ 0 operands
        t.closeInput (utf8 "closing standard input") operands
        return code)

end CommandShell.Machine.Tool.Cat
