import CommandShell.Machine.Script.Field
import CommandShell.Machine.Script.Options

/-!
# Reading lines into variables

The command of an interpreter that reads a line and divides it among variables. It reads byte by
byte, so that whatever follows the line is left for others. A byte with a backslash in front does
not divide, and a line that ends in a backslash goes on.
-/

namespace CommandShell.Machine.Script.Input

open Ascii Tool

/-- What was read of a line. -/
structure Line where
  /-- The runs that have ended, the last one first. -/
  runs : List Run
  /-- The bytes of the current run, the last one first. -/
  current : Bytes
  /-- Whether a backslash is in front of the next byte. -/
  escaped : Bool

namespace Line

/-- The line before anything was read. -/
def start : Line := ⟨[], [], false⟩

/-- Bytes that can divide, as a run. -/
def plainRun (reversed : Bytes) : Run :=
  ⟨reversed.reverse.map fun b => .byte b false, .atDelimiters⟩

/-- The current run has ended. -/
def close (l : Line) : Line := ⟨plainRun l.current :: l.runs, [], false⟩

/-- A byte with a backslash in front. At the end of a line both are dropped. -/
def pushEscaped (l : Line) (b : UInt8) : Line :=
  let closed := l.close
  if b = newline then closed else { closed with runs := ⟨[.byte b true], .whole⟩ :: closed.runs }

/-- All runs. -/
def allRuns (l : Line) : List Run := l.close.runs.reverse

end Line

/-- Reads a line, in `fuel` bytes at most, and tells whether it ended. A backslash means nothing if
`isRaw` says so. -/
def readLineWithin (isRaw : Bool) (l : Line) : Nat → Act (Line × Bool)
  | 0 => pure (l, false)
  | fuel + 1 => do
    match (← ask (.read 0 1) : Except Errno ByteArray) with
    | .error errno =>
      if errno = .interrupted then noteSignals
      return (l, false)
    | .ok bytes =>
      match bytes.toList with
      | [] => return (l, false)
      | b :: _ =>
        if b = 0 then readLineWithin isRaw l fuel
        else if l.escaped then readLineWithin isRaw (l.pushEscaped b) fuel
        else if b = backslash && !isRaw then readLineWithin isRaw { l with escaped := true } fuel
        else if b = newline then return (l, true)
        else readLineWithin isRaw { l with current := b :: l.current } fuel

/-- Gives fields to variables; those for which there is none become empty. -/
def fill : List Bytes → List Bytes → Act Unit
  | [], _ => pure ()
  | name :: names, fields => do
    setVariable name (fields.headD []) false
    fill names fields.tail

/-- Reads a line into variables. -/
def read (arguments : List Bytes) : Act Nat := do
  let (options, names) ← readOptions "p:r" arguments
  if names.isEmpty then fail (utf8 "arg count")
  let isRaw := options.any fun option => option.letter = byteOf 'r'
  let (line, ended) ← readLineWithin isRaw .start endless
  let delimiters := ((← get).valueOf? (utf8 "IFS")).getD fieldBlanks
  fill names ((splitRuns delimiters (some names.length) line.allRuns).map bytesOf)
  return if ended then 0 else 1

end CommandShell.Machine.Script.Input
