import CommandShell.Machine.Tool.Quantity

/-!
# Portions of a file

What the tools that write the beginning or the end of a file have in common: how much is wanted,
where a number of lines ends, and the headings between several files.
-/

namespace CommandShell.Machine.Tool

open Ascii

/-- In what a portion is counted. -/
inductive PortionUnit where
  | lines
  | bytes
  deriving DecidableEq, Repr

/-- When a heading is written above a file. -/
inductive Headings where
  /-- If there are several files. -/
  | asNeeded
  | never
  | always
  deriving DecidableEq, Repr

/-- Whether headings are written above a number of files. -/
def Headings.shows (h : Headings) (files : Nat) : Bool :=
  match h with
  | .asNeeded => 1 < files
  | .never => false
  | .always => true

/-- The wording of the complaint about a number that cannot be read. -/
def PortionUnit.complaint : PortionUnit → String
  | .lines => "invalid number of lines"
  | .bytes => "invalid number of bytes"

/-- The greatest position in a file. -/
def maxPosition : Nat := 9223372036854775807

/-- The name of an operand in headings and messages. -/
def fileTitle (operand : Bytes) : Bytes :=
  if operand = hyphen then utf8 "standard input" else operand

/-- The heading above a file. -/
def heading (first : Bool) (operand : Bytes) : Bytes :=
  (if first then [] else [newline]) ++ utf8 "==> " ++ fileTitle operand ++ utf8 " <==\n"

/-- The offset behind a number of ends of lines that are looked for from an offset on. -/
def behindLines (delimiter : UInt8) (bytes : ByteArray) (offset wanted : Nat) :
    Nat → Option Nat
  | 0 => if wanted = 0 then some offset else none
  | fuel + 1 =>
    if wanted = 0 then some offset
    else if bytes.size ≤ offset then none
    else behindLines delimiter bytes (offset + 1)
      (if bytes.get! offset = delimiter then wanted - 1 else wanted) fuel

/-- The offset behind the first lines of some bytes, if there are as many. -/
def behindFirstLines (delimiter : UInt8) (bytes : ByteArray) (wanted : Nat) : Option Nat :=
  behindLines delimiter bytes 0 wanted (bytes.size + 1)

/-- How many lines end in some bytes. -/
def countEnds (delimiter : UInt8) (bytes : ByteArray) : Nat :=
  bytes.foldl (fun n b => if b = delimiter then n + 1 else n) 0

/-- Whether the last byte ends no line. -/
def hasOpenLine (delimiter : UInt8) (bytes : ByteArray) : Bool :=
  !bytes.isEmpty && bytes.get! (bytes.size - 1) != delimiter

/-- Puts out bytes. A failure ends the tool. -/
def putOrDie (t : Invocation) (bytes : ByteArray) : Act Unit := do
  match ← put bytes with
  | .ok () => pure ()
  | .error errno =>
    forgive
    t.dieOf 1 (utf8 "error writing 'standard output'") errno

/-- Opens the file of an operand, or complains. -/
def openPortion (t : Invocation) (operand : Bytes) : Act (Except Errno Fd) := do
  let opened ← openAside operand
  if let .error errno := opened then
    t.complainOf (utf8 "cannot open " ++ shellQuoted operand ++ utf8 " for reading") errno
  return opened

/-- Copies what is read until nothing is left, and tells how much it was. A failure ends the
tool. -/
def copyRest (t : Invocation) (operand : Bytes) (fd : Fd) (copied : Nat) : Nat → Act Nat
  | 0 => pure copied
  | fuel + 1 => do
    match (← ask (.read fd inputSize) : Except Errno ByteArray) with
    | .error errno => t.dieOf 1 (utf8 "error reading " ++ shellQuoted (fileTitle operand)) errno
    | .ok piece =>
      if piece.isEmpty then return copied
      putOrDie t piece
      copyRest t operand fd (copied + piece.size) fuel

/-- Complains about a file that could not be read. -/
def complainReading (t : Invocation) (operand : Bytes) (errno : Errno) : Act Unit :=
  t.complainOf (utf8 "error reading " ++ shellQuoted (fileTitle operand)) errno

end CommandShell.Machine.Tool
