import CommandShell.ArgumentVector
import CommandShell.Machine.Program

/-!
# What the tools have in common

A tool is started under a name and runs with an output that is collected in blocks: what is put out
is written when a block is full, and at the end. A failure to write is noticed at once by some
tools and only at the end by others. Whatever was collected is written before a tool complains, so
that both appear in order.
-/

namespace CommandShell.Machine.Tool

open Ascii

/-- A number of steps that no run of a tool reaches. -/
def endless : Nat := 1 <<< 60

/-- How a tool was started. -/
structure Invocation where
  /-- The name of the tool, as it was given. -/
  name : Bytes
  /-- The arguments. -/
  arguments : List Bytes
  /-- The variables. -/
  bindings : Variables

/-- A sequence of bytes in the form in which it is read and written. -/
def pack (bytes : Bytes) : ByteArray := ⟨bytes.toArray⟩

/-- The bytes of a text in the form in which they are written. -/
def packText (text : String) : ByteArray := text.toUTF8

/-- Adds bytes to others. -/
def pushAll (out : ByteArray) (bytes : Bytes) : ByteArray := bytes.foldl ByteArray.push out

/-- The digits of a number. -/
def decimal (n : Nat) : Bytes := utf8 (toString n)

/-- The wording of an error number. -/
def reason (errno : Errno) : Bytes := utf8 errno.catalogue

/-! ### Requests -/

/-- Writes what stands from an offset on, in `fuel` pieces at most. -/
def writeFrom (fd : Fd) (bytes : ByteArray) (offset : Nat) : Nat → Program (Except Errno Unit)
  | 0 => pure (.ok ())
  | fuel + 1 =>
    if bytes.size ≤ offset then pure (.ok ())
    else do
      let piece := if offset = 0 then bytes else bytes.extract offset bytes.size
      match (← Program.ask (.write fd piece) : Except Errno Nat) with
      | .error errno => return .error errno
      | .ok count => writeFrom fd bytes (offset + count) fuel

/-- Writes all of some bytes. -/
def writeAll (fd : Fd) (bytes : ByteArray) : Program (Except Errno Unit) :=
  writeFrom fd bytes 0 (bytes.size + 1)

/-- Writes a text for the user to read. What cannot be written is lost. -/
def tell (text : Bytes) : Program Unit := do
  let _ ← writeAll 2 (pack text)

/-- Reads until nothing is left, in `fuel` pieces at most. -/
def readFrom (fd : Fd) (size : Nat) (before : ByteArray) :
    Nat → Program (Except Errno ByteArray)
  | 0 => pure (.ok before)
  | fuel + 1 => do
    match (← Program.ask (.read fd size) : Except Errno ByteArray) with
    | .error errno => return .error errno
    | .ok piece =>
      if piece.isEmpty then return .ok before else readFrom fd size (before ++ piece) fuel

/-- The number of bytes that are read at a time where it does not matter. -/
def pieceSize : Nat := 65536

/-- Reads until nothing is left. -/
def readAll (fd : Fd) : Program (Except Errno ByteArray) := readFrom fd pieceSize .empty endless

/-! ### The output -/

/-- The output of a tool that was not written yet. -/
structure Output where
  /-- What was collected. -/
  collected : ByteArray
  /-- Whether nothing was put out before. -/
  fresh : Bool
  /-- Whether something could not be written. -/
  failed : Bool
  /-- Whether a complaint could not be written. -/
  unheard : Bool

/-- The output of a tool that has just started. -/
def Output.start : Output := ⟨.empty, true, false, false⟩

/-- What a tool does: requests to the machine, beside an output that is collected. -/
abbrev Act := StateT Output Program

/-- The size of a block of output. -/
def blockSize : Nat := 4096

/-- The size of a piece of input of most tools. -/
def inputSize : Nat := 8192

/-- Makes a request. -/
def ask (request : Call) : Act request.Answer := StateT.lift (Program.ask request)

/-- Writes bytes that are the first ones after what was written before. -/
def writeOut (bytes : ByteArray) : Act (Except Errno Unit) := do
  match ← StateT.lift (writeAll 1 bytes) with
  | .ok () => return .ok ()
  | .error errno =>
    modify fun o => { o with failed := true }
    return .error errno

/-- Writes everything that was collected. If that fails it is lost. -/
def flush : Act (Except Errno Unit) := do
  let collected := (← get).collected
  if collected.isEmpty then return .ok ()
  modify fun o => { o with collected := .empty }
  writeOut collected

/-- Puts out what no block has room for: whole blocks are written, and the rest is collected. -/
def putBlocks (bytes : ByteArray) : Act (Except Errno Unit) := do
  let whole := bytes.size - bytes.size % blockSize
  match ← writeOut (bytes.extract 0 whole) with
  | .error errno => return .error errno
  | .ok () =>
    modify fun o => { o with collected := bytes.extract whole bytes.size }
    return .ok ()

/-- Puts out bytes. They are collected as long as the block has room for them; a full block is
written when more bytes come. -/
def put (bytes : ByteArray) : Act (Except Errno Unit) := do
  if bytes.isEmpty then return .ok ()
  let o ← get
  let room := if o.fresh then 0 else blockSize - o.collected.size
  set { o with collected := o.collected ++ bytes.extract 0 room, fresh := false }
  if bytes.size ≤ room then return .ok ()
  match ← flush with
  | .error errno => return .error errno
  | .ok () => putBlocks (bytes.extract room bytes.size)

/-- Puts out bytes and does not look whether they can be written. -/
def putQuietly (bytes : ByteArray) : Act Unit := do
  let _ ← put bytes

/-- Puts out a text and does not look whether it can be written. -/
def putText (text : Bytes) : Act Unit := putQuietly (pack text)

/-- Forgets that something could not be written. -/
def forgive : Act Unit := modify fun o => { o with failed := false, collected := .empty }

/-! ### Complaints and the end -/

/-- Writes a text for the user to read. -/
def say (text : Bytes) : Act Unit := do
  match ← StateT.lift (writeAll 2 (pack text)) with
  | .ok () => pure ()
  | .error _ => modify fun o => { o with unheard := true }

/-- The usual complaint about lost output. -/
def writeError : Bytes := utf8 "write error"

namespace Invocation

/-- Writes a line for the user to read, under the name of the tool. -/
def complain (t : Invocation) (text : Bytes) : Act Unit := do
  let _ ← flush
  say (t.name ++ utf8 ": " ++ text ++ [newline])

/-- Complains about something for the reason that an error number gives. -/
def complainOf (t : Invocation) (text : Bytes) (errno : Errno) : Act Unit :=
  t.complain (text ++ utf8 ": " ++ reason errno)

/-- Writes what is left and ends with a code, or with another one if some of the output or of the
complaints got lost. -/
def finish {α : Type} (t : Invocation) (code failure : Nat) : Act α := do
  let o ← get
  match ← flush with
  | .ok () =>
    if !o.failed then StateT.lift (Program.exit (if o.unheard then failure else code))
    else
      match (← ask (.describe 1) : Except Errno FileFacts) with
      | .ok _ => t.complain writeError
      | .error errno => t.complainOf writeError errno
      StateT.lift (Program.exit failure)
  | .error errno =>
    t.complainOf writeError errno
    StateT.lift (Program.exit failure)

/-- Complains and ends with a code. -/
def die {α : Type} (t : Invocation) (code : Nat) (text : Bytes) : Act α := do
  t.complain text
  t.finish code code

/-- Complains for the reason that an error number gives and ends with a code. -/
def dieOf {α : Type} (t : Invocation) (code : Nat) (text : Bytes) (errno : Errno) : Act α :=
  t.die code (text ++ utf8 ": " ++ reason errno)

/-- Tells where more is to be learned about the command line, and ends with a code. -/
def pointToHelp {α : Type} (t : Invocation) (code : Nat) : Act α := do
  say (utf8 "Try '" ++ t.name ++ utf8 " --help' for more information.\n")
  t.finish code code

/-- Refuses the command line. -/
def refuse {α : Type} (t : Invocation) (code : Nat) (fault : Bytes) : Act α := do
  t.complain fault
  t.pointToHelp code

/-- Runs what a tool does to the end; the code it comes to is `failure` if some of the output gets
lost. -/
def run (t : Invocation) (failure : Nat) (act : Act Nat) : Task := do
  let whole : Act Nat := do t.finish (← act) failure
  let (code, _) ← whole.run .start
  return code

end Invocation

/-! ### Operands -/

/-- The operand that stands for the standard input. -/
def hyphen : Bytes := [minus]

/-- Opens the file of an operand. -/
def openOperand (operand : Bytes) : Act (Except Errno Fd) := do
  if operand = hyphen then return .ok 0
  match (← ask (.openFile operand .input) : Except Errno Fd) with
  | .error errno => return .error errno
  | .ok fd => return .ok fd

/-- The least descriptor that is not one of a standard stream. -/
def leastFree : Fd := 3

/-- Opens the file of an operand, and not in the place of a standard stream. -/
def openAside (operand : Bytes) : Act (Except Errno Fd) := do
  let opened ← openOperand operand
  match opened with
  | .error _ => return opened
  | .ok fd =>
    if operand = hyphen || leastFree ≤ fd then return opened
    let moved : Except Errno Fd ← ask (.duplicateAbove fd leastFree)
    ask (.close fd)
    return moved

/-- Closes the standard input if it was that of an operand, and ends with a complaint if it was
closed before. -/
def Invocation.closeInput (t : Invocation) (text : Bytes) (operands : List Bytes) : Act Unit := do
  if operands.contains hyphen then
    match (← ask (.describe 0) : Except Errno FileFacts) with
    | .ok _ => ask (.close 0)
    | .error errno => t.dieOf 1 text errno

/-- Closes the file of an operand. -/
def closeOperand (operand : Bytes) (fd : Fd) : Act Unit := do
  if operand ≠ hyphen then ask (.close fd)

/-- The operands that count: the standard input if there are none. -/
def operandsOr (operands : List Bytes) : List Bytes :=
  if operands.isEmpty then [hyphen] else operands

end CommandShell.Machine.Tool
