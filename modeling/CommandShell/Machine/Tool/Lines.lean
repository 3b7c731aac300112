import CommandShell.Machine.Tool.Basic

/-!
# Lines

How a file is taken apart into lines as it is read, whatever the pieces are in which it comes. The
last line counts even if nothing ends it.
-/

namespace CommandShell.Machine.Tool

/-- The offset of a byte from an offset on. -/
def findByte (wanted : UInt8) (bytes : ByteArray) (offset : Nat) : Nat → Option Nat
  | 0 => none
  | fuel + 1 =>
    if bytes.size ≤ offset then none
    else if bytes.get! offset = wanted then some offset
    else findByte wanted bytes (offset + 1) fuel

/-- The lines that are ended from an offset on, put behind others in reverse order, and the bytes
behind them. -/
def splitFrom (delimiter : UInt8) (bytes : ByteArray) (offset : Nat) (before : List ByteArray) :
    Nat → List ByteArray × ByteArray
  | 0 => (before, bytes.extract offset bytes.size)
  | fuel + 1 =>
    match findByte delimiter bytes offset (bytes.size - offset) with
    | none => (before, bytes.extract offset bytes.size)
    | some ending =>
      splitFrom delimiter bytes (ending + 1) (bytes.extract offset ending :: before) fuel

/-- The lines that are ended in some bytes, without their ends, and the bytes behind them. -/
def splitLines (delimiter : UInt8) (bytes : ByteArray) : List ByteArray × ByteArray :=
  let (lines, rest) := splitFrom delimiter bytes 0 [] (bytes.size + 1)
  (lines.reverse, rest)

/-- All lines of some bytes. The last one need not be ended. -/
def allLines (delimiter : UInt8) (bytes : ByteArray) : List ByteArray :=
  let (lines, rest) := splitLines delimiter bytes
  if rest.isEmpty then lines else lines ++ [rest]

/-- Goes through lines. What `step` makes of a line is put out at once. -/
def overGiven {σ : Type} (step : σ → ByteArray → ByteArray × σ) (state : σ) :
    List ByteArray → Act σ
  | [] => pure state
  | line :: rest => do
    let (out, state) := step state line
    putQuietly out
    overGiven step state rest

/-- Goes through the lines of a file while it is read. What `step` makes of a line is put out. The
bytes of a line that was not ended yet are given. -/
def overLines {σ : Type} (fd : Fd) (size : Nat) (delimiter : UInt8)
    (step : σ → ByteArray → ByteArray × σ) (state : σ) (pending : ByteArray) :
    Nat → Act (Except Errno σ)
  | 0 => pure (.ok state)
  | fuel + 1 => do
    match (← ask (.read fd size) : Except Errno ByteArray) with
    | .error errno => return .error errno
    | .ok piece =>
      if piece.isEmpty then
        return .ok (← overGiven step state (if pending.isEmpty then [] else [pending]))
      let (lines, rest) := splitLines delimiter (pending ++ piece)
      overLines fd size delimiter step (← overGiven step state lines) rest fuel

end CommandShell.Machine.Tool
