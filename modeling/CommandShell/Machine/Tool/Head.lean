import CommandShell.Machine.Tool.Portion

/-!
# The beginning of a file

The tool that writes the first lines or bytes of files, or all but the last ones. What was read
beyond the end of the portion is given back where the file has positions, so that whoever shares it
goes on behind the portion.
-/

namespace CommandShell.Machine.Tool.Head

open Ascii

/-- What is wanted. -/
structure Settings where
  /-- The unit. -/
  unit : PortionUnit
  /-- The number of units. -/
  count : Nat
  /-- Whether the units are left out at the end, and all others wanted. -/
  allBut : Bool
  /-- When headings are written. -/
  headings : Headings
  /-- The byte that ends a line. -/
  delimiter : UInt8

/-- Gives bytes back that were read too many. -/
def giveBack (t : Invocation) (operand : Bytes) (fd : Fd) (count : Nat) : Act Unit := do
  match (← ask (.seek fd .position (-(count : Int))) : Except Errno Nat) with
  | .ok _ => pure ()
  | .error errno =>
    match (← ask (.describe fd) : Except Errno FileFacts) with
    | .ok ⟨.regular, _, _, _, _⟩ =>
      t.complainOf (utf8 "cannot reposition file pointer for " ++ shellQuoted (fileTitle operand))
        errno
    | _ => pure ()

/-- Writes the first lines that are read. -/
def firstLines (t : Invocation) (s : Settings) (operand : Bytes) (fd : Fd) (wanted : Nat) :
    Nat → Act Bool
  | 0 => pure true
  | fuel + 1 => do
    if wanted = 0 then return true
    match (← ask (.read fd inputSize) : Except Errno ByteArray) with
    | .error errno =>
      complainReading t operand errno
      return false
    | .ok piece =>
      if piece.isEmpty then return true
      match behindFirstLines s.delimiter piece wanted with
      | some offset =>
        giveBack t operand fd (piece.size - offset)
        putOrDie t (piece.extract 0 offset)
        return true
      | none =>
        putOrDie t piece
        firstLines t s operand fd (wanted - countEnds s.delimiter piece) fuel

/-- Writes the first bytes that are read. -/
def firstBytes (t : Invocation) (operand : Bytes) (fd : Fd) (wanted : Nat) : Nat → Act Bool
  | 0 => pure true
  | fuel + 1 => do
    if wanted = 0 then return true
    match (← ask (.read fd (min wanted inputSize)) : Except Errno ByteArray) with
    | .error errno =>
      complainReading t operand errno
      return false
    | .ok piece =>
      if piece.isEmpty then return true
      putOrDie t piece
      firstBytes t operand fd (wanted - piece.size) fuel

/-- How many of the held bytes are not among the last units, whatever follows them. -/
def releasable (s : Settings) (held : ByteArray) : Nat :=
  match s.unit with
  | .bytes => held.size - s.count
  | .lines =>
    (behindFirstLines s.delimiter held (countEnds s.delimiter held - s.count)).getD 0

/-- How many of the held bytes are not among the last units, if nothing follows them. -/
def releasableAtEnd (s : Settings) (held : ByteArray) : Nat :=
  match s.unit with
  | .bytes => held.size - s.count
  | .lines =>
    if s.count = 0 then held.size
    else
      let lines := countEnds s.delimiter held + if hasOpenLine s.delimiter held then 1 else 0
      (behindFirstLines s.delimiter held (lines - s.count)).getD held.size

/-- Writes all but the last units that are read. The answer tells how many bytes were written and
whether all could be read. -/
def allButLast (t : Invocation) (s : Settings) (operand : Bytes) (fd : Fd) (written : Nat)
    (held : ByteArray) : Nat → Act (Nat × Bool)
  | 0 => pure (written, true)
  | fuel + 1 => do
    match (← ask (.read fd inputSize) : Except Errno ByteArray) with
    | .error errno =>
      complainReading t operand errno
      return (written, false)
    | .ok piece =>
      let ended := piece.isEmpty
      let held := held ++ piece
      let free := if ended then releasableAtEnd s held else releasable s held
      putOrDie t (held.extract 0 free)
      if ended then return (written + free, true)
      allButLast t s operand fd (written + free) (held.extract free held.size) fuel

/-- Writes the wanted portion of what is read. -/
def portion (t : Invocation) (s : Settings) (operand : Bytes) (fd : Fd) : Act Bool := do
  if !s.allBut then
    match s.unit with
    | .lines => firstLines t s operand fd s.count endless
    | .bytes => firstBytes t operand fd s.count endless
  else
    let start : Except Errno Nat ← ask (.seek fd .position 0)
    let (written, complete) ← allButLast t s operand fd 0 .empty endless
    match start with
    | .error _ => return complete
    | .ok start =>
      let _ : Except Errno Nat ← ask (.seek fd .beginning (start + written : Nat))
      return complete

/-- Writes the wanted portions of the files of operands. -/
def portions (t : Invocation) (s : Settings) (headed first : Bool) (code : Nat) :
    List Bytes → Act Nat
  | [] => pure code
  | operand :: rest => do
    match ← openPortion t operand with
    | .error _ => portions t s headed first 1 rest
    | .ok fd =>
      if headed then putText (heading first operand)
      let complete ← portion t s operand fd
      closeOperand operand fd
      portions t s headed false (if complete then code else 1) rest

/-- The options. -/
def rules : List OptionRule := [
  .valued 'c' "bytes", .valued 'n' "lines", .nameOnly "-presume-input-pipe", .plain 'q' "quiet",
  ⟨"quiet", none, some "silent", .absent⟩, .plain 'v' "verbose", .plain 'z' "zero-terminated"] ++
  (List.range 10).map fun n => .letterOnly (Char.ofNat (48 + n))

/-- Sets the portion that a value asks for. -/
def setPortion (t : Invocation) (s : Settings) (unit : PortionUnit) (value : Bytes) :
    Act Settings := do
  let allBut := value.head? = some minus
  let count ← requireQuantity t 1 unit.complaint (if allBut then value.tail else value)
  return { s with unit := unit, count := count, allBut := allBut }

/-- What an option asks for. -/
def choose (t : Invocation) (s : Settings) (key : String) (value : Bytes) : Act Settings :=
  match key with
  | "bytes" => setPortion t s .bytes value
  | "lines" => setPortion t s .lines value
  | "quiet" => pure { s with headings := .never }
  | "verbose" => pure { s with headings := .always }
  | "zero-terminated" => pure { s with delimiter := 0 }
  | "-presume-input-pipe" => pure s
  | digit => t.refuse 1 (utf8 ("invalid trailing option -- " ++ digit))

/-- What the letters behind a number ask for, and the unit that multiplies it. -/
def readTrailing (t : Invocation) (s : Settings) (unit : Bytes) : Bytes → Act (Settings × Bytes)
  | [] => pure (s, unit)
  | letter :: rest =>
    if letter = byteOf 'c' then readTrailing t { s with unit := .bytes } [] rest
    else if (utf8 "bkm").contains letter then
      readTrailing t { s with unit := .bytes } [letter] rest
    else if letter = byteOf 'l' then readTrailing t { s with unit := .lines } unit rest
    else if letter = byteOf 'q' then readTrailing t { s with headings := .never } unit rest
    else if letter = byteOf 'v' then readTrailing t { s with headings := .always } unit rest
    else if letter = byteOf 'z' then readTrailing t { s with delimiter := 0 } unit rest
    else t.refuse 1 (utf8 "invalid trailing option -- " ++ [letter])

/-- What a first argument that is a number behind a hyphen asks for, and the arguments that are
left. -/
def readShorthand (t : Invocation) (s : Settings) : Act (Settings × List Bytes) := do
  match t.arguments with
  | (minus :: digit :: text) :: rest =>
    if !isDigit digit then return (s, t.arguments)
    let digits := (digit :: text).takeWhile isDigit
    let (s, unit) ← readTrailing t s [] ((digit :: text).drop digits.length)
    let count ← requireQuantity t 1 s.unit.complaint (digits ++ unit)
    return ({ s with count := count }, rest)
  | arguments => return (s, arguments)

/-- Writes the beginning of files. -/
def tool (t : Invocation) : Task := t.run 1 do
  let (s, arguments) ← readShorthand t ⟨.lines, 10, false, .asNeeded, newline⟩
  withOptions { t with arguments := arguments } rules true 1 s (choose t) fun s operands => do
    if s.unit = .bytes && s.allBut && maxPosition < s.count then
      t.dieOf 1 (utf8 "invalid number of bytes: " ++ quoted (decimal s.count)) .tooLarge
    let headed := s.headings.shows operands.length
    let operands := operandsOr operands
    let code ← portions t s headed true 0 operands
    t.closeInput hyphen operands
    return code

end CommandShell.Machine.Tool.Head
