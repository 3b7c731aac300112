import CommandShell.Machine.Tool.Following
import CommandShell.Machine.Tool.Sleep
import CommandShell.Machine.Tool.WordChoice

/-!
# The end of a file

The tool that writes the last lines or bytes of files, or all from one of the first on. A line that
is not ended counts as a line.
-/

namespace CommandShell.Machine.Tool.Tail

open Ascii Following

/-- What is wanted. -/
structure Settings where
  /-- The unit. -/
  unit : PortionUnit
  /-- The number of units. -/
  count : Nat
  /-- Whether the count is that of the first unit that is wanted. -/
  fromStart : Bool
  /-- When headings are written. -/
  headings : Headings
  /-- The byte that ends a line. -/
  delimiter : UInt8
  /-- Whether the files are followed. -/
  forever : Bool
  /-- How they are followed. -/
  manner : Manner

/-- The offset of the last units of some bytes. -/
def behindOf (s : Settings) (bytes : ByteArray) : Nat :=
  match s.unit with
  | .bytes => bytes.size - s.count
  | .lines =>
    let lines := countEnds s.delimiter bytes + if hasOpenLine s.delimiter bytes then 1 else 0
    if s.count = 0 then bytes.size
    else (behindFirstLines s.delimiter bytes (lines - s.count)).getD 0

/-- Copies what is read behind a number of units. The answer tells how much was read, if all could
be read. -/
def skip (t : Invocation) (s : Settings) (operand : Bytes) (fd : Fd) (passed count : Nat) :
    Nat → Act (Option Nat)
  | 0 => pure (some passed)
  | fuel + 1 => do
    if count = 0 then some <$> copyRest t operand fd passed endless
    else
      match (← ask (.read fd inputSize) : Except Errno ByteArray) with
      | .error errno =>
        complainReading t operand errno
        return none
      | .ok piece =>
        if piece.isEmpty then return some passed
        let passed := passed + piece.size
        match s.unit with
        | .bytes =>
          if piece.size ≤ count then skip t s operand fd passed (count - piece.size) fuel
          else
            putOrDie t (piece.extract count piece.size)
            some <$> copyRest t operand fd passed endless
        | .lines =>
          match behindFirstLines s.delimiter piece count with
          | none =>
            skip t s operand fd passed (count - countEnds s.delimiter piece) fuel
          | some offset =>
            putOrDie t (piece.extract offset piece.size)
            some <$> copyRest t operand fd passed endless

/-- Copies what stands behind a number of bytes, which are not read if the file has positions. The
answer tells how far that is. -/
def skipBytes (t : Invocation) (s : Settings) (operand : Bytes) (fd : Fd) (kind : FileKind)
    (count : Nat) : Act (Option Nat) := do
  let reached : Except Errno Nat ←
    if count ≤ maxPosition then ask (.seek fd .position count) else pure (.error .tooLarge)
  match reached with
  | .ok _ => some <$> copyRest t operand fd count endless
  | .error errno =>
    if kind = .regular && count ≤ maxPosition then
      t.dieOf 1 (shown (fileTitle operand) ++ utf8 ": cannot seek to relative offset " ++
        decimal count) errno
    skip t s operand fd 0 count endless

/-- Writes what is read at the end of a file. The answer tells how much was read, if all could be
read. -/
def ending (t : Invocation) (s : Settings) (operand : Bytes) (fd : Fd) (kind : FileKind) :
    Act (Option Nat) := do
  match ← StateT.lift (readFrom fd inputSize .empty endless) with
  | .error errno =>
    if s.unit = .bytes && kind = .directory then
      t.dieOf 1 (utf8 "error reading " ++ shellQuoted (fileTitle operand)) errno
    complainReading t operand errno
    return none
  | .ok bytes =>
    putOrDie t (bytes.extract (behindOf s bytes) bytes.size)
    return some bytes.size

/-- Writes the wanted portion of what is read. The answer tells how far the file was read, if all
could be read. -/
def portion (t : Invocation) (s : Settings) (operand : Bytes) (fd : Fd) : Act (Option Nat) := do
  match (← ask (.describe fd) : Except Errno FileFacts) with
  | .error errno =>
    t.complainOf (utf8 "cannot fstat " ++ shellQuoted (fileTitle operand)) errno
    return none
  | .ok facts =>
    if s.fromStart then
      match s.unit with
      | .bytes => skipBytes t s operand fd facts.kind (s.count - 1)
      | .lines => skip t s operand fd 0 (s.count - 1) endless
    else if facts.kind = .device && s.unit = .bytes then
      match (← ask (.read fd s.count) : Except Errno ByteArray) with
      | .error _ => return none
      | .ok piece =>
        putOrDie t piece
        return some piece.size
    else
      let start : Except Errno Nat ← ask (.seek fd .position 0)
      let read ← ending t s operand fd facts.kind
      match facts.kind, start with
      | .regular, .ok start =>
        return read.map fun count => if start < facts.size then start + count else count
      | _, _ => return read

/-- What becomes of an opened file of which the portion was written. -/
def keep (t : Invocation) (s : Settings) (operand : Bytes) (fd : Fd) (read : Option Nat) :
    Act Followed := do
  let ignored := !s.manner.insists
  match (← ask (.describe fd) : Except Errno FileFacts) with
  | .error errno =>
    complainReading t operand errno
    return .closed operand (.failed errno) true ignored
  | .ok facts =>
    if !canGrow facts.kind then
      t.complain (shown (fileTitle operand) ++ utf8 ": cannot follow end of this type of file" ++
        if ignored then utf8 "; giving up on this name" else [])
      closeOperand operand fd
      return .closed operand .unsuitable false ignored
    match read with
    | none =>
      closeOperand operand fd
      return .closed operand .unsuitable true ignored
    | some size => return .opened operand fd size facts

/-- Writes the wanted portion of the file of an operand, and tells how it can be followed and
whether all was well. -/
def portionOf (t : Invocation) (s : Settings) (headed first : Bool) (operand : Bytes) :
    Act (Followed × Bool × Bool) := do
  match ← openPortion t operand with
  | .error errno =>
    return (.closed operand (.failed errno) (!s.manner.insists) (!s.manner.insists), first, false)
  | .ok fd =>
    if headed then putText (heading first operand)
    let read ← portion t s operand fd
    if !s.forever then
      closeOperand operand fd
      return (.closed operand .nothing true true, false, read.isSome)
    let f ← keep t s operand fd read
    return (f, false, f.fd.isSome)

/-- Writes the wanted portions of the files of operands. The answer tells how they can be followed,
whether no heading was written, and whether all was well. -/
def portions (t : Invocation) (s : Settings) (headed first complete : Bool) :
    List Bytes → Act (List Followed × Bool × Bool)
  | [] => pure ([], first, complete)
  | operand :: rest => do
    let (f, first, whole) ← portionOf t s headed first operand
    let (files, first, complete) ← portions t s headed first (complete && whole) rest
    return (f :: files, first, complete)

/-- The options. -/
def rules : List OptionRule := [
  .valued 'c' "bytes", ⟨"follow", none, some "follow", .optional⟩, .valued 'n' "lines",
  ⟨"max-unchanged-stats", none, some "max-unchanged-stats", .required⟩,
  .nameOnly "-disable-inotify", ⟨"pid", none, some "pid", .required⟩,
  .nameOnly "-presume-input-pipe", .plain 'q' "quiet", .nameOnly "retry",
  ⟨"quiet", none, some "silent", .absent⟩, .valued 's' "sleep-interval", .plain 'v' "verbose",
  .plain 'z' "zero-terminated", .letterOnly 'f', .letterOnly 'F'] ++
  (List.range 10).map fun n => .letterOnly (Char.ofNat (48 + n))

/-- What can be followed: a file that was opened, or what a name stands for. -/
def goals : WordChoice Bool := [("descriptor", false), ("name", true)]

/-- The greatest number of a process. -/
def maxProcess : Nat := 2147483647

/-- The interval that a value asks for, in microseconds. -/
def readInterval (value : Bytes) : Option Nat :=
  (Floating.ofText? .double value).bind fun seconds => Sleep.duration seconds 1

/-- Sets the portion that a value asks for. -/
def setPortion (t : Invocation) (s : Settings) (unit : PortionUnit) (value : Bytes) :
    Act Settings := do
  let count ← requireQuantity t 1 unit.complaint
    (if value.head? = some minus then value.tail else value)
  return { s with
    unit := unit, count := count, fromStart := s.fromStart || value.head? = some plus }

/-- What an option asks for. -/
def choose (t : Invocation) (s : Settings) (key : String) (given : Option Bytes) :
    Act Settings := do
  let value := given.getD []
  match key with
  | "bytes" => setPortion t s .bytes value
  | "lines" => setPortion t s .lines value
  | "quiet" => pure { s with headings := .never }
  | "verbose" => pure { s with headings := .always }
  | "zero-terminated" => pure { s with delimiter := 0 }
  | "follow" => do
    let byName ← match given with
      | none => pure false
      | some word => goals.require t 1 "--follow" word
    return { s with forever := true, manner := { s.manner with byName := byName } }
  | "f" => pure { s with forever := true, manner := { s.manner with byName := false } }
  | "F" => pure { s with
      forever := true, manner := { s.manner with byName := true, insists := true } }
  | "retry" => pure { s with manner := { s.manner with insists := true } }
  | "max-unchanged-stats" => do
    let patience ← requireAtMost t 1 maxQuantity []
      "invalid maximum number of unchanged stats between opens" value
    return { s with manner := { s.manner with patience := patience } }
  | "pid" => do
    let pid ← requireAtMost t 1 maxProcess [] "invalid PID" value
    return { s with manner := { s.manner with writer := if pid = 0 then none else some pid } }
  | "sleep-interval" =>
    match readInterval value with
    | none => t.die 1 (utf8 "invalid number of seconds: " ++ quoted value)
    | some interval => pure { s with manner := { s.manner with interval := interval } }
  | "-disable-inotify" | "-presume-input-pipe" => pure s
  | digit => t.die 1 (utf8 ("option used in invalid context -- " ++ digit))

/-- Whether the arguments may begin with a shorthand: there is at most one operand behind it. -/
def allowsShorthand : List Bytes → Bool
  | [_] => true
  | [_, second] => second = hyphen || second.head? ≠ some minus || second = [minus, minus]
  | [_, second, _] => second = [minus, minus]
  | _ => false

/-- What a shorthand asks for, if a text is one: perhaps a number, perhaps a letter for the unit,
and perhaps another one for waiting. -/
def readShorthand (s : Settings) (text : Bytes) : Option (Settings × Bytes) :=
  let digits := text.takeWhile isDigit
  let rest := text.drop digits.length
  let (unit, factor, rest) : PortionUnit × Nat × Bytes := match rest with
    | letter :: more =>
      if letter = byteOf 'b' then (.bytes, 512, more)
      else if letter = byteOf 'c' then (.bytes, 1, more)
      else if letter = byteOf 'l' then (.lines, 1, more)
      else (.lines, 1, rest)
    | [] => (.lines, 1, [])
  let forever := rest.head? = some (byteOf 'f')
  if !(if forever then rest.tail else rest).isEmpty then none
  else
    let value := (if digits.isEmpty then utf8 "10" else digits) ++
      if factor = 1 then [] else utf8 "b"
    some ({ s with unit := unit, forever := forever }, value)

/-- Whether a sign with a text behind it can be a shorthand. -/
def isShorthand (e : Edition) (sign : UInt8) (text : Bytes) : Bool :=
  if sign = plus then e.isTraditional
  else sign = minus && (e.isOld || (!text.isEmpty && text ≠ utf8 "c"))

/-- What a first argument that is a shorthand asks for, and the arguments that are left. -/
def takeShorthand (t : Invocation) (s : Settings) : Act (Settings × List Bytes) := do
  if !allowsShorthand t.arguments then return (s, t.arguments)
  match t.arguments with
  | (sign :: text) :: rest =>
    match if isShorthand t.edition sign text then readShorthand s text else none with
    | none => return (s, t.arguments)
    | some (s, value) =>
      match readQuantity (utf8 "b") value with
      | .ok count => return ({ s with count := count, fromStart := sign = plus }, rest)
      | _ => t.dieOf 1 (utf8 "invalid number: " ++ quoted (sign :: text)) .outOfRange
  | arguments => return (s, arguments)

/-- Settings without those that mean nothing, which is told. -/
def warn (t : Invocation) (s : Settings) : Act Settings := do
  let insists := s.manner.insists
  if insists && !s.forever then
    t.complain (utf8 "warning: --retry ignored; --retry is useful only when following")
  else if insists && !s.manner.byName then
    t.complain (utf8 "warning: --retry only effective for the initial open")
  if s.manner.writer.isSome && !s.forever then
    t.complain (utf8 "warning: PID ignored; --pid=PID is useful only when following")
  return { s with manner := { s.manner with insists := insists && s.forever } }

/-- Writes the ends of files, and follows them if that is wanted. -/
def writeEnds (t : Invocation) (s : Settings) (operands : List Bytes) : Act Nat := do
  let s ← warn t s
  let operands := operandsOr operands
  if operands.contains hyphen && s.manner.byName then
    t.die 1 (utf8 "cannot follow " ++ shellQuoted hyphen ++ utf8 " by name")
  if s.count = 0 && !s.forever && !s.fromStart then return 0
  let headed := s.headings.shows operands.length
  let (files, first, complete) ← portions t s headed true true operands
  if s.forever then follow t s.manner headed first files
  t.closeInput hyphen operands
  return if complete then 0 else 1

/-- Writes the end of files. -/
def tool (t : Invocation) : Task := t.run 1 do
  let (s, arguments) ←
    takeShorthand t ⟨.lines, 10, false, .asNeeded, newline, false, .usual⟩
  withChoices { t with arguments := arguments } rules true 1 s (choose t) (writeEnds t)

end CommandShell.Machine.Tool.Tail
