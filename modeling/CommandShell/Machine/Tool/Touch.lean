import CommandShell.Machine.Tool.DateText
import CommandShell.Machine.Tool.WordChoice

/-!
# Touching files

The tool that gives files another time of change and makes those that are missing. The time is the
present one, that of another file, or one that is given as a stamp of digits or described in words.
-/

namespace CommandShell.Machine.Tool.Touch

open Ascii Calendar

/-- What is wanted. -/
structure Settings where
  /-- Whether missing files are left alone. -/
  keeps : Bool
  /-- Whether links are touched themselves. -/
  links : Bool
  /-- The time that a stamp gave. -/
  stamp : Option Instant
  /-- A description of a time. -/
  date : Option Bytes
  /-- A file whose time is taken. -/
  reference : Option Bytes
  /-- Whether the time of reading is wanted. -/
  reading : Bool
  /-- Whether the time of change is wanted. -/
  changing : Bool

/-! ### Stamps -/

/-- The number that two digits at a place stand for. -/
def pairAt (digits : Bytes) (place : Nat) : Nat :=
  ((digits.drop place).take 2).foldl (fun n b => n * 10 + digitValue b) 0

/-- The year of some digits in front of those of a month. Without digits it is the present one. -/
def yearOf (present : Int) (digits : Bytes) : Int :=
  if digits.isEmpty then present
  else if digits.length = 2 then
    let n := pairAt digits 0
    if n < 69 then 2000 + n else 1900 + n
  else pairAt digits 0 * 100 + pairAt digits 2

/-- The moment of a stamp in a year that is taken if none is given: perhaps a century and a year,
then a month, a day, an hour and a minute, and perhaps seconds behind a point. -/
def momentOf? (present : Int) (text : Bytes) : Option Moment :=
  let digits := text.takeWhile (· ≠ point)
  let behind := text.drop digits.length
  let seconds := behind.drop 1
  let years := digits.take (digits.length - 8)
  let rest := digits.drop years.length
  if digits.length % 2 = 1 || digits.length < 8 || 12 < digits.length then none
  else if !digits.all isDigit then none
  else if !behind.isEmpty && (seconds.length ≠ 2 || !seconds.all isDigit) then none
  else some ⟨yearOf present years, pairAt rest 0, pairAt rest 2, pairAt rest 4, pairAt rest 6,
    pairAt seconds 0⟩

/-- The seconds of a moment that exists. The second behind the last one of a minute is the first one
of the next. -/
def secondsOf? (m : Moment) : Option Int :=
  if m.isValid then some m.seconds
  else if m.second = 60 && { m with second := 59 }.isValid then some m.seconds
  else none

/-- The time of a stamp, seen from another one, for a reader in a zone. -/
def instantOf? (zone : Bytes) (now : Instant) (text : Bytes) : Option Instant := do
  let ahead := DateText.aheadOf zone
  let present := (Moment.ofSeconds (now / secondLength + ahead)).year
  let seconds ← secondsOf? (← momentOf? present text)
  return Calendar.instant (seconds - ahead) 0

/-- The greatest year of the last century in an old stamp, in two digits, of those that are not
years of the next one. -/
def isLateYear (years : Bytes) : Bool := years.isEmpty || 69 ≤ pairAt years 0

/-- The stamp in its usual form for one in its old form: a month, a day, an hour and a minute, and
perhaps a year of the last century. -/
def renewed? (text : Bytes) : Option Bytes :=
  let years := text.drop 8
  if (text.length = 8 || text.length = 10) && text.all isDigit && isLateYear years then
    some (years ++ text.take 8)
  else none

/-- A number in digits, with zeros in front up to a width. -/
def padded (width : Nat) (n : Int) : Bytes :=
  let digits := decimal n.toNat
  List.replicate (width - digits.length) zero ++ digits

/-- The stamp of a moment, with its year and its seconds. -/
def stampOf (m : Moment) : Bytes :=
  padded 4 m.year ++ padded 2 m.month ++ padded 2 m.day ++ padded 2 m.hour ++
    padded 2 m.minute ++ [point] ++ padded 2 m.second

/-- The zone of the reader. -/
def zoneOf (t : Invocation) : Bytes := (t.bindings.lookup (utf8 "TZ")).getD []

/-! ### Files -/

/-- Complains about a file whose time cannot be set. -/
def complainTime (t : Invocation) (path : Bytes) (errno : Errno) : Act Unit :=
  t.complainOf (utf8 "setting times of " ++ shellQuoted path) errno

/-- Sets the time of the standard output. -/
def touchOutput (t : Invocation) (s : Settings) (time : Option Instant) : Act Bool := do
  let result : Except Errno Unit ← if s.changing then ask (.stamp 1 time) else do
    match (← ask (.describe 1) : Except Errno FileFacts) with
    | .ok _ => pure (.ok ())
    | .error errno => pure (.error errno)
  match result with
  | .ok () => return true
  | .error errno =>
    if s.keeps && errno = .badDescriptor then return true
    complainTime t hyphen errno
    return false

/-- Sets the time of what is at a path, if the time of change is wanted. -/
def stampPath (s : Settings) (path : Bytes) (time : Option Instant) : Act (Except Errno Unit) := do
  if s.changing then ask (.stampPath path (!s.links) time)
  else
    match (← ask (.inspect path (!s.links)) : Except Errno FileFacts) with
    | .ok _ => return .ok ()
    | .error errno => return .error errno

/-- Sets the time of what is at a path that could not be opened, if it was tried to. -/
def touchPath (t : Invocation) (s : Settings) (path : Bytes) (time : Option Instant)
    (opening : Option Errno) : Act Bool := do
  match ← stampPath s path time with
  | .ok () => return true
  | .error errno =>
    match opening with
    | some reason =>
      if reason ≠ .isDirectory then
        t.complainOf (utf8 "cannot touch " ++ shellQuoted path) reason
        return false
    | none => pure ()
    if s.keeps && errno = .noEntry then return true
    complainTime t path errno
    return false

/-- Sets the time of a file. It is made if it is missing. -/
def touch (t : Invocation) (s : Settings) (time : Option Instant) (path : Bytes) : Act Bool := do
  if path = hyphen then touchOutput t s time
  else if s.keeps || s.links then touchPath t s path time none
  else
    match (← ask (.openFile path .keep) : Except Errno Fd) with
    | .error errno => touchPath t s path time (some errno)
    | .ok fd =>
      if s.changing then
        let _ ← ask (.stamp fd time)
      ask (.close fd)
      return true

/-- Sets the times of files, one after the other. -/
def touchAll (t : Invocation) (s : Settings) (time : Option Instant) (code : Nat) :
    List Bytes → Act Nat
  | [] => pure code
  | path :: rest => do
    let done ← touch t s time path
    touchAll t s time (if done then code else 1) rest

/-! ### The command line -/

/-- The options. -/
def rules : List OptionRule := [⟨"time", none, some "time", .required⟩, .plain 'c' "no-create",
  .valued 'd' "date", .valued 'r' "reference", .plain 'h' "no-dereference", .letterOnly 'a',
  .letterOnly 'f', .letterOnly 'm', ⟨"stamp", some 't', none, .required⟩]

/-- The times of a file; whether the word means the time of reading. -/
def times : WordChoice Bool :=
  [("atime", true), ("access", true), ("use", true), ("mtime", false), ("modify", false)]

/-- Complains about a time that is none, and ends. -/
def refuseDate {α : Type} (t : Invocation) (text : Bytes) : Act α :=
  t.die 1 (utf8 "invalid date format " ++ quoted text)

/-- The time that a text describes, seen from another one. -/
def readDate (t : Invocation) (now : Instant) (text : Bytes) : Act Instant := do
  match DateText.instantOf (zoneOf t) now text with
  | some time => return time
  | none => refuseDate t text

/-- What an option asks for. -/
def choose (t : Invocation) (s : Settings) (key : String) (value : Bytes) : Act Settings := do
  match key with
  | "no-create" => return { s with keeps := true }
  | "no-dereference" => return { s with links := true }
  | "a" => return { s with reading := true }
  | "m" => return { s with changing := true }
  | "date" => return { s with date := some value }
  | "reference" => return { s with reference := some value }
  | "stamp" =>
    match instantOf? (zoneOf t) (← ask .now) value with
    | some time => return { s with stamp := some time }
    | none => refuseDate t value
  | "time" =>
    if ← times.require t 1 "--time" value then return { s with reading := true }
    else return { s with changing := true }
  | _ => return s

/-- The time of change of a file. -/
def timeOf (t : Invocation) (s : Settings) (path : Bytes) : Act Instant := do
  match (← ask (.inspect path (!s.links)) : Except Errno FileFacts) with
  | .ok facts => return facts.modified
  | .error errno => t.dieOf 1 (utf8 "failed to get attributes of " ++ shellQuoted path) errno

/-- The time that files are to get; the present one if there is no answer. -/
def wantedTime (t : Invocation) (s : Settings) : Act (Option Instant) := do
  if s.stamp.isSome && (s.reference.isSome || s.date.isSome) then
    t.refuse 1 (utf8 "cannot specify times from more than one source")
  match s.reference, s.date with
  | none, none => return s.stamp
  | some path, none => return some (← timeOf t s path)
  | none, some date => return some (← readDate t (← ask .now) date)
  | some path, some date => return some (← readDate t (← timeOf t s path) date)

/-- The time that a first operand in the old form of a stamp stands for, and the operands behind
it. -/
def takeOldStamp (t : Invocation) (s : Settings) (operands : List Bytes) :
    Act (Option (Instant × List Bytes)) := do
  let isSet := s.stamp.isSome || s.reference.isSome || s.date.isSome
  match operands with
  | text :: second :: rest =>
    if isSet || !t.edition.isOld then return none
    match (renewed? text).bind (instantOf? (zoneOf t) (← ask .now)) with
    | none => return none
    | some time =>
      if !t.isStrict then
        let m := Moment.ofSeconds (time / secondLength + DateText.aheadOf (zoneOf t))
        t.complain (utf8 "warning: 'touch " ++ text ++ utf8 "' is obsolete; use 'touch -t " ++
          stampOf m ++ [apostrophe])
      return some (time, second :: rest)
  | _ => return none

/-- Touches files. -/
def tool (t : Invocation) : Task :=
  t.run 1 (withOptions t rules true 1 ⟨false, false, none, none, none, false, false⟩ (choose t)
    fun s operands => do
      let s := if s.reading then s else { s with changing := true }
      let time ← wantedTime t s
      let (time, operands) := match ← takeOldStamp t s operands with
        | some (time, operands) => (some time, operands)
        | none => (time, operands)
      if operands.isEmpty then t.refuse 1 (utf8 "missing file operand")
      touchAll t s time 0 operands)

end CommandShell.Machine.Tool.Touch
