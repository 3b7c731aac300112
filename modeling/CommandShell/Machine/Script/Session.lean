import CommandShell.Machine.Script.Cursor
import CommandShell.Machine.Tool.Quantity

/-!
# Sessions

What a script interpreter knows while it runs a script: parameters and variables, the commands that
were given names, settings, what is done when signals come, and what was put out but not written
yet. What it does is a program that changes this, and that can break off. Main statement: a value
that was assigned is the value of its variable (`valueOf?_assign`).
-/

namespace CommandShell.Machine.Script

open Ascii Tool

/-- A setting of the interpreter. -/
inductive Setting where
  | errorExit
  | noGlob
  | ignoreEof
  | interactive
  | monitor
  | noExec
  | standardInput
  | trace
  | verbose
  | viMode
  | emacsMode
  | noClobber
  | allExport
  | notify
  | noUnset
  | privileged
  | noLog
  | debug
  deriving DecidableEq, Repr

namespace Setting

/-- The settings with their names and letters, in the order in which they are shown. -/
def table : List (Setting × String × Option Char) := [
  (errorExit, "errexit", some 'e'), (noGlob, "noglob", some 'f'),
  (ignoreEof, "ignoreeof", some 'I'),
  (interactive, "interactive", some 'i'), (monitor, "monitor", some 'm'),
  (noExec, "noexec", some 'n'), (standardInput, "stdin", some 's'), (trace, "xtrace", some 'x'),
  (verbose, "verbose", some 'v'), (viMode, "vi", some 'V'), (emacsMode, "emacs", some 'E'),
  (noClobber, "noclobber", some 'C'), (allExport, "allexport", some 'a'),
  (notify, "notify", some 'b'), (noUnset, "nounset", some 'u'),
  (privileged, "privileged", some 'p'),
  (noLog, "nolog", none), (debug, "debug", none)]

/-- The setting with a letter. -/
def ofLetter? (letter : UInt8) : Option Setting :=
  (table.find? fun (_, _, other) => other.any fun c => byteOf c = letter).map (·.1)

/-- The setting with a name. -/
def ofName? (name : Bytes) : Option Setting :=
  (table.find? fun (_, other, _) => utf8 other == name).map (·.1)

end Setting

/-- A variable. -/
structure Variable where
  /-- Its value, unless it has none. -/
  value : Option Bytes
  /-- Whether programs get it. -/
  isExported : Bool
  /-- Whether its value is fixed. -/
  isFixed : Bool

/-- What is skipped. -/
inductive Skip where
  /-- Nothing. -/
  | nothing
  /-- The rest of so many loops. -/
  | breaking (loops : Nat)
  /-- The rest of a turn of the last one of so many loops, and the rest of those inside it. -/
  | continuing (loops : Nat)
  /-- The rest of a named command or of a file, with a status of its own or not. -/
  | returning (hasStatus : Bool)
  deriving DecidableEq, Repr

/-- Why a script is broken off. -/
inductive Leave where
  /-- Because of an error. -/
  | error
  /-- Because the script asks for it. -/
  | exit
  /-- Because nothing is left to be done. -/
  | ended
  /-- Because the user interrupts it. -/
  | interrupted
  deriving DecidableEq, Repr

/-- Processes that run together. -/
structure Job where
  /-- The number of the job. -/
  number : Nat
  /-- The processes in order, and what became of each one if that is known. -/
  processes : List (ProcessId × Option ChildEvent)
  /-- Whether somebody was told what became of them. -/
  told : Bool

/-- Where a program was found. -/
structure Location where
  /-- The place in the search path. -/
  place : Nat
  /-- Whether the working directory has changed since. -/
  doubtful : Bool

/-- What something was outside of a named command. -/
inductive Kept where
  /-- A variable that existed or not. -/
  | named (name : Bytes) (old : Option Variable)
  /-- The settings. -/
  | settings (old : List Setting)

/-- Where the reading of options among the positional parameters stands. -/
structure OptionPlace where
  /-- The number of the next parameter. -/
  next : Nat
  /-- How many bytes of the parameter in front of it were read, if it is not used up. -/
  offset : Option Nat

/-- What an interpreter knows. -/
structure Session where
  /-- The name under which it complains. -/
  name : Bytes
  /-- The line about which it would complain. -/
  line : Nat
  /-- The command of its own that it runs. -/
  running : Option Bytes
  /-- The status of the last command. -/
  status : Nat
  /-- The status of the last replaced command in the current one. -/
  replacedStatus : Nat
  /-- The variables. -/
  variableTable : List (Bytes × Variable)
  /-- The positional parameters. -/
  positional : List Bytes
  /-- Where the reading of options stands. -/
  optionPlace : OptionPlace
  /-- What was kept outside of the commands that are running. -/
  frames : List (List Kept)
  /-- The commands that were given names. -/
  definitions : List (Bytes × Command)
  /-- The aliases. -/
  aliases : List (Bytes × Bytes)
  /-- Where programs were found. -/
  locations : List (Bytes × Location)
  /-- The settings that are on. -/
  settings : List Setting
  /-- What is done when signals come; zero stands for the end of the script. -/
  traps : List (Nat × Bytes)
  /-- The signals that have come and for which something is to be done. -/
  pending : List Nat
  /-- What is skipped. -/
  skip : Skip
  /-- How many loops are running. -/
  loops : Nat
  /-- How many named commands are running. -/
  depth : Nat
  /-- How much of the stack is taken by texts and files that run commands of their own. -/
  stack : Nat
  /-- The status that is kept while a trap is run. -/
  keptStatus : Option Nat
  /-- The number of the process of the script. -/
  root : ProcessId
  /-- The number of the process that made it. -/
  parent : ProcessId
  /-- The last process for which nobody waits. -/
  lastBackground : Option ProcessId
  /-- The processes for which nobody waited, the last ones first. -/
  jobs : List Job
  /-- Whether the process is that of the script itself. -/
  isOutermost : Bool
  /-- The path of the working directory, as it was entered. -/
  directory : Option Bytes
  /-- The texts to which redirections refer. -/
  documents : List (Nat × Word)
  /-- The number of the next such text. -/
  nextDocument : Nat
  /-- What was put out but not written yet. -/
  collected : ByteArray
  /-- Whether something could not be written. -/
  failed : Bool
  /-- The descriptors that were redirected, and where their old ones are kept if they had some. -/
  redirected : List (List (Fd × Option Fd))
  /-- The line up to which the script was read. -/
  readLine : Nat
  /-- Whether the end of a script was met behind the last commands. It is what is read next where
  commands are replaced in a prompt. -/
  isAtEnd : Bool

/-- What an interpreter does. -/
abbrev Act := ExceptT Leave (StateT Session Program)

/-- Makes a request. -/
def ask (request : Call) : Act request.Answer := liftM (m := Program) (Program.ask request)

/-- Breaks the script off. -/
def leave {α : Type} (reason : Leave) : Act α := throw reason

/-! ### Output -/

/-- Puts bytes out. They are written later. -/
def put (bytes : Bytes) : Act Unit :=
  modify fun s => { s with collected := pushAll s.collected bytes }

/-- Puts a line out. -/
def putLine (bytes : Bytes) : Act Unit := put (bytes ++ [newline])

/-- Notes the signals that have come. -/
def noteSignals : Act Unit := do
  let arrived ← ask .notedSignals
  modify fun s => { s with pending := s.pending ++ arrived.filter (!s.pending.contains ·) }

/-- Makes a request again as long as signals interrupt it, `fuel` times at most. -/
def insistWithin {α : Type} (request : Act (Except Errno α)) : Nat → Act (Except Errno α)
  | 0 => request
  | fuel + 1 => do
    match ← request with
    | .ok answer => return .ok answer
    | .error errno =>
      if errno = .interrupted then
        noteSignals
        insistWithin request fuel
      else return .error errno

/-- Makes a request again as long as signals interrupt it. -/
def insist {α : Type} (request : Act (Except Errno α)) : Act (Except Errno α) :=
  insistWithin request endless

/-- Writes what stands from an offset on, in `fuel` pieces at most. -/
def writeRest (fd : Fd) (bytes : ByteArray) (offset : Nat) : Nat → Act (Except Errno Unit)
  | 0 => pure (.ok ())
  | fuel + 1 => do
    if bytes.size ≤ offset then return .ok ()
    let piece := if offset = 0 then bytes else bytes.extract offset bytes.size
    match ← insist (ask (.write fd piece) : Act (Except Errno Nat)) with
    | .error errno => return .error errno
    | .ok count => writeRest fd bytes (offset + count) fuel

/-- Writes all of some bytes. -/
def writeBytes (fd : Fd) (bytes : ByteArray) : Act (Except Errno Unit) :=
  writeRest fd bytes 0 (bytes.size + 1)

/-- Writes what was put out. -/
def flush : Act Unit := do
  let s ← get
  if s.collected.isEmpty then return
  set { s with collected := .empty }
  match ← writeBytes 1 s.collected with
  | .ok () => return
  | .error _ => modify fun s => { s with failed := true }

/-- A complaint of an interpreter. -/
def Session.complaint (s : Session) (message : Bytes) : Bytes :=
  s.name ++ utf8 ": " ++ decimal s.line ++ utf8 ": " ++
    (match s.running with
      | none => []
      | some name => name ++ utf8 ": ") ++ message ++ [newline]

/-- Writes a text for the user to read. -/
def say (text : Bytes) : Act Unit := do
  let _ ← writeBytes 2 (pack text)

/-- Complains. -/
def warn (message : Bytes) : Act Unit := do say ((← get).complaint message)

/-- Complains and breaks off with a status. -/
def failWith {α : Type} (status : Nat) (reason : Leave) (message : Bytes) : Act α := do
  modify fun s => { s with status := status }
  warn message
  flush
  leave reason

/-- Complains and breaks off. -/
def fail {α : Type} (message : Bytes) : Act α := failWith 2 .error message

/-- Complains about a text that is no number. -/
def refuseNumber {α : Type} (text : Bytes) : Act α := fail (utf8 "Illegal number: " ++ text)

/-! ### Settings -/

/-- Whether a setting is on. -/
def Session.has (s : Session) (setting : Setting) : Bool := s.settings.contains setting

/-- A session with a setting on or off. -/
def Session.withSetting (s : Session) (setting : Setting) (isOn : Bool) : Session :=
  let others := s.settings.filter (· ≠ setting)
  { s with settings := if isOn then setting :: others else others }

/-! ### Variables -/

/-- A table with another value under a name. -/
def assign {α : Type} (name : Bytes) (value : α) : List (Bytes × α) → List (Bytes × α)
  | [] => [(name, value)]
  | (other, old) :: rest =>
    if other = name then (name, value) :: rest else (other, old) :: assign name value rest

/-- The value that was given to a name is found under it. -/
theorem lookup_assign {α : Type} (name : Bytes) (value : α) (table : List (Bytes × α)) :
    (assign name value table).lookup name = some value := by
  induction table with
  | nil => simp [assign]
  | cons entry rest ih =>
    obtain ⟨other, old⟩ := entry
    by_cases h : other = name
    · simp [assign, h]
    · have hn : (name == other) = false := by simp [Ne.symm h]
      simp [assign, h, List.lookup_cons, hn, ih]

/-- A table without a name. -/
def remove {α : Type} (name : Bytes) (table : List (Bytes × α)) : List (Bytes × α) :=
  table.filter fun (other, _) => other ≠ name

namespace Session

/-- The variable with a name. -/
def named? (s : Session) (name : Bytes) : Option Variable := s.variableTable.lookup name

/-- The value of a variable. -/
def valueOf? (s : Session) (name : Bytes) : Option Bytes := (s.named? name).bind (·.value)

/-- A session in which a variable has another value. -/
def assign (s : Session) (name value : Bytes) (exports : Bool) : Session :=
  let old := (s.named? name).getD ⟨none, false, false⟩
  let isExported := old.isExported || exports || s.has .allExport
  let new : Variable := ⟨some value, isExported, old.isFixed⟩
  { s with variableTable := Script.assign name new s.variableTable }

/-- A value that was assigned is the value of its variable. -/
theorem valueOf?_assign (s : Session) (name value : Bytes) (exports : Bool) :
    (s.assign name value exports).valueOf? name = some value := by
  simp [assign, valueOf?, named?, lookup_assign]

/-- The variables that programs get. -/
def bindings (s : Session) : Variables :=
  s.variableTable.filterMap fun (name, v) =>
    if v.isExported then v.value.map fun value => (name, value) else none

end Session

/-- The variable that tells where the reading of options stands. -/
def optionIndex : Bytes := utf8 "OPTIND"

/-- The greatest number that counts things. -/
def maxCount : Nat := 2147483647

/-- The integer that a text is, with blanks around it. -/
def integerIn? (text : Bytes) : Option Int :=
  let trimmed := text.dropWhile isSpace
  let negative := trimmed.head? = some minus
  let unsigned := if negative || trimmed.head? = some plus then trimmed.tail else trimmed
  let digits := unsigned.takeWhile isDigit
  let rest := (unsigned.drop digits.length).dropWhile isSpace
  if digits.isEmpty || !rest.isEmpty then none
  else
    let n := digitsValue digits
    if (if negative then 9223372036854775808 else 9223372036854775807) < n then none
    else some (if negative then -(n : Int) else n)

/-- The integer that a text is. -/
def requireInteger (text : Bytes) : Act Int := do
  match integerIn? text with
  | some n => return n
  | none => refuseNumber text

/-- The number of things that a text is. -/
def requireCount (text : Bytes) : Act Nat := do
  match integerIn? text with
  | some n => if n < 0 || (maxCount : Int) < n then refuseNumber text else return n.toNat
  | none => refuseNumber text

/-- The variable that holds the search path. -/
def searchPath : Bytes := utf8 "PATH"

/-- The variables that are known even without a value. -/
def lastingNames : List Bytes :=
  ["IFS", "MAIL", "MAILPATH", "OPTIND", "PATH", "PS1", "PS2", "PS4", "TERM", "HISTSIZE"].map utf8

/-- What follows from a new value of a variable. -/
def heedValue (name value : Bytes) : Act Unit := do
  if name = optionIndex then
    let n ← requireCount value
    modify fun s => { s with optionPlace := ⟨if n = 0 then 1 else n, none⟩ }
  if name = searchPath then modify fun s => { s with locations := [] }

/-- The name that stands in front of an equals sign, or alone. -/
def namePart (text : Bytes) : Bytes := text.takeWhile (· ≠ equalsSign)

/-- Complains about a text that is no name. -/
def refuseName {α : Type} (text : Bytes) : Act α :=
  fail (namePart text ++ utf8 ": bad variable name")

/-- Complains if the value of a variable is fixed. -/
def requireFree (name : Bytes) : Act Unit := do
  if ((← get).named? name).any (·.isFixed) then fail (name ++ utf8 ": is read only")

/-- Gives a variable a value, whatever its name is. -/
def setValue (name value : Bytes) (exports : Bool) : Act Unit := do
  requireFree name
  heedValue name value
  modify fun s => s.assign name value exports

/-- Gives the variable whose name stands in a text a value. -/
def setVariable (text value : Bytes) (exports : Bool) : Act Unit := do
  let name := namePart text
  if !isName name then refuseName text
  setValue name value exports

/-- Takes a variable away. -/
def unsetVariable (text : Bytes) : Act Unit := do
  let name := namePart text
  if !isName name then refuseName text
  match (← get).named? name with
  | none => return
  | some v =>
    requireFree name
    heedValue name []
    let empty := { v with value := none }
    if lastingNames.contains name then
      modify fun s => { s with variableTable := Script.assign name empty s.variableTable }
    else modify fun s => { s with variableTable := remove name s.variableTable }

/-! ### What is kept -/

/-- Notes something so that it becomes that again. -/
def keep (kept : Kept) : Act Unit :=
  modify fun s =>
    match s.frames with
    | [] => s
    | frame :: rest => { s with frames := (kept :: frame) :: rest }

/-- Notes what a variable is, so that it becomes that again. -/
def keepVariable (name : Bytes) : Act Unit := do keep (.named name ((← get).named? name))

/-- Begins to note what things are. -/
def openFrame : Act Unit := modify fun s => { s with frames := [] :: s.frames }

/-- Makes something what was noted. -/
def restore (kept : Kept) : Act Unit := do
  match kept with
  | .settings old => modify fun s => { s with settings := old }
  | .named name none => modify fun s => { s with variableTable := remove name s.variableTable }
  | .named name (some v) =>
    heedValue name (v.value.getD [])
    modify fun s => { s with variableTable := Script.assign name v s.variableTable }

/-- Makes things what was noted. -/
def closeFrame : Act Unit := do
  match (← get).frames with
  | [] => return
  | frame :: rest =>
    modify fun s => { s with frames := rest }
    frame.forM restore

/-! ### Order of events -/

/-- Does something at the end, whether or not the script is broken off. -/
def finallyDo {α : Type} (act : Act α) (last : Act Unit) : Act α := do
  let result ← (liftM (m := StateT Session Program) act.run : Act (Except Leave α))
  last
  match result with
  | .ok a => return a
  | .error reason => leave reason

/-- What something comes to, whether or not it breaks off. -/
def outcome {α : Type} (act : Act α) : Act (Except Leave α) :=
  liftM (m := StateT Session Program) act.run

end CommandShell.Machine.Script
