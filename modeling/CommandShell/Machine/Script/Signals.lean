import CommandShell.Machine.Script.Settings

/-!
# Signals in scripts

The names of signals and what is said about processes that they have ended, and the commands of an
interpreter that send signals and that say what is done when signals come. The end of a script has
the number zero among signals. Main statement: a name stands for the signal that has it
(`ofName?_name`).
-/

namespace CommandShell.Machine.Script.Signals

open Ascii Tool

/-- The names of the signals in the order of their numbers; the first one is for the end of a
script. -/
def names : List String := [
  "EXIT", "HUP", "INT", "QUIT", "ILL", "TRAP", "ABRT", "BUS", "FPE", "KILL", "USR1", "SEGV",
  "USR2", "PIPE", "ALRM", "TERM", "16", "CHLD", "CONT", "STOP", "TSTP", "TTIN", "TTOU", "URG",
  "XCPU", "XFSZ", "VTALRM", "PROF", "WINCH", "IO", "PWR", "SYS", "32", "33", "RTMIN", "RTMIN+1",
  "RTMIN+2", "RTMIN+3", "RTMIN+4", "RTMIN+5", "RTMIN+6", "RTMIN+7", "RTMIN+8", "RTMIN+9",
  "RTMIN+10", "RTMIN+11", "RTMIN+12", "RTMIN+13", "RTMIN+14", "RTMIN+15", "RTMAX-14", "RTMAX-13",
  "RTMAX-12", "RTMAX-11", "RTMAX-10", "RTMAX-9", "RTMAX-8", "RTMAX-7", "RTMAX-6", "RTMAX-5",
  "RTMAX-4", "RTMAX-3", "RTMAX-2", "RTMAX-1", "RTMAX"]

/-- A name in capital letters. -/
def capitals (name : Bytes) : Bytes :=
  name.map fun b => if byteOf 'a' ≤ b && b ≤ byteOf 'z' then b - 32 else b

/-- The bytes of a name. -/
def bytesOfName (name : String) : Bytes := name.toList.map byteOf

/-- The number of the signal with a name, in small or capital letters. -/
def ofName? (name : Bytes) : Option Nat :=
  (names.map bytesOfName).findIdx? fun other => other == capitals name

/-- A name stands for the signal that has it. -/
theorem ofName?_name : ∀ n < 65, ofName? (bytesOfName (names.getD n "")) = some n := by decide

/-- The number of the signal that digits stand for. -/
def ofDigits? (text : Bytes) : Option Nat :=
  if text.isEmpty || !text.all isDigit then none
  else some (digitsValue text) |>.filter (· < names.length)

/-- The number of the signal that a text stands for; a name stands for one that is not less than
another number. -/
def ofText? (text : Bytes) (least : Nat) : Option Nat :=
  match ofDigits? text with
  | some n => some n
  | none => (ofName? text).filter (least ≤ ·)

/-! ### Processes that were ended -/

/-- What is said about signals with names, the first one for number 1. -/
def descriptions : List String := [
  "Hangup", "Interrupt", "Quit", "Illegal instruction", "Trace/breakpoint trap", "Aborted",
  "Bus error", "Floating point exception", "Killed", "User defined signal 1",
  "Segmentation fault", "User defined signal 2", "Broken pipe", "Alarm clock", "Terminated",
  "Stack fault", "Child exited", "Continued", "Stopped (signal)", "Stopped", "Stopped (tty input)",
  "Stopped (tty output)", "Urgent I/O condition", "CPU time limit exceeded",
  "File size limit exceeded", "Virtual timer expired", "Profiling timer expired",
  "Window changed", "I/O possible", "Power failure", "Bad system call"]

/-- The number of the first signal without a meaning of its own. -/
def firstFree : Nat := 34

/-- What is said about a signal. -/
def description (signal : Nat) : String :=
  match descriptions[signal - 1]? with
  | some text => text
  | none =>
    if firstFree ≤ signal then "Real-time signal " ++ toString (signal - firstFree)
    else "Unknown signal " ++ toString signal

/-- The signal that ends a process that uses an address that is none. -/
def badAddress : Nat := 11

/-- The signals about which nothing is said when they end a process. -/
def silent : List Nat := [2, 13]

/-! ### Sending signals -/

/-- How the command is used. -/
def usage : Bytes :=
  utf8 ("Usage: kill [-s sigspec | -signum | -sigspec] [pid | job]... or\n" ++
    "kill -l [exitstatus]")

/-- The number of the signal that is sent if none is named. -/
def usual : Nat := 15

/-- The names of a signal or of all signals. -/
def list (operands : List Bytes) : Act Nat := do
  match operands with
  | [] =>
    putLine [zero]
    names.tail.forM fun name => putLine (utf8 name)
    return 0
  | text :: _ =>
    let n ← requireCount text
    let signal := if Attention.statusOffset < n then n - Attention.statusOffset else n
    if 0 < signal && signal < names.length then
      putLine (utf8 (names.getD signal ""))
      return 0
    fail (utf8 "invalid signal number or exit status: " ++ text)

/-- The job that a text with a percent sign stands for. -/
def findJob (text : Bytes) : Act Job := do
  let jobs := (← get).jobs
  let refuse (message : String) : Act Job := fail (utf8 (message ++ ": ") ++ text)
  match text.tail with
  | [] => match jobs with
    | job :: _ => return job
    | [] => fail (utf8 "No current job")
  | [b] =>
    if b = plus || b = percent then match jobs with
      | job :: _ => return job
      | [] => fail (utf8 "No current job")
    else if b = minus then match jobs with
      | _ :: job :: _ => return job
      | _ => fail (utf8 "No previous job")
    else match jobs.find? fun job => isDigit b && job.number = digitValue b with
      | some job => return job
      | none => refuse "No such job"
  | digits =>
    match jobs.find? fun job => digits.all isDigit && job.number = digitsValue digits with
    | some job => return job
    | none => refuse "No such job"

/-- Sends a signal to a process, and tells the status. Groups of processes cannot be reached. -/
def send (signal : Nat) (operand : Bytes) : Act Nat := do
  let goal ← match operand with
    | percent :: _ => do
      let _ ← findJob operand
      pure none
    | minus :: rest => do
      let _ ← requireCount rest
      pure none
    | operand => some <$> requireCount operand
  let sent : Except Errno Unit ← match goal with
    | some pid => ask (.kill pid signal)
    | none => pure (.error .noProcess)
  match sent with
  | .ok () => return 0
  | .error errno =>
    warn (reason errno ++ [newline])
    return 1

/-- The greatest status that sending a signal leads to. -/
def sendAll (signal : Nat) : List Bytes → Act Nat
  | [] => pure 0
  | operand :: rest => do
    let status ← send signal operand
    return max status (← sendAll signal rest)

/-- The signal that options name, and whether they ask for names. -/
def readChoices (signal : Option Nat) (lists : Bool) : List Choice → Act (Option Nat × Bool)
  | [] => pure (signal, lists)
  | choice :: rest => do
    if choice.letter = byteOf 'l' then readChoices signal true rest
    else match ofText? choice.text 1 with
      | some n => readChoices (some n) lists rest
      | none => fail (utf8 "invalid signal number or name: " ++ choice.text)

/-- Sends signals or shows their names. -/
def kill (arguments : List Bytes) : Act Nat := do
  let (signal, lists, operands) ← match arguments with
    | [] => fail usage
    | (minus :: text) :: rest =>
      match ofText? text 1 with
      | some n => pure (some n, false, rest)
      | none =>
        let (options, operands) ← readOptions "ls:" arguments
        let (signal, lists) ← readChoices none false options
        pure (signal, lists, operands)
    | operands => pure (none, false, operands)
  if lists then
    if signal.isSome && !operands.isEmpty then fail usage
    list operands
  else if operands.isEmpty then fail usage
  else sendAll (signal.getD usual) operands

/-! ### What is done when signals come -/

/-- Decides what is done when a signal comes. -/
def decide (action : Option Bytes) (signal : Nat) : Act Unit := do
  modify fun s =>
    let others := s.traps.filter fun (other, _) => other ≠ signal
    { s with traps := match action with
      | none => others
      | some text => (signal, text) :: others }
  if signal ≠ 0 then Attention.renew signal

/-- Decides what is done when signals come that texts stand for, and tells the status. -/
def decideAll (action : Option Bytes) : List Bytes → Act Nat
  | [] => pure 0
  | text :: rest => do
    match ofText? text 0 with
    | none =>
      say (utf8 "trap: " ++ text ++ utf8 ": bad trap\n")
      return 1
    | some signal =>
      decide action signal
      decideAll action rest

/-- Shows what is done when signals come. -/
def showTraps : Act Unit := do
  let traps := (← get).traps.mergeSort fun a b => a.1 ≤ b.1
  traps.forM fun (signal, action) =>
    putLine (utf8 "trap -- " ++ quotedText action ++ utf8 (" " ++ names.getD signal ""))

/-- Shows or decides what is done when signals come. -/
def trap (arguments : List Bytes) : Act Nat := do
  let (_, operands) ← readOptions "" arguments
  match operands with
  | [] =>
    showTraps
    return 0
  | [text] => decideAll none [text]
  | first :: rest =>
    if (ofDigits? first).isSome then decideAll none operands
    else decideAll (if first = [minus] then none else some first) rest

/-- Lets signals do again what they do by themselves, where something else was to be done. -/
def forget : Act Unit := do
  let s ← get
  let (actions, others) := s.traps.partition fun (_, action) => !action.isEmpty
  set { s with traps := others, pending := [] }
  actions.forM fun (signal, _) => do
    if signal ≠ 0 then ask (.dispose signal .standard)

end CommandShell.Machine.Script.Signals
