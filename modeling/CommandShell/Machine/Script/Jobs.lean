import CommandShell.Machine.Script.Signals

/-!
# Jobs

The processes that an interpreter has made, what becomes of them, and the commands that wait for
them and show them. Jobs have numbers, and the number of a job that is over can be given to another
one.
-/

namespace CommandShell.Machine.Script

open Ascii Tool

/-- The status that an end of a process leads to. -/
def statusOf : ChildEvent → Nat
  | .exited code => code
  | .killed signal => Attention.statusOffset + signal
  | _ => 127

namespace Job

/-- Whether it is known what became of all processes. -/
def isOver (j : Job) : Bool := j.processes.all (·.2.isSome)

/-- The status of a job, that of its last process. -/
def status (j : Job) : Nat := (j.processes.getLast?.bind (·.2)).elim 0 statusOf

/-- A job of which one more process has ended. -/
def note (j : Job) (pid : ProcessId) (event : ChildEvent) : Job :=
  { j with processes := j.processes.map fun (other, known) =>
      if other = pid then (other, some event) else (other, known) }

end Job

namespace Jobs

/-! ### Numbers -/

/-- The number of the next job from a number on, and the jobs that keep theirs. -/
def place (jobs : List Job) (number : Nat) : Nat → Nat × List Job
  | 0 => (number, jobs)
  | fuel + 1 =>
    match jobs.find? (·.number = number) with
    | none => (number, jobs)
    | some job =>
      if job.isOver && job.told then (number, jobs.filter (·.number ≠ number))
      else place jobs (number + 1) fuel

/-- Makes place for a job, and tells its number. -/
def makePlace : Act Nat := do
  let s ← get
  let (number, jobs) := place s.jobs 1 (s.jobs.length + 1)
  set { s with jobs := jobs }
  return number

/-- Adds a job for whose processes nobody waits. -/
def add (number : Nat) (pids : List ProcessId) : Act Unit :=
  modify fun s => { s with
    jobs := ⟨number, pids.map fun pid => (pid, none), false⟩ :: s.jobs
    lastBackground := pids.getLast? }

/-- Changes the job with a number. -/
def change (number : Nat) (f : Job → Job) : Act Unit :=
  modify fun s =>
    { s with jobs := s.jobs.map fun job => if job.number = number then f job else job }

/-! ### Waiting -/

/-- Says that a process was ended by a signal, unless nothing is said about that. -/
def announce (event : ChildEvent) : Act Unit := do
  match event with
  | .killed signal =>
    if !Signals.silent.contains signal then say (utf8 (Signals.description signal) ++ [newline])
  | _ => return

/-- Waits for a process to the end. -/
def await (pid : ProcessId) : Act ChildEvent := do
  match ← insist (ask (.wait pid) : Act (Except Errno ChildEvent)) with
  | .ok event => return event
  | .error _ => return .exited 127

/-- Notes how the processes of a job have ended, as far as they have. -/
def look (number : Nat) : List ProcessId → Act Unit
  | [] => pure ()
  | pid :: rest => do
    match (← ask (.inquire pid) : Option ChildEvent) with
    | none => pure ()
    | some event => change number fun job => job.note pid event
    look number rest

/-- Notes how processes have ended for which nobody waits. -/
def lookAll : Act Unit := do
  (← get).jobs.forM fun job =>
    look job.number (job.processes.filterMap fun (pid, known) =>
      if known.isNone then some pid else none)

/-- Waits for the processes of a job, and tells the status of the last one. -/
def awaitAll (status : Nat) : List ProcessId → Act Nat
  | [] => do
    lookAll
    return status
  | pid :: rest => do
    let event ← await pid
    announce event
    awaitAll (statusOf event) rest

/-- Waits for the processes of a job for which nobody waited, unless a signal comes. -/
def finish (announces : Bool) (number : Nat) : List ProcessId → Act (Except Nat Unit)
  | [] => pure (.ok ())
  | pid :: rest => do
    match (← ask (.wait pid) : Except Errno ChildEvent) with
    | .ok event =>
      change number fun job => job.note pid event
      if announces then announce event
      finish announces number rest
    | .error errno =>
      if errno ≠ .interrupted then
        change number fun job => job.note pid (.exited 127)
        finish announces number rest
      else
        noteSignals
        return .error (Attention.statusOffset + ((← get).pending.getLast?).getD 0)

/-- The processes of a job about which nothing is known. -/
def unknownOf (job : Job) : List ProcessId :=
  job.processes.filterMap fun (pid, known) => if known.isNone then some pid else none

/-- Waits for jobs, and tells the status. -/
def finishAll : List Job → Act Nat
  | [] => pure 0
  | job :: rest => do
    match ← finish false job.number (unknownOf job) with
    | .error status => return status
    | .ok () =>
      change job.number fun job => { job with told := true }
      finishAll rest

/-- The job whose last process is one that a text names, or that has a number. -/
def meant (text : Bytes) : Act (Option Job) := do
  if text.head? = some percent then return some (← Signals.findJob text)
  let pid ← requireCount text
  return (← get).jobs.find? fun job => (job.processes.getLast?.map (·.1)) = some pid

/-- Waits for the jobs that texts name, and tells the status of the last one. -/
def waitFor (status : Nat) : List Bytes → Act Nat
  | [] => pure status
  | text :: rest => do
    match ← meant text with
    | none => waitFor status rest
    | some job =>
      match ← finish true job.number (unknownOf job) with
      | .error status => return status
      | .ok () =>
        change job.number fun job => { job with told := true }
        lookAll
        let ended := (← get).jobs.find? (·.number = job.number)
        waitFor (ended.elim status Job.status) rest

/-- Waits for jobs: for those that are named, or for all of them. -/
def wait (arguments : List Bytes) : Act Nat := do
  let (_, operands) ← readOptions "" arguments
  if operands.isEmpty then finishAll (← get).jobs else waitFor 127 operands

/-! ### Showing -/

/-- The width of the columns in front of commands. -/
def stateWidth : Nat := 33

/-- What is said about the state of a job. -/
def stateText (job : Job) : String :=
  if !job.isOver then "Running"
  else match job.processes.getLast?.bind (·.2) with
    | some (.killed signal) => Signals.description signal
    | _ => if job.status = 0 then "Done" else "Done(" ++ toString job.status ++ ")"

/-- A text with blanks behind it up to a width, one at least. -/
def filled (text : String) (width : Nat) : String :=
  text ++ String.ofList (List.replicate (max 1 (width - text.length)) ' ')

/-- A job with a sign, in a line. -/
def shortForm (sign : Char) (job : Job) : String :=
  let front := "[" ++ toString job.number ++ "] " ++ String.singleton sign ++ " "
  filled (front ++ stateText job) stateWidth ++ String.join (job.processes.tail.map fun _ => " | ")

/-- A job with a sign and the numbers of its processes, in a line for each one. -/
def longForm (sign : Char) (job : Job) : String :=
  let front := "[" ++ toString job.number ++ "] " ++ String.singleton sign ++ " "
  let blanks := String.ofList (List.replicate front.length ' ')
  let first := filled (front ++ toString ((job.processes.head?.map (·.1)).getD 0) ++ " " ++
    stateText job) stateWidth
  first ++ String.join (job.processes.tail.map fun (pid, _) =>
    " |\n" ++ filled (blanks ++ toString pid ++ " ") stateWidth)

/-- How jobs are shown. -/
inductive Form where
  | short
  | long
  /-- The number of the first process only. -/
  | number

/-- Shows a job. One that is over is forgotten if its state is shown. -/
def showOne (form : Form) (job : Job) : Act Unit := do
  let jobs := (← get).jobs
  let isNamed (other : Option Job) : Bool := other.any (·.number = job.number)
  let sign := if isNamed jobs[0]? then '+' else if isNamed jobs[1]? then '-' else ' '
  match form with
  | .number => putLine (decimal ((job.processes.head?.map (·.1)).getD 0))
  | form =>
    putLine (utf8 (match form with
      | .long => longForm sign job
      | _ => shortForm sign job))
    if job.isOver then
      modify fun s => { s with jobs := s.jobs.filter (·.number ≠ job.number) }

/-- The jobs that texts name. -/
def named : List Bytes → Act (List Job)
  | [] => pure []
  | text :: rest => do
    if text.head? ≠ some percent then fail (utf8 "No such job: " ++ text)
    let job ← Signals.findJob text
    return job :: (← named rest)

/-- Shows jobs: those that are named, or all of them. -/
def showAll (arguments : List Bytes) : Act Nat := do
  let (options, operands) ← readOptions "lp" arguments
  let form := match options.getLast? with
    | none => Form.short
    | some option => if option.letter = byteOf 'l' then .long else .number
  lookAll
  let jobs ← if operands.isEmpty then pure (← get).jobs else named operands
  jobs.forM (showOne form)
  return 0

/-- Refuses to let a job go on: jobs are not controlled. -/
def resume (arguments : List Bytes) : Act Nat := do
  let (_, operands) ← readOptions "" arguments
  let refuse (text : Bytes) : Act Nat :=
    fail (utf8 "job " ++ text ++ utf8 " not created under job control")
  match operands with
  | [] =>
    if (← get).jobs.isEmpty then fail (utf8 "No current job")
    else refuse (utf8 "(null)")
  | text :: _ =>
    let _ ← named [text]
    refuse text

end Jobs

end CommandShell.Machine.Script
