import CommandShell.Machine.Scheduling

/-!
# A machine as the system under a shell

The answers of a machine to the requests of a shell. A process of the shell comes into being when
its program starts or when it ends without one. The machine answers a limited number of waits and
reads, far more than any shell asks for; this limit is its patience and its supply.
-/

namespace CommandShell.Machine

namespace State

/-- The permission bits of a file that the shell makes. -/
def shellMode : Nat := 0o644

/-- Opens a file for the shell. A name that is empty or too long is refused before anything else. -/
def openForShell (m : State) (start : Directory) (path : String) (mode : OpenMode) (number : Nat) :
    Except Errno Unit × State :=
  let name := utf8 path
  if name.isEmpty then (.error .noEntry, m)
  else if maxPath ≤ name.length then (.error .nameTooLong, m)
  else if m.exhausted then (.error .tooManyOpen, m)
  else match m.openAs m.shell start name mode shellMode (.ofShell number) with
    | .error errno => (.error errno, m)
    | .ok (_, m) => (.ok (), m)

/-- Makes a pipe for the shell. -/
def pipeForShell (m : State) (number : Nat) : Except Errno Unit × State :=
  if m.exhausted then (.error .tooManyOpen, m)
  else (.ok (), { m with pipes := m.pipes.insert (.ofShell number) .empty })

/-- The signal that a shell ignores, and its programs with it: nobody reads what is written. -/
def ignoredByShell : List Nat := [13]

/-- The process of a shell with a program. -/
def processOf (task : Task) (launch : Launch) : Process where
  parent := 0
  rest := task
  descriptors := launch.descriptors.map Handle.ofResource
  directory := launch.directory
  life := .alive
  reported := false
  wakeAt := none
  ignored := ignoredByShell
  fixed := ignoredByShell
  noted := []
  arrived := []
  mask := 0
  limits := .usual
  used := 0

/-- Starts a program in a process of the shell. -/
def execForShell (m : State) (pid : Pid) (launch : Launch) : Except Errno Unit × State :=
  let known := launch.descriptors.map Handle.ofResource
  match m.search known launch.directory true launch.arguments.texts m.bindings with
  | .error errno => (.error errno, m)
  | .ok task => (.ok (), m.addProcess pid.toNat (processOf task launch))

/-- A process of the shell that has ended without a program. -/
def endedProcess (code : Nat) : Process where
  parent := 0
  rest := .done code
  descriptors := .empty
  directory := Tree.root
  life := .ended (.exited code)
  reported := false
  wakeAt := none
  ignored := []
  fixed := []
  noted := []
  arrived := []
  mask := 0
  limits := .usual
  used := 0

/-- Writes for the shell, or for a process that has not started its program. -/
def writeForShell (m : State) (goal : Resource) (bytes : Bytes) : Except Errno Unit × State :=
  match goal with
  | .readEnd _ => (.error .badDescriptor, m)
  | .writeEnd n =>
    let key := Key.ofShell n
    match ((m.pipes[key]?).getD .empty).put? (Tool.pack bytes) with
    | none => (.ok (), m)
    | some (_, held) => (.ok (), { m with pipes := m.pipes.insert key held })
  | .file n =>
    match m.writeFile (.ofShell n) (Tool.pack bytes) with
    | (.ok _, m) => (.ok (), m)
    | (.error errno, m) => (.error errno, m)

/-- Reads for the shell. The shell does not let the machine go on while it reads, so that it is
refused where it would have to wait: a pipe is empty to which someone can still write. -/
def readForShell (m : State) (source : Resource) (limit : Nat) (descriptors : Descriptors) :
    Except Errno Bytes × State :=
  match source with
  | .writeEnd _ => (.error .badDescriptor, m)
  | .file n =>
    match m.readFile (.ofShell n) limit with
    | (.ok bytes, m) => (.ok bytes.toList, m)
    | (.error errno, m) => (.error errno, m)
  | .readEnd n =>
    let held := (m.pipes[Key.ofShell n]?).getD .empty
    let reading := { m with shell := descriptors.map Handle.ofResource }
    if held.bytes.isEmpty && reading.hasWriter (.ofShell n) then (.error .tryAgain, m)
    else
      let (piece, left) := held.take limit
      (.ok piece.toList, { m with pipes := m.pipes.insert (.ofShell n) left })

/-- A machine that answers one wait or read less. -/
def withBudget (budget : Nat) {α : Type} (result : α × State) : α × State :=
  (result.1, { result.2 with budget := budget })

/-- Reads for the shell, as long as the machine answers. -/
def readWithin (m : State) (source : Resource) (limit : Nat) (descriptors : Descriptors) :
    Except Errno Bytes × State :=
  match m.budget with
  | 0 => (.ok [], m)
  | budget + 1 => withBudget budget (m.readForShell source limit descriptors)

/-- Waits for the shell, as long as the machine answers. -/
def waitWithin (m : State) (pid : Pid) (descriptors : Descriptors) : ChildEvent × State :=
  match m.budget with
  | 0 => (.failed .noChild, m)
  | budget + 1 => withBudget budget
      (runUntilNews pid.toNat m.budget { m with shell := descriptors.map Handle.ofResource })

instance : Kernel State where
  makePipe number m := m.pipeForShell number
  openToRead start path number m := m.openForShell start path .input number
  openToWrite start path number m := m.openForShell start path .output number
  fork _ m := (.ok m.nextPid, { m with nextPid := m.nextPid + 1 })
  permitDuplicate _ _ _ := pure (.ok ())
  exec pid launch m := m.execForShell pid launch
  exit pid code m := ((), { m with processes := m.processes.insert pid.toNat (endedProcess code) })
  write goal bytes m := withBudget m.budget (m.writeForShell goal bytes)
  read source limit descriptors m := m.readWithin source limit descriptors
  wait pid descriptors m := m.waitWithin pid descriptors
  canonicalize start path m := ((m.tree.canonicalize start (utf8 path)).map textOfPath, m)
  enter start path m := (m.tree.openDirectory start (utf8 path), m)
  nameOf directory m := ((m.tree.pathOf directory).map textOfPath, m)
  patience m := m.budget
  supply m := m.budget
  patience_wait pid descriptors m h := by
    simp only [waitWithin] at h ⊢
    split at h
    · simp [ChildEvent.settled, Errno.noChild, Errno.interrupted] at h
    · next budget hb =>
      simp only [hb, withBudget]
      exact Nat.lt_succ_self budget
  patience_write _ _ _ := Nat.le_refl _
  supply_read source limit descriptors m h := by
    simp only [readWithin] at h ⊢
    split at h
    · simp [ReadAnswer.isLast] at h
    · next budget hb =>
      simp only [hb, withBudget]
      exact Nat.lt_succ_self budget

end State

end CommandShell.Machine
