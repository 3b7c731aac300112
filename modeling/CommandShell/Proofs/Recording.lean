import CommandShell.Execution
import CommandShell.Proofs.Ownership

/-!
# Records of what is asked of a system

A system that keeps a record of every request beside its answer, and otherwise does what another
system does. As nothing is assumed about the other system, the records of a shell on such a system
are all that a shell can ever ask for, whatever it is answered. What is read and written is left
aside in the history of a shell. Main statements: the log and the complaints are not part of the
history (`silent_note`), and histories of actions in a row follow each other (`Since.trans`).
-/

namespace CommandShell

variable {σ α β : Type}

/-- A request to a system with its answer. -/
inductive Call where
  /-- A pipe was to be made. -/
  | makePipe (pipe : Nat) (answer : Except Errno Unit)
  /-- A file was to be opened for reading. -/
  | openToRead (start : Directory) (path : String) (number : Nat) (answer : Except Errno Unit)
  /-- A file was to be opened for writing. -/
  | openToWrite (start : Directory) (path : String) (number : Nat) (answer : Except Errno Unit)
  /-- A process was to be made, with copies of the descriptors. -/
  | fork (descriptors : Descriptors) (answer : Except Errno Pid)
  /-- A process wanted one of its descriptors to be a duplicate of another. -/
  | duplicate (pid : Pid) (source goal : Fd) (answer : Except Errno Unit)
  /-- A process wanted a program to take over. -/
  | exec (pid : Pid) (launch : Launch) (answer : Except Errno Unit)
  /-- A process ended without a program. -/
  | exit (pid : Pid) (code : Nat)
  /-- Bytes were to be written. -/
  | write (goal : Resource) (bytes : Bytes) (answer : Except Errno Unit)
  /-- Bytes were to be read, for a shell with some descriptors. -/
  | read (source : Resource) (limit : Nat) (descriptors : Descriptors)
      (answer : Except Errno Bytes)
  /-- The shell waited for a process. -/
  | wait (pid : Pid) (descriptors : Descriptors) (answer : ChildEvent)
  /-- A path was to be made absolute. -/
  | canonicalize (start : Directory) (path : String) (answer : Except Errno String)
  /-- A directory was to be made the working directory. -/
  | enter (start : Directory) (path : String) (answer : Except Errno Directory)
  /-- A directory was to be named. -/
  | nameOf (directory : Directory) (answer : Except Errno String)

/-- Whether a call moves bytes and does nothing else. -/
def Call.isTransfer : Call → Bool
  | write _ _ _ => true
  | read _ _ _ _ => true
  | _ => false

/-- A system with a record of what it was asked. -/
structure Recorded (σ : Type) where
  /-- The system that answers. -/
  host : σ
  /-- All calls, the latest one last. -/
  calls : List Call

namespace Recorded

/-- Passes a request on and keeps it with its answer. -/
def record (request : StateM σ α) (call : α → Call) : StateM (Recorded σ) α := fun r =>
  ((request r.host).1, ⟨(request r.host).2, r.calls ++ [call (request r.host).1]⟩)

/-- The calls, without those that only move bytes. -/
def steps (r : Recorded σ) : List Call := r.calls.filter fun call => !call.isTransfer

instance [Kernel σ] : Kernel (Recorded σ) where
  makePipe pipe := record (Kernel.makePipe pipe) (.makePipe pipe)
  openToRead start path number :=
    record (Kernel.openToRead start path number) (.openToRead start path number)
  openToWrite start path number :=
    record (Kernel.openToWrite start path number) (.openToWrite start path number)
  fork descriptors := record (Kernel.fork descriptors) (.fork descriptors)
  permitDuplicate pid source goal :=
    record (Kernel.permitDuplicate pid source goal) (.duplicate pid source goal)
  exec pid launch := record (Kernel.exec pid launch) (.exec pid launch)
  exit pid code := record (Kernel.exit pid code) fun _ => .exit pid code
  write goal bytes := record (Kernel.write goal bytes) (.write goal bytes)
  read source limit descriptors :=
    record (Kernel.read source limit descriptors) (.read source limit descriptors)
  wait pid descriptors := record (Kernel.wait pid descriptors) (.wait pid descriptors)
  canonicalize start path :=
    record (Kernel.canonicalize start path) (.canonicalize start path)
  enter start path := record (Kernel.enter start path) (.enter start path)
  nameOf directory := record (Kernel.nameOf directory) (.nameOf directory)
  patience r := Kernel.patience r.host
  supply r := Kernel.supply r.host
  patience_wait pid descriptors r := Kernel.patience_wait pid descriptors r.host
  patience_write goal bytes r := Kernel.patience_write goal bytes r.host
  supply_read source limit descriptors r := Kernel.supply_read source limit descriptors r.host

/-- A request that does not only move bytes is the latest step. -/
theorem steps_record {request : StateM σ α} {call : α → Call} (r : Recorded σ)
    (h : (call (record request call r).1).isTransfer = false) :
    (record request call r).2.steps = r.steps ++ [call (record request call r).1] := by
  simp only [record] at h
  simp [record, steps, List.filter_append, h]

/-- A request that only moves bytes is no step. -/
theorem steps_record_transfer {request : StateM σ α} {call : α → Call} (r : Recorded σ)
    (h : (call (request r.host).1).isTransfer = true) :
    (record request call r).2.steps = r.steps := by
  simp [record, steps, List.filter_append, h]

end Recorded

/-- What a shell has asked for so far, the reading and writing left aside. -/
def ShellState.history (s : ShellState (Recorded σ)) : List Call := s.surroundings.host.steps

/-- What was asked for between one state of a shell and a later one. -/
def Since (s s' : ShellState (Recorded σ)) (calls : List Call) : Prop :=
  s'.history = s.history ++ calls

theorem Since.refl (s : ShellState (Recorded σ)) : Since s s [] := (List.append_nil _).symm

theorem Since.trans {s₁ s₂ s₃ : ShellState (Recorded σ)} {calls more : List Call}
    (h : Since s₁ s₂ calls) (h' : Since s₂ s₃ more) : Since s₁ s₃ (calls ++ more) := by
  rw [Since, h', h, List.append_assoc]

/-- What an action of a shell asks for. -/
def Shell.newCalls (x : Shell (Recorded σ) α) (s : ShellState (Recorded σ)) : List Call :=
  (x s).2.history.drop s.history.length

/-- What was asked for since the beginning of an action is what the action asked for. -/
theorem Since.newCalls_eq {x : Shell (Recorded σ) α} {s : ShellState (Recorded σ)}
    {calls : List Call} (h : Since s (x s).2 calls) : x.newCalls s = calls := by
  rw [Shell.newCalls, h, List.drop_left]

namespace Shell

/-- An action that asks for nothing but reading and writing. -/
def Silent (x : Shell (Recorded σ) α) : Prop := ∀ s, (x s).2.history = s.history

theorem Silent.pure (a : α) : Silent (pure a : Shell (Recorded σ) α) := fun _ => rfl

theorem Silent.bind {x : Shell (Recorded σ) α} {f : α → Shell (Recorded σ) β} (hx : Silent x)
    (hf : ∀ a, Silent (f a)) : Silent (x >>= f) := fun s =>
  (hf (x s).1 (x s).2).trans (hx s)

/-- A silent action changes nothing of what was asked for until now. -/
theorem Silent.since_right {x : Shell (Recorded σ) α} (h : Silent x)
    {s s' : ShellState (Recorded σ)} {calls : List Call} (hs : Since s s' calls) :
    Since s (x s').2 calls := (h s').trans hs

theorem Silent.follows {x : Shell (Recorded σ) α} (h : Silent x)
    {s s' s'' : ShellState (Recorded σ)} {a : α} {calls : List Call} (hx : x s' = (a, s''))
    (hs : Since s s' calls) : Since s s'' calls := by
  have hright := h.since_right hs
  rwa [hx] at hright

theorem silent_get : Silent (get : Shell (Recorded σ) _) := fun _ => rfl

theorem silent_closeAll (fds : List Fd) : Silent (closeAll fds : Shell (Recorded σ) Unit) :=
  fun _ => rfl

theorem silent_close (fd : Fd) : Silent (close fd : Shell (Recorded σ) Unit) := fun _ => rfl

theorem silent_closeOption (fd : Option Fd) :
    Silent (closeOption fd : Shell (Recorded σ) Unit) := by
  cases fd with
  | none => exact Silent.pure ()
  | some fd => exact silent_close fd

theorem silent_stageIo_close (io : StageIo) : Silent (io.close : Shell (Recorded σ) Unit) :=
  (silent_closeOption io.input).bind fun _ => silent_closeOption io.output

theorem silent_pipeEnds_close (ends : PipeEnds) :
    Silent (ends.close : Shell (Recorded σ) Unit) :=
  (silent_close ends.reader).bind fun _ => silent_close ends.writer

variable [Kernel σ]

theorem silent_write (fd : Fd) (bytes : Bytes) :
    Silent (write fd bytes : Shell (Recorded σ) _) := by
  refine silent_get.bind fun s => ?_
  cases s.descriptors.get? fd with
  | none => exact Silent.pure _
  | some slot => exact fun s => Recorded.steps_record_transfer s.surroundings.host rfl

/-- The log is not part of the history. -/
theorem silent_note (event : Event) : Silent (note event : Shell (Recorded σ) Unit) := by
  refine silent_get.bind fun s => ?_
  by_cases h : s.log.admits event.record = true
  · simp only [h, if_true]
    exact (silent_write _ _).bind fun _ => Silent.pure ()
  · simp only [h]
    exact Silent.pure ()

/-- Reading to the end is not part of the history. -/
theorem steps_readToEnd (source : Resource) (before : Bytes) (descriptors : Descriptors)
    (r : Recorded σ) : (readToEnd source before descriptors r).2.steps = r.steps := by
  have hread : ∀ r' : Recorded σ,
      (Kernel.read source readSize descriptors r').2.steps = r'.steps :=
    fun r' => Recorded.steps_record_transfer r' rfl
  fun_induction readToEnd source before descriptors r with
  | case1 before r answer h => exact hread r
  | case2 before r answer b bytes h hless ih => exact ih.trans (hread r)
  | case3 before r answer h hless ih => exact ih.trans (hread r)
  | case4 before r answer errno h hi => exact hread r

theorem silent_readReport (reader : Fd) : Silent (readReport reader : Shell (Recorded σ) _) := by
  refine silent_get.bind fun s => ?_
  cases s.descriptors.get? reader with
  | none => exact Silent.pure none
  | some slot =>
    have hread : Silent (ask (readToEnd slot.target [] s.descriptors) : Shell (Recorded σ) _) :=
      fun s' => steps_readToEnd slot.target [] s.descriptors s'.surroundings.host
    refine hread.bind fun answer => ?_
    cases answer <;> exact Silent.pure _

end Shell

end CommandShell
