import CommandShell.Proofs.ForkedStreams

/-!
# Descriptors of processes

What a system with processes makes of the calls of a shell: a new process gets a copy of the
shell's descriptors, a duplicate is one of the process that asked for it, a program keeps what is
not to be closed, and a process that ends keeps nothing. Main statements: at the end of its course
the process of a stage has its program or is gone (`Child.Course.after_eq`), and a turn changes
nothing of the processes that were there before (`Turn.Course.after_eq`).
-/

namespace CommandShell

open Shell

variable {σ : Type}

/-- A process with its descriptors. -/
structure Process where
  /-- The process. -/
  pid : Pid
  /-- Its open descriptors. -/
  descriptors : Descriptors

namespace Process

/-- Whether some descriptor of a process refers to something. -/
def holds (process : Process) (resource : Resource) : Bool :=
  process.descriptors.refersTo fun other => decide (other = resource)

theorem holds_iff (process : Process) (resource : Resource) :
    process.holds resource = true ↔
      ∃ fd slot, process.descriptors.get? fd = some slot ∧ slot.target = resource := by
  rw [holds, DescriptorTable.refersTo_iff]
  simp only [decide_eq_true_eq]

/-- Changes the descriptors of the newest process of a number, or takes the process away. -/
def revise (pid : Pid) (change : Descriptors → Option Descriptors) : List Process → List Process
  | [] => []
  | process :: rest =>
    if process.pid = pid then (change process.descriptors).toList.map (Process.mk pid) ++ rest
    else process :: revise pid change rest

/-- What a call makes of the processes, of which the newest ones stand first. -/
def step (processes : List Process) : Call → List Process
  | .fork table (.ok pid) => ⟨pid, table⟩ :: processes
  | .duplicate pid source goal (.ok ()) =>
    revise pid (fun table => some ((table.duplicate source goal).getD table)) processes
  | .exec pid _ (.ok ()) => revise pid (fun table => some table.surviving) processes
  | .exit pid _ => revise pid (fun _ => none) processes
  | _ => processes

/-- What a number of calls makes of the processes. -/
def after (processes : List Process) (calls : List Call) : List Process :=
  calls.foldl step processes

theorem after_append (processes : List Process) (calls more : List Call) :
    after processes (calls ++ more) = after (after processes calls) more := List.foldl_append

theorem after_cons (processes : List Process) (call : Call) (calls : List Call) :
    after processes (call :: calls) = after (step processes call) calls := rfl

/-- The newest process is the one that is meant. -/
theorem revise_head (pid : Pid) (table : Descriptors) (rest : List Process)
    (change : Descriptors → Option Descriptors) :
    revise pid change (⟨pid, table⟩ :: rest) =
      (change table).toList.map (Process.mk pid) ++ rest := by
  rw [revise, if_pos rfl]

/-- Calls that make no process and come from no process leave all processes as they are. -/
theorem after_of_idle {calls : List Call}
    (h : ∀ call ∈ calls, call.asker? = none ∧ call.forked? = none)
    (processes : List Process) : after processes calls = processes := by
  induction calls with
  | nil => rfl
  | cons call rest ih =>
    obtain ⟨hasker, hfork⟩ := h call List.mem_cons_self
    have hstep : step processes call = processes := by
      cases call with
      | fork table answer =>
        cases answer with
        | error errno => rfl
        | ok pid => cases hfork
      | duplicate pid source goal answer => cases hasker
      | exec pid launch answer => cases hasker
      | exit pid code => cases hasker
      | _ => rfl
    rw [after_cons, hstep]
    exact ih fun call hcall => h call (List.mem_cons_of_mem _ hcall)

/-- Duplicates that are made for the newest process change its descriptors one after the other. -/
theorem after_granted {pid : Pid} {table wired : Descriptors} {wires : List (Fd × Fd)}
    (h : Child.rewire table wires = some wired) (rest : List Process) :
    after (⟨pid, table⟩ :: rest) (Child.granted pid wires) = ⟨pid, wired⟩ :: rest := by
  induction wires generalizing table with
  | nil =>
    cases h
    rfl
  | cons wire wires ih =>
    obtain ⟨source, goal⟩ := wire
    rw [Child.rewire, Option.bind_eq_some_iff] at h
    obtain ⟨changed, hchanged, hwired⟩ := h
    have hstep : step (⟨pid, table⟩ :: rest) (.duplicate pid source goal (.ok ())) =
        ⟨pid, changed⟩ :: rest := by
      rw [step, revise_head, hchanged]
      rfl
    rw [Child.granted, List.map_cons, after_cons, hstep]
    exact ih hwired

/-- Whatever duplicates are asked for, the newest process is still there. -/
theorem after_duplicates {pid : Pid} {calls : List Call}
    (h : ∀ call ∈ calls, ∃ source goal answer, call = .duplicate pid source goal answer)
    (table : Descriptors) (rest : List Process) :
    ∃ changed, after (⟨pid, table⟩ :: rest) calls = ⟨pid, changed⟩ :: rest := by
  induction calls generalizing table with
  | nil => exact ⟨table, rfl⟩
  | cons call calls ih =>
    obtain ⟨source, goal, answer, rfl⟩ := h call List.mem_cons_self
    have hcalls : ∀ call ∈ calls, ∃ source goal answer, call = .duplicate pid source goal answer :=
      fun call hcall => h call (List.mem_cons_of_mem _ hcall)
    cases answer with
    | error errno => exact ih hcalls table
    | ok =>
      obtain ⟨changed, hchanged⟩ := ih hcalls ((table.duplicate source goal).getD table)
      refine ⟨changed, ?_⟩
      rw [after_cons, step, revise_head]
      exact hchanged

end Process

/-- The process that has a program since a call, if the program could be started. -/
def Call.started? : Call → Option Process
  | .exec pid launch (.ok ()) => some ⟨pid, launch.descriptors⟩
  | _ => none

/-- A program is started by the call of its process. -/
theorem Call.eq_exec_of_started {call : Call} {process : Process}
    (h : call.started? = some process) :
    ∃ pid launch, call = .exec pid launch (.ok ()) ∧ process = ⟨pid, launch.descriptors⟩ := by
  cases call with
  | exec pid launch answer =>
    cases answer with
    | error errno => cases h
    | ok =>
      cases h
      exact ⟨pid, launch, rfl, rfl⟩
  | _ => cases h

theorem filterMap_started_granted (pid : Pid) (wires : List (Fd × Fd)) :
    (Child.granted pid wires).filterMap Call.started? = [] := by
  rw [List.filterMap_eq_nil_iff]
  intro call hcall
  obtain ⟨wire, -, rfl⟩ := List.mem_map.1 hcall
  rfl

/-- At the end of its course the process of a stage has its program, or is gone. -/
theorem Child.Course.after_eq {child : Child} {pid : Pid} {table : Descriptors}
    {directory : Directory} {calls : List Call} (h : child.Course pid table directory calls)
    (rest : List Process) :
    Process.after (⟨pid, table⟩ :: rest) calls = calls.filterMap Call.started? ++ rest := by
  cases h with
  | started wired h =>
    rw [Process.after_append, Process.after_granted h, List.filterMap_append,
      filterMap_started_granted]
    exact Process.revise_head pid wired rest fun table => some table.surviving
  | refused wired h errno =>
    rw [Process.after_append, Process.after_granted h, List.filterMap_append,
      filterMap_started_granted]
    exact Process.revise_head pid wired rest fun _ => none
  | unwired calls h only =>
    have hduplicates : ∀ call ∈ calls, ∃ source goal answer,
        call = .duplicate pid source goal answer :=
      fun call hcall => Child.eq_duplicate_of_wanted h only hcall
    have hnone : calls.filterMap Call.started? = [] := by
      rw [List.filterMap_eq_nil_iff]
      intro call hcall
      obtain ⟨source, goal, answer, rfl⟩ := hduplicates call hcall
      rfl
    obtain ⟨changed, hchanged⟩ := Process.after_duplicates hduplicates table rest
    rw [Process.after_append, hchanged, List.filterMap_append, hnone]
    exact Process.revise_head pid changed rest fun _ => none

/-- In the course of a process at most one program is started. -/
theorem Child.Course.length_started_le {child : Child} {pid : Pid} {table : Descriptors}
    {directory : Directory} {calls : List Call} (h : child.Course pid table directory calls) :
    (calls.filterMap Call.started?).length ≤ 1 := by
  cases h with
  | started wired h =>
    rw [List.filterMap_append, filterMap_started_granted]
    exact Nat.le_refl 1
  | refused wired h errno =>
    rw [List.filterMap_append, filterMap_started_granted]
    exact Nat.zero_le 1
  | unwired calls h only =>
    have hnone : calls.filterMap Call.started? = [] := by
      rw [List.filterMap_eq_nil_iff]
      intro call hcall
      obtain ⟨source, goal, answer, rfl⟩ := Child.eq_duplicate_of_wanted h only hcall
      rfl
    rw [List.filterMap_append, hnone]
    exact Nat.zero_le 1

namespace Turn

variable [Kernel σ] {streams : Streams} {t : Turn σ} {result : Except ShellError StageState}
  {calls : List Call}

/-- The processes that have a program since a turn. -/
def programs (streams : Streams) (t : Turn σ) : List Process :=
  (t.calls streams).filterMap Call.started?

/-- Files that are asked for change no process and start no program. -/
theorem after_openings {openings : List Call} (only : ∀ asked ∈ openings, asked.isOpening = true) :
    openings.filterMap Call.started? = [] ∧ ∀ rest, Process.after rest openings = rest := by
  constructor
  · rw [List.filterMap_eq_nil_iff]
    intro call hcall
    have hopening := only call hcall
    cases call <;> first | rfl | cases hopening
  · exact Process.after_of_idle fun call hcall =>
      ⟨Call.asker?_of_isOpening (only call hcall), Call.forked?_of_isOpening (only call hcall)⟩

/-- Behind a turn there are the processes from before, and that of the stage, if its program was
started. -/
theorem Course.after_eq (h : t.Course streams result calls) (rest : List Process) :
    Process.after rest calls = calls.filterMap Call.started? ++ rest := by
  cases h with
  | unopened error openings only =>
    obtain ⟨hstarted, hafter⟩ := after_openings only
    rw [hstarted, hafter]
    rfl
  | unpassable reason openings only h =>
    obtain ⟨hstarted, hafter⟩ := after_openings only
    rw [hstarted, hafter]
    rfl
  | unheard pipe errno openings only hpipe =>
    obtain ⟨hstarted, hafter⟩ := after_openings only
    rw [Process.after_append, hafter, List.filterMap_append, hstarted]
    rfl
  | unborn pipe table errno openings only hpipe =>
    obtain ⟨hstarted, hafter⟩ := after_openings only
    rw [Process.after_append, hafter, List.filterMap_append, hstarted]
    rfl
  | forked arguments io report equipped forking openings course pid state ready hcourse hstate =>
    obtain ⟨hstarted, hafter⟩ := after_openings ready.acquired.opening
    rw [Process.after_append, hafter, List.filterMap_append, hstarted]
    exact hcourse.after_eq rest

/-- In a turn at most one program is started. -/
theorem Course.length_started_le (h : t.Course streams result calls) :
    (calls.filterMap Call.started?).length ≤ 1 := by
  cases hcalls : calls.filterMap Call.started? with
  | nil => exact Nat.zero_le 1
  | cons process others =>
    have hmem : process ∈ calls.filterMap Call.started? := by
      rw [hcalls]
      exact List.mem_cons_self
    obtain ⟨call, hcall, hstarted⟩ := List.mem_filterMap.1 hmem
    obtain ⟨pid, launch, rfl, -⟩ := Call.eq_exec_of_started hstarted
    obtain ⟨_, _, _, _, _, openings, course, _, hready, hcourse, rfl⟩ :=
      h.of_process hcall (Or.inr (by simp [Call.asker?]))
    rw [← hcalls, List.filterMap_append, (after_openings hready.acquired.opening).1]
    exact hcourse.length_started_le

end Turn

end CommandShell
