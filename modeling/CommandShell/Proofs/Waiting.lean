import CommandShell.Proofs.Turns

/-!
# Waiting for processes

A process is waited for until it has ended or the wait has failed for good; every other answer
leads to another wait for the same process. Main statement: the processes of some stages are waited
for one after the other, each of them up to its final answer (`waits_reapAll`).
-/

namespace CommandShell

open Shell

variable {σ : Type}

/-- Whether an answer is the last one that a wait gets. -/
def ChildEvent.isFinal (event : ChildEvent) : Bool :=
  match event.answer with
  | .ended _ => true
  | .failed _ => true
  | .interrupted => false
  | .notice _ => false

/-- The waits for some processes, one process after the other, by a shell with a table. -/
inductive Waits (table : Descriptors) : List Pid → List Call → Prop
  /-- There is nobody to wait for. -/
  | nobody : Waits table [] []
  /-- The process that is waited for may go on. -/
  | again (pid : Pid) (rest : List Pid) (event : ChildEvent) (calls : List Call)
      (pending : event.isFinal = false) (h : Waits table (pid :: rest) calls) :
      Waits table (pid :: rest) (.wait pid table event :: calls)
  /-- The process that is waited for has ended, or the wait has failed. -/
  | settled (pid : Pid) (rest : List Pid) (event : ChildEvent) (calls : List Call)
      (final : event.isFinal = true) (h : Waits table rest calls) :
      Waits table (pid :: rest) (.wait pid table event :: calls)

/-- Processes that are waited for later follow. -/
theorem Waits.append {table : Descriptors} {pids more : List Pid} {calls rest : List Call}
    (h : Waits table pids calls) (h' : Waits table more rest) :
    Waits table (pids ++ more) (calls ++ rest) := by
  induction h with
  | nobody => exact h'
  | again pid pids event calls pending h ih => exact .again pid (pids ++ more) event _ pending ih
  | settled pid pids event calls final h ih => exact .settled pid (pids ++ more) event _ final ih

/-- Nothing but waits for these processes is asked for. -/
theorem Waits.eq_wait {table : Descriptors} {pids : List Pid} {calls : List Call}
    (h : Waits table pids calls) {call : Call} (hcall : call ∈ calls) :
    ∃ pid ∈ pids, ∃ event, call = .wait pid table event := by
  induction h with
  | nobody => cases hcall
  | again pid rest event calls pending h ih =>
    rcases List.mem_cons.1 hcall with rfl | hcall
    · exact ⟨pid, List.mem_cons_self, event, rfl⟩
    · exact ih hcall
  | settled pid rest event calls final h ih =>
    rcases List.mem_cons.1 hcall with rfl | hcall
    · exact ⟨pid, List.mem_cons_self, event, rfl⟩
    · obtain ⟨pid', hpid, event', heq⟩ := ih hcall
      exact ⟨pid', List.mem_cons_of_mem pid hpid, event', heq⟩

variable [Kernel σ]

/-- A request to wait tells the system of the descriptors of the shell. -/
theorem since_wait (pid : Pid) (s : ShellState (Recorded σ)) :
    Since s (s.withHost (Kernel.wait pid s.descriptors s.surroundings.host).2)
      [.wait pid s.descriptors (Kernel.wait pid s.descriptors s.surroundings.host).1] := by
  exact Recorded.steps_record s.surroundings.host rfl

/-- A process is waited for up to its final answer. -/
theorem waits_waitTerminal (pid : Pid) (s : ShellState (Recorded σ)) :
    ∃ calls, Since s (waitTerminal pid s).2 calls ∧ Waits s.descriptors [pid] calls := by
  fun_induction waitTerminal pid s with
  | case1 s answer status h =>
    refine ⟨_, since_wait pid s, .settled pid [] answer.1 [] ?_ .nobody⟩
    rw [ChildEvent.isFinal, h]
  | case2 s answer errno h =>
    refine ⟨_, since_wait pid s, .settled pid [] answer.1 [] ?_ .nobody⟩
    rw [ChildEvent.isFinal, h]
  | case3 s answer h hless ih =>
    obtain ⟨calls, hsince, hwaits⟩ := ih
    refine ⟨_, (since_wait pid s).trans hsince, .again pid [] answer.1 calls ?_ hwaits⟩
    rw [ChildEvent.isFinal, h]
  | case4 s answer notice h hless ih =>
    obtain ⟨calls, hsince, hwaits⟩ := ih
    have hnoted := (silent_note (.notTerminal pid notice)).since_right (since_wait pid s)
    have hquiet := (quiet_note (.notTerminal pid notice) (s.withHost answer.2)).1
    rw [hquiet] at hwaits
    refine ⟨_, hnoted.trans hsince, .again pid [] answer.1 calls ?_ hwaits⟩
    rw [ChildEvent.isFinal, h]

/-- The process of a stage is waited for, if there is one. -/
theorem waits_reap (state : StageState) (s : ShellState (Recorded σ)) :
    ∃ calls, Since s (state.reap s).2 calls ∧
      Waits s.descriptors state.process?.toList calls := by
  cases state with
  | settled outcome => exact ⟨[], Since.refl s, .nobody⟩
  | running pid =>
    obtain ⟨calls, hsince, hwaits⟩ := waits_waitTerminal pid s
    refine ⟨calls, ?_, hwaits⟩
    rw [StageState.reap, bind_apply]
    cases (waitTerminal pid s).1 with
    | error error => exact (silent_note _).since_right hsince
    | ok status => exact hsince
  | execFailed pid reason =>
    obtain ⟨calls, hsince, hwaits⟩ := waits_waitTerminal pid s
    refine ⟨calls, ?_, hwaits⟩
    rw [StageState.reap, bind_apply]
    cases (waitTerminal pid s).1 with
    | error error => exact (silent_note _).since_right hsince
    | ok status => exact hsince

/-- The processes of all stages are waited for in order. -/
theorem waits_reapAll (states : List StageState) (s : ShellState (Recorded σ)) :
    ∃ calls, Since s (reapAll states s).2 calls ∧
      Waits s.descriptors (states.filterMap StageState.process?) calls := by
  induction states generalizing s with
  | nil => exact ⟨[], Since.refl s, .nobody⟩
  | cons state rest ih =>
    obtain ⟨calls, hsince, hwaits⟩ := waits_reap state s
    obtain ⟨more, hsince', hwaits'⟩ := ih (state.reap s).2
    rw [(quiet_reap state s).1] at hwaits'
    refine ⟨calls ++ more, hsince.trans hsince', ?_⟩
    have hall := hwaits.append hwaits'
    cases hprocess : state.process? with
    | none => simpa [List.filterMap_cons, hprocess] using hall
    | some pid => simpa [List.filterMap_cons, hprocess] using hall

theorem silent_noteFinished (index : Nat) (outcomes : List StageOutcome) :
    Silent (noteFinished index outcomes : Shell (Recorded σ) Unit) := by
  induction outcomes generalizing index with
  | nil => exact Silent.pure ()
  | cons outcome rest ih =>
    cases outcome with
    | finished status => exact (silent_note _).bind fun _ => ih (index + 1)
    | aborted error => exact ih (index + 1)

end CommandShell
