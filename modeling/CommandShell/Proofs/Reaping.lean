import CommandShell.Proofs.PipelineRun

/-!
# Reaping of processes

The processes that a pipeline makes are those that the shell waits for. Each of them is waited for
in the order of the stages up to the final answer, after all processes were made, and whatever
became of the pipeline. Main statement: no pipeline leaves a process behind, and after a pipe or a
process could not be made no other process is made (`reaping_execute`).
-/

namespace CommandShell

open Shell

variable {σ : Type}

namespace Call

/-- Whether a call is a wait. -/
def isWait : Call → Bool
  | .wait _ _ _ => true
  | _ => false

/-- The reason for which a pipe or a process could not be made. -/
def refusal? : Call → Option Errno
  | .makePipe _ (.error errno) => some errno
  | .fork _ (.error errno) => some errno
  | _ => none

/-- Whether a call makes a pipe or a process, or was to make one, or is a wait. -/
def isPivotal : Call → Bool
  | .makePipe _ _ => true
  | .fork _ _ => true
  | .wait _ _ _ => true
  | _ => false

theorem not_isPivotal_of_isOpening {call : Call} (h : call.isOpening = true) :
    call.isPivotal = false := by
  cases call <;> first | rfl | cases h

/-- The process of a stage makes no process. -/
theorem not_isPivotal_of_asker {call : Call} {pid : Pid} (h : call.asker? = some pid) :
    call.isPivotal = false := by
  cases call <;> first | rfl | cases h

theorem isPivotal_of_forked {call : Call} {pid : Pid} (h : call.forked? = some pid) :
    call.isPivotal = true := by
  cases call <;> first | rfl | cases h

theorem isPivotal_of_refusal {call : Call} {errno : Errno} (h : call.refusal? = some errno) :
    call.isPivotal = true := by
  cases call <;> first | rfl | cases h

/-- Only the pivotal calls make processes. -/
theorem filterMap_forked_filter (calls : List Call) :
    (calls.filter isPivotal).filterMap forked? = calls.filterMap forked? := by
  induction calls with
  | nil => rfl
  | cons call rest ih =>
    cases hforked : call.forked? with
    | none =>
      by_cases hp : call.isPivotal = true
      · simp [hp, hforked, ih]
      · simp [hp, hforked, ih]
    | some pid => simp [isPivotal_of_forked hforked, hforked, ih]

end Call

/-- What is pivotal in a turn: nothing, a pipe that cannot be made, or a pipe and a process. -/
inductive Turn.Pivot (index : Nat) : Except ShellError StageState → List Call → Prop
  /-- There is no process. -/
  | idle (state : StageState) (h : state.process? = none) : Pivot index (.ok state) []
  /-- The pipe cannot be made. -/
  | unheard (pipe : Nat) (errno : Errno) :
      Pivot index (.error (.spawn index errno)) [.makePipe pipe (.error errno)]
  /-- The process cannot be made. -/
  | unborn (pipe : Nat) (table : Descriptors) (errno : Errno) :
      Pivot index (.error (.spawn index errno))
        [.makePipe pipe (.ok ()), .fork table (.error errno)]
  /-- The process is made. -/
  | born (pipe : Nat) (table : Descriptors) (pid : Pid) (state : StageState)
      (h : state.process? = some pid) :
      Pivot index (.ok state) [.makePipe pipe (.ok ()), .fork table (.ok pid)]

namespace Turn.Pivot

variable {index : Nat} {result : Except ShellError StageState} {calls : List Call}

/-- The process that is made is the one that is left. -/
theorem filterMap_forked (h : Pivot index result calls) :
    calls.filterMap Call.forked? = (born? result).toList := by
  cases h with
  | idle state h =>
    rw [born?, h]
    rfl
  | unheard pipe errno => rfl
  | unborn pipe table errno => rfl
  | born pipe table pid state h =>
    rw [born?, h]
    rfl

/-- A pipe or a process that cannot be made is what comes of a turn. -/
theorem of_refusal (h : Pivot index result calls) {call : Call} (hcall : call ∈ calls)
    {errno : Errno} (hrefusal : call.refusal? = some errno) :
    result = .error (.spawn index errno) := by
  cases h with
  | idle state h => cases hcall
  | unheard pipe errno =>
    rw [List.mem_singleton.1 hcall] at hrefusal
    cases hrefusal
    rfl
  | unborn pipe table errno =>
    rcases List.mem_cons.1 hcall with rfl | hcall
    · cases hrefusal
    · rw [List.mem_singleton.1 hcall] at hrefusal
      cases hrefusal
      rfl
  | born pipe table pid state h =>
    rcases List.mem_cons.1 hcall with rfl | hcall
    · cases hrefusal
    · rw [List.mem_singleton.1 hcall] at hrefusal
      cases hrefusal

end Turn.Pivot

namespace Turn.Course

variable [Kernel σ] {streams : Streams} {t : Turn σ} {result : Except ShellError StageState}
  {calls : List Call}

/-- Beside what is pivotal there are only files to be opened and the course of the process. -/
theorem pivot (h : t.Course streams result calls) :
    Pivot t.index result (calls.filter Call.isPivotal) := by
  have hopenings : ∀ openings : List Call, (∀ asked ∈ openings, asked.isOpening = true) →
      openings.filter Call.isPivotal = [] := by
    intro openings only
    rw [List.filter_eq_nil_iff]
    intro asked hasked
    rw [Call.not_isPivotal_of_isOpening (only asked hasked)]
    exact Bool.false_ne_true
  cases h with
  | unopened error openings only =>
    rw [hopenings calls only]
    exact .idle _ rfl
  | unpassable reason openings only h =>
    rw [hopenings calls only]
    exact .idle _ rfl
  | unheard pipe errno openings only hpipe =>
    rw [List.filter_append, hopenings openings only]
    exact .unheard pipe errno
  | unborn pipe table errno openings only hpipe =>
    rw [List.filter_append, hopenings openings only]
    exact .unborn pipe table errno
  | forked arguments io report equipped forking openings course pid state ready hcourse hstate =>
    have hchild : course.filter Call.isPivotal = [] := by
      rw [List.filter_eq_nil_iff]
      intro asked hasked
      rw [Call.not_isPivotal_of_asker (hcourse.asker asked hasked)]
      exact Bool.false_ne_true
    rw [List.filter_append, hopenings openings ready.acquired.opening, List.nil_append,
      List.filter_cons_of_pos rfl, List.filter_cons_of_pos rfl, hchild]
    exact .born equipped.fresh forking.descriptors pid state hstate

/-- The process that is made in a turn is the one that is left behind it. -/
theorem filterMap_forked (h : t.Course streams result calls) :
    calls.filterMap Call.forked? = (born? result).toList := by
  rw [← Call.filterMap_forked_filter, h.pivot.filterMap_forked]

/-- There is no wait in a turn. -/
theorem not_isWait (h : t.Course streams result calls) {call : Call} (hcall : call ∈ calls) :
    call.isWait = false := by
  rcases h.call_cases hcall with
    hopening | ⟨pipe, answer, -, rfl⟩ | ⟨table, answer, rfl⟩ | ⟨pid, hasker⟩
  · cases call <;> first | rfl | cases hopening
  · rfl
  · rfl
  · cases call <;> first | rfl | cases hasker

/-- A pipe or a process that cannot be made is what comes of a turn. -/
theorem of_refusal (h : t.Course streams result calls) {call : Call} (hcall : call ∈ calls)
    {errno : Errno} (hrefusal : call.refusal? = some errno) :
    result = .error (.spawn t.index errno) :=
  h.pivot.of_refusal (List.mem_filter.2 ⟨hcall, Call.isPivotal_of_refusal hrefusal⟩) hrefusal

/-- If a turn comes to an error, a pipe or a process could not be made. -/
theorem refused_of_error (h : t.Course streams result calls) {error : ShellError}
    (herror : result = .error error) : ∃ call ∈ calls, ∃ errno, call.refusal? = some errno := by
  cases h with
  | unopened error' openings only => cases herror
  | unpassable reason openings only h => cases herror
  | unheard pipe errno openings only hpipe =>
    exact ⟨_, List.mem_append_right _ (List.mem_singleton_self _), errno, rfl⟩
  | unborn pipe table errno openings only hpipe =>
    refine ⟨.fork table (.error errno), List.mem_append_right _ ?_, errno, rfl⟩
    exact List.mem_cons_of_mem _ (List.mem_singleton_self _)
  | forked arguments io report equipped forking openings course pid state ready hcourse hstate =>
    cases herror

/-- If no process is made in a turn, a file could not be opened, an argument could not be passed on,
or a pipe or a process could not be made. -/
theorem cases_of_idle (h : t.Course streams result calls)
    (hnone : calls.filterMap Call.forked? = []) :
    (∃ error, result = .ok (.settled (.aborted error))) ∨
      (∃ reason, ArgumentVector.ofArguments t.stage.argv = .error reason) ∨
      ∃ call ∈ calls, ∃ errno, call.refusal? = some errno := by
  cases result with
  | error error => exact Or.inr (Or.inr (h.refused_of_error rfl))
  | ok state =>
    cases h with
    | unopened error openings only => exact Or.inl ⟨error, rfl⟩
    | unpassable reason openings only h => exact Or.inr (Or.inl ⟨reason, h⟩)
    | forked arguments io report equipped forking openings course pid state ready hcourse hstate =>
      rw [List.filterMap_eq_nil_iff] at hnone
      have hfork : (Call.fork forking.descriptors (.ok pid)).forked? = none := by
        refine hnone _ (List.mem_append_right _ ?_)
        exact List.mem_cons_of_mem _ List.mem_cons_self
      cases hfork

end Turn.Course

/-- A wait makes no process. -/
theorem Waits.filterMap_forked {table : Descriptors} {pids : List Pid} {calls : List Call}
    (h : Waits table pids calls) : calls.filterMap Call.forked? = [] := by
  induction h with
  | nobody => rfl
  | again pid rest event calls pending h ih => exact ih
  | settled pid rest event calls final h ih => exact ih

namespace Pipeline

variable [Kernel σ]

/-- What it means that a run of a pipeline reaps the processes that it makes. -/
structure Reaps (streams : Streams) (p : Pipeline) (s : ShellState (Recorded σ)) : Prop where
  /-- The run is made up of turns. -/
  staged : p.Staged streams s
  /-- The waits come last. The processes that were made are waited for in the order in which they
  were made, each of them up to the final answer, and no other one is. -/
  waits : ∃ asked waits, (p.execute streams).newCalls s = asked ++ waits ∧
    (∀ call ∈ asked, call.isWait = false) ∧
      Waits s.descriptors (asked.filterMap Call.forked?) waits
  /-- The processes are made in the turns. -/
  forks : ((p.execute streams).newCalls s).filterMap Call.forked? =
    (p.turns streams s).flatMap fun t => (t.calls streams).filterMap Call.forked?
  /-- In every turn there is at most one process. -/
  single : ∀ t ∈ p.turns streams s, ((t.calls streams).filterMap Call.forked?).length ≤ 1
  /-- If there is none, a file could not be opened, an argument could not be passed on, or a pipe or
  a process could not be made. -/
  idle : ∀ t ∈ p.turns streams s, (t.calls streams).filterMap Call.forked? = [] →
    (∃ error, t.result streams = .ok (.settled (.aborted error))) ∨
      (∃ reason, ArgumentVector.ofArguments t.stage.argv = .error reason) ∨
      ∃ call ∈ t.calls streams, ∃ errno, call.refusal? = some errno
  /-- If all pipes and processes can be made, every stage has its turn, and there is a report. -/
  complete : (∀ call ∈ (p.execute streams).newCalls s, call.refusal? = none) →
    (p.turns streams s).length = p.length ∧ ∃ report, (p.execute streams s).1 = .ok report
  /-- Without the pipes between the stages no process is made. -/
  unpiped : ∀ errno s₁, PipeSet.allocate .empty p.joints s = (.error errno, s₁) →
    (p.execute streams s).1 = .error (.spawn 0 errno) ∧
      ((p.execute streams).newCalls s).filterMap Call.forked? = []
  /-- If the pipe for a report or a process cannot be made in a turn, there is no process in this
  turn or later, and this is what comes of the run. -/
  stopped : ∀ t ∈ p.turns streams s, ∀ call ∈ t.calls streams, ∀ errno,
    call.refusal? = some errno →
      (p.execute streams s).1 = .error (.spawn t.index errno) ∧
        ∀ t' ∈ p.turns streams s, t.index ≤ t'.index →
          (t'.calls streams).filterMap Call.forked? = []

/-- The processes that are made in the turns are those that are left behind them. -/
theorem flatMap_forked_turns (streams : Streams) (p : Pipeline) (s : ShellState (Recorded σ)) :
    ((p.turns streams s).flatMap fun t => (t.calls streams).filterMap Call.forked?) =
      ((p.turns streams s).map (Turn.result streams)).filterMap Turn.born? := by
  have hturn : ∀ turns : List (Turn σ), (∀ t ∈ turns, t ∈ p.turns streams s) →
      (turns.flatMap fun t => (t.calls streams).filterMap Call.forked?) =
        (turns.map (Turn.result streams)).filterMap Turn.born? := by
    intro turns hsub
    induction turns with
    | nil => rfl
    | cons t rest ih =>
      have ht := (course_of_mem_turns (hsub t List.mem_cons_self)).filterMap_forked
      have hrest := ih fun t' ht' => hsub t' (List.mem_cons_of_mem t ht')
      rw [List.flatMap_cons, List.map_cons, ht, hrest]
      cases hborn : Turn.born? (t.result streams) <;> simp [hborn]
  exact hturn _ fun t ht => ht

/-- What is asked for before the waits: all processes, and no wait. -/
theorem asked_execute (streams : Streams) (p : Pipeline) (s : ShellState (Recorded σ)) :
    ∃ asked waits, (p.execute streams).newCalls s = asked ++ waits ∧
      (∀ call ∈ asked, call.isWait = false) ∧
      Waits s.descriptors (asked.filterMap Call.forked?) waits ∧
      asked.filterMap Call.forked? =
        (p.turns streams s).flatMap fun t => (t.calls streams).filterMap Call.forked? := by
  obtain ⟨made, waits, hcalls, hmade, -, hwaits⟩ := (staged_execute streams p s).calls
  have hpipes : made.filterMap Call.forked? = [] := by
    rw [List.filterMap_eq_nil_iff]
    intro call hcall
    obtain ⟨pipe, answer, -, rfl⟩ := hmade call hcall
    rfl
  have hforks : (made ++ (p.turns streams s).flatMap (Turn.calls streams)).filterMap
      Call.forked? =
        (p.turns streams s).flatMap fun t => (t.calls streams).filterMap Call.forked? := by
    rw [List.filterMap_append, hpipes, List.filterMap_flatMap, List.nil_append]
  refine ⟨_, waits, hcalls, ?_, ?_, hforks⟩
  · intro call hcall
    rcases List.mem_append.1 hcall with hcall | hcall
    · obtain ⟨pipe, answer, -, rfl⟩ := hmade call hcall
      rfl
    · obtain ⟨t, ht, hcall⟩ := List.mem_flatMap.1 hcall
      exact (course_of_mem_turns ht).not_isWait hcall
  · rw [hforks, flatMap_forked_turns]
    exact hwaits

/-- An error in a turn is what comes of the run, and no stage has a turn without an error later. -/
theorem Course.of_error {streams : Streams} {p : Pipeline} {s : ShellState (Recorded σ)}
    {result : Except ShellError Report} {calls : List Call} (h : p.Course streams s result calls)
    {t : Turn σ} (ht : t ∈ p.turns streams s) {error : ShellError}
    (herror : t.result streams = .error error) :
    result = .error error ∧ ∀ t' ∈ p.turns streams s, t.index ≤ t'.index →
      ∃ error', t'.result streams = .error error' := by
  have hmem := List.mem_map_of_mem (f := Turn.result streams) ht
  rw [herror] at hmem
  cases h with
  | unpiped errno done hdone hturns =>
    rw [hturns] at ht
    cases ht
  | finished states outcomes waits hresults hall hwaits =>
    rw [hresults] at hmem
    simp at hmem
  | stopped states error' waits hresults hwaits =>
    rw [hresults] at hmem
    have heq : error = error' := by simpa using hmem
    subst heq
    refine ⟨rfl, ?_⟩
    -- The states come before the error, so that the turn of the error is the last one.
    have hplace : ∀ t' ∈ p.turns streams s,
        (states.map Except.ok ++ [Except.error error])[t'.index]? = some (t'.result streams) := by
      intro t' ht'
      obtain ⟨i, hi⟩ := List.getElem?_of_mem ht'
      rw [(index_of_getElem?_turns hi).1, ← hresults, List.getElem?_map, hi, Option.map_some]
    intro t' ht' hle
    have hlast : states.length ≤ t.index := by
      rcases Nat.lt_or_ge t.index states.length with hlt | hge
      · have hget := hplace t ht
        rw [herror, List.getElem?_append_left (by simpa using hlt), List.getElem?_map] at hget
        simp at hget
      · exact hge
    have hget := hplace t' ht'
    rw [List.getElem?_append_right (by simp; omega)] at hget
    have hresult := List.mem_of_getElem? hget
    exact ⟨error, List.mem_singleton.1 hresult⟩

/-- A run in which all pipes and processes can be made has a turn for every stage and a report. -/
theorem Course.complete {streams : Streams} {p : Pipeline} {s : ShellState (Recorded σ)}
    {result : Except ShellError Report} {calls : List Call} (h : p.Course streams s result calls)
    (hnone : ∀ call ∈ calls, call.refusal? = none) :
    (p.turns streams s).length = p.length ∧ ∃ report, result = .ok report := by
  cases h with
  | unpiped errno done hdone hturns =>
    cases hnone _ (List.mem_append_right _ (List.mem_singleton_self _))
  | finished states outcomes waits hresults hall hwaits => exact ⟨hall, _, rfl⟩
  | stopped states error waits hresults hwaits =>
    have hmem : .error error ∈ (p.turns streams s).map (Turn.result streams) := by
      rw [hresults]
      exact List.mem_append_right _ (List.mem_singleton_self _)
    obtain ⟨t, ht, herror⟩ := List.mem_map.1 hmem
    obtain ⟨call, hcall, errno, hrefusal⟩ := (course_of_mem_turns ht).refused_of_error herror
    have hasked : call ∈ (p.turns streams s).flatMap (Turn.calls streams) :=
      List.mem_flatMap.2 ⟨t, ht, hcall⟩
    rw [hnone call (List.mem_append_left _ (List.mem_append_right _ hasked))] at hrefusal
    cases hrefusal

/-- Whatever the system answers, the shell reaps the processes that it makes for a pipeline, and
makes none after a pipe or a process could not be made. -/
theorem reaping_execute (streams : Streams) (p : Pipeline) (s : ShellState (Recorded σ)) :
    p.Reaps streams s := by
  have hcourse := course_execute streams p s
  obtain ⟨asked, waits, hcalls, hnone, hwaits, hforks⟩ := asked_execute streams p s
  have hall : ((p.execute streams).newCalls s).filterMap Call.forked? =
      (p.turns streams s).flatMap fun t => (t.calls streams).filterMap Call.forked? := by
    rw [hcalls, List.filterMap_append, hwaits.filterMap_forked, List.append_nil, hforks]
  refine ⟨staged_execute streams p s, ⟨asked, waits, hcalls, hnone, hwaits⟩, hall, ?_, ?_,
    hcourse.complete, ?_, ?_⟩
  · intro t ht
    rw [(course_of_mem_turns ht).filterMap_forked]
    cases Turn.born? (t.result streams) <;> simp
  · intro t ht hidle
    exact (course_of_mem_turns ht).cases_of_idle hidle
  · intro errno s₁ hallocate
    constructor
    · rw [execute, bind_apply, hallocate]
      rfl
    · rw [hall, turns, hallocate]
      rfl
  · intro t ht call hcall errno hrefusal
    have herror := (course_of_mem_turns ht).of_refusal hcall hrefusal
    obtain ⟨hresult, hlater⟩ := hcourse.of_error ht herror
    refine ⟨hresult, ?_⟩
    intro t' ht' hle
    obtain ⟨error', herror'⟩ := hlater t' ht' hle
    rw [(course_of_mem_turns ht').filterMap_forked, herror']
    rfl

end Pipeline

end CommandShell
