import CommandShell.Proofs.Processes
import CommandShell.Proofs.Reaping
import CommandShell.Proofs.StartedShell

/-!
# Ends of pipes that are still held

An end of a pipe that somebody holds without need keeps its neighbour waiting. A program has what
its stage uses and what the shell leaves to every program, a shell that waits has what it had at the
beginning, and there is nobody else. Main statement: from the first wait on the end of a pipe to
which is written is held by nobody but the program of the stage in front of it (`sealed_execute`).
-/

namespace CommandShell

open Shell

variable {σ : Type}

/-- What a stage uses for a stream: its own file, or else the end of a pipe, or else what a shell
with a table gives to the run. -/
inductive Used (call : Directory → String → Nat → Except Errno Unit → Call) (start : Directory)
    (calls : List Call) (redirection : Option String) (piped : Option Resource)
    (given : Option Fd) (table : Descriptors) : Resource → Prop
  /-- The stream is redirected, and the file was opened for it. -/
  | file (path : String) (number : Nat) (h : redirection = some path)
      (asked : call start path number (.ok ()) ∈ calls) :
      Used call start calls redirection piped given table (.file number)
  /-- The stream is not redirected, and there is a pipe. -/
  | pipe (resource : Resource) (h : redirection = none) (hpiped : piped = some resource) :
      Used call start calls redirection piped given table resource
  /-- The stream is not redirected, and there is no pipe. -/
  | given (fd : Fd) (slot : Slot Resource) (h : redirection = none) (hpiped : piped = none)
      (hgiven : given = some fd) (hslot : table.get? fd = some slot) :
      Used call start calls redirection piped given table slot.target

/-- What is found at a standard stream is what the stage uses, or what the shell leaves to every
program. -/
theorem Chosen.seat_cases {call : Directory → String → Nat → Except Errno Unit → Call}
    {start : Directory} {calls : List Call} {base table : Descriptors}
    {redirection : Option String} {piped : Option Resource} {given own : Option Fd}
    (h : Chosen call start calls table redirection piped given own)
    (hgiven : ∀ fd slot, given = some fd → table.get? fd = some slot → base.get? fd = some slot)
    {goal : Fd} {slot : Slot Resource} (hslot : seat base table own goal = some slot) :
    base.surviving.get? goal = some slot ∨
      Used call start calls redirection piped given base slot.target := by
  cases h with
  | file path fd number h asked hfd =>
    rw [seat, hfd] at hslot
    cases hslot
    exact Or.inr (.file path number h asked)
  | pipe fd resource h hpiped hfd =>
    rw [seat, hfd] at hslot
    cases hslot
    exact Or.inr (.pipe _ h hpiped)
  | given h hpiped =>
    cases hown : given with
    | none =>
      rw [hown, seat] at hslot
      exact Or.inl hslot
    | some fd =>
      rw [hown, seat, Option.map_eq_some_iff] at hslot
      obtain ⟨source, hsource, rfl⟩ := hslot
      exact Or.inr (.given fd source h hpiped rfl (hgiven fd source hown hsource))

/-- What the shell leaves to a program it has had itself. -/
theorem get?_of_surviving {table : Descriptors} {fd : Fd} {slot : Slot Resource}
    (h : table.surviving.get? fd = some slot) : table.get? fd = some slot := by
  rw [DescriptorTable.get?_surviving, Option.filter_eq_some_iff] at h
  exact h.1

/-- What a stage uses is a file, the end of a pipe between stages, or something that the shell had
before. -/
theorem Used.cases_of_numbered {call : Directory → String → Nat → Except Errno Unit → Call}
    {start : Directory} {calls : List Call} {redirection : Option String}
    {piped : Option Resource} {given : Option Fd} {s : ShellState σ} {resource : Resource}
    (h : Used call start calls redirection piped given s.descriptors resource)
    (hs : Numbered s) :
    (∃ number, resource = .file number) ∨ (redirection = none ∧ piped = some resource) ∨
      resource.number < s.fresh := by
  cases h with
  | file path number h asked => exact Or.inl ⟨number, rfl⟩
  | pipe resource h hpiped => exact Or.inr (Or.inl ⟨h, hpiped⟩)
  | given fd slot h hpiped hgiven hslot => exact Or.inr (Or.inr (hs fd slot hslot))

/-! ## Turns -/

namespace Turn

variable [Kernel σ] {streams : Streams} {base : ShellState (Recorded σ)} {row : List PipeEnds}
  {t : Turn σ} {result : Except ShellError StageState} {calls : List Call}

/-- A program that is started in a turn has what its stage uses at its standard streams, and nothing
else that the shell does not leave to every program. -/
theorem Placed.program (h : t.Placed base row) (hindex : t.index ≤ row.length)
    (hcourse : t.Course streams (t.result streams) (t.calls streams))
    (hstandard : streams.Standard base) {process : Process}
    (hprocess : process ∈ t.programs streams) {fd : Fd} {slot : Slot Resource}
    (hslot : process.descriptors.get? fd = some slot) :
    base.descriptors.surviving.get? fd = some slot ∨
    (fd = 0 ∧ Used .openToRead t.before.surroundings.directory (t.calls streams) t.stage.input
      (t.feed base) streams.input base.descriptors slot.target) ∨
    (fd = 1 ∧ Used .openToWrite t.before.surroundings.directory (t.calls streams) t.stage.output
      (t.drain base row.length) streams.output base.descriptors slot.target) := by
  obtain ⟨call, hcall, hstarted⟩ := List.mem_filterMap.1 hprocess
  obtain ⟨pid, launch, rfl, rfl⟩ := Call.eq_exec_of_started hstarted
  obtain ⟨arguments, io, report, equipped, forking, openings, wired, hready, hsub, hwired,
    hlaunch⟩ := hcourse.of_exec hcall
  -- What was given to the run is still what it was at the beginning.
  have hgiven : ∀ given : Option Fd,
      (∀ fd, given = some fd → 2 < fd ∧ base.descriptors.get? fd ≠ none) →
      ∀ fd slot, given = some fd → forking.descriptors.get? fd = some slot →
        base.descriptors.get? fd = some slot := by
    intro given hopen fd slot hfd hslot
    obtain ⟨old, hold⟩ := Option.ne_none_iff_exists'.1 (hopen fd hfd).2
    rw [(hready.exchanged h).keeps hold] at hslot
    rw [hold, hslot]
  have hlookup := hready.get?_launched h hstandard hwired fd
  dsimp only at hslot
  rw [← hlaunch, hslot] at hlookup
  by_cases hzero : fd = 0
  · subst hzero
    rw [if_pos rfl] at hlookup
    rcases (hready.chosenInput h hindex streams hsub).seat_cases
      (hgiven streams.input hstandard.input) hlookup.symm with hleft | hused
    · exact Or.inl hleft
    · exact Or.inr (Or.inl ⟨rfl, hused⟩)
  · rw [if_neg hzero] at hlookup
    by_cases hone : fd = 1
    · subst hone
      rw [if_pos rfl] at hlookup
      rcases (hready.chosenOutput h streams hsub).seat_cases
        (hgiven streams.output hstandard.output) hlookup.symm with hleft | hused
      · exact Or.inl hleft
      · exact Or.inr (Or.inr ⟨rfl, hused⟩)
    · rw [if_neg hone] at hlookup
      exact Or.inl hlookup.symm

/-- What a program that is started in a turn refers to: files, the pipes in front of its stage and
behind it, and what the shell had before. -/
theorem Placed.resource_cases (h : t.Placed base row) (hindex : t.index ≤ row.length)
    (hcourse : t.Course streams (t.result streams) (t.calls streams))
    (hstandard : streams.Standard base) (hnumbered : Numbered base) {process : Process}
    (hprocess : process ∈ t.programs streams) {resource : Resource}
    (hholds : process.holds resource = true) :
    (∃ number, resource = .file number) ∨ t.feed base = some resource ∨
      (t.stage.output = none ∧ t.drain base row.length = some resource) ∨
      resource.number < base.fresh := by
  obtain ⟨fd, slot, hslot, rfl⟩ := (process.holds_iff resource).1 hholds
  rcases h.program hindex hcourse hstandard hprocess hslot with hleft | ⟨-, hused⟩ | ⟨-, hused⟩
  · exact Or.inr (Or.inr (Or.inr (hnumbered fd slot (get?_of_surviving hleft))))
  · rcases hused.cases_of_numbered hnumbered with hfile | ⟨-, hfeed⟩ | hold
    · exact Or.inl hfile
    · exact Or.inr (Or.inl hfeed)
    · exact Or.inr (Or.inr (Or.inr hold))
  · rcases hused.cases_of_numbered hnumbered with hfile | hdrain | hold
    · exact Or.inl hfile
    · exact Or.inr (Or.inr (Or.inl hdrain))
    · exact Or.inr (Or.inr (Or.inr hold))

/-- The end of a pipe between the stages to which is written is only held by the program in front of
it. -/
theorem Placed.writer (h : t.Placed base row) (hindex : t.index ≤ row.length)
    (hcourse : t.Course streams (t.result streams) (t.calls streams))
    (hstandard : streams.Standard base) (hnumbered : Numbered base) {process : Process}
    (hprocess : process ∈ t.programs streams) {k : Nat}
    (hholds : process.holds (.writeEnd (base.fresh + k)) = true) :
    t.index = k ∧ t.stage.output = none := by
  rcases h.resource_cases hindex hcourse hstandard hnumbered hprocess hholds with
    ⟨number, heq⟩ | hfeed | ⟨hnone, hdrain⟩ | hold
  · cases heq
  · rw [feed] at hfeed
    split at hfeed <;> cases hfeed
  · rw [drain] at hdrain
    split at hdrain
    · simp only [Option.some.injEq, Resource.writeEnd.injEq] at hdrain
      exact ⟨by omega, hnone⟩
    · cases hdrain
  · simp only [Resource.number] at hold
    omega

/-- No program holds an end of a pipe that is made later than those between the stages. -/
theorem Placed.number_lt (h : t.Placed base row) (hindex : t.index ≤ row.length)
    (hcourse : t.Course streams (t.result streams) (t.calls streams))
    (hstandard : streams.Standard base) (hnumbered : Numbered base) {process : Process}
    (hprocess : process ∈ t.programs streams) {resource : Resource}
    (hholds : process.holds resource = true) :
    (∃ number, resource = .file number) ∨ resource.number < base.fresh + row.length := by
  rcases h.resource_cases hindex hcourse hstandard hnumbered hprocess hholds with
    hfile | hfeed | ⟨-, hdrain⟩ | hold
  · exact Or.inl hfile
  · rw [feed] at hfeed
    split at hfeed
    · cases hfeed
      simp only [Resource.number]
      right
      omega
    · cases hfeed
  · rw [drain] at hdrain
    split at hdrain
    · cases hdrain
      simp only [Resource.number]
      right
      omega
    · cases hdrain
  · right
    omega

end Turn

/-! ## Pipelines -/

/-- If at most one element contributes, and this not more than one result, there is at most one. -/
theorem length_flatMap_le_one {α β : Type} (index : α → Nat) {list : List α} {f : α → List β}
    (k : Nat) (hnodup : (list.map index).Nodup) (hlength : ∀ a ∈ list, (f a).length ≤ 1)
    (hindex : ∀ a ∈ list, f a ≠ [] → index a = k) : (list.flatMap f).length ≤ 1 := by
  induction list with
  | nil => exact Nat.zero_le 1
  | cons a rest ih =>
    rw [List.map_cons, List.nodup_cons] at hnodup
    have hrest := ih hnodup.2 (fun b hb => hlength b (List.mem_cons_of_mem a hb))
      fun b hb => hindex b (List.mem_cons_of_mem a hb)
    rw [List.flatMap_cons, List.length_append]
    by_cases hempty : f a = []
    · rw [hempty, List.length_nil, Nat.zero_add]
      exact hrest
    · have hnone : rest.flatMap f = [] := by
        rw [List.flatMap_eq_nil_iff]
        intro b hb
        by_cases hb' : f b = []
        · exact hb'
        · refine absurd ?_ hnodup.1
          rw [hindex a List.mem_cons_self hempty, ← hindex b (List.mem_cons_of_mem a hb) hb']
          exact List.mem_map_of_mem hb
      rw [hnone, List.length_nil, Nat.add_zero]
      exact hlength a List.mem_cons_self

namespace Pipeline

variable [Kernel σ] {streams : Streams} {p : Pipeline} {s : ShellState (Recorded σ)}

/-- Behind the turns there are the processes whose programs were started, the last one first. -/
theorem after_turns (streams : Streams) (p : Pipeline) (s : ShellState (Recorded σ))
    (rest : List Process) :
    Process.after rest ((p.turns streams s).flatMap (Turn.calls streams)) =
      (p.turns streams s).reverse.flatMap (Turn.programs streams) ++ rest := by
  have hturns : ∀ turns : List (Turn σ), (∀ t ∈ turns, t ∈ p.turns streams s) → ∀ rest,
      Process.after rest (turns.flatMap (Turn.calls streams)) =
        turns.reverse.flatMap (Turn.programs streams) ++ rest := by
    intro turns hsub
    induction turns with
    | nil => exact fun _ => rfl
    | cons t turns ih =>
      intro rest
      have hturn := (course_of_mem_turns (hsub t List.mem_cons_self)).after_eq rest
      rw [List.flatMap_cons, Process.after_append, hturn,
        ih fun t' ht' => hsub t' (List.mem_cons_of_mem t ht'), List.reverse_cons,
        List.flatMap_append, List.append_assoc, List.flatMap_cons, List.flatMap_nil,
        List.append_nil]
      rfl
  exact hturns _ (fun t ht => ht) rest

/-- From the first wait on there are the processes whose programs were started, and no others. -/
theorem after_since_wait {pre : List Call} (hpre : pre <+: (p.execute streams).newCalls s)
    (hwait : ∃ call ∈ pre, call.isWait = true) :
    Process.after [] pre = (p.turns streams s).reverse.flatMap (Turn.programs streams) := by
  obtain ⟨made, waits, hcalls, hmade, -, hwaits⟩ := (staged_execute streams p s).calls
  have hnone : ∀ call ∈ made ++ (p.turns streams s).flatMap (Turn.calls streams),
      call.isWait = false := by
    intro call hcall
    rcases List.mem_append.1 hcall with hcall | hcall
    · obtain ⟨pipe, answer, -, rfl⟩ := hmade call hcall
      rfl
    · obtain ⟨t, ht, hcall⟩ := List.mem_flatMap.1 hcall
      exact (course_of_mem_turns ht).not_isWait hcall
  rw [hcalls] at hpre
  rcases List.prefix_or_prefix_of_prefix hpre (List.prefix_append _ waits) with hshort | hlong
  · obtain ⟨call, hcall, hiswait⟩ := hwait
    rw [hnone call (hshort.subset hcall)] at hiswait
    cases hiswait
  · obtain ⟨more, rfl⟩ := hlong
    have hbefore : ∀ call ∈ made, call.asker? = none ∧ call.forked? = none := by
      intro call hcall
      obtain ⟨pipe, answer, -, rfl⟩ := hmade call hcall
      exact ⟨rfl, rfl⟩
    have hbehind : ∀ call ∈ more, call.asker? = none ∧ call.forked? = none := by
      intro call hcall
      have hmem := ((List.prefix_append_right_inj _).1 hpre).subset hcall
      obtain ⟨pid, -, event, rfl⟩ := hwaits.eq_wait hmem
      exact ⟨rfl, rfl⟩
    rw [Process.after_append, Process.after_of_idle hbehind, Process.after_append,
      Process.after_of_idle hbefore, after_turns, List.append_nil]

/-- A pipe that is made in a turn is later than all pipes between the stages. -/
theorem le_of_makePipe_mem_turn {t : Turn σ} (ht : t ∈ p.turns streams s) {pipe : Nat}
    {answer : Except Errno Unit} (hpipe : .makePipe pipe answer ∈ t.calls streams) :
    s.fresh + p.joints ≤ pipe := by
  obtain ⟨row, hlength, hplaced⟩ := placed_turns streams p s
  have hbefore := (hplaced t ht).standing.fresh_le
  rcases (course_of_mem_turns ht).call_cases hpipe with
    hopening | ⟨pipe', answer', hle, heq⟩ | ⟨table, answer', heq⟩ | ⟨pid, hasker⟩
  · cases hopening
  · cases heq
    omega
  · cases heq
  · cases hasker

/-- All pipes of a run are new ones. -/
theorem le_of_makePipe {pipe : Nat} {answer : Except Errno Unit}
    (hpipe : .makePipe pipe answer ∈ (p.execute streams).newCalls s) : s.fresh ≤ pipe := by
  rcases call_cases hpipe with ⟨pipe', answer', hle, heq⟩ | ⟨t, ht, hmem⟩ | ⟨pid, event, heq⟩
  · cases heq
    exact hle
  · exact Nat.le_trans (Nat.le_add_right _ _) (le_of_makePipe_mem_turn ht hmem)
  · cases heq

/-- A shell that waits has the descriptors that it had at the beginning. -/
theorem descriptors_of_wait {pid : Pid} {table : Descriptors} {event : ChildEvent}
    (hwait : .wait pid table event ∈ (p.execute streams).newCalls s) : table = s.descriptors := by
  rcases call_cases hwait with ⟨pipe, answer, hle, heq⟩ | ⟨t, ht, hmem⟩ | ⟨pid', event', heq⟩
  · cases heq
  · cases (course_of_mem_turns ht).not_isWait hmem
  · cases heq
    rfl

/-- What the shell had before is no end of a pipe of the run. -/
theorem ne_of_makePipe (hnumbered : Numbered s) {pipe : Nat} {answer : Except Errno Unit}
    (hpipe : .makePipe pipe answer ∈ (p.execute streams).newCalls s) {fd : Fd}
    {slot : Slot Resource} (hslot : s.descriptors.get? fd = some slot) :
    slot.target ≠ .readEnd pipe ∧ slot.target ≠ .writeEnd pipe := by
  have hlt := hnumbered fd slot hslot
  have hle := le_of_makePipe hpipe
  constructor
  · intro heq
    rw [heq, Resource.number] at hlt
    omega
  · intro heq
    rw [heq, Resource.number] at hlt
    omega

/-- In a run the end of a pipe to which is written is only held by the program in front of it. -/
theorem writer_of_mem_turns (hstandard : streams.Standard s) (hnumbered : Numbered s) {t : Turn σ}
    (ht : t ∈ p.turns streams s) {process : Process} (hprocess : process ∈ t.programs streams)
    {k : Nat} (hholds : process.holds (.writeEnd (s.fresh + k)) = true) :
    t.index = k ∧ t.stage.output = none := by
  obtain ⟨row, hlength, hplaced⟩ := placed_turns streams p s
  have hindex : t.index ≤ row.length := hlength ▸ index_le_of_mem_turns ht
  exact (hplaced t ht).writer hindex (course_of_mem_turns ht) hstandard hnumbered hprocess hholds

/-- No program of a run holds an end of a pipe that is made in a turn. -/
theorem not_holds_of_mem_turns (hstandard : streams.Standard s) (hnumbered : Numbered s)
    {t t' : Turn σ} (ht : t ∈ p.turns streams s) {process : Process}
    (hprocess : process ∈ t.programs streams) (ht' : t' ∈ p.turns streams s) {pipe : Nat}
    {answer : Except Errno Unit} (hpipe : .makePipe pipe answer ∈ t'.calls streams)
    {resource : Resource} (hfile : ∀ number, resource ≠ .file number)
    (heq : resource.number = pipe) : process.holds resource = false := by
  obtain ⟨row, hlength, hplaced⟩ := placed_turns streams p s
  have hindex : t.index ≤ row.length := hlength ▸ index_le_of_mem_turns ht
  have hle := le_of_makePipe_mem_turn ht' hpipe
  cases hholds : process.holds resource with
  | false => rfl
  | true =>
    rcases (hplaced t ht).number_lt hindex (course_of_mem_turns ht) hstandard hnumbered hprocess
      hholds with ⟨number, hnumber⟩ | hlt
    · exact absurd hnumber (hfile number)
    · omega

/-- Of the programs of a run at most one holds the end of a pipe to which is written. -/
theorem length_writers_le_one (hstandard : streams.Standard s) (hnumbered : Numbered s) (k : Nat) :
    (((p.turns streams s).reverse.flatMap (Turn.programs streams)).filter fun process =>
      process.holds (.writeEnd (s.fresh + k))).length ≤ 1 := by
  rw [List.filter_flatMap]
  refine length_flatMap_le_one Turn.index k ?_ ?_ ?_
  · rw [List.map_reverse, map_index_turns, (List.reverse_perm _).nodup_iff]
    exact List.nodup_range
  · intro t ht
    have hle := (course_of_mem_turns (List.mem_reverse.1 ht)).length_started_le
    exact Nat.le_trans (List.length_filter_le _ _) hle
  · intro t ht hne
    obtain ⟨process, hmem⟩ := List.exists_mem_of_ne_nil _ hne
    obtain ⟨hprocess, hholds⟩ := List.mem_filter.1 hmem
    exact (writer_of_mem_turns hstandard hnumbered (List.mem_reverse.1 ht) hprocess hholds).1

/-- What it means that a run of a pipeline leaves no end of a pipe with somebody who has no use for
it. -/
structure Sealed (streams : Streams) (p : Pipeline) (s : ShellState (Recorded σ)) : Prop where
  /-- The run is made up of turns. -/
  staged : p.Staged streams s
  /-- When a turn is over, the process of its stage is there if its program was started. -/
  turn : ∀ t ∈ p.turns streams s, ∀ rest,
    Process.after rest (t.calls streams) = t.programs streams ++ rest
  /-- It has what the shell leaves to every program, and at its standard streams what its stage
  uses. -/
  program : ∀ t ∈ p.turns streams s, ∀ process ∈ t.programs streams, ∀ fd slot,
    process.descriptors.get? fd = some slot →
      s.descriptors.surviving.get? fd = some slot ∨
      (fd = 0 ∧ Used .openToRead t.before.surroundings.directory (t.calls streams) t.stage.input
        (t.feed s) streams.input s.descriptors slot.target) ∨
      (fd = 1 ∧ Used .openToWrite t.before.surroundings.directory (t.calls streams) t.stage.output
        (t.drain s p.joints) streams.output s.descriptors slot.target)
  /-- It holds no end of a pipe for a report. -/
  reports : ∀ t ∈ p.turns streams s, ∀ process ∈ t.programs streams,
    ∀ t' ∈ p.turns streams s, ∀ pipe answer, .makePipe pipe answer ∈ t'.calls streams →
      process.holds (.readEnd pipe) = false ∧ process.holds (.writeEnd pipe) = false
  /-- A shell that waits has what it had at the beginning, and no end of a pipe of this run. -/
  waiting : ∀ pid table event, .wait pid table event ∈ (p.execute streams).newCalls s →
    table = s.descriptors ∧
      ∀ pipe answer, .makePipe pipe answer ∈ (p.execute streams).newCalls s → ∀ fd slot,
        table.get? fd = some slot → slot.target ≠ .readEnd pipe ∧ slot.target ≠ .writeEnd pipe
  /-- From the first wait on there are the processes whose programs were started. -/
  present : ∀ pre, pre <+: (p.execute streams).newCalls s → (∃ call ∈ pre, call.isWait = true) →
    Process.after [] pre = (p.turns streams s).reverse.flatMap (Turn.programs streams)
  /-- The end of a pipe to which is written is only held by the program in front of the pipe, and
  only if that does not write to a file. -/
  writers : ∀ t ∈ p.turns streams s, ∀ process ∈ t.programs streams, ∀ k,
    process.holds (.writeEnd (s.fresh + k)) = true → t.index = k ∧ t.stage.output = none
  /-- Nobody holds it if the stage in front of the pipe has no program or writes to a file. -/
  unheld : ∀ pre, pre <+: (p.execute streams).newCalls s → (∃ call ∈ pre, call.isWait = true) →
    ∀ k, (∀ t ∈ p.turns streams s, t.index = k →
      t.programs streams = [] ∨ t.stage.output ≠ none) →
    ∀ process ∈ Process.after [] pre, process.holds (.writeEnd (s.fresh + k)) = false
  /-- Not more than one process holds it. -/
  single : ∀ pre, pre <+: (p.execute streams).newCalls s → (∃ call ∈ pre, call.isWait = true) →
    ∀ k, ((Process.after [] pre).filter fun process =>
      process.holds (.writeEnd (s.fresh + k))).length ≤ 1

/-- Whatever the system answers, a run leaves no end of a pipe with somebody who has no use for
it. -/
theorem sealed_execute (streams : Streams) (p : Pipeline) (s : ShellState (Recorded σ))
    (hstandard : streams.Standard s) (hnumbered : Numbered s) : p.Sealed streams s := by
  refine ⟨staged_execute streams p s, ?_, ?_, ?_, ?_, ?_, ?_, ?_, ?_⟩
  · intro t ht rest
    exact (course_of_mem_turns ht).after_eq rest
  · intro t ht process hprocess fd slot hslot
    obtain ⟨row, hlength, hplaced⟩ := placed_turns streams p s
    have hindex : t.index ≤ row.length := hlength ▸ index_le_of_mem_turns ht
    rw [← hlength]
    exact (hplaced t ht).program hindex (course_of_mem_turns ht) hstandard hprocess hslot
  · intro t ht process hprocess t' ht' pipe answer hpipe
    constructor
    · exact not_holds_of_mem_turns hstandard hnumbered ht hprocess ht' hpipe (by simp) rfl
    · exact not_holds_of_mem_turns hstandard hnumbered ht hprocess ht' hpipe (by simp) rfl
  · intro pid table event hwait
    rw [descriptors_of_wait hwait]
    exact ⟨rfl, fun pipe answer hpipe fd slot hslot => ne_of_makePipe hnumbered hpipe hslot⟩
  · intro pre hpre hwait
    exact after_since_wait hpre hwait
  · intro t ht process hprocess k hholds
    exact writer_of_mem_turns hstandard hnumbered ht hprocess hholds
  · intro pre hpre hwait k habsent process hmem
    rw [after_since_wait hpre hwait] at hmem
    obtain ⟨t, ht, hprocess⟩ := List.mem_flatMap.1 hmem
    have ht := List.mem_reverse.1 ht
    cases hholds : process.holds (.writeEnd (s.fresh + k)) with
    | false => rfl
    | true =>
      obtain ⟨hindex, hnone⟩ := writer_of_mem_turns hstandard hnumbered ht hprocess hholds
      rcases habsent t ht hindex with hempty | hfile
      · rw [hempty] at hprocess
        cases hprocess
      · exact absurd hnone hfile
  · intro pre hpre hwait k
    rw [after_since_wait hpre hwait]
    exact length_writers_le_one hstandard hnumbered k

/-- What a shell with two streams beside the standard ones is started with. -/
def fiveStreams : Machine.Setup where
  tree := Machine.standardTree
  directory := "/root"
  home := some "/root"
  bindings := []
  streams := List.replicate 5 ⟨.empty, ⟨true, true, false, false, false⟩⟩
  log := ⟨.error, ""⟩

/-- Two stages that sort what the run is given. -/
def sortingStages : Pipeline := ⟨⟨"cat", [], none, none⟩, [⟨"sort", ["-r"], none, none⟩]⟩

theorem sealed_execute_fiveStreams :
    Streams.Standard ⟨some 3, some 4⟩ fiveStreams.boot.recorded ∧
      Numbered fiveStreams.boot.recorded ∧
      sortingStages.Sealed ⟨some 3, some 4⟩ fiveStreams.boot.recorded := by
  have hnumbered := (Machine.numbered_boot fiveStreams).recorded
  have hstandard : Streams.Standard ⟨some 3, some 4⟩ fiveStreams.boot := by
    refine Machine.standard_boot fiveStreams ⟨some 3, some 4⟩ (by decide) ?_ ?_
    · intro fd hfd
      cases hfd
      decide
    · intro fd hfd
      cases hfd
      decide
  exact ⟨hstandard.recorded, hnumbered,
    sealed_execute ⟨some 3, some 4⟩ sortingStages _ hstandard.recorded hnumbered⟩

end Pipeline

end CommandShell
