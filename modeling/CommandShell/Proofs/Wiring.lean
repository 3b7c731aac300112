import CommandShell.Proofs.Processes
import CommandShell.Proofs.StandardStreams

/-!
# Wiring of the stages

Every process of a pipeline is to read from the file of its stage, or else from the pipe in front of
the stage, or else from what the run was given, and to write in the same way. The ends of the pipes
are taken by the stages that they belong to, whatever became of the stages before. The program finds
what was chosen at its standard streams, unless setting the two streams one after the other does
harm. Main statement: this is so for every process that a run makes (`wiring_execute`).
-/

namespace CommandShell

open Shell

variable {σ : Type} [Kernel σ]

/-- A stream that is not redirected is an end of a pipe, if there is a pipe. -/
theorem Chosen.of_piped {call : Directory → String → Nat → Except Errno Unit → Call}
    {start : Directory} {calls : List Call} {table : Descriptors} {redirection : Option String}
    {piped : Option Resource} {given own : Option Fd} {resource : Resource}
    (h : Chosen call start calls table redirection piped given own) (hnone : redirection = none)
    (hpiped : piped = some resource) :
    ∃ fd, own = some fd ∧ table.get? fd = some ⟨resource, true⟩ := by
  cases h with
  | file path fd number hfile asked hfd =>
    rw [hnone] at hfile
    cases hfile
  | pipe fd resource' hnone' hpiped' hfd =>
    rw [hpiped] at hpiped'
    cases hpiped'
    exact ⟨fd, rfl, hfd⟩
  | given hnone' hpiped' =>
    rw [hpiped] at hpiped'
    cases hpiped'

/-! ## What a program finds -/

section

variable {base table fed wired : Descriptors} {input output own : Option Fd} {goal : Fd}

/-- What is found at a standard stream for which nothing was chosen is what the shell leaves to
every program. -/
theorem seat_none_iff (hsurviving : table.surviving = base.surviving)
    (hget : wired.get? goal = table.get? goal) :
    wired.surviving.get? goal = seat base table none goal ↔
      wired.target? goal = table.target? goal := by
  rw [seat, ← hsurviving, DescriptorTable.get?_surviving, DescriptorTable.get?_surviving, hget,
    DescriptorTable.target?, DescriptorTable.target?, hget]
  simp

/-- What is found at a standard stream is a duplicate of what was chosen if it refers to the same
thing and is not marked. -/
theorem seat_some_iff (base : Descriptors) {fd : Fd} (hopen : table.get? fd ≠ none) :
    wired.surviving.get? goal = seat base table (some fd) goal ↔
      wired.target? goal = table.target? fd ∧ wired.Lasting goal := by
  obtain ⟨slot, hslot⟩ := Option.ne_none_iff_exists'.1 hopen
  rw [seat, DescriptorTable.lasting_iff, DescriptorTable.get?_surviving, DescriptorTable.target?,
    DescriptorTable.target?, hslot]
  cases wired.get? goal with
  | none => simp
  | some found =>
    obtain ⟨target, marked⟩ := found
    cases marked <;> simp [Option.filter]

/-- What was chosen for the output and is not open was not chosen well: the output is a duplicate
of what has taken its place. -/
theorem seat_ne_of_closed (base : Descriptors) {fd : Fd} (hclosed : table.get? fd = none)
    (hne : fd ≠ goal) (hwired : fed.duplicate fd goal = some wired) :
    wired.surviving.get? goal ≠ seat base table (some fd) goal ∧
      wired.target? goal ≠ table.target? fd := by
  obtain ⟨slot, hslot⟩ := DescriptorTable.get?_source_of_duplicate hwired
  have hget := DescriptorTable.get?_duplicate_self hne hwired
  rw [hslot] at hget
  rw [seat, DescriptorTable.get?_surviving, DescriptorTable.target?, DescriptorTable.target?,
    hclosed, hget]
  exact ⟨by simp [Option.filter], by simp⟩

/-- A program finds what was chosen for its streams, exactly if they are seated. -/
theorem seats_iff_seated (hsurviving : table.surviving = base.surviving)
    (hfed : Child.rewire table (input.toList.map fun fd => (fd, 0)) = some fed)
    (hwired : Child.rewire fed (output.toList.map fun fd => (fd, 1)) = some wired) :
    (wired.surviving.get? 0 = seat base table input 0 ∧
      wired.surviving.get? 1 = seat base table output 1) ↔
        Child.Seated table wired input output := by
  have hkept : wired.get? 0 = fed.get? 0 := Child.get?_rewire hwired fun wire hwire => by
    obtain ⟨fd, -, rfl⟩ := List.mem_map.1 hwire
    exact Nat.one_ne_zero
  have hleft : fed.get? 1 = table.get? 1 := Child.get?_rewire hfed fun wire hwire => by
    obtain ⟨fd, -, rfl⟩ := List.mem_map.1 hwire
    exact Nat.zero_ne_one
  have hzero : wired.surviving.get? 0 = seat base table input 0 ↔
      wired.target? 0 = table.target? (input.getD 0) ∧ (input.isSome → wired.Lasting 0) := by
    cases input with
    | none =>
      cases hfed
      simpa using seat_none_iff hsurviving hkept
    | some fd =>
      rw [Child.rewire_some] at hfed
      obtain ⟨slot, hslot⟩ := DescriptorTable.get?_source_of_duplicate hfed
      simpa using seat_some_iff base (by simp [hslot])
  have hone : wired.surviving.get? 1 = seat base table output 1 ↔
      wired.target? 1 = table.target? (output.getD 1) ∧ (output.isSome → wired.Lasting 1) := by
    cases output with
    | none =>
      cases hwired
      simpa using seat_none_iff hsurviving hleft
    | some fd =>
      by_cases hopen : table.get? fd = none
      · have hne : fd ≠ 1 := by
          rintro rfl
          rw [Child.rewire_some] at hwired
          obtain ⟨slot, hslot⟩ := DescriptorTable.get?_source_of_duplicate hwired
          rw [← hleft, hslot] at hopen
          cases hopen
        rw [Child.rewire_some] at hwired
        obtain ⟨hseat, htarget⟩ := seat_ne_of_closed base hopen hne hwired
        simp [hseat, htarget]
      · simpa using seat_some_iff base hopen
  constructor
  · rintro ⟨hin, hout⟩
    exact ⟨(hzero.1 hin).1, (hone.1 hout).1, (hzero.1 hin).2, (hone.1 hout).2⟩
  · rintro ⟨hin, hout, hlastingIn, hlastingOut⟩
    exact ⟨hzero.2 ⟨hin, hlastingIn⟩, hone.2 ⟨hout, hlastingOut⟩⟩

end

/-- What it means that a process, which begins with a table, is wired as its stage demands. -/
structure Turn.Wired (streams : Streams) (base : ShellState (Recorded σ)) (last : Nat) (t : Turn σ)
    (pid : Pid) (table : Descriptors) (input output : Option Fd) : Prop where
  /-- The input is the file of the stage, or else the pipe in front of it, or else that of the
  run. -/
  reads : Chosen .openToRead t.before.surroundings.directory (t.calls streams) table t.stage.input
    (t.feed base) streams.input input
  /-- The output is the file of the stage, or else the pipe behind it, or else that of the run. -/
  writes : Chosen .openToWrite t.before.surroundings.directory (t.calls streams) table
    t.stage.output (t.drain base last) streams.output output
  /-- No stage but the first one falls back on the input of the run. -/
  fed : 0 < t.index → t.stage.input = none → ∃ fd, input = some fd ∧
    table.get? fd = some ⟨.readEnd (base.fresh + (t.index - 1)), true⟩
  /-- No stage but the last one falls back on the output of the run. -/
  drained : t.index < last → t.stage.output = none → ∃ fd, output = some fd ∧
    table.get? fd = some ⟨.writeEnd (base.fresh + t.index), true⟩
  /-- Everything that the shell had at the beginning is there, too. -/
  inherited : ∀ fd slot, base.descriptors.get? fd = some slot → table.get? fd = some slot
  /-- The process makes these two its standard streams, and asks for nothing else of this kind. -/
  duplicates : (t.calls streams).filterMap Call.duplicated? <+:
    (Child.wiring input output).map fun wire => (pid, wire)
  /-- When it asks for its program, it has made all of them, and the program gets what they
  leave. -/
  complete : ∀ launch answer, .exec pid launch answer ∈ t.calls streams →
    ((t.calls streams).filterMap Call.duplicated? =
      (Child.wiring input output).map fun wire => (pid, wire)) ∧
      ∃ wired, Child.rewire table (Child.wiring input output) = some wired ∧
        launch.descriptors = wired.surviving
  /-- The program finds them at its own standard streams, or what the shell leaves there to every
  program, exactly if setting one stream after the other does no harm. -/
  launched : ∀ launch answer, .exec pid launch answer ∈ t.calls streams →
    ((launch.descriptors.get? 0 = seat base.descriptors table input 0 ∧
      launch.descriptors.get? 1 = seat base.descriptors table output 1) ↔
        Child.Harmless table input output)
  /-- It does none if the shell has both streams, and the run was given other ones. -/
  harmless : base.descriptors.get? 0 ≠ none → base.descriptors.get? 1 ≠ none →
    (∀ fd ∈ streams.input, 1 < fd) → (∀ fd ∈ streams.output, 1 < fd) →
      Child.Harmless table input output

/-- A process that is made in a turn is wired as its stage demands. -/
theorem Turn.Placed.wired {streams : Streams} {base : ShellState (Recorded σ)}
    {row : List PipeEnds} {t : Turn σ} (h : t.Placed base row) (hindex : t.index ≤ row.length)
    (hcourse : t.Course streams (t.result streams) (t.calls streams)) {table : Descriptors}
    {pid : Pid} (hfork : .fork table (.ok pid) ∈ t.calls streams) :
    ∃ input output, t.Wired streams base row.length pid table input output := by
  obtain ⟨arguments, io, report, equipped, forking, openings, course, hready, rfl, hchild,
    hcalls⟩ := hcourse.of_fork hfork
  have hsub : ∀ asked ∈ openings, asked ∈ t.calls streams := by
    intro asked hasked
    rw [hcalls]
    exact List.mem_append_left _ hasked
  have hopenings : openings.filterMap Call.duplicated? = [] := by
    rw [List.filterMap_eq_nil_iff]
    intro asked hasked
    have hopening := hready.acquired.opening asked hasked
    cases asked <;> first | rfl | cases hopening
  have hduplicated : (t.calls streams).filterMap Call.duplicated? =
      course.filterMap Call.duplicated? := by
    rw [hcalls, List.filterMap_append, hopenings]
    rfl
  have hexec : ∀ launch answer, .exec pid launch answer ∈ t.calls streams →
      .exec pid launch answer ∈ course := by
    intro launch answer hmem
    rw [hcalls] at hmem
    rcases List.mem_append.1 hmem with hmem | hmem
    · cases hready.acquired.opening _ hmem
    · simpa using hmem
  have hreads := hready.chosenInput h hindex streams hsub
  have hwrites := hready.chosenOutput h streams hsub
  refine ⟨io.input <|> streams.input, io.output <|> streams.output, hreads, hwrites, ?_, ?_, ?_,
    ?_, ?_, ?_, ?_⟩
  · intro hpos hnone
    exact hreads.of_piped hnone (if_pos hpos)
  · intro hlt hnone
    exact hwrites.of_piped hnone (if_pos hlt)
  · intro fd slot hslot
    exact (hready.exchanged h).keeps hslot
  · rw [hduplicated]
    exact hchild.duplicates
  · intro launch answer hmem
    obtain ⟨hall, wired, hwired, rfl⟩ := hchild.of_exec (hexec launch answer hmem)
    rw [hduplicated]
    exact ⟨hall, wired, hwired, rfl⟩
  · intro launch answer hmem
    obtain ⟨-, wired, hwired, rfl⟩ := hchild.of_exec (hexec launch answer hmem)
    rw [Child.wires, Child.wiring, Child.rewire_append, Option.bind_eq_some_iff] at hwired
    obtain ⟨fed, hfed, hwired⟩ := hwired
    exact (seats_iff_seated (hready.exchanged h).surviving_eq hfed hwired).trans
      (Child.seated_iff_harmless hfed hwired)
  · intro hzero hone hinput houtput
    -- What is new to the shell stands behind the two streams that it has.
    have hheld : ∀ fd ∈ io.held, 1 < fd := by
      intro fd hfd
      have hfree := (hready.exchanged h).get?_of_mem
        (List.mem_append_right _ (List.mem_append_left _ hfd))
      rcases fd with _ | _ | fd
      · exact absurd hfree hzero
      · exact absurd hfree hone
      · exact Nat.lt_add_left fd (Nat.lt_succ_self 1)
    have hchosen : ∀ own given : Option Fd, (∀ fd ∈ own, fd ∈ io.held) →
        (∀ fd ∈ given, 1 < fd) → ∀ fd ∈ (own <|> given), 1 < fd := by
      intro own given hown hgiven fd hfd
      cases own with
      | none => exact hgiven fd hfd
      | some other => exact hheld fd (hown fd hfd)
    exact .of_above
      (hchosen io.input streams.input (fun fd hfd => by simp_all [StageIo.held]) hinput)
      (hchosen io.output streams.output (fun fd hfd => by simp_all [StageIo.held]) houtput)

namespace Pipeline

/-- What it means that the processes of a run are wired as the stages demand. -/
structure Wires (streams : Streams) (p : Pipeline) (s : ShellState (Recorded σ)) : Prop where
  /-- The run is made up of turns. -/
  staged : p.Staged streams s
  /-- For every stage the ends of its pipes are taken, the one in front of it and the one behind. -/
  taken : ∀ t ∈ p.turns streams s, Taken t.before.descriptors (t.feed s) t.pipedIn ∧
    Taken t.before.descriptors (t.drain s p.joints) t.pipedOut
  /-- No end is taken for two stages. -/
  once : ∀ t ∈ p.turns streams s, ∀ t' ∈ p.turns streams s, ∀ fd,
    fd ∈ t.pipedIn.toList ++ t.pipedOut.toList →
      fd ∈ t'.pipedIn.toList ++ t'.pipedOut.toList → t.index = t'.index
  /-- The processes are made in the turns. -/
  forks : ∀ table pid, .fork table (.ok pid) ∈ (p.execute streams).newCalls s →
    ∃ t ∈ p.turns streams s, .fork table (.ok pid) ∈ t.calls streams
  /-- Each of them is wired as its stage demands. -/
  wired : ∀ t ∈ p.turns streams s, ∀ table pid, .fork table (.ok pid) ∈ t.calls streams →
    ∃ input output, t.Wired streams s p.joints pid table input output

/-- Whatever the system answers, the processes of a run are wired as the stages demand. -/
theorem wiring_execute (streams : Streams) (p : Pipeline) (s : ShellState (Recorded σ)) :
    p.Wires streams s := by
  obtain ⟨row, hlength, hplaced⟩ := placed_turns streams p s
  refine ⟨staged_execute streams p s, ?_, ?_, ?_, ?_⟩
  · intro t ht
    have hindex : t.index ≤ row.length := hlength ▸ index_le_of_mem_turns ht
    rw [← hlength]
    exact ⟨(hplaced t ht).takenIn hindex, (hplaced t ht).takenOut⟩
  · intro t ht t' ht' fd hfd hfd'
    rcases Nat.lt_trichotomy t.index t'.index with hlt | heq | hgt
    · exact absurd hfd' ((hplaced t ht).not_mem_of_lt (hplaced t' ht') hlt hfd)
    · exact heq
    · exact absurd hfd ((hplaced t' ht').not_mem_of_lt (hplaced t ht) hgt hfd')
  · intro table pid hfork
    exact mem_turns_of_fork hfork
  · intro t ht table pid hfork
    have hindex : t.index ≤ row.length := hlength ▸ index_le_of_mem_turns ht
    rw [← hlength]
    exact (hplaced t ht).wired hindex (course_of_mem_turns ht) hfork

/-- If a run was given the two streams of the shell the other way round, the program of its only
stage finds the same thing at both. -/
theorem doubled_of_swapped :
    (((Pipeline.mk ⟨"cat", [], none, none⟩ []).execute ⟨some 1, some 0⟩).newCalls
        (Chronicle.shell [] [.exited 0])).filterMap (fun call => call.started?.map fun process =>
          (process.descriptors.target? 0, process.descriptors.target? 1)) =
        [(some (.file 1), some (.file 1))] ∧
      (Chronicle.shell [] [.exited 0]).descriptors.target? 0 = some (.file 0) ∧
      (Chronicle.shell [] [.exited 0]).descriptors.target? 1 = some (.file 1) := by
  decide +kernel

end Pipeline

end CommandShell
