import CommandShell.Proofs.PipelineRun

/-!
# Streams of a new process

A process begins with the descriptors that the shell has when it is made. They are those that the
shell had at the beginning of the pipeline, and others that no program gets. Among them are the
descriptors that were chosen for the two streams of the stage, and what the program finds there is
settled by them. Main statements: the chosen descriptors refer to the files of the stage, or to the
pipes in front of it and behind it (`Ready.chosenInput`, `Ready.chosenOutput`), and a program finds
what was chosen and what the shell leaves to every program (`get?_launched`).
-/

namespace CommandShell

open Shell

variable {σ : Type}

/-- A shell that has all standard streams, and a run whose own streams are open and are other
ones. -/
structure Streams.Standard (streams : Streams) (s : ShellState σ) : Prop where
  /-- The standard streams are open. -/
  inherited : ∀ fd, fd ≤ 2 → s.descriptors.get? fd ≠ none
  /-- What the first stage reads from is open and not a standard stream. -/
  input : ∀ fd, streams.input = some fd → 2 < fd ∧ s.descriptors.get? fd ≠ none
  /-- What the last stage writes to is open and not a standard stream. -/
  output : ∀ fd, streams.output = some fd → 2 < fd ∧ s.descriptors.get? fd ≠ none

/-- The streams that a run was given are open. -/
structure Streams.Open (streams : Streams) (s : ShellState σ) : Prop where
  /-- What the first stage reads from is open. -/
  input : ∀ fd, streams.input = some fd → s.descriptors.get? fd ≠ none
  /-- What the last stage writes to is open. -/
  output : ∀ fd, streams.output = some fd → s.descriptors.get? fd ≠ none

theorem Streams.Standard.isOpen {streams : Streams} {s : ShellState σ}
    (h : streams.Standard s) : streams.Open s :=
  ⟨fun fd hfd => (h.input fd hfd).2, fun fd hfd => (h.output fd hfd).2⟩

/-- A run without streams of its own needs none. -/
theorem Streams.open_inherited (s : ShellState σ) : Streams.inherited.Open s where
  input _ hfd := nomatch hfd
  output _ hfd := nomatch hfd

/-- The descriptor that is chosen for a stream of a stage: that of its own file, or else that of the
end of a pipe, or else what the run was given. -/
inductive Chosen (call : Directory → String → Nat → Except Errno Unit → Call) (start : Directory)
    (calls : List Call) (table : Descriptors) (redirection : Option String)
    (piped : Option Resource) (given : Option Fd) : Option Fd → Prop
  /-- The stream is redirected, and the file was opened for it. -/
  | file (path : String) (fd number : Nat) (h : redirection = some path)
      (asked : call start path number (.ok ()) ∈ calls)
      (hfd : table.get? fd = some ⟨.file number, true⟩) :
      Chosen call start calls table redirection piped given (some fd)
  /-- The stream is not redirected, and there is a pipe. -/
  | pipe (fd : Fd) (resource : Resource) (h : redirection = none) (hpiped : piped = some resource)
      (hfd : table.get? fd = some ⟨resource, true⟩) :
      Chosen call start calls table redirection piped given (some fd)
  /-- The stream is not redirected, and there is no pipe. -/
  | given (h : redirection = none) (hpiped : piped = none) :
      Chosen call start calls table redirection piped given given

/-- What a stage has for a stream is chosen before what the run was given. -/
theorem Redirected.chosen {call : Directory → String → Nat → Except Errno Unit → Call}
    {start : Directory} {openings calls : List Call} {table table' : Descriptors}
    {piped : Option Fd} {resource : Option Resource} {redirection : Option String}
    {own : Option Fd} (given : Option Fd)
    (h : Redirected call start openings table piped redirection own)
    (hsub : ∀ asked ∈ openings, asked ∈ calls)
    (hkeeps : ∀ fd slot, table.get? fd = some slot → table'.get? fd = some slot)
    (hpipe : redirection = none → Taken table' resource piped) :
    Chosen call start calls table' redirection resource given (own <|> given) := by
  cases h with
  | piped =>
    cases hpipe rfl with
    | nothing => exact .given rfl rfl
    | pipe fd resource h => exact .pipe fd resource rfl rfl h
  | file path fd number asked h =>
    exact .file path fd number rfl (hsub _ asked) (hkeeps fd _ h)

/-- An end that was taken stays one as long as it is not closed. -/
theorem Taken.keeps {table table' : Descriptors} {resource : Option Resource} {piped : Option Fd}
    (h : Taken table resource piped)
    (hkeeps : ∀ fd slot, piped = some fd → table.get? fd = some slot →
      table'.get? fd = some slot) : Taken table' resource piped := by
  cases h with
  | nothing => exact .nothing
  | pipe fd resource h => exact .pipe fd resource (hkeeps fd _ rfl h)

namespace Turn

variable [Kernel σ] {base : ShellState (Recorded σ)} {row : List PipeEnds} {t : Turn σ}
  {arguments : ArgumentVector} {io : StageIo} {report : PipeEnds}
  {equipped forking : ShellState (Recorded σ)} {openings : List Call}

/-- What the shell holds when it makes a process. -/
theorem Ready.exchanged (h : t.Ready arguments io report equipped forking openings)
    (hplaced : t.Placed base row) :
    Exchanged base forking []
      (report.both ++ (io.held ++ (PipeSet.untaken row t.index (t.index + 1)).ends)) := by
  have hmade : Exchanged equipped forking [] report.both := by
    have htrades := trades_makePipe equipped
    rwa [h.makePipe_eq] at htrades
  have hstage := (h.acquiredExchange.frame (PipeSet.untaken row t.index (t.index + 1)).ends).congr
    hplaced.mem_untaken fun _ => Iff.rfl
  exact (hplaced.standing.exchanged.trans hstage).trans (hmade.frame _)

/-- An end that was taken for a stage is still there when the process is made, if the stage has no
redirection for this stream. -/
theorem Ready.keeps (h : t.Ready arguments io report equipped forking openings) {fd : Fd}
    {slot : Slot Resource} (hslot : t.before.descriptors.get? fd = some slot)
    (hkept : fd ∉ displaced t.stage.input t.pipedIn ++ displaced t.stage.output t.pipedOut) :
    forking.descriptors.get? fd = some slot :=
  (makePipe_ok h.makePipe_eq).keeps fd slot (h.acquired.keeps fd slot hslot hkept)

/-- The process begins with what was chosen for the input of its stage. -/
theorem Ready.chosenInput (h : t.Ready arguments io report equipped forking openings)
    (hplaced : t.Placed base row) (hindex : t.index ≤ row.length) (streams : Streams)
    {calls : List Call} (hsub : ∀ asked ∈ openings, asked ∈ calls) :
    Chosen .openToRead t.before.surroundings.directory calls forking.descriptors t.stage.input
      (t.feed base) streams.input (io.input <|> streams.input) := by
  have hmade := makePipe_ok h.makePipe_eq
  refine h.acquired.input.chosen streams.input hsub hmade.keeps fun hnone => ?_
  refine (hplaced.takenIn hindex).keeps fun fd slot hpiped hslot => h.keeps hslot ?_
  rw [hnone]
  intro hmem
  exact hplaced.pipedIn_ne_pipedOut hpiped (mem_displaced hmem)

/-- The process begins with what was chosen for the output of its stage. -/
theorem Ready.chosenOutput (h : t.Ready arguments io report equipped forking openings)
    (hplaced : t.Placed base row) (streams : Streams) {calls : List Call}
    (hsub : ∀ asked ∈ openings, asked ∈ calls) :
    Chosen .openToWrite t.before.surroundings.directory calls forking.descriptors t.stage.output
      (t.drain base row.length) streams.output (io.output <|> streams.output) := by
  refine h.acquired.output.chosen streams.output hsub (makePipe_ok h.makePipe_eq).keeps
    fun hnone => ?_
  refine hplaced.takenOut.keeps fun fd slot hpiped hslot => h.keeps hslot ?_
  rw [hnone]
  intro hmem
  rcases List.mem_append.1 hmem with hmem | hmem
  · exact hplaced.pipedIn_ne_pipedOut (mem_displaced hmem) hpiped
  · cases hmem

end Turn

/-! ## Programs -/

/-- What a program finds at a standard stream: a duplicate of what was chosen, or what the shell
leaves to every program. -/
def seat (base table : Descriptors) (own : Option Fd) (goal : Fd) : Option (Slot Resource) :=
  match own with
  | some fd => (table.get? fd).map fun slot => ⟨slot.target, false⟩
  | none => base.surviving.get? goal

/-- A duplicate that is wanted changes only its goal. -/
theorem get?_rewire_one {table wired : Descriptors} {own : Option Fd} {goal : Fd}
    (hne : own ≠ some goal)
    (h : Child.rewire table (own.toList.map fun fd => (fd, goal)) = some wired) (fd : Fd) :
    wired.get? fd = if fd = goal then
      own.elim (table.get? goal) fun source =>
        (table.get? source).map fun slot => ⟨slot.target, false⟩
      else table.get? fd := by
  cases own with
  | none =>
    cases h
    split
    · next heq => rw [heq, Option.elim_none]
    · rfl
  | some source =>
    have hsource : source ≠ goal := fun heq => hne (congrArg some heq)
    have hduplicate : table.duplicate source goal = some wired := by
      simpa [Child.rewire] using h
    rw [DescriptorTable.get?_duplicate hsource hduplicate, Option.elim_some]

/-- What a program finds is what was chosen for its streams, and what the shell leaves to every
program. -/
theorem get?_launched {child : Child} {base table wired : Descriptors}
    (hsurviving : table.surviving = base.surviving)
    (hin : child.input ≠ some 0) (hout : ∀ fd, child.output = some fd → 1 < fd)
    (h : Child.rewire table child.wires = some wired) (fd : Fd) :
    wired.surviving.get? fd =
      if fd = 0 then seat base table child.input 0
      else if fd = 1 then seat base table child.output 1
      else base.surviving.get? fd := by
  rw [Child.wires, Child.wiring, Child.rewire_append, Option.bind_eq_some_iff] at h
  obtain ⟨fed, hfed, hwired⟩ := h
  have hfirst := get?_rewire_one hin hfed
  have hsecond := get?_rewire_one (fun heq => absurd (hout 1 heq) (Nat.lt_irrefl 1)) hwired
  -- A duplicate is passed on, and of the others those that the shell would pass on.
  have hduplicate : ∀ source : Option (Slot Resource),
      (source.map fun slot => (⟨slot.target, false⟩ : Slot Resource)).filter
        (fun slot => !slot.closeOnExec) = source.map fun slot => ⟨slot.target, false⟩ := by
    intro source
    cases source <;> rfl
  have hleft : ∀ n, (table.get? n).filter (fun slot => !slot.closeOnExec) =
      base.surviving.get? n := by
    intro n
    rw [← DescriptorTable.get?_surviving, hsurviving]
  rw [DescriptorTable.get?_surviving, hsecond fd]
  by_cases hzero : fd = 0
  · subst hzero
    rw [if_neg Nat.zero_ne_one, hfirst 0, if_pos rfl, if_pos rfl]
    cases child.input with
    | none => rw [Option.elim_none, hleft, seat]
    | some source => rw [Option.elim_some, hduplicate, seat]
  · rw [if_neg hzero]
    by_cases hone : fd = 1
    · subst hone
      rw [if_pos rfl, if_pos rfl]
      cases houtput : child.output with
      | none => rw [Option.elim_none, hfirst 1, if_neg Nat.one_ne_zero, hleft, seat]
      | some source =>
        have hsource : source ≠ 0 := Nat.ne_of_gt (Nat.lt_trans Nat.one_pos (hout source houtput))
        rw [Option.elim_some, hfirst source, if_neg hsource, hduplicate, seat]
    · rw [if_neg hone, if_neg hone, hfirst fd, if_neg hzero, hleft]

namespace Turn

variable [Kernel σ] {streams : Streams} {base : ShellState (Recorded σ)} {row : List PipeEnds}
  {t : Turn σ} {arguments : ArgumentVector} {io : StageIo} {report : PipeEnds}
  {equipped forking : ShellState (Recorded σ)} {openings : List Call}

/-- What was opened for a stage, or made for the report of its process, is not a standard stream. -/
theorem Ready.two_lt (h : t.Ready arguments io report equipped forking openings)
    (hplaced : t.Placed base row) (hstandard : streams.Standard base) {fd : Fd}
    (hfd : fd ∈ report.both ++ (io.held ++ (PipeSet.untaken row t.index (t.index + 1)).ends)) :
    2 < fd := by
  have hfree := (h.exchanged hplaced).get?_of_mem hfd
  rcases Nat.lt_or_ge 2 fd with hlt | hge
  · exact hlt
  · exact absurd hfree (hstandard.inherited fd hge)

/-- What is chosen for a stream of a stage is not a standard stream. -/
theorem Ready.two_lt_chosen (h : t.Ready arguments io report equipped forking openings)
    (hplaced : t.Placed base row) (hstandard : streams.Standard base) (own given : Option Fd)
    (hown : ∀ fd, own = some fd → fd ∈ io.held) (hgiven : ∀ fd, given = some fd → 2 < fd) :
    ∀ fd, (own <|> given) = some fd → 2 < fd := by
  intro fd hfd
  cases own with
  | none => exact hgiven fd hfd
  | some other =>
    cases hfd
    exact h.two_lt hplaced hstandard
      (List.mem_append_right _ (List.mem_append_left _ (hown fd rfl)))

/-- A program finds at its standard streams what was chosen for its stage, and elsewhere what the
shell leaves to every program. -/
theorem Ready.get?_launched (h : t.Ready arguments io report equipped forking openings)
    (hplaced : t.Placed base row) (hstandard : streams.Standard base) {wired : Descriptors}
    (hwired : Child.rewire forking.descriptors (t.child streams arguments io report).wires =
      some wired) (fd : Fd) :
    wired.surviving.get? fd =
      if fd = 0 then seat base.descriptors forking.descriptors (io.input <|> streams.input) 0
      else if fd = 1 then
        seat base.descriptors forking.descriptors (io.output <|> streams.output) 1
      else base.descriptors.surviving.get? fd := by
  refine CommandShell.get?_launched (h.exchanged hplaced).surviving_eq ?_ ?_ hwired fd
  · intro hzero
    have hlt := h.two_lt_chosen hplaced hstandard io.input streams.input
      (fun fd hfd => by simp [StageIo.held, hfd]) (fun fd hfd => (hstandard.input fd hfd).1) 0 hzero
    exact absurd hlt (Nat.not_lt_zero 2)
  · intro fd hfd
    have hlt := h.two_lt_chosen hplaced hstandard io.output streams.output
      (fun fd hfd => by simp [StageIo.held, hfd]) (fun fd hfd => (hstandard.output fd hfd).1) fd hfd
    exact Nat.lt_trans (Nat.lt_succ_self 1) hlt

end Turn

end CommandShell
