import CommandShell.Proofs.Diagnostics

/-!
# Arguments of programs

The arguments of a stage are handed to its program as texts that end at a NUL byte, in a sequence
that ends at a gap. Someone who reads up to the ends finds the arguments as they were, and nothing
else can be found (`ArgumentVector.reads_iff`). An argument that holds a NUL byte itself would be
cut off by this, so that it is not passed on at all. Main statement: the program of a stage is
started with the arguments of the stage, or the stage is settled with the first argument that holds
a NUL byte as the reason, without a process, and gives up what it has (`Stage.conveying`).
-/

namespace CommandShell

open Shell

variable {σ : Type}

namespace ArgumentVector

/-- What is found in cells by someone who reads every text up to its NUL byte and stops at the gap.
Without the NUL bytes or the gap nothing can be found. -/
inductive Reads : List (Option Bytes) → List Bytes → Prop
  /-- The gap ends the sequence, whatever is behind it. -/
  | gap (behind : List (Option Bytes)) : Reads (none :: behind) []
  /-- The NUL byte ends a text, whatever is behind it. -/
  | text (text behind : Bytes) (cells : List (Option Bytes)) (texts : List Bytes)
      (htext : (0 : UInt8) ∉ text) (hrest : Reads cells texts) :
      Reads (some (text ++ 0 :: behind) :: cells) (text :: texts)

/-- What is behind the NUL byte of a text makes no difference. -/
theorem textOf_append {text : Bytes} (h : (0 : UInt8) ∉ text) (behind : Bytes) :
    textOf (text ++ 0 :: behind) = text := by
  have hall : ∀ b ∈ text, (b != 0) = true := by
    intro b hb
    rw [bne_iff_ne]
    rintro rfl
    exact h hb
  rw [textOf, List.takeWhile_append_of_pos hall, List.takeWhile_cons_of_neg (by simp),
    List.append_nil]

/-- What is found are the texts in front of the first gap. -/
theorem Reads.textsOf_eq {cells : List (Option Bytes)} {texts : List Bytes}
    (h : Reads cells texts) : textsOf cells = texts := by
  induction h with
  | gap behind => rfl
  | text text behind cells texts htext hrest ih => rw [textsOf, textOf_append htext, ih]

/-- The arguments are found in their cells. -/
theorem reads_cellsOf {arguments : List String} {cells : List (Option Bytes)}
    (h : cellsOf arguments = .ok cells) : Reads cells (arguments.map utf8) := by
  induction arguments generalizing cells with
  | nil =>
    cases h
    exact .gap []
  | cons argument rest ih =>
    rw [cellsOf] at h
    split at h
    · next hpass =>
      have hzero : (0 : UInt8) ∉ utf8 argument := by simpa [passable] using hpass
      cases hrest : cellsOf rest with
      | error reason =>
        rw [hrest] at h
        cases h
      | ok more =>
        rw [hrest] at h
        cases h
        exact .text (utf8 argument) [] more _ hzero (ih hrest)
    · cases h

/-- The arguments are all that is found in their vector. -/
theorem reads_iff {arguments : List String} {v : ArgumentVector}
    (h : ofArguments arguments = .ok v) (texts : List Bytes) :
    Reads v.cells texts ↔ texts = arguments.map utf8 := by
  constructor
  · intro hreads
    rw [← hreads.textsOf_eq]
    exact texts_ofArguments h
  · rintro rfl
    rw [ofArguments] at h
    cases hcells : cellsOf arguments with
    | error reason =>
      rw [hcells] at h
      cases h
    | ok cells =>
      rw [hcells] at h
      cases h
      exact reads_cellsOf hcells

/-- Arguments without NUL bytes have a vector. -/
theorem exists_ofArguments {arguments : List String}
    (h : ∀ argument ∈ arguments, (0 : UInt8) ∉ utf8 argument) :
    ∃ v, ofArguments arguments = .ok v := by
  cases hpass : ofArguments arguments with
  | ok v => exact ⟨v, rfl⟩
  | error reason =>
    obtain ⟨argument, hmem, hzero⟩ := (ofArguments_error_iff arguments).1 ⟨reason, hpass⟩
    exact absurd hzero (h argument hmem)

/-- The first argument that holds a NUL byte is the reason why there is no vector. -/
theorem ofArguments_append_cons {front : List String} {argument : String}
    (hfront : ∀ other ∈ front, (0 : UInt8) ∉ utf8 other) (hzero : (0 : UInt8) ∈ utf8 argument)
    (back : List String) :
    ofArguments (front ++ argument :: back) = .error (refusal argument) := by
  have hcells : cellsOf (front ++ argument :: back) = .error (refusal argument) := by
    induction front with
    | nil => rw [List.nil_append, cellsOf, if_neg (by simpa [passable] using hzero)]
    | cons first rest ih =>
      have hpass : passable first = true := by
        simpa [passable] using hfront first List.mem_cons_self
      rw [List.cons_append, cellsOf, if_pos hpass,
        ih fun other hother => hfront other (List.mem_cons_of_mem first hother)]
  rw [ofArguments, hcells]
  rfl

end ArgumentVector

/-- What a stage holds is closed, and nothing else changes. -/
theorem StageIo.close_apply (io : StageIo) (s : ShellState σ) :
    io.close s = ((), { s with descriptors := s.descriptors.closeAll io.held }) := by
  obtain ⟨input, output⟩ := io
  cases input <;> cases output <;> rfl

namespace Turn

variable [Kernel σ]

/-- What comes of the turn of a stage whose arguments cannot be passed on. -/
structure Withheld (streams : Streams) (t : Turn σ) (reason : String) : Prop where
  /-- There is no pipe for a report. -/
  unheard : ∀ pipe answer, .makePipe pipe answer ∉ t.transcript streams
  /-- There is no process. -/
  unborn : ∀ table answer, .fork table answer ∉ t.transcript streams
  /-- The ends of the pipes are closed, and so are the files that were opened. -/
  released : (t.after streams).descriptors =
    t.before.descriptors.closeAll (t.pipedIn.toList ++ t.pipedOut.toList)
  /-- If the files could be opened, the stage is settled. -/
  settled : t.stage.openFault? (t.transcript streams) = none →
    t.result streams = .ok (.settled (.finished (.startFailed reason)))

variable {streams : Streams} {t : Turn σ} {table : Descriptors}
  {result : Except ShellError StageState} {calls : List Call}

/-- For a stage whose arguments cannot be passed on nothing is asked for but that its files be
opened, and something may be written to the log. -/
theorem Transcript.call_cases_of_unpassable (h : t.Transcript streams table result calls)
    {reason : String} (hpass : ArgumentVector.ofArguments t.stage.argv = .error reason) :
    ∀ call ∈ calls, call.isOpening = true ∨ call.isTransfer = true := by
  have habsurd : ∀ arguments, ArgumentVector.ofArguments t.stage.argv ≠ .ok arguments := by
    intro arguments heq
    cases hpass.symm.trans heq
  intro call hcall
  cases h with
  | unopened path fault openings notes hopenings hnotes =>
    exact (List.mem_append.1 hcall).imp (hopenings.isOpening call) (hnotes.isTransfer call)
  | unpassable reason openings hopenings h => exact Or.inl (hopenings.isOpening call hcall)
  | unheard pipe errno openings hopenings hpipe hpass => exact absurd hpass.choose_spec (habsurd _)
  | unborn pipe forking errno openings notes hopenings hpipe hnotes hpass =>
    exact absurd hpass.choose_spec (habsurd _)
  | forked arguments io report equipped forking openings notes course reads later pid failure heard
      ready hopenings hnotes hcourse hheard hlater =>
    exact absurd ready.passable (habsurd arguments)

end Turn

namespace Pipeline

variable [Kernel σ] {streams : Streams} {p : Pipeline} {s : ShellState (Recorded σ)} {t : Turn σ}

/-- A program is started with the vector of the arguments of its stage. -/
theorem arguments_of_exec (ht : t ∈ p.turns streams s) {pid : Pid} {launch : Launch}
    {answer : Except Errno Unit} (hexec : .exec pid launch answer ∈ t.transcript streams) :
    ArgumentVector.ofArguments t.stage.argv = .ok launch.arguments := by
  have hcalls : t.calls streams = (t.transcript streams).filter fun call => !call.isTransfer :=
    (transcript_of_mem_turns ht).1.since.newCalls_eq
  have hmem : .exec pid launch answer ∈ t.calls streams := by
    rw [hcalls]
    exact List.mem_filter.2 ⟨hexec, rfl⟩
  obtain ⟨arguments, io, report, equipped, forking, openings, course, asker, hready, hcourse,
    hcourses⟩ := (course_of_mem_turns ht).of_process hmem (Or.inr (by simp [Call.asker?]))
  rw [hcourses] at hmem
  rcases List.mem_append.1 hmem with hmem | hmem
  · cases hready.acquired.opening _ hmem
  · obtain ⟨-, wired, -, rfl⟩ := hcourse.of_exec (by simpa using hmem)
    exact hready.passable

/-- A stage whose arguments cannot be passed on gets no process and gives up what it has. -/
theorem withheld_of_mem_turns (ht : t ∈ p.turns streams s) {reason : String}
    (hpass : ArgumentVector.ofArguments t.stage.argv = .error reason) :
    t.Withheld streams reason := by
  have htranscript := (transcript_of_mem_turns ht).2.1
  have hcases := htranscript.call_cases_of_unpassable hpass
  refine ⟨fun pipe answer hmem => ?_, fun table answer hmem => ?_, ?_, fun hopen => ?_⟩
  · rcases hcases _ hmem with hcall | hcall <;> cases hcall
  · rcases hcases _ hmem with hcall | hcall <;> cases hcall
  · have htrades := trades_startStage streams t.index t.stage t.pipedIn t.pipedOut t.before
    have hbalance := htrades.balance []
    rw [List.append_nil, List.append_nil, DescriptorTable.closeAll_nil] at hbalance
    exact hbalance
  · exact (htranscript.of_unpassable hopen hpass).1

end Pipeline

/-- What becomes of the arguments of a stage, whatever the system answers. -/
structure Stage.Conveying (σ : Type) [Kernel σ] (stage : Stage) : Prop where
  /-- Arguments without NUL bytes have a vector, and the arguments are all that is found in it. -/
  vector : (∀ argument ∈ stage.argv, (0 : UInt8) ∉ utf8 argument) →
    ∃ v, ArgumentVector.ofArguments stage.argv = .ok v ∧
      ∀ texts, ArgumentVector.Reads v.cells texts ↔ texts = stage.argv.map utf8
  /-- The process of the stage hands over this vector when it starts the program. -/
  handed : ∀ (streams : Streams) (p : Pipeline) (s : ShellState (Recorded σ)) (t : Turn σ)
    (pid : Pid) (launch : Launch) (answer : Except Errno Unit),
    t ∈ p.turns streams s → t.stage = stage →
      .exec pid launch answer ∈ t.transcript streams →
        ArgumentVector.ofArguments stage.argv = .ok launch.arguments
  /-- If an argument holds a NUL byte, the first such argument is the reason why there is no
  vector. -/
  reason : ∀ front argument back, stage.argv = front ++ argument :: back →
    (∀ other ∈ front, (0 : UInt8) ∉ utf8 other) → (0 : UInt8) ∈ utf8 argument →
      ArgumentVector.ofArguments stage.argv =
        .error (Text.quote argument ++ ": argument contains NUL byte")
  /-- Then the system is asked for nothing. The stage is settled, and what it holds is closed, its
  ends of pipes as well as its files. -/
  settled : ∀ reason, ArgumentVector.ofArguments stage.argv = .error reason →
    ∀ (streams : Streams) (index : Nat) (io : StageIo) (s : ShellState σ),
      spawnStage streams index stage io s = (.ok (.settled (.finished (.startFailed reason))),
        { s with descriptors := s.descriptors.closeAll io.held })
  /-- In the run of a pipeline there is neither a pipe for a report nor a process in the turn of the
  stage, and only what the shell had before is left. -/
  withheld : ∀ reason, ArgumentVector.ofArguments stage.argv = .error reason →
    ∀ (streams : Streams) (p : Pipeline) (s : ShellState (Recorded σ)) (t : Turn σ),
      t ∈ p.turns streams s → t.stage = stage → t.Withheld streams reason
  /-- The reason is the outcome of the stage, unless its files could not be opened. -/
  reported : ∀ reason, ArgumentVector.ofArguments stage.argv = .error reason →
    ∀ (streams : Streams) (p : Pipeline) (s : ShellState (Recorded σ)) (t : Turn σ) (i : Nat)
      (report : Report), (p.turns streams s)[i]? = some t → t.stage = stage →
        stage.openFault? (t.transcript streams) = none → (p.execute streams s).1 = .ok report →
          report.outcomes[i]? = some (.finished (.startFailed reason))

/-- The arguments of a stage reach its program as they are. If one of them holds a NUL byte, the
stage is settled without a process instead. -/
theorem Stage.conveying (σ : Type) [Kernel σ] (stage : Stage) : stage.Conveying σ where
  vector hnone := by
    obtain ⟨v, hpass⟩ := ArgumentVector.exists_ofArguments hnone
    exact ⟨v, hpass, ArgumentVector.reads_iff hpass⟩
  handed := by
    rintro streams p s t pid launch answer ht rfl hexec
    exact Pipeline.arguments_of_exec ht hexec
  reason := by
    intro front argument back hargv hfront hzero
    rw [hargv]
    exact ArgumentVector.ofArguments_append_cons hfront hzero back
  settled := by
    intro reason hpass streams index io s
    simp only [spawnStage, hpass]
    rw [bind_apply, io.close_apply]
    rfl
  withheld := by
    rintro reason hpass streams p s t ht rfl
    exact Pipeline.withheld_of_mem_turns ht hpass
  reported := by
    rintro reason hpass streams p s t i report hi rfl hopen hreport
    exact (Pipeline.unpassable_of_mem_turns hi hopen hpass).2 report hreport

end CommandShell
