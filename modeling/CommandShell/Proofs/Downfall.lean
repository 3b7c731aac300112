import CommandShell.Proofs.Balance

/-!
# What brings a shell down

The requests of a shell change its descriptors, its numbers and its surroundings. What else there is
of a shell is changed by a complaint that cannot be written, and by the end of a line. Main
statements: a shell does not come down while programs run for it (`downfall_execute`), and no line
changes the status of the last line before it is settled (`lastStatus_execute`).
-/

namespace CommandShell

open Shell

variable {σ α β γ : Type}

/-- Something of a shell that is not seen in its descriptors, its numbers or its surroundings. -/
def Inward (view : ShellState σ → γ) : Prop :=
  ∀ (s : ShellState σ) (descriptors : Descriptors) (fresh : Nat) (surroundings : Surroundings σ),
    view { s with descriptors := descriptors, fresh := fresh, surroundings := surroundings } =
      view s

theorem inward_downfall : Inward (ShellState.downfall : ShellState σ → _) := fun _ _ _ _ => rfl

theorem inward_lastStatus : Inward (ShellState.lastStatus : ShellState σ → _) :=
  fun _ _ _ _ => rfl

/-- A shell that is ready for another line. -/
def ShellState.recovered (s : ShellState σ) : ShellState σ := { s with downfall := none }

namespace Shell

/-- An action that leaves alone what is seen of a shell. -/
def Retains (view : ShellState σ → γ) (x : Shell σ α) : Prop := ∀ s, view (x s).2 = view s

variable {view : ShellState σ → γ}

theorem Retains.pure (a : α) : Retains view (pure a : Shell σ α) := fun _ => rfl

theorem Retains.bind {x : Shell σ α} {f : α → Shell σ β} (hx : Retains view x)
    (hf : ∀ a, Retains view (f a)) : Retains view (x >>= f) :=
  fun s => (hf (x s).1 (x s).2).trans (hx s)

theorem retains_get : Retains view (get : Shell σ (ShellState σ)) := fun _ => rfl

theorem retains_isDown : Retains view (isDown : Shell σ Bool) :=
  retains_get.bind fun _ => Retains.pure _

theorem retains_openTarget {open? : String → Shell σ (Except ShellError Fd)}
    (h : ∀ path, Retains view (open? path)) (path : Option String) :
    Retains view (StageIo.openTarget open? path) := by
  cases path with
  | none => exact Retains.pure _
  | some path =>
    refine (h path).bind fun answer => ?_
    cases answer <;> exact Retains.pure _

section

variable (hview : Inward view)
include hview

theorem retains_within (action : Action σ α) : Retains view (within action) :=
  fun s => hview s s.descriptors s.fresh _

theorem retains_ask (request : StateM σ α) : Retains view (ask request) := retains_within hview _

theorem retains_closeAll (fds : List Fd) : Retains view (closeAll fds : Shell σ Unit) :=
  fun s => hview s _ s.fresh s.surroundings

theorem retains_close (fd : Fd) : Retains view (close fd : Shell σ Unit) :=
  retains_closeAll hview [fd]

theorem retains_closeOption (fd : Option Fd) : Retains view (closeOption fd : Shell σ Unit) := by
  cases fd with
  | none => exact Retains.pure ()
  | some fd => exact retains_close hview fd

theorem retains_pipeEnds_close (ends : PipeEnds) : Retains view (ends.close : Shell σ Unit) :=
  (retains_close hview ends.reader).bind fun _ => retains_close hview ends.writer

theorem retains_stageIo_close (io : StageIo) : Retains view (io.close : Shell σ Unit) :=
  (retains_closeOption hview io.input).bind fun _ => retains_closeOption hview io.output

theorem retains_prefer (redirected piped : Option Fd) :
    Retains view (StageIo.prefer redirected piped : Shell σ _) := by
  cases redirected with
  | none => exact Retains.pure piped
  | some fd => exact (retains_closeOption hview piped).bind fun _ => Retains.pure (some fd)

theorem retains_openFile (request : Directory → String → Nat → StateM σ (Except Errno Unit))
    (path : String) : Retains view (openFile request path) := by
  intro s
  rw [openFile_apply]
  split
  · rfl
  · split
    · exact hview s s.descriptors (s.fresh + 1) _
    · exact hview s _ (s.fresh + 1) _

variable [Kernel σ]

theorem retains_write (fd : Fd) (bytes : Bytes) : Retains view (write fd bytes : Shell σ _) := by
  refine retains_get.bind fun s => ?_
  cases s.descriptors.get? fd with
  | none => exact Retains.pure _
  | some slot => exact retains_ask hview _

/-- A record of the log that cannot be written does no harm. -/
theorem retains_note (event : Event) : Retains view (note event : Shell σ Unit) := by
  refine retains_get.bind fun s => ?_
  by_cases h : s.log.admits event.record = true
  · simp only [h, if_true]
    exact (retains_write hview _ _).bind fun _ => Retains.pure ()
  · simp only [h]
    exact Retains.pure ()

theorem retains_makePipe : Retains view (makePipe : Shell σ _) := by
  intro s
  rw [makePipe_apply]
  split
  · exact hview s s.descriptors (s.fresh + 1) _
  · exact hview s _ (s.fresh + 1) _

theorem retains_writeText (fd : Fd) (text : String) :
    Retains view (writeText fd text : Shell σ _) := by
  rw [writeText]
  split
  · exact Retains.pure none
  · refine (retains_write hview fd (utf8 text)).bind fun answer => ?_
    cases answer <;> exact Retains.pure _

/-! ## Pipelines -/

theorem retains_acquire (stage : Stage) (pipedIn pipedOut : Option Fd) :
    Retains view (StageIo.acquire stage pipedIn pipedOut : Shell σ _) := by
  have hread := retains_openTarget (retains_openFile hview (Kernel.openToRead (σ := σ)))
  have hwrite := retains_openTarget (retains_openFile hview (Kernel.openToWrite (σ := σ)))
  refine (hread stage.input).bind fun input => ?_
  cases input with
  | error error => exact (retains_stageIo_close hview _).bind fun _ => Retains.pure _
  | ok input =>
    refine (hwrite stage.output).bind fun output => ?_
    cases output with
    | error error =>
      exact (retains_closeOption hview _).bind fun _ =>
        (retains_stageIo_close hview _).bind fun _ => Retains.pure _
    | ok output =>
      exact (retains_prefer hview _ _).bind fun _ =>
        (retains_prefer hview _ _).bind fun _ => Retains.pure _

theorem retains_allocate (pipes : PipeSet) (count : Nat) :
    Retains view (pipes.allocate count : Shell σ _) := by
  induction count generalizing pipes with
  | zero => exact Retains.pure _
  | succ count ih =>
    refine (retains_makePipe hview).bind fun answer => ?_
    cases answer with
    | error errno => exact (retains_closeAll hview _).bind fun _ => Retains.pure _
    | ok added => exact ih (pipes.push added)

theorem retains_readReport (reader : Fd) : Retains view (readReport reader : Shell σ _) := by
  refine retains_get.bind fun s => ?_
  cases s.descriptors.get? reader with
  | none => exact Retains.pure none
  | some slot =>
    refine (retains_ask hview _).bind fun answer => ?_
    cases answer <;> exact Retains.pure _

theorem retains_launchStage (streams : Streams) (index : Nat) (stage : Stage)
    (arguments : ArgumentVector) (io : StageIo) (report : PipeEnds) :
    Retains view (launchStage streams index stage arguments io report : Shell σ _) := by
  refine retains_get.bind fun _ => (retains_ask hview _).bind fun answer => ?_
  cases answer with
  | error errno =>
    exact (retains_note hview _).bind fun _ => (retains_pipeEnds_close hview _).bind fun _ =>
      (retains_stageIo_close hview _).bind fun _ => Retains.pure _
  | ok pid =>
    refine retains_get.bind fun _ => (retains_close hview _).bind fun _ =>
      (retains_stageIo_close hview _).bind fun _ => (retains_note hview _).bind fun _ =>
      (retains_ask hview _).bind fun _ => (retains_readReport hview _).bind fun failure =>
      (retains_close hview _).bind fun _ => ?_
    cases failure with
    | none => exact Retains.pure _
    | some errno => exact (retains_note hview _).bind fun _ => Retains.pure _

theorem retains_startStage (streams : Streams) (index : Nat) (stage : Stage)
    (pipedIn pipedOut : Option Fd) :
    Retains view (startStage streams index stage pipedIn pipedOut : Shell σ _) := by
  refine (retains_acquire hview stage pipedIn pipedOut).bind fun answer => ?_
  cases answer with
  | error error => exact (retains_note hview _).bind fun _ => Retains.pure _
  | ok io =>
    simp only [spawnStage]
    cases ArgumentVector.ofArguments stage.argv with
    | error reason => exact (retains_stageIo_close hview _).bind fun _ => Retains.pure _
    | ok arguments =>
      refine (retains_makePipe hview).bind fun answer => ?_
      cases answer with
      | error errno => exact (retains_stageIo_close hview _).bind fun _ => Retains.pure _
      | ok report => exact retains_launchStage hview streams index stage arguments io report

theorem retains_spawnAll (streams : Streams) (last index : Nat) (pipes : PipeSet)
    (stages : List Stage) :
    Retains view (spawnAll streams last index pipes stages : Shell σ _) := by
  induction stages generalizing index pipes with
  | nil => exact Retains.pure _
  | cons stage rest ih =>
    rw [spawnAll]
    dsimp only
    refine (retains_startStage hview streams index stage _ _).bind fun answer => ?_
    cases answer with
    | error error => exact Retains.pure _
    | ok state => exact (ih (index + 1) _).bind fun _ => Retains.pure _

theorem retains_waitTerminal (pid : Pid) : Retains view (waitTerminal pid : Shell σ _) := by
  intro s
  have hwait : ∀ (s : ShellState σ) host, view (s.withHost host) = view s :=
    fun s host => hview s s.descriptors s.fresh _
  fun_induction waitTerminal pid s with
  | case1 s answer status h => exact hwait s _
  | case2 s answer errno h => exact hwait s _
  | case3 s answer h hless ih => exact ih.trans (hwait s _)
  | case4 s answer notice h hless ih =>
    exact ih.trans ((retains_note hview _ _).trans (hwait s _))

theorem retains_reap (state : StageState) : Retains view (state.reap : Shell σ _) := by
  cases state with
  | settled outcome => exact Retains.pure outcome
  | running pid =>
    refine (retains_waitTerminal hview pid).bind fun answer => ?_
    cases answer with
    | error error => exact (retains_note hview _).bind fun _ => Retains.pure _
    | ok status => exact Retains.pure _
  | execFailed pid reason =>
    refine (retains_waitTerminal hview pid).bind fun answer => ?_
    cases answer with
    | error error => exact (retains_note hview _).bind fun _ => Retains.pure _
    | ok status => exact Retains.pure _

theorem retains_reapAll (states : List StageState) : Retains view (reapAll states : Shell σ _) := by
  induction states with
  | nil => exact Retains.pure []
  | cons state rest ih =>
    exact (retains_reap hview state).bind fun _ => ih.bind fun _ => Retains.pure _

theorem retains_noteFinished (index : Nat) (outcomes : List StageOutcome) :
    Retains view (noteFinished index outcomes : Shell σ Unit) := by
  induction outcomes generalizing index with
  | nil => exact Retains.pure ()
  | cons outcome rest ih =>
    cases outcome with
    | finished status => exact (retains_note hview _).bind fun _ => ih (index + 1)
    | aborted error => exact ih (index + 1)

/-- Running programs leaves the shell as it is, apart from descriptors, numbers and surroundings. -/
theorem retains_executePipeline (streams : Streams) (p : Pipeline) :
    Retains view (p.execute streams : Shell σ _) := by
  refine (retains_allocate hview .empty p.joints).bind fun answer => ?_
  cases answer with
  | error errno => exact Retains.pure _
  | ok pipes =>
    refine (retains_note hview _).bind fun _ =>
      (retains_spawnAll hview streams p.joints 0 pipes p.stages).bind fun result => ?_
    obtain ⟨states, fault, left⟩ := result
    refine (retains_closeAll hview _).bind fun _ =>
      (retains_reapAll hview states).bind fun outcomes =>
      (retains_noteFinished hview 0 outcomes).bind fun _ => ?_
    cases fault <;> exact Retains.pure _

/-! ## Lines -/

variable (hdown : ∀ (s : ShellState σ) (reason : Option Errno),
  view { s with downfall := reason } = view s)
include hdown

theorem retains_complain (text : String) : Retains view (complain text : Shell σ Unit) :=
  (retains_write hview _ _).bind fun _ s => hdown s _

theorem retains_conclude (verdict : Verdict) :
    Retains view (verdict.conclude : Shell σ Outcome) := by
  obtain ⟨complaint, event, outcome⟩ := verdict
  have hevent : Retains view (Verdict.conclude ⟨none, event, outcome⟩ : Shell σ Outcome) := by
    cases event with
    | none => exact Retains.pure outcome
    | some event => exact (retains_note hview event).bind fun _ => Retains.pure outcome
  cases complaint with
  | none => exact hevent
  | some text => exact (retains_complain hview hdown (text ++ "\n")).bind fun _ => hevent

theorem retains_deliverToFile (reply : Reply) (fd : Fd) :
    Retains view (reply.deliverToFile fd : Shell σ Outcome) :=
  (retains_writeText hview fd reply.output).bind fun _ => retains_conclude hview hdown _

theorem retains_deliverToOutput (reply : Reply) :
    Retains view (reply.deliverToOutput : Shell σ Outcome) := by
  rw [Reply.deliverToOutput]
  refine (retains_writeText hview _ _).bind fun answer =>
    (retains_conclude hview hdown _).bind fun outcome => ?_
  cases forgiveClosed answer with
  | some fault => exact Retains.pure outcome
  | none =>
    refine (retains_writeText hview _ _).bind fun answer => ?_
    cases forgiveClosed answer with
    | none => exact Retains.pure outcome
    | some fault => exact (retains_note hview _).bind fun _ => Retains.pure outcome

end

end Shell

namespace Interpreter

section

variable {view : ShellState σ → γ} (hview : Inward view)
  (hdown : ∀ (s : ShellState σ) (reason : Option Errno),
    view { s with downfall := reason } = view s) [Kernel σ] (sh : Interpreter σ)
include hview hdown

theorem retains_runToOutput (handler : Handler σ) (stage : Stage) :
    Retains view (sh.runToOutput handler stage) := by
  rw [runToOutput]
  cases stage.output with
  | none =>
    exact (retains_within hview _).bind fun reply =>
      (retains_deliverToOutput hview hdown reply).bind fun _ => Retains.pure _
  | some path =>
    refine (retains_openFile hview Kernel.openToWrite path).bind fun answer => ?_
    cases answer with
    | error error => exact Retains.pure _
    | ok fd =>
      exact (retains_within hview _).bind fun reply =>
        (retains_deliverToFile hview hdown reply fd).bind fun _ =>
        (retains_close hview fd).bind fun _ => Retains.pure _

theorem retains_runBuiltin (handler : Handler σ) (stage : Stage) :
    Retains view (sh.runBuiltin handler stage) := by
  rw [runBuiltin]
  cases stage.input with
  | none => exact retains_runToOutput hview hdown sh handler stage
  | some path =>
    refine (retains_openFile hview Kernel.openToRead path).bind fun answer => ?_
    cases answer with
    | error error => exact Retains.pure _
    | ok fd =>
      exact (retains_close hview fd).bind fun _ => retains_runToOutput hview hdown sh handler stage

theorem retains_complainAborted (index : Nat) (outcomes : List StageOutcome) :
    Retains view (complainAborted index outcomes : Shell σ Unit) := by
  induction outcomes generalizing index with
  | nil => exact Retains.pure ()
  | cons outcome rest ih =>
    cases outcome with
    | finished status => exact ih (index + 1)
    | aborted error =>
      refine (retains_complain hview hdown _).bind fun _ => retains_isDown.bind fun down => ?_
      cases down with
      | true => exact Retains.pure ()
      | false => exact ih (index + 1)

theorem retains_runPrograms (p : Pipeline) : Retains view (sh.runPrograms p) := by
  refine (retains_executePipeline hview sh.streams p).bind fun answer => ?_
  cases answer with
  | error error => exact Retains.pure _
  | ok report =>
    refine (retains_complainAborted hview hdown 0 report.earlier).bind fun _ => ?_
    cases report.conclusion <;> exact Retains.pure _

/-- Interpreting a line changes nothing of the shell that is neither inside its surroundings nor
brought about by a complaint. -/
theorem retains_executeLine (line : String) : Retains view (sh.execute line) := by
  have hrecover : Retains view (recover : Shell σ Unit) := fun s => hdown s none
  refine hrecover.bind fun _ => (retains_note hview _).bind fun _ => ?_
  split
  · exact Retains.pure _
  · cases Pipeline.ofTokens (Token.scan line) with
    | error fault => exact Retains.pure _
    | ok p =>
      simp only [dispatch]
      cases sh.route p with
      | none => exact (retains_note hview _).bind fun _ => retains_runPrograms hview hdown sh p
      | some chosen =>
        exact (retains_note hview _).bind fun _ =>
          retains_runBuiltin hview hdown sh chosen.1 chosen.2

theorem retains_settleLine (result : Except ShellError Outcome) :
    Retains view (settleLine result : Shell σ Outcome) := by
  refine retains_isDown.bind fun down => ?_
  cases down with
  | true => exact Retains.pure _
  | false =>
    cases result with
    | ok outcome => exact Retains.pure outcome
    | error error =>
      exact (retains_note hview _).bind fun _ => (retains_complain hview hdown _).bind fun _ =>
        Retains.pure _

end

/-- What a line comes to if the shell does not come down: an error is turned into its status. -/
def outcomeOf : Except ShellError Outcome → Outcome
  | .ok outcome => outcome
  | .error error => .proceed error.status

variable [Kernel σ]

theorem downfall_note (event : Event) (s : ShellState σ) :
    (note event s).2.downfall = s.downfall :=
  retains_note inward_downfall event s

/-- A shell does not come down while programs run for it. -/
theorem downfall_execute (streams : Streams) (p : Pipeline) (s : ShellState σ) :
    (p.execute streams s).2.downfall = s.downfall :=
  retains_executePipeline inward_downfall streams p s

/-- The status of the last line is left alone until a line is settled. -/
theorem lastStatus_execute (sh : Interpreter σ) (line : String) (s : ShellState σ) :
    (sh.execute line s).2.lastStatus = s.lastStatus :=
  retains_executeLine inward_lastStatus (fun _ _ => rfl) sh line s

/-- Settling a line that has brought the shell down does nothing. -/
theorem settleLine_of_down {result : Except ShellError Outcome} {s : ShellState σ}
    (h : s.downfall ≠ none) : settleLine result s = (.down, s) := by
  have hdown : s.downfall.isSome = true := Option.isSome_iff_ne_none.2 h
  simp only [settleLine, isDown, bind_apply, get_apply, pure_apply, hdown, if_true]

/-- Settling any other line tells the user of its error. -/
theorem settleLine_of_up {result : Except ShellError Outcome} {s : ShellState σ}
    (h : s.downfall = none) :
    settleLine result s = (outcomeOf result, match result with
      | .ok _ => s
      | .error error =>
        (complain ("pipesh: " ++ error.message ++ "\n") (note (.lineFailed error) s).2).2) := by
  simp only [settleLine, isDown, bind_apply, get_apply, pure_apply, h]
  cases result <;> rfl

omit [Kernel σ] in
/-- The status of a line in which the shell has come down is not kept. -/
theorem keepStatus_of_down {outcome : Outcome} {s : ShellState σ} (h : s.downfall ≠ none) :
    keepStatus outcome s = (.down, s) := by
  have hdown : s.downfall.isSome = true := Option.isSome_iff_ne_none.2 h
  simp only [keepStatus, isDown, bind_apply, get_apply, pure_apply, hdown, if_true]

omit [Kernel σ] in
/-- The status of any other line is kept. -/
theorem keepStatus_of_up {outcome : Outcome} {s : ShellState σ} (h : s.downfall = none) :
    keepStatus outcome s = (outcome, { s with lastStatus := outcome.status }) := by
  have hup : s.downfall.isSome = false := by rw [h]; rfl
  simp only [keepStatus, isDown, bind_apply, get_apply, pure_apply, hup]
  rfl

omit [Kernel σ] in
/-- A line comes to its outcome, unless the shell has come down. -/
theorem keepStatus_fst (outcome : Outcome) (s : ShellState σ) :
    (keepStatus outcome s).1 = if s.downfall.isSome then .down else outcome := by
  cases h : s.downfall with
  | none => rw [keepStatus_of_up h]; rfl
  | some errno => rw [keepStatus_of_down (h ▸ Option.some_ne_none errno)]; rfl

omit [Kernel σ] in
/-- Nothing is done around the shell when a status is kept. -/
theorem surroundings_keepStatus (outcome : Outcome) (s : ShellState σ) :
    (keepStatus outcome s).2.surroundings = s.surroundings := by
  by_cases h : s.downfall = none
  · rw [keepStatus_of_up h]
  · rw [keepStatus_of_down h]

theorem runLine_apply (sh : Interpreter σ) (line : String) (s : ShellState σ) :
    sh.runLine line s =
      keepStatus (settleLine (sh.execute line s).1 (sh.execute line s).2).1
        (settleLine (sh.execute line s).1 (sh.execute line s).2).2 := rfl

/-- The shell is down behind a line if it is down once the line is settled. -/
theorem downfall_runLine (sh : Interpreter σ) (line : String) (s : ShellState σ) :
    (sh.runLine line s).2.downfall =
      (settleLine (sh.execute line s).1 (sh.execute line s).2).2.downfall := by
  rw [runLine_apply]
  generalize settleLine (sh.execute line s).1 (sh.execute line s).2 = settled
  by_cases h : settled.2.downfall = none
  · rw [keepStatus_of_up h]
  · rw [keepStatus_of_down h]

/-- Nothing is done around the shell once a line is settled. -/
theorem surroundings_runLine (sh : Interpreter σ) (line : String) (s : ShellState σ) :
    (sh.runLine line s).2.surroundings =
      (settleLine (sh.execute line s).1 (sh.execute line s).2).2.surroundings := by
  rw [runLine_apply, surroundings_keepStatus]

/-- If a line has no error, all that is left to do is to keep its status. -/
theorem runLine_eq_keepStatus {sh : Interpreter σ} {line : String} {s t : ShellState σ}
    {outcome : Outcome}
    (h : sh.execute line s = (.ok outcome, t)) : sh.runLine line s = keepStatus outcome t := by
  rw [runLine_apply, h]
  by_cases hup : t.downfall = none
  · rw [settleLine_of_up hup]
    rfl
  · rw [settleLine_of_down hup, keepStatus_of_down hup, keepStatus_of_down hup]

/-- If the shell comes down in a line, the line leaves no status. -/
theorem runLine_of_down {sh : Interpreter σ} {line : String} {s : ShellState σ}
    (h : (sh.runLine line s).2.downfall ≠ none) :
    (sh.runLine line s).1 = .down ∧ (sh.runLine line s).2.lastStatus = s.lastStatus := by
  rw [downfall_runLine] at h
  rw [runLine_apply, keepStatus_of_down h]
  refine ⟨rfl, Eq.trans ?_ (lastStatus_execute sh line s)⟩
  exact retains_settleLine inward_lastStatus (fun _ _ => rfl) _ _

/-- If it does not, an error is turned into its status, and the status is kept. -/
theorem runLine_of_up {sh : Interpreter σ} {line : String} {s : ShellState σ}
    (h : (sh.runLine line s).2.downfall = none) :
    (sh.execute line s).2.downfall = none ∧
      (sh.runLine line s).1 = outcomeOf (sh.execute line s).1 ∧
      (sh.runLine line s).2.lastStatus = (sh.runLine line s).1.status := by
  rw [downfall_runLine] at h
  have hup : (sh.execute line s).2.downfall = none := by
    refine Decidable.byContradiction fun hdown => ?_
    rw [settleLine_of_down hdown] at h
    exact hdown h
  rw [runLine_apply, keepStatus_of_up h, settleLine_of_up hup]
  exact ⟨hup, rfl, rfl⟩

/-- A line without an error brings the shell down only while it is interpreted. -/
theorem downfall_runLine_of_ok {sh : Interpreter σ} {line : String} {s : ShellState σ}
    {outcome : Outcome} (h : (sh.execute line s).1 = .ok outcome) :
    (sh.runLine line s).2.downfall = (sh.execute line s).2.downfall := by
  rw [downfall_runLine, h]
  by_cases hup : (sh.execute line s).2.downfall = none
  · rw [settleLine_of_up hup]
  · rw [settleLine_of_down hup]

end Interpreter

end CommandShell
