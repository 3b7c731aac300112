import CommandShell.Proofs.Diagnostics

/-!
# Errors of a line

A line comes to an error before anything was done, because of a target of a builtin, because a pipe
or a process could not be made, or because of the last stage of its pipeline. The shell goes on
after each of them, with the status of the error, unless the user cannot be told: then it comes down
instead. Main statement: whatever the line and whatever the system answers, an error leaves of a
line what it should (`Interpreter.erring_runLine`).
-/

namespace CommandShell

open Shell

variable {σ : Type}

/-- An error that a stage can come to once its turn has begun. -/
def ShellError.IsOfStage (error : ShellError) : Prop :=
  (∃ path fault, error = .io path fault) ∨ ∃ pid errno, error = .wait pid errno

theorem ShellError.IsOfStage.status_eq {error : ShellError} (h : error.IsOfStage) :
    error.status = 1 := by
  rcases h with ⟨path, fault, rfl⟩ | ⟨pid, errno, rfl⟩
  · rfl
  · rfl

namespace Pipeline

variable [Kernel σ] {streams : Streams} {p : Pipeline} {s : ShellState (Recorded σ)}

/-- Without a report the error is that of a pipe or a process that could not be made. -/
theorem spawn_of_error {error : ShellError} (h : (p.execute streams s).1 = .error error) :
    ∃ stage errno, error = .spawn stage errno := by
  have htranscript := (transcribed_execute streams p s).2
  rw [h] at htranscript
  generalize (p.execute streams).transcript s = calls at htranscript
  cases htranscript with
  | unpiped errno done hdone hturns => exact ⟨0, errno, rfl⟩
  | stopped states outcomes error notes later segments hresults hnotes hreaped hlater =>
    have hmem : .error error ∈ (p.turns streams s).map (Turn.result streams) := by
      rw [hresults]
      exact List.mem_append_right _ (List.mem_singleton_self _)
    obtain ⟨t, ht, herror⟩ := List.mem_map.1 hmem
    have hturn := (transcript_of_mem_turns ht).2.1
    rw [herror] at hturn
    generalize t.transcript streams = turn at hturn
    cases hturn with
    | unheard pipe errno openings hopenings hpipe hpass => exact ⟨t.index, errno, rfl⟩
    | unborn pipe forking errno openings notes hopenings hpipe hnotes hpass =>
      exact ⟨t.index, errno, rfl⟩

/-- With a report every stage had its turn, and there is an outcome for each of them. -/
theorem length_of_report {report : Report} (hreport : (p.execute streams s).1 = .ok report) :
    (p.turns streams s).length = p.length ∧ report.outcomes.length = p.length := by
  have htranscript := (transcribed_execute streams p s).2
  rw [hreport] at htranscript
  generalize (p.execute streams).transcript s = calls at htranscript
  cases htranscript with
  | finished states outcomes notes later segments hresults hall hnotes hreaped hlater =>
    have hsame := congrArg List.length hresults
    rw [List.length_map, List.length_map, hall] at hsame
    exact ⟨hall, hreaped.length_eq.1.trans hsame.symm⟩

/-- With a report the last outcome was learned of the state to which the last turn has come. -/
theorem last_of_report {report : Report} (hreport : (p.execute streams s).1 = .ok report) :
    ∃ t state last waits, (p.turns streams s)[p.joints]? = some t ∧
      t.result streams = .ok state ∧ report.outcomes[p.joints]? = some last ∧
      report.outcomes.getLast? = some last ∧
      Reaped s.descriptors s.log.stamp state last waits := by
  obtain ⟨hturns, houtcomes⟩ := length_of_report hreport
  have hlt : p.joints < (p.turns streams s).length := by
    rw [hturns, ← joints_add_one]
    exact Nat.lt_succ_self _
  obtain ⟨state, last, waits, hstate, hlast, hreaped⟩ :=
    reaped_of_report hreport (List.getElem?_eq_getElem hlt)
  refine ⟨_, state, last, waits, List.getElem?_eq_getElem hlt, hstate, hlast, ?_, hreaped⟩
  rw [List.getLast?_eq_getElem?, houtcomes, ← joints_add_one, Nat.add_sub_cancel, hlast]

/-- A stage that was left out or got lost comes to an error of a stage. -/
theorem isOfStage_of_aborted {t : Turn σ} (ht : t ∈ p.turns streams s) {state : StageState}
    (hstate : t.result streams = .ok state) {error : ShellError} {waits : List Call}
    (hreaped : Reaped s.descriptors s.log.stamp state (.aborted error) waits) :
    error.IsOfStage := by
  have hturn := (transcript_of_mem_turns ht).2.1
  rw [hstate] at hturn
  cases hreaped with
  | settled outcome =>
    generalize t.transcript streams = calls at hturn
    generalize hresult : Except.ok (StageState.settled (.aborted error)) = result at hturn
    cases hturn with
    | unopened path fault openings notes hopenings hnotes =>
      cases hresult
      exact Or.inl ⟨path, fault, rfl⟩
    | unpassable reason openings hopenings h => cases hresult
    | unheard pipe errno openings hopenings hpipe hpass => cases hresult
    | unborn pipe forking errno openings notes hopenings hpipe hnotes hpass => cases hresult
    | forked arguments io report equipped forking openings notes course reads later pid failure
        heard ready hopenings hnotes hreached hcourse hheard hlater =>
      cases hfailure : heardErrno heard <;> rw [hfailure] at hresult <;> cases hresult
  | lost pid calls notes last errno h hlast hnotes => exact Or.inr ⟨pid, errno, rfl⟩

end Pipeline

namespace Interpreter

/-- What the outcome of the last stage makes of a line. -/
def settledBy : StageOutcome → Except ShellError Outcome
  | .finished status => .ok (.proceed status.code)
  | .aborted error => .error error

theorem settlement_eq_settledBy {report : Report} {last : StageOutcome}
    (h : report.outcomes.getLast? = some last) : settlement (.ok report) = settledBy last := by
  rw [settlement, Report.conclusion, h]
  cases last <;> rfl

/-- What a line of programs comes to, given the state in which its pipeline runs. -/
structure Settled [Kernel σ] (streams : Streams) (p : Pipeline) (s : ShellState (Recorded σ))
    (result : Except ShellError Outcome) : Prop where
  /-- If a pipe or a process cannot be made, this is the error of the line. -/
  refused : ∀ error, (p.execute streams s).1 = .error error →
    result = .error error ∧ ∃ stage errno, error = .spawn stage errno
  /-- Otherwise the outcome of the last stage decides, and nothing else. -/
  decided : ∀ report, (p.execute streams s).1 = .ok report →
    ∃ last, report.outcomes[p.joints]? = some last ∧ report.outcomes.getLast? = some last ∧
      result = settledBy last
  /-- An error is then one of opening or of waiting. -/
  aborted : ∀ report error, (p.execute streams s).1 = .ok report → result = .error error →
    error.IsOfStage
  /-- A last stage with an argument that holds a NUL byte is no error. -/
  unpassable : ∀ (report : Report) (t : Turn σ), (p.execute streams s).1 = .ok report →
    (p.turns streams s)[p.joints]? = some t → t.stage.openFault? (t.transcript streams) = none →
    (∃ argument ∈ t.stage.argv, (0 : UInt8) ∈ utf8 argument) → result = .ok (.proceed 127)
  /-- Neither is a last stage whose process is refused a duplicate or its program, if the report of
  this process is passed on. -/
  unstarted : ∀ (report : Report) (t : Turn σ), streams.Open s → Numbered s →
    Spared (t.transcript streams) →
    (∀ pipe, .makePipe pipe (.ok ()) ∈ t.transcript streams →
      Reporting (t.transcript streams) pipe) →
    (p.execute streams s).1 = .ok report → (p.turns streams s)[p.joints]? = some t →
    t.stage.openFault? (t.transcript streams) = none →
    (∃ call ∈ t.transcript streams, call.startFault? ≠ none) → result = .ok (.proceed 127)

/-- The outcome of the last stage settles a line of programs. -/
theorem settled_settlement [Kernel σ] (streams : Streams) (p : Pipeline)
    (s : ShellState (Recorded σ)) : Settled streams p s (settlement (p.execute streams s).1) := by
  refine ⟨fun error herror => ?_, fun report hreport => ?_, fun report error hreport herror => ?_,
    fun report t hreport ht hopen hnul => ?_,
    fun report t hstreams hnumbered hspared hreporting hreport ht hopen hrefused => ?_⟩
  · rw [herror]
    exact ⟨rfl, Pipeline.spawn_of_error herror⟩
  · obtain ⟨t, state, last, waits, -, -, hplace, hlast, -⟩ := Pipeline.last_of_report hreport
    rw [hreport]
    exact ⟨last, hplace, hlast, settlement_eq_settledBy hlast⟩
  · obtain ⟨t, state, last, waits, ht, hstate, -, hlast, hreaped⟩ := Pipeline.last_of_report hreport
    rw [hreport, settlement_eq_settledBy hlast] at herror
    cases last with
    | finished status => cases herror
    | aborted error' =>
      cases herror
      exact Pipeline.isOfStage_of_aborted (List.mem_of_getElem? ht) hstate hreaped
  · obtain ⟨reason, hpass⟩ := (ArgumentVector.ofArguments_error_iff _).2 hnul
    have hplace := (Pipeline.unpassable_of_mem_turns ht hopen hpass).2 report hreport
    obtain ⟨t', state, last, waits, -, -, hplace', hlast, -⟩ := Pipeline.last_of_report hreport
    cases hplace.symm.trans hplace'
    rw [hreport, settlement_eq_settledBy hlast]
    rfl
  · obtain ⟨t', state, last, waits, ht', hstate, -, hlast, hreaped⟩ :=
      Pipeline.last_of_report hreport
    cases ht.symm.trans ht'
    have haccounted := Pipeline.accounted_of_mem_turns hstreams hnumbered (List.mem_of_getElem? ht)
      hspared hreporting hstate hreaped
    obtain ⟨reason, rfl⟩ := haccounted.unstarted.2 ⟨hopen, Or.inr hrefused⟩
    rw [hreport, settlement_eq_settledBy hlast]
    rfl

/-! ## Lines -/

/-- A record of the log changes nothing of the shell. -/
theorem note_eq_withHost [Kernel σ] (event : Event) (s : ShellState σ) :
    ∃ host, (note event s).2 = s.withHost host := by
  rw [note, bind_apply, get_apply]
  by_cases hadmits : s.log.admits event.record = true
  · simp only [if_pos hadmits, offer, write, bind_apply, get_apply]
    cases s.descriptors.get? standardError with
    | none => exact ⟨s.surroundings.host, rfl⟩
    | some slot => exact ⟨_, rfl⟩
  · simp only [if_neg hadmits]
    exact ⟨s.surroundings.host, rfl⟩

/-- What becomes of the errors of a line. -/
structure Errs [Kernel σ] (sh : Interpreter (Recorded σ)) (line : String)
    (s : ShellState (Recorded σ)) : Prop where
  /-- A line that is not blank and describes no pipeline comes to an error at once, and no other
  line does. -/
  malformed : ∀ fault, (sh.execute line s).1 = .error (.malformed fault) ↔
    Token.scan line ≠ [] ∧ Pipeline.ofTokens (Token.scan line) = .error fault
  /-- It asks for nothing but records of the log and leaves the shell as it is. No builtin is asked:
  whatever the builtins are, it makes no difference. -/
  untouched : ∀ fault, (sh.execute line s).1 = .error (.malformed fault) →
    Noted s.descriptors s.log.stamp ((sh.execute line).transcript s) ∧
    (∃ host, (sh.execute line s).2 = (s.withHost host).recovered) ∧
    ∀ other : Interpreter (Recorded σ), other.execute line s = sh.execute line s
  /-- The error of a builtin is that of a target that could not be opened. The builtin is not asked:
  another one would make no difference. The working directory is the same. -/
  builtin : ∀ (p : Pipeline) (handler : Handler (Recorded σ)) (stage : Stage) (error : ShellError),
    Pipeline.ofTokens (Token.scan line) = .ok p → sh.route p = some (handler, stage) →
    (sh.execute line s).1 = .error error →
      (∃ path fault, error = .io path fault) ∧
      (sh.execute line s).2.surroundings.directory = s.surroundings.directory ∧
      ∀ (other : Interpreter (Recorded σ)) (handler' : Handler (Recorded σ)),
        other.route p = some (handler', stage) → other.execute line s = sh.execute line s
  /-- A line of programs is settled by the last stage of its pipeline, which runs once the line was
  noted. -/
  programs : ∀ p, Pipeline.ofTokens (Token.scan line) = .ok p → sh.route p = none →
    ∃ s₀ notes, Between s s₀ notes ∧ Noted s.descriptors s.log.stamp notes ∧
      s₀.descriptors = s.descriptors ∧ s₀.fresh = s.fresh ∧
      Settled sh.streams p s₀ (sh.execute line s).1
  /-- That a program could not be started is never the error of a line. -/
  unexecuted : ∀ program reason, (sh.execute line s).1 ≠ .error (.exec program reason)
  /-- Unless the shell comes down, a line without an error is passed on as it is. -/
  proceeds : ∀ outcome, (sh.runLine line s).2.downfall = none →
    (sh.execute line s).1 = .ok outcome → (sh.runLine line s).1 = outcome
  /-- After an error the shell goes on, with the status 2 if the line was malformed. -/
  faulty : ∀ fault, (sh.runLine line s).2.downfall = none →
    (sh.execute line s).1 = .error (.malformed fault) → (sh.runLine line s).1 = ⟨true, 2⟩
  /-- All other errors have the status 1. -/
  failed : ∀ error, (sh.execute line s).1 = .error error → (∀ fault, error ≠ .malformed fault) →
    ((∃ stage errno, error = .spawn stage errno) ∨ error.IsOfStage) ∧
      ((sh.runLine line s).2.downfall = none → (sh.runLine line s).1 = ⟨true, 1⟩)
  /-- The status is kept. -/
  kept : (sh.runLine line s).2.downfall = none →
    (sh.runLine line s).2.lastStatus = (sh.runLine line s).1.status
  /-- If the shell comes down, no status is kept, and it does not go on. -/
  fallen : (sh.runLine line s).2.downfall ≠ none →
    (sh.runLine line s).1 = .down ∧ (sh.runLine line s).2.lastStatus = s.lastStatus
  /-- Over an error the shell does not come down as long as it can write. -/
  survived : ∀ error, (sh.execute line s).1 = .error error →
    (∀ call ∈ (sh.runLine line).transcript s, call.fatal? = none) →
      (sh.runLine line s).2.downfall = none

section

variable [Kernel σ] {sh : Interpreter (Recorded σ)} {line : String} {s s' : ShellState (Recorded σ)}
  {result : Except ShellError Outcome}

/-- A malformed line is noted, and nothing depends on what the shell is equipped with. -/
theorem execute_eq_of_malformed {σ : Type} [Kernel σ] (sh : Interpreter σ) {line : String}
    (s : ShellState σ) (hblank : Token.scan line ≠ []) {fault : SyntaxFault}
    (hfault : Pipeline.ofTokens (Token.scan line) = .error fault) :
    sh.execute line s =
      (.error (.malformed fault), (note (.tokenized (Token.scan line)) s.recovered).2) := by
  have hcons : (Token.scan line).isEmpty = false := by
    rw [List.isEmpty_eq_false_iff]
    exact hblank
  simp only [execute, bind_apply, hcons, hfault]
  rfl

/-- A line comes to an error because it is malformed, because a pipe or a process cannot be made, or
because of a stage. -/
theorem Transcript.error_cases (h : sh.Transcript line s s' result) {error : ShellError}
    (herror : result = .error error) :
    (∃ fault, error = .malformed fault ∧ Token.scan line ≠ [] ∧
      Pipeline.ofTokens (Token.scan line) = .error fault) ∨
    (∃ stage errno, error = .spawn stage errno) ∨ error.IsOfStage := by
  cases h with
  | blank notes h hnotes hbetween => cases herror
  | malformed fault notes hblank hparse hnotes hbetween =>
    cases herror
    exact Or.inl ⟨fault, rfl, hblank, hparse⟩
  | unopened p handler stage path fault notes openings hblank hparse hroute hnotes hopenings
      hbetween =>
    cases herror
    exact Or.inr (Or.inr (Or.inl ⟨path, fault, rfl⟩))
  | builtin p handler stage opened output outcome notes openings deliveries => cases herror
  | programs p s₀ notes complaints hblank hparse hroute hnotes hbefore =>
    have hsettled := settled_settlement sh.streams p s₀
    cases hresult : (p.execute sh.streams s₀).1 with
    | error error' =>
      obtain ⟨hspawned, hspawn⟩ := hsettled.refused error' hresult
      rw [hspawned] at herror
      cases herror
      exact Or.inr (Or.inl hspawn)
    | ok report => exact Or.inr (Or.inr (hsettled.aborted report error hresult herror))

theorem runLine_of_ok {outcome : Outcome} (hup : (sh.runLine line s).2.downfall = none)
    (h : (sh.execute line s).1 = .ok outcome) : (sh.runLine line s).1 = outcome := by
  rw [(runLine_of_up hup).2.1, h]
  rfl

theorem runLine_of_error {error : ShellError} (hup : (sh.runLine line s).2.downfall = none)
    (h : (sh.execute line s).1 = .error error) :
    (sh.runLine line s).1 = .proceed error.status := by
  rw [(runLine_of_up hup).2.1, h]
  rfl

/-- A line that comes to an error brings the shell down over a text that cannot be written, and over
nothing else. -/
theorem Transcript.survives (h : sh.Transcript line s (sh.execute line s).2 result)
    (hresult : (sh.execute line s).1 = result) {error : ShellError} (herror : result = .error error)
    (hnone : ∀ call ∈ (sh.runLine line).transcript s, call.fatal? = none) :
    (sh.runLine line s).2.downfall = none := by
  -- What is asked for until the line is settled is followed by what settles it.
  have hsettled : ∀ {calls : List Call}, Between s (sh.execute line s).2 calls →
      ((∀ call ∈ calls, call.fatal? = none) → (sh.execute line s).2.downfall = none) →
        (sh.runLine line s).2.downfall = none := by
    intro calls hbetween hup
    obtain ⟨more, hran, hmore⟩ := between_runLine sh line s hbetween
    rw [hran.transcript_action_eq] at hnone
    rw [hmore.survives fun call hcall => hnone call (List.mem_append_right _ hcall)]
    exact hup fun call hcall => hnone call (List.mem_append_left _ hcall)
  cases h with
  | blank notes h hnotes hbetween hup => cases herror
  | malformed fault notes hblank hparse hnotes hbetween hup => exact hsettled hbetween fun _ => hup
  | unopened p handler stage path fault notes openings hblank hparse hroute hnotes hopenings
      hbetween hup => exact hsettled hbetween fun _ => hup
  | builtin p handler stage opened output outcome notes openings deliveries => cases herror
  | programs p s₀ notes complaints hblank hparse hroute hnotes hbefore hdescriptors hfresh
      hcomplaints hbetween =>
    refine hsettled hbetween fun hnone => ?_
    rw [hcomplaints.downfall_eq]
    exact List.findSome?_eq_none_iff.2 fun call hcall => hnone call (List.mem_append_right _ hcall)

/-- Whatever the line and whatever the system answers, an error leaves of the line what it
should. -/
theorem erring_runLine (sh : Interpreter (Recorded σ)) (line : String)
    (s : ShellState (Recorded σ)) : sh.Errs line s := by
  have htranscript := sh.transcribed_execute line s
  have hmalformed : ∀ fault, (sh.execute line s).1 = .error (.malformed fault) →
      Token.scan line ≠ [] ∧ Pipeline.ofTokens (Token.scan line) = .error fault := by
    intro fault herror
    rcases htranscript.error_cases herror with ⟨fault', heq, hline⟩ | ⟨stage, errno, heq⟩ | hstage
    · cases heq
      exact hline
    · cases heq
    · cases hstage.status_eq
  refine ⟨fun fault => ⟨hmalformed fault, fun h => (htranscript.of_malformed h.1 h.2).1⟩,
    fun fault herror => ?_, fun p handler stage error hparse hroute herror => ?_,
    fun p hparse hroute => ?_, fun program reason herror => ?_, fun outcome => runLine_of_ok,
    fun fault => runLine_of_error, fun error herror hfault => ?_,
    fun hup => (runLine_of_up hup).2.2, runLine_of_down,
    fun error herror => htranscript.survives rfl herror⟩
  · obtain ⟨hblank, hfault⟩ := hmalformed fault herror
    refine ⟨htranscript.noted_of_idle rfl (Or.inr ⟨fault, hfault⟩), ?_, fun other => ?_⟩
    · rw [execute_eq_of_malformed sh s hblank hfault]
      exact note_eq_withHost _ s.recovered
    · rw [execute_eq_of_malformed sh s hblank hfault, execute_eq_of_malformed other s hblank hfault]
  · rcases htranscript.of_builtin hparse hroute with
      ⟨path, fault, notes, openings, hresult, -, -, hbetween, -⟩ |
      ⟨opened, output, outcome, notes, openings, deliveries, hresult, -⟩
    · rw [hresult] at herror
      cases herror
      exact ⟨⟨path, fault, rfl⟩, hbetween.directory_eq,
        fun other handler' hother => execute_eq_of_error hparse hroute hother hresult⟩
    · rw [hresult] at herror
      cases herror
  · obtain ⟨s₀, notes, complaints, hresult, hnotes, hbefore, hdescriptors, hfresh, -, -⟩ :=
      htranscript.of_programs hparse hroute
    rw [hresult]
    exact ⟨s₀, notes, hbefore, hnotes, hdescriptors, hfresh, settled_settlement sh.streams p s₀⟩
  · rcases htranscript.error_cases herror with ⟨fault, heq, -⟩ | ⟨stage, errno, heq⟩ | hstage
    · cases heq
    · cases heq
    · cases hstage.status_eq
  · rcases htranscript.error_cases herror with ⟨fault, rfl, -⟩ | ⟨stage, errno, rfl⟩ | hstage
    · exact absurd rfl (hfault fault)
    · exact ⟨Or.inl ⟨stage, errno, rfl⟩, fun hup => runLine_of_error hup herror⟩
    · refine ⟨Or.inr hstage, fun hup => ?_⟩
      rw [runLine_of_error hup herror, hstage.status_eq]
      rfl

end

/-- The file for the complaints of this shell is full. A line that begins with a pipe is malformed,
but the user cannot be told: instead of going on with the status 2 the shell comes down. -/
theorem fallen_of_full :
    (Interpreter.standard.execute "| cat" (Chronicle.shellWith [0, 1, 2] [2] [] [])).1 =
        .error (.malformed .emptyStage) ∧
      (Interpreter.standard.runLine "| cat" (Chronicle.shellWith [0, 1, 2] [2] [] [])).1 =
        ⟨false, 101⟩ ∧
      (Interpreter.standard.runLine "| cat" (Chronicle.shellWith [0, 1, 2] [2] [] [])).2.downfall =
        some .noSpace := by
  have hscan : Token.scan "| cat" = [.pipe, .word "cat"] := by decide +kernel
  have hfault : Pipeline.ofTokens (Token.scan "| cat") = .error .emptyStage := by
    rw [hscan]
    rfl
  refine ⟨?_, by decide +kernel, by decide +kernel⟩
  rw [execute_eq_of_malformed .standard _ (hscan ▸ List.cons_ne_nil _ _) hfault]

end Interpreter

end CommandShell
