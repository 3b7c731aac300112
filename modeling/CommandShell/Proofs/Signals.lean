import CommandShell.Proofs.LineErrors

/-!
# Ends by signals

A process may be stopped and may go on any number of times, and the wait for it may be interrupted,
before it is ended by a signal. If the signal has a name, this is the outcome of the stage. Signals
with greater numbers are not understood: the process has ended, but its stage counts as one that got
lost. Main statement: the number of the signal decides between the two
(`Pipeline.signaling_execute`).
-/

namespace CommandShell

open Shell

variable {σ : Type}

/-- The process that was waited for, and what was told of it. -/
def Call.news? : Call → Option (Pid × ChildEvent)
  | .wait pid _ event => some (pid, event)
  | _ => none

/-- Whether a call has started a program. -/
def Call.isStart : Call → Bool
  | .exec _ _ (.ok ()) => true
  | _ => false

/-- The last thing that is told of a process has the last meaning. -/
theorem Call.getLast?_waited {waits : List Call} {pid : Pid} {event : ChildEvent}
    (h : (waits.filterMap Call.news?).getLast? = some (pid, event)) :
    (waits.filterMap Call.waited?).getLast? = some (pid, event.answer) := by
  have hmeaning : waits.filterMap Call.waited? =
      (waits.filterMap Call.news?).map fun news => (news.1, news.2.answer) := by
    rw [List.map_filterMap]
    congr 1
    funext call
    cases call <;> rfl
  rw [hmeaning, List.getLast?_map, h]
  rfl

namespace ChildEvent

theorem answer_killed_of_le {n : Nat} (h : 1 ≤ n) (h' : n ≤ 31) :
    (killed n).answer = .ended (.signaled n) := by
  rw [answer, Signal.ofNumber?, if_pos ⟨h, h'⟩]

theorem answer_killed_of_lt {n : Nat} (h : 31 < n) : (killed n).answer = .failed .invalid := by
  rw [answer, Signal.ofNumber?, if_neg fun hle => absurd hle.2 (Nat.not_le_of_lt h)]

end ChildEvent

/-- The line of a shell is a pipeline of programs, which runs from the second state on: in between
the line is noted. -/
structure Interpreter.Runs [Kernel σ] (sh : Interpreter (Recorded σ)) (line : String)
    (p : Pipeline) (s₀ s : ShellState (Recorded σ)) : Prop where
  /-- The line describes the pipeline. -/
  parsed : Pipeline.ofTokens (Token.scan line) = .ok p
  /-- The pipeline is not sent to a builtin. -/
  unserved : sh.route p = none
  /-- The line is noted. -/
  noted : (note (.runningPipeline p.length)
    (note (.tokenized (Token.scan line)) s₀.recovered).2).2 = s

theorem Interpreter.Runs.execute_eq [Kernel σ] {sh : Interpreter (Recorded σ)} {line : String}
    {p : Pipeline} {s₀ s : ShellState (Recorded σ)} (h : sh.Runs line p s₀ s) :
    (sh.execute line s₀).1 = settlement (p.execute sh.streams s).1 := by
  have hnonempty : (Token.scan line).isEmpty = false := by
    rw [List.isEmpty_eq_false_iff]
    intro hblank
    exact ofTokens_ne_ok_of_blank hblank h.parsed
  have hrun : sh.execute line s₀ = sh.runPrograms p s := by
    rw [← h.noted]
    simp only [execute, bind_apply, hnonempty, h.parsed, dispatch, h.unserved,
      if_neg Bool.false_ne_true]
    rfl
  have hup : s.downfall = none := by
    rw [← h.noted, downfall_note, downfall_note]
    rfl
  rw [hrun]
  exact (between_runPrograms rfl hup).1

namespace Pipeline

/-- What is reported of the stage at a position when its process was ended by a signal. -/
structure Signaled [Kernel σ] (streams : Streams) (p : Pipeline) (s : ShellState (Recorded σ))
    (report : Report) (i : Nat) (pid : Pid) (n : Nat) : Prop where
  /-- A signal that has a name is the outcome of the stage. -/
  outcome : 1 ≤ n → n ≤ 31 → report.outcomes[i]? = some (.finished (.signaled n))
  /-- If the stage is the last one, the status of its line is greater by 128, unless the shell comes
  down. -/
  status : 1 ≤ n → n ≤ 31 → i = p.joints → ∀ (sh : Interpreter (Recorded σ)) line s₀,
    sh.streams = streams → sh.Runs line p s₀ s →
      (sh.execute line s₀).1 = .ok (.proceed (128 + n)) ∧
      ((sh.runLine line s₀).2.downfall = none → (sh.runLine line s₀).1 = .proceed (128 + n))
  /-- For a signal with a greater number the stage counts as lost. -/
  lost : 31 < n → report.outcomes[i]? = some (.aborted (.wait pid .invalid))
  /-- If the stage is the last one, its line comes to an error. -/
  failed : 31 < n → i = p.joints → ∀ (sh : Interpreter (Recorded σ)) line s₀,
    sh.streams = streams → sh.Runs line p s₀ s →
      (sh.execute line s₀).1 = .error (.wait pid .invalid) ∧
      ((sh.runLine line s₀).2.downfall = none → (sh.runLine line s₀).1 = .proceed 1)

variable [Kernel σ] {streams : Streams} {p : Pipeline} {s : ShellState (Recorded σ)}

/-- The last thing that is told of the process of a stage decides what is reported. -/
theorem signaled_of_accounted {report : Report} (hlength : report.outcomes.length = p.length)
    {i : Nat} {stage : Stage} {turn waits : List Call} {outcome : StageOutcome}
    (houtcome : report.outcomes[i]? = some outcome) (h : stage.Accounted turn waits outcome)
    (hreport : (p.execute streams s).1 = .ok report) {pid : Pid} {launch : Launch}
    (hexec : .exec pid launch (.ok ()) ∈ turn) {n : Nat}
    (hlast : (waits.filterMap Call.news?).getLast? = some (pid, .killed n)) :
    Signaled streams p s report i pid n := by
  have hanswer := Call.getLast?_waited hlast
  -- The line of the last stage is settled by its outcome.
  have hline : i = p.joints → ∀ (sh : Interpreter (Recorded σ)) line s₀, sh.streams = streams →
      sh.Runs line p s₀ s → (sh.execute line s₀).1 = Interpreter.settledBy outcome := by
    rintro rfl sh line s₀ rfl hruns
    rw [hruns.execute_eq, hreport]
    refine Interpreter.settlement_eq_settledBy ?_
    rw [List.getLast?_eq_getElem?, hlength, ← joints_add_one, Nat.add_sub_cancel, houtcome]
  have hnamed : 1 ≤ n → n ≤ 31 → outcome = .finished (.signaled n) := by
    intro hpos hle
    rw [ChildEvent.answer_killed_of_le hpos hle] at hanswer
    rcases h.ran pid launch hexec with ⟨status, hended, rfl⟩ | ⟨errno, hfailed, rfl⟩
    · cases hanswer.symm.trans hended
      rfl
    · cases hanswer.symm.trans hfailed
  have hunnamed : 31 < n → outcome = .aborted (.wait pid .invalid) := by
    intro hlt
    rw [ChildEvent.answer_killed_of_lt hlt] at hanswer
    rcases h.ran pid launch hexec with ⟨status, hended, rfl⟩ | ⟨errno, hfailed, rfl⟩
    · cases hanswer.symm.trans hended
    · cases hanswer.symm.trans hfailed
      rfl
  refine ⟨fun hpos hle => ?_, fun hpos hle hi sh line s₀ hstreams hruns => ?_, fun hlt => ?_,
    fun hlt hi sh line s₀ hstreams hruns => ?_⟩
  · rw [houtcome, hnamed hpos hle]
  · have hsettled := hline hi sh line s₀ hstreams hruns
    rw [hnamed hpos hle] at hsettled
    exact ⟨hsettled, fun hup => Interpreter.runLine_of_ok hup hsettled⟩
  · rw [houtcome, hunnamed hlt]
  · have hsettled := hline hi sh line s₀ hstreams hruns
    rw [hunnamed hlt] at hsettled
    exact ⟨hsettled, fun hup => Interpreter.runLine_of_error hup hsettled⟩

/-- What is reported of the stages whose processes were ended by signals. -/
structure Signals (streams : Streams) (p : Pipeline) (s : ShellState (Recorded σ))
    (report : Report) : Prop where
  /-- The stages are waited for one after the other, a segment for each of them. If the program of a
  stage was started, the pipe for its report has delivered nothing that was not written to it, and
  the last thing that the system tells of its process is that it was ended by a signal, then the
  number of the signal decides, whatever the system has told before. -/
  entries : ∃ (notes later : List Call) (segments : List (List Call)),
    (p.execute streams).transcript s = pipesMade s.fresh p.joints ++ notes ++
      (p.turns streams s).flatMap (Turn.transcript streams) ++ segments.flatten ++ later ∧
    Noted s.descriptors s.log.stamp notes ∧ Noted s.descriptors s.log.stamp later ∧
    segments.length = p.length ∧
    ∀ (i : Nat) (t : Turn σ) (waits : List Call) (pid : Pid) (launch : Launch) (n : Nat),
      (p.turns streams s)[i]? = some t → segments[i]? = some waits →
      .exec pid launch (.ok ()) ∈ t.transcript streams →
      (∀ pipe, .makePipe pipe (.ok ()) ∈ t.transcript streams →
        Delivers pipe [] (t.transcript streams)) →
      (waits.filterMap Call.news?).getLast? = some (pid, .killed n) →
        Signaled streams p s report i pid n

/-- Whatever the system answers, the stages whose processes were ended by signals are reported like
this, if all pipes and processes could be made. -/
theorem signaling_execute (streams : Streams) (p : Pipeline) (s : ShellState (Recorded σ))
    (hopen : streams.Open s) (hnumbered : Numbered s) {report : Report}
    (hreport : (p.execute streams s).1 = .ok report) : p.Signals streams s report := by
  obtain ⟨-, hlength, -, notes, later, segments, htranscript, hnotes, hlater, hsegments,
    hstages⟩ := resolved_of_report hreport
  refine ⟨notes, later, segments, htranscript, hnotes, hlater, hsegments, ?_⟩
  intro i t waits pid launch n hi hwaits hexec hdelivers hlast
  obtain ⟨state, waits', outcome, hwaits', houtcome, hresult, hreaped⟩ := hstages i t hi
  cases hwaits.symm.trans hwaits'
  obtain ⟨row, hrow, hplaced⟩ := placed_turns streams p s
  have ht := List.mem_of_getElem? hi
  have hindex : t.index ≤ row.length := hrow ▸ index_le_of_mem_turns ht
  have hturn := (transcript_of_mem_turns ht).2.1
  rw [hresult] at hturn
  have hfate := (hplaced t ht).fate_of_exec hindex hopen hnumbered hturn hexec hdelivers
  exact signaled_of_accounted hlength houtcome (hfate.accounted hreaped) hreport hexec hlast

/-- A single stage that copies its input. -/
def copyingStage : Pipeline := ⟨⟨"cat", [], none, none⟩, []⟩

theorem signaling_execute_chronicle :
    Streams.inherited.Open
        (Chronicle.shell [] [.stopped 19, .failed .interrupted, .continued, .killed 9]) ∧
      Numbered (Chronicle.shell [] [.stopped 19, .failed .interrupted, .continued, .killed 9]) ∧
      (copyingStage.execute .inherited
        (Chronicle.shell [] [.stopped 19, .failed .interrupted, .continued, .killed 9])).1 =
          .ok ⟨0, [.finished (.signaled 9)]⟩ ∧
      (∀ t ∈ copyingStage.turns .inherited
          (Chronicle.shell [] [.stopped 19, .failed .interrupted, .continued, .killed 9]),
        ∀ pipe ∈ (t.transcript .inherited).filterMap Call.made?,
          Delivers pipe [] (t.transcript .inherited)) ∧
      copyingStage.Signals .inherited
        (Chronicle.shell [] [.stopped 19, .failed .interrupted, .continued, .killed 9])
        ⟨0, [.finished (.signaled 9)]⟩ := by
  generalize hevents : [ChildEvent.stopped 19, .failed .interrupted, .continued, .killed 9] = events
  have hreport : (copyingStage.execute .inherited (Chronicle.shell [] events)).1 =
      .ok ⟨0, [.finished (.signaled 9)]⟩ := by
    rw [← hevents]
    exact eq_ok_of_toOption (by decide +kernel)
  have hdelivers : ∀ t ∈ copyingStage.turns .inherited (Chronicle.shell [] events),
      ∀ pipe ∈ (t.transcript .inherited).filterMap Call.made?,
        Delivers pipe [] (t.transcript .inherited) := by
    rw [← hevents]
    decide +kernel
  exact ⟨Streams.open_inherited _, Chronicle.numbered_shell [] events, hreport, hdelivers,
    signaling_execute .inherited copyingStage _ (Streams.open_inherited _)
      (Chronicle.numbered_shell [] events) hreport⟩

/-- A process whose program was started, and which was ended by the signal 34, is not reported as
ended by a signal. Its line comes to the status 1 instead of 162. -/
theorem lost_of_signal_34 :
    (copyingStage.execute .inherited (Chronicle.shell [] [.killed 34])).1 =
        .ok ⟨0, [.aborted (.wait 1 .invalid)]⟩ ∧
      (((copyingStage.execute .inherited).transcript (Chronicle.shell [] [.killed 34])).any
        Call.isStart) = true ∧
      ((copyingStage.execute .inherited).transcript (Chronicle.shell [] [.killed 34])).filterMap
        Call.news? = [(1, .killed 34)] ∧
      (Interpreter.standard.runLine "cat" (Chronicle.shell [] [.killed 34])).1 = .proceed 1 :=
  ⟨eq_ok_of_toOption (by decide +kernel), by decide +kernel, by decide +kernel, by decide +kernel⟩

end Pipeline

end CommandShell
