import CommandShell.Proofs.Reaping
import CommandShell.Proofs.TurnTranscript

/-!
# Transcripts of runs

All that is asked for in the run of a pipeline: its pipes, then what is asked for in the turns, one
after the other, and then the waits, a segment for each process. Main statements: every turn begins
where the turns in front of it have ended (`Pipeline.between_before`), and every run has one of
these transcripts (`Pipeline.transcribed_execute`).
-/

namespace CommandShell

open Shell

variable {σ : Type}

/-- What is asked for until a process has ended or cannot be waited for, and the last answer. -/
inductive Watched (table : Descriptors) (stamp : String) (pid : Pid) :
    List Call → ChildEvent → Prop
  /-- The answer is the last one. -/
  | settled (event : ChildEvent) (final : event.isFinal = true) :
      Watched table stamp pid [.wait pid table event] event
  /-- After any other answer, which may be noted, the shell waits again. -/
  | again (event last : ChildEvent) (notes calls : List Call) (pending : event.isFinal = false)
      (hnotes : Noted table stamp notes) (h : Watched table stamp pid calls last) :
      Watched table stamp pid (.wait pid table event :: (notes ++ calls)) last

/-- What is asked for to learn the outcome of a stage. -/
inductive Reaped (table : Descriptors) (stamp : String) :
    StageState → StageOutcome → List Call → Prop
  /-- The outcome is known. -/
  | settled (outcome : StageOutcome) : Reaped table stamp (.settled outcome) outcome []
  /-- The process of the stage has ended. -/
  | ended (pid : Pid) (calls : List Call) (last : ChildEvent) (status : Status)
      (h : Watched table stamp pid calls last) (hlast : last.answer = .ended status) :
      Reaped table stamp (.running pid) (.finished status) calls
  /-- The process of the stage cannot be waited for. -/
  | lost (pid : Pid) (calls notes : List Call) (last : ChildEvent) (errno : Errno)
      (h : Watched table stamp pid calls last) (hlast : last.answer = .failed errno)
      (hnotes : Noted table stamp notes) :
      Reaped table stamp (.running pid) (.aborted (.wait pid errno)) (calls ++ notes)
  /-- The program of the stage was not started, and its process is waited for all the same. -/
  | buried (pid : Pid) (reason : String) (calls notes : List Call) (last : ChildEvent)
      (h : Watched table stamp pid calls last) (hnotes : Noted table stamp notes) :
      Reaped table stamp (.execFailed pid reason) (.finished (.startFailed reason))
        (calls ++ notes)

/-- What is asked for to learn the outcomes of some stages, a segment for each of them. -/
inductive ReapedAll (table : Descriptors) (stamp : String) :
    List StageState → List StageOutcome → List (List Call) → Prop
  /-- There is no stage. -/
  | nil : ReapedAll table stamp [] [] []
  /-- The stages are waited for in order. -/
  | cons (state : StageState) (outcome : StageOutcome) (calls : List Call)
      (states : List StageState) (outcomes : List StageOutcome) (segments : List (List Call))
      (h : Reaped table stamp state outcome calls)
      (hrest : ReapedAll table stamp states outcomes segments) :
      ReapedAll table stamp (state :: states) (outcome :: outcomes) (calls :: segments)

/-- A process is waited for, and something may be written to the log. -/
theorem Watched.call_cases {table : Descriptors} {stamp : String} {pid : Pid} {calls : List Call}
    {last : ChildEvent} (h : Watched table stamp pid calls last) :
    ∀ call ∈ calls, call.isWrite = true ∨ ∃ event, call = .wait pid table event := by
  intro call hcall
  induction h with
  | settled event final => exact Or.inr ⟨event, List.mem_singleton.1 hcall⟩
  | again event last notes calls pending hnotes h ih =>
    rcases List.mem_cons.1 hcall with rfl | hmem
    · exact Or.inr ⟨event, rfl⟩
    · rcases List.mem_append.1 hmem with hmem | hmem
      · exact Or.inl (hnotes.isWrite call hmem)
      · exact ih hmem

/-- The process of a stage is waited for, if there is one, and something may be written to the
log. -/
theorem Reaped.call_cases {table : Descriptors} {stamp : String} {state : StageState}
    {outcome : StageOutcome} {calls : List Call} (h : Reaped table stamp state outcome calls) :
    ∀ call ∈ calls, call.isWrite = true ∨
      ∃ pid event, state.process? = some pid ∧ call = .wait pid table event := by
  intro call hcall
  cases h with
  | settled outcome => cases hcall
  | ended pid calls last status h hlast =>
    exact (h.call_cases call hcall).imp_right fun ⟨event, heq⟩ => ⟨pid, event, rfl, heq⟩
  | lost pid calls notes last errno h hlast hnotes =>
    rcases List.mem_append.1 hcall with hmem | hmem
    · exact (h.call_cases call hmem).imp_right fun ⟨event, heq⟩ => ⟨pid, event, rfl, heq⟩
    · exact Or.inl (hnotes.isWrite call hmem)
  | buried pid reason calls notes last h hnotes =>
    rcases List.mem_append.1 hcall with hmem | hmem
    · exact (h.call_cases call hmem).imp_right fun ⟨event, heq⟩ => ⟨pid, event, rfl, heq⟩
    · exact Or.inl (hnotes.isWrite call hmem)

namespace ReapedAll

variable {table : Descriptors} {stamp : String} {states : List StageState}
  {outcomes : List StageOutcome} {segments : List (List Call)}

/-- While stages are waited for, nothing is asked for but waits and writing to the log. -/
theorem call_cases (h : ReapedAll table stamp states outcomes segments) :
    ∀ call ∈ segments.flatten, call.isWrite = true ∨ ∃ pid event, call = .wait pid table event := by
  induction h with
  | nil => intro call hcall; cases hcall
  | cons state outcome calls states outcomes segments h hrest ih =>
    intro call hcall
    rw [List.flatten_cons, List.mem_append] at hcall
    rcases hcall with hcall | hcall
    · exact (h.call_cases call hcall).imp_right fun ⟨pid, event, _, heq⟩ => ⟨pid, event, heq⟩
    · exact ih call hcall

theorem length_eq (h : ReapedAll table stamp states outcomes segments) :
    outcomes.length = states.length ∧ segments.length = states.length := by
  induction h with
  | nil => exact ⟨rfl, rfl⟩
  | cons state outcome calls states outcomes segments h hrest ih =>
    exact ⟨congrArg (· + 1) ih.1, congrArg (· + 1) ih.2⟩

/-- The outcome of a stage is learned from its own segment. -/
theorem get (h : ReapedAll table stamp states outcomes segments) {i : Nat} {state : StageState}
    (hi : states[i]? = some state) :
    ∃ outcome calls, outcomes[i]? = some outcome ∧ segments[i]? = some calls ∧
      Reaped table stamp state outcome calls := by
  induction h generalizing i with
  | nil => cases hi
  | cons first outcome calls states outcomes segments h hrest ih =>
    cases i with
    | zero =>
      cases hi
      exact ⟨outcome, calls, rfl, rfl, h⟩
    | succ i => exact ih hi

end ReapedAll

section

variable [Kernel σ]

/-- A request to wait tells the system of the descriptors of the shell. -/
theorem between_wait (pid : Pid) (s : ShellState (Recorded σ)) :
    Between s (s.withHost (Kernel.wait pid s.descriptors s.surroundings.host).2)
      [.wait pid s.descriptors (Kernel.wait pid s.descriptors s.surroundings.host).1] :=
  ⟨Recorded.continued_record s.surroundings.host rfl, rfl, rfl, Nat.le_refl _⟩

/-- A process is waited for up to its final answer, which decides what comes of it. -/
theorem between_waitTerminal (pid : Pid) (s : ShellState (Recorded σ)) :
    ∃ calls last, Between s (waitTerminal pid s).2 calls ∧
      Watched s.descriptors s.log.stamp pid calls last ∧
      ((∃ status, last.answer = .ended status ∧ (waitTerminal pid s).1 = .ok status) ∨
        ∃ errno, last.answer = .failed errno ∧
          (waitTerminal pid s).1 = .error (.wait pid errno)) := by
  fun_induction waitTerminal pid s with
  | case1 s answer status h =>
    exact ⟨_, answer.1, between_wait pid s, .settled answer.1 (by rw [ChildEvent.isFinal, h]),
      Or.inl ⟨status, h, rfl⟩⟩
  | case2 s answer errno h =>
    exact ⟨_, answer.1, between_wait pid s, .settled answer.1 (by rw [ChildEvent.isFinal, h]),
      Or.inr ⟨errno, h, rfl⟩⟩
  | case3 s answer h hless ih =>
    obtain ⟨calls, last, hbetween, hwatched, hresult⟩ := ih
    exact ⟨_, last, (between_wait pid s).trans hbetween,
      .again answer.1 last [] calls (by rw [ChildEvent.isFinal, h]) (Noted.nil _ _) hwatched,
      hresult⟩
  | case4 s answer notice h hless ih =>
    obtain ⟨calls, last, hbetween, hwatched, hresult⟩ := ih
    obtain ⟨notes, hnotes, hnoted⟩ :=
      between_note (.notTerminal pid notice) (s.withHost answer.2)
    rw [hnotes.log_eq, (quiet_note (.notTerminal pid notice) (s.withHost answer.2)).1] at hwatched
    refine ⟨_, last, (between_wait pid s).trans (hnotes.trans hbetween), ?_, hresult⟩
    exact .again answer.1 last notes calls (by rw [ChildEvent.isFinal, h]) hnoted hwatched

/-- The outcome of a stage is learned. -/
theorem between_reap (state : StageState) (s : ShellState (Recorded σ)) :
    ∃ calls, Between s (state.reap s).2 calls ∧
      Reaped s.descriptors s.log.stamp state (state.reap s).1 calls := by
  cases state with
  | settled outcome => exact ⟨[], Between.refl s, .settled outcome⟩
  | running pid =>
    obtain ⟨calls, last, hbetween, hwatched, hresult⟩ := between_waitTerminal pid s
    have hdescriptors := (quiet_waitTerminal pid s).1
    rw [StageState.reap, bind_apply]
    rcases hresult with ⟨status, hlast, hresult⟩ | ⟨errno, hlast, hresult⟩
    · rw [hresult]
      exact ⟨calls, hbetween, .ended pid calls last status hwatched hlast⟩
    · rw [hresult]
      obtain ⟨notes, hnotes, hnoted⟩ :=
        between_note (.stageNotReaped pid (.wait pid errno)) (waitTerminal pid s).2
      rw [hbetween.log_eq, hdescriptors] at hnoted
      exact ⟨_, hbetween.trans hnotes, .lost pid calls notes last errno hwatched hlast hnoted⟩
  | execFailed pid reason =>
    obtain ⟨calls, last, hbetween, hwatched, hresult⟩ := between_waitTerminal pid s
    have hdescriptors := (quiet_waitTerminal pid s).1
    rw [StageState.reap, bind_apply]
    rcases hresult with ⟨status, hlast, hresult⟩ | ⟨errno, hlast, hresult⟩
    · rw [hresult]
      exact ⟨_, hbetween.trans (Between.refl _),
        .buried pid reason calls [] last hwatched (Noted.nil _ _)⟩
    · rw [hresult]
      obtain ⟨notes, hnotes, hnoted⟩ :=
        between_note (.failedStageNotReaped pid (.wait pid errno)) (waitTerminal pid s).2
      rw [hbetween.log_eq, hdescriptors] at hnoted
      exact ⟨_, hbetween.trans hnotes, .buried pid reason calls notes last hwatched hnoted⟩

/-- The outcomes of all stages are learned in order. -/
theorem between_reapAll (states : List StageState) (s : ShellState (Recorded σ)) :
    ∃ segments : List (List Call), Between s (reapAll states s).2 segments.flatten ∧
      ReapedAll s.descriptors s.log.stamp states (reapAll states s).1 segments := by
  induction states generalizing s with
  | nil => exact ⟨[], Between.refl s, .nil⟩
  | cons state rest ih =>
    obtain ⟨calls, hbetween, hreaped⟩ := between_reap state s
    obtain ⟨segments, hrest, hall⟩ := ih (state.reap s).2
    rw [(quiet_reap state s).1, hbetween.log_eq] at hall
    exact ⟨calls :: segments, hbetween.trans hrest,
      .cons state _ calls rest _ segments hreaped hall⟩

/-- What the log is told of the outcomes. -/
theorem between_noteFinished (index : Nat) (outcomes : List StageOutcome)
    (s : ShellState (Recorded σ)) :
    ∃ notes, Between s (noteFinished index outcomes s).2 notes ∧
      Noted s.descriptors s.log.stamp notes := by
  induction outcomes generalizing index s with
  | nil => exact ⟨[], Between.refl s, Noted.nil _ _⟩
  | cons outcome rest ih =>
    cases outcome with
    | aborted error => exact ih (index + 1) s
    | finished status =>
      obtain ⟨notes, hnotes, hnoted⟩ := between_note (.stageFinished index status) s
      obtain ⟨more, hmore, hnoted'⟩ := ih (index + 1) (note (.stageFinished index status) s).2
      rw [hnotes.log_eq, (quiet_note (.stageFinished index status) s).1] at hnoted'
      exact ⟨notes ++ more, hnotes.trans hmore, hnoted.append hnoted'⟩

/-- The pipes between the stages are asked for one after the other, up to one that cannot be
made. -/
theorem between_allocate {made : PipeSet} {count : Nat} {s s' : ShellState (Recorded σ)}
    {answer : Except Errno PipeSet} (h : PipeSet.allocate made count s = (answer, s')) :
    (∃ pipes, answer = .ok pipes ∧ Between s s' (pipesMade s.fresh count)) ∨
      ∃ errno done, answer = .error errno ∧ done < count ∧
        Between s s' (pipesMade s.fresh done ++ [.makePipe (s.fresh + done) (.error errno)]) := by
  induction count generalizing made s with
  | zero =>
    cases h
    exact Or.inl ⟨made, rfl, Between.refl _⟩
  | succ count ih =>
    obtain ⟨pipe, s₁, hpipe, h⟩ := of_bind_eq h
    have hasked := between_makePipe hpipe
    cases pipe with
    | error errno =>
      obtain ⟨_, s₂, hclose, h⟩ := of_bind_eq h
      cases h
      exact Or.inr ⟨errno, 0, rfl, Nat.succ_pos count,
        (still_closeAll made.ends).follows hclose hasked⟩
    | ok ends =>
      have hfresh := (makePipe_ok hpipe).fresh
      rcases ih h with ⟨pipes, rfl, hbetween⟩ | ⟨errno, done, rfl, hlt, hbetween⟩
      · rw [hfresh] at hbetween
        exact Or.inl ⟨pipes, rfl, hasked.trans hbetween⟩
      · rw [hfresh, Nat.add_assoc, Nat.add_comm 1 done] at hbetween
        exact Or.inr ⟨errno, done + 1, rfl, Nat.succ_lt_succ hlt, hasked.trans hbetween⟩

end

namespace Turn

variable [Kernel σ] {streams : Streams} {base s s' : ShellState (Recorded σ)}
  {row : List PipeEnds} {index : Nat} {stages : List Stage}

/-- A turn begins where the turns in front of it have ended. -/
theorem between_before_sequence (hrow : Standing base s row (index - 1) index) {j : Nat}
    {t : Turn σ}
    (h : (sequence streams row.length index (PipeSet.untaken row (index - 1) index) s
      stages)[j]? = some t) :
    Between s t.before (((sequence streams row.length index
      (PipeSet.untaken row (index - 1) index) s stages).take j).flatMap (transcript streams)) := by
  induction stages generalizing index s j with
  | nil => simp [sequence] at h
  | cons stage rest ih =>
    have hplaced := placed_next hrow stage
    have hfirst := (transcribed streams hplaced).1
    have hafter := hplaced.after streams
    rw [sequence, remaining_untaken] at h ⊢
    generalize hnext : next row.length index (PipeSet.untaken row (index - 1) index) stage s =
      turn at h hfirst hafter ⊢
    have hbefore : turn.before = s := by rw [← hnext]; rfl
    have hindex : turn.index = index := by rw [← hnext]; rfl
    rw [hbefore] at hfirst
    rw [hindex] at hafter
    cases hresult : turn.result streams with
    | error error =>
      simp only [hresult] at h ⊢
      cases j with
      | zero =>
        cases h
        rw [hbefore]
        exact Between.refl s
      | succ j => simp at h
    | ok state =>
      simp only [hresult] at h ⊢
      cases j with
      | zero =>
        cases h
        rw [hbefore]
        exact Between.refl s
      | succ j => exact hfirst.trans (ih hafter h)

/-- Starting the stages asks for what is asked for in the turns. -/
theorem between_spawnAll {states : List StageState} {fault : Option ShellError} {left : PipeSet}
    (hrow : Standing base s row (index - 1) index)
    (h : spawnAll streams row.length index (PipeSet.untaken row (index - 1) index) stages s =
      ((states, fault, left), s')) :
    Between s s' ((sequence streams row.length index (PipeSet.untaken row (index - 1) index) s
      stages).flatMap (transcript streams)) := by
  induction stages generalizing index s states with
  | nil =>
    cases h
    exact Between.refl _
  | cons stage rest ih =>
    have hplaced := placed_next hrow stage
    have hfirst := (transcribed streams hplaced).1
    have hafter := hplaced.after streams
    rw [spawnAll_cons, remaining_untaken] at h
    rw [sequence, remaining_untaken]
    generalize hnext : next row.length index (PipeSet.untaken row (index - 1) index) stage s =
      turn at h hfirst hafter ⊢
    have hbefore : turn.before = s := by rw [← hnext]; rfl
    have hindex : turn.index = index := by rw [← hnext]; rfl
    rw [hbefore] at hfirst
    rw [hindex] at hafter
    obtain ⟨answer, s₁, hrun, h⟩ := of_bind_eq h
    have hresult : turn.result streams = answer := by rw [result, hbefore, hrun]
    have hs₁ : turn.after streams = s₁ := by rw [Turn.after, hbefore, hrun]
    rw [hs₁] at hfirst hafter
    cases answer with
    | error error =>
      cases h
      simp only [hresult, List.flatMap_cons, List.flatMap_nil, List.append_nil]
      exact hfirst
    | ok state =>
      obtain ⟨⟨later, fault', left'⟩, s₂, hrest, h⟩ := of_bind_eq h
      cases h
      simp only [hresult, hs₁, List.flatMap_cons]
      exact hfirst.trans (ih hafter hrest)

end Turn

namespace Pipeline

variable [Kernel σ] {streams : Streams} {p : Pipeline} {s : ShellState (Recorded σ)}

/-- What comes of the run of a pipeline and all that is asked for in it. -/
inductive Transcript (streams : Streams) (p : Pipeline) (s : ShellState (Recorded σ)) :
    Except ShellError Report → List Call → Prop
  /-- One of the pipes between the stages cannot be made. -/
  | unpiped (errno : Errno) (done : Nat) (hdone : done < p.joints)
      (hturns : p.turns streams s = []) :
      Transcript streams p s (.error (.spawn 0 errno))
        (pipesMade s.fresh done ++ [.makePipe (s.fresh + done) (.error errno)])
  /-- All stages have their turns. -/
  | finished (states : List StageState) (outcomes : List StageOutcome)
      (notes later : List Call) (segments : List (List Call))
      (hresults : (p.turns streams s).map (Turn.result streams) = states.map .ok)
      (hall : (p.turns streams s).length = p.length)
      (hnotes : Noted s.descriptors s.log.stamp notes)
      (hreaped : ReapedAll s.descriptors s.log.stamp states outcomes segments)
      (hlater : Noted s.descriptors s.log.stamp later) :
      Transcript streams p s (.ok ⟨p.joints, outcomes⟩)
        (pipesMade s.fresh p.joints ++ notes ++
          (p.turns streams s).flatMap (Turn.transcript streams) ++ segments.flatten ++ later)
  /-- A turn with an error is the last one. -/
  | stopped (states : List StageState) (outcomes : List StageOutcome) (error : ShellError)
      (notes later : List Call) (segments : List (List Call))
      (hresults : (p.turns streams s).map (Turn.result streams) =
        states.map .ok ++ [.error error])
      (hnotes : Noted s.descriptors s.log.stamp notes)
      (hreaped : ReapedAll s.descriptors s.log.stamp states outcomes segments)
      (hlater : Noted s.descriptors s.log.stamp later) :
      Transcript streams p s (.error error)
        (pipesMade s.fresh p.joints ++ notes ++
          (p.turns streams s).flatMap (Turn.transcript streams) ++ segments.flatten ++ later)

/-- The run of a pipeline has one of the transcripts. -/
theorem execute_transcript {s' : ShellState (Recorded σ)} {result : Except ShellError Report}
    (h : p.execute streams s = (result, s')) :
    ∃ calls, Between s s' calls ∧ p.Transcript streams s result calls := by
  obtain ⟨answer, s₁, hallocate, h⟩ := of_bind_eq h
  rcases between_allocate hallocate with
    ⟨pipes, rfl, hmade⟩ | ⟨errno, done, rfl, hdone, hmade⟩
  · obtain ⟨row, hlength, hpipes, hstanding, -⟩ := standing_of_allocate hallocate
    obtain ⟨_, s₂, hnote, h⟩ := of_bind_eq h
    obtain ⟨⟨states, fault, left⟩, s₃, hspawn, h⟩ := of_bind_eq h
    obtain ⟨_, s₄, hclose, h⟩ := of_bind_eq h
    obtain ⟨outcomes, s₅, hreap, h⟩ := of_bind_eq h
    obtain ⟨_, s₆, hfinished, h⟩ := of_bind_eq h
    have hquiet := (quiet_note (.allocatedPipeline p.length pipes.size) s₁).1
    rw [hnote] at hstanding hquiet
    obtain ⟨notes, hnotes, hnoted, -⟩ := noted_of_keeps hmade rfl
      (fun slot hslot => hquiet ▸ hstanding.exchanged.keeps hslot) hnote
    -- What the shell has when it waits is what it had at the beginning.
    have hbalanced : s₄.descriptors = s.descriptors := by
      have htraded : Exchanged s₂ s₃ pipes.ends left.ends := by
        have htrades := trades_spawnAll streams p.joints 0 pipes p.stages s₂
        rwa [hspawn] at htrades
      have hclosed : Exchanged s₃ s₄ left.ends [] := by
        have htrades := left.trades_close s₃
        rwa [hclose] at htrades
      have hall := hstanding.exchanged
      rw [← hpipes] at hall
      simpa using ((hall.trans htraded).trans hclosed).balance []
    have hturns : p.turns streams s = Turn.sequence streams row.length 0
        (PipeSet.untaken row 0 0) s₂ p.stages := by
      rw [turns, hallocate]
      simp only [hnote]
      rw [hlength, hpipes]
    rw [← hlength, hpipes] at hspawn
    have hspawned := Turn.between_spawnAll hstanding hspawn
    obtain ⟨hresults, -⟩ := Turn.spawnAll_sequence hstanding hspawn
    rw [← hturns] at hresults hspawned
    have hstarted := (still_closeAll left.ends).follows hclose (hnotes.trans hspawned)
    obtain ⟨segments, hwaited, hreaped⟩ := between_reapAll states s₄
    rw [hreap] at hwaited hreaped
    obtain ⟨later, hlater, hnotedLater⟩ := between_noteFinished 0 outcomes s₅
    have hkept := (quiet_reapAll states s₄).1
    rw [hreap] at hkept
    rw [hfinished] at hlater
    rw [hbalanced, hstarted.log_eq] at hreaped
    rw [hwaited.log_eq, hstarted.log_eq, hkept, hbalanced] at hnotedLater
    have hall := (hstarted.trans hwaited).trans hlater
    cases fault with
    | none =>
      cases h
      rw [hpipes, PipeSet.size_untaken, hlength]
      rw [Option.toList_none, List.map_nil, List.append_nil] at hresults
      have hcomplete : (p.turns streams s).length = p.length := by
        rw [hturns] at hresults ⊢
        refine Turn.length_sequence fun t ht => ?_
        have hmem := List.mem_map_of_mem (f := Turn.result streams) ht
        rw [hresults] at hmem
        obtain ⟨state, -, hstate⟩ := List.mem_map.1 hmem
        exact ⟨state, hstate.symm⟩
      exact ⟨_, hall, .finished states outcomes notes later segments hresults hcomplete hnoted
        hreaped hnotedLater⟩
    | some error =>
      cases h
      exact ⟨_, hall, .stopped states outcomes error notes later segments hresults hnoted
        hreaped hnotedLater⟩
  · cases h
    exact ⟨_, hmade, .unpiped errno done hdone (by rw [turns, hallocate])⟩

/-- What comes of the run of a pipeline, and all that is asked for in it, belong to one of the
transcripts. -/
theorem transcribed_execute (streams : Streams) (p : Pipeline) (s : ShellState (Recorded σ)) :
    Between s (p.execute streams s).2 ((p.execute streams).transcript s) ∧
      p.Transcript streams s (p.execute streams s).1 ((p.execute streams).transcript s) := by
  have hrun : p.execute streams s = ((p.execute streams s).1, (p.execute streams s).2) := rfl
  obtain ⟨calls, hbetween, htranscript⟩ := execute_transcript hrun
  rw [show (p.execute streams).transcript s = calls from hbetween.transcript_action_eq]
  exact ⟨hbetween, htranscript⟩

/-- A turn begins where the pipes were made and the turns in front of it have ended. -/
theorem between_before {i : Nat} {t : Turn σ} (h : (p.turns streams s)[i]? = some t) :
    ∃ notes, Noted s.descriptors s.log.stamp notes ∧
      Between s t.before (pipesMade s.fresh p.joints ++ notes ++
        ((p.turns streams s).take i).flatMap (Turn.transcript streams)) := by
  rw [turns] at h ⊢
  split at h
  · simp at h
  · next pipes s₁ hallocate =>
    obtain ⟨row, hlength, rfl, hstanding, -⟩ := standing_of_allocate hallocate
    rcases between_allocate hallocate with ⟨_, heq, hmade⟩ | ⟨errno, done, heq, -⟩
    · cases heq
      have hquiet := (quiet_note (.allocatedPipeline p.length
        (PipeSet.untaken row 0 0).size) s₁).1
      obtain ⟨notes, hnotes, hnoted, -⟩ := noted_of_keeps hmade rfl
        (fun slot hslot => hquiet ▸ hstanding.exchanged.keeps hslot) rfl
      rw [← hlength] at h ⊢
      exact ⟨notes, hnoted, (hlength ▸ hnotes).trans (Turn.between_before_sequence hstanding h)⟩
    · cases heq

/-- Every turn of a run has one of the transcripts, in the directory in which the run begins. -/
theorem transcript_of_mem_turns {t : Turn σ} (ht : t ∈ p.turns streams s) :
    Between t.before (t.after streams) (t.transcript streams) ∧
      t.Transcript streams s.descriptors (t.result streams) (t.transcript streams) ∧
      t.before.surroundings.directory = s.surroundings.directory ∧ t.before.log = s.log := by
  obtain ⟨row, -, hplaced⟩ := placed_turns streams p s
  obtain ⟨i, hi⟩ := List.getElem?_of_mem ht
  obtain ⟨notes, -, hbefore⟩ := between_before hi
  obtain ⟨hbetween, htranscript⟩ := Turn.transcribed streams (hplaced t ht)
  exact ⟨hbetween, htranscript, hbefore.directory_eq, hbefore.log_eq⟩

/-- A turn has come to the state that is kept for its stage, or to an error. -/
theorem state_or_fault {states : List StageState} {faults : List ShellError}
    (hresults : (p.turns streams s).map (Turn.result streams) =
      states.map .ok ++ faults.map .error) {i : Nat} {t : Turn σ}
    (hi : (p.turns streams s)[i]? = some t) :
    (∃ state, states[i]? = some state ∧ t.result streams = .ok state) ∨
      ∃ fault ∈ faults, t.result streams = .error fault := by
  have hget : (states.map Except.ok ++ faults.map Except.error)[i]? =
      some (t.result streams) := by
    rw [← hresults, List.getElem?_map, hi, Option.map_some]
  rw [List.getElem?_append] at hget
  split at hget
  · rw [List.getElem?_map] at hget
    obtain ⟨state, hstate, hok⟩ := Option.map_eq_some_iff.1 hget
    exact Or.inl ⟨state, hstate, hok.symm⟩
  · rw [List.getElem?_map] at hget
    obtain ⟨fault, hfault, herror⟩ := Option.map_eq_some_iff.1 hget
    exact Or.inr ⟨fault, List.mem_of_getElem? hfault, herror.symm⟩

/-- If no turn has come to an error, each has come to the state that is kept for its stage. -/
theorem exists_state {states : List StageState}
    (hresults : (p.turns streams s).map (Turn.result streams) = states.map .ok) {i : Nat}
    {t : Turn σ} (hi : (p.turns streams s)[i]? = some t) :
    ∃ state, states[i]? = some state ∧ t.result streams = .ok state := by
  have hall : (p.turns streams s).map (Turn.result streams) =
      states.map .ok ++ ([] : List ShellError).map .error := by
    rw [hresults, List.map_nil, List.append_nil]
  rcases state_or_fault hall hi with hstate | ⟨fault, hmem, -⟩
  · exact hstate
  · cases hmem

end Pipeline

end CommandShell
