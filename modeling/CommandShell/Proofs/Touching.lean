import CommandShell.Proofs.LineTranscript
import CommandShell.Proofs.Outcomes
import CommandShell.Proofs.Targets

/-!
# What a line touches

Opening a file for writing empties it, so that it matters which files are opened, and when. A line
opens nothing but the targets of its redirections, stage by stage, the input of a stage before its
output, and the output only if the input could be opened. Main statement: whatever the line and
whatever the system answers, these files are touched in this order (`Interpreter.touching_execute`).
-/

namespace CommandShell

open Shell

variable {σ : Type}

/-- Whether a call opens a file, makes a process or reads, which is done for a stage only. -/
def Call.isForStage : Call → Bool
  | .openToRead _ _ _ _ => true
  | .openToWrite _ _ _ _ => true
  | .fork _ _ => true
  | .read _ _ _ _ => true
  | _ => false

/-- Whether a call opens a file for writing, or was to open one. -/
def Call.isWriting : Call → Bool
  | .openToWrite _ _ _ _ => true
  | _ => false

theorem Call.not_isOpening_of_isTransfer {call : Call} (h : call.isTransfer = true) :
    call.isOpening = false := by
  cases call <;> first | rfl | cases h

theorem Call.not_isForStage_of_isWrite {call : Call} (h : call.isWrite = true) :
    call.isForStage = false := by
  cases call <;> first | rfl | cases h

/-! ## Openings -/

section

variable {start : Directory} {stage : Stage} {calls : List Call}
  {failure : Option (String × Fault)}

theorem Targeted.not_isWriting {path : Option String}
    (h : Targeted .openToRead start path calls failure) :
    ∀ call ∈ calls, call.isWriting = false := by
  intro call hcall
  cases h with
  | absent => cases hcall
  | unnamed path h => cases hcall
  | opened path number h =>
    rw [List.mem_singleton.1 hcall]
    rfl
  | refused path number errno h =>
    rw [List.mem_singleton.1 hcall]
    rfl

/-- If the input of a stage cannot be opened, its output is left alone. -/
theorem Openings.spared (h : Openings start stage calls failure)
    (hunfed : targetFault? Call.unread? calls stage.input ≠ none) :
    failure ≠ none ∧ ∀ call ∈ calls, call.isWriting = false := by
  have hnothing : ([] : List Call).findSome? Call.unread? = none := rfl
  cases h with
  | unfed calls failure h => exact ⟨Option.some_ne_none failure, h.not_isWriting⟩
  | fed calls more failure h h' =>
    have hfault := h.targetFault?_eq (fun _ _ _ => rfl) (fun _ _ _ _ => rfl) hnothing h'.not_unread
    exact absurd hfault hunfed

end

/-! ## Stages -/

namespace Turn

variable [Kernel σ]

/-- What the turn of a stage touches. -/
structure Touches (streams : Streams) (start : Directory) (t : Turn σ) : Prop where
  /-- The targets of the stage are opened first, and nothing else is opened. If one of them cannot
  be opened, nothing follows but records of the log. -/
  opens : ∃ openings rest failure, t.transcript streams = openings ++ rest ∧
    Openings start t.stage openings failure ∧ (∀ call ∈ rest, call.isOpening = false) ∧
    (failure ≠ none → ∀ call ∈ rest, call.isTransfer = true)
  /-- If the input cannot be opened, the output is left alone and no process is made. -/
  spared : targetFault? Call.unread? (t.transcript streams) t.stage.input ≠ none →
    ∀ call ∈ t.transcript streams,
      call.isWriting = false ∧ ∀ table answer, call ≠ .fork table answer

variable {streams : Streams} {t : Turn σ} {table : Descriptors}
  {result : Except ShellError StageState} {calls : List Call}

/-- In a turn the targets of the stage are opened before anything else. What comes of the turn tells
whether one of them could not be opened. -/
theorem Transcript.opens (h : t.Transcript streams table result calls) :
    ∃ openings rest failure, calls = openings ++ rest ∧
      Openings t.before.surroundings.directory t.stage openings failure ∧
      (∀ call ∈ rest, call.isOpening = false) ∧
      (failure ≠ none → ∀ call ∈ rest, call.isTransfer = true) ∧
      ∀ path fault, failure = some (path, fault) ↔
        result = .ok (.settled (.aborted (.io path fault))) := by
  have htransfer : ∀ {calls : List Call}, (∀ call ∈ calls, call.isTransfer = true) →
      ∀ call ∈ calls, call.isOpening = false := fun hcalls call hcall =>
    Call.not_isOpening_of_isTransfer (hcalls call hcall)
  cases h with
  | unopened path fault openings notes hopenings hnotes =>
    exact ⟨openings, notes, _, rfl, hopenings, htransfer hnotes.isTransfer,
      fun _ => hnotes.isTransfer, by simp⟩
  | unpassable reason openings hopenings h =>
    exact ⟨calls, [], none, (List.append_nil _).symm, hopenings, by simp, by simp, by simp⟩
  | unheard pipe errno openings hopenings hpipe =>
    exact ⟨openings, _, none, rfl, hopenings, by simp [Call.isOpening], by simp, by simp⟩
  | unborn pipe forking errno openings notes hopenings hpipe hnotes =>
    refine ⟨openings, _, none, rfl, hopenings, fun call hcall => ?_, by simp, by simp⟩
    simp only [List.mem_cons] at hcall
    rcases hcall with rfl | rfl | hcall
    · rfl
    · rfl
    · exact htransfer hnotes.isTransfer call hcall
  | forked arguments io report equipped forking openings notes course reads later pid failure heard
      ready hopenings hnotes hreached hcourse hheard hlater =>
    have hstate : ∀ outcome, StageState.heard t.stage.program pid (heardErrno heard) ≠
        .settled outcome := by
      intro outcome
      cases heardErrno heard <;> simp [StageState.heard]
    refine ⟨openings, _, none, rfl, hopenings, fun call hcall => ?_, by simp, by simp [hstate]⟩
    simp only [List.mem_append, List.mem_cons] at hcall
    rcases hcall with rfl | rfl | ((hcall | hcall) | hcall) | hcall
    · rfl
    · rfl
    · exact htransfer hnotes.isTransfer call hcall
    · exact hcourse.not_isOpening call hcall
    · exact htransfer hheard.isTransfer call hcall
    · exact htransfer hlater.isTransfer call hcall

theorem Transcript.touches (h : t.Transcript streams table result (t.transcript streams)) :
    t.Touches streams t.before.surroundings.directory := by
  obtain ⟨openings, rest, failure, hcalls, hopenings, hrest, hidle, -⟩ := h.opens
  refine ⟨⟨openings, rest, failure, hcalls, hopenings, hrest, hidle⟩, fun hunfed => ?_⟩
  have hread : rest.findSome? Call.unread? = none := List.findSome?_eq_none_iff.2 fun call hcall =>
    Call.unread?_of_not_isOpening (hrest call hcall)
  have hsame : targetFault? Call.unread? (t.transcript streams) t.stage.input =
      targetFault? Call.unread? openings t.stage.input := by
    cases t.stage.input with
    | none => rfl
    | some path => rw [targetFault?, targetFault?, hcalls, List.findSome?_append, hread,
        Option.or_none]
  rw [hsame] at hunfed
  obtain ⟨hfailure, hspared⟩ := hopenings.spared hunfed
  intro call hcall
  rw [hcalls] at hcall
  rcases List.mem_append.1 hcall with hcall | hcall
  · refine ⟨hspared call hcall, fun table answer heq => ?_⟩
    have hopening := hopenings.isOpening call hcall
    rw [heq] at hopening
    cases hopening
  · refine ⟨?_, fun table answer heq => ?_⟩
    · have hclosed := hrest call hcall
      cases call <;> first | rfl | cases hclosed
    · have htransfer := hidle hfailure call hcall
      rw [heq] at htransfer
      cases htransfer

end Turn

/-! ## Lines of programs -/

/-- What a line of programs touches, when its stages have some turns. -/
structure Touched [Kernel σ] (streams : Streams) (p : Pipeline) (start : Directory)
    (table : Descriptors) (calls : List Call) (turns : List (Turn σ)) : Prop where
  /-- What is asked for in the turns stands one behind the other. Neither in front of the turns nor
  behind them anything is opened, made or read for a stage. There is no turn if a pipe between the
  stages could not be made, and otherwise the turns go on up to the last stage, or up to a turn in
  which a pipe or a process could not be made. -/
  sequence : ∃ before after, calls = before ++ turns.flatMap (Turn.transcript streams) ++ after ∧
    (∀ call ∈ before ++ after, call.isForStage = false) ∧
    ((∃ call ∈ before, call.refusal? ≠ none) → turns = []) ∧
    ((∀ call ∈ before, call.refusal? = none) → turns.length = p.length ∨
      ∃ t, turns.getLast? = some t ∧ ∃ call ∈ t.transcript streams, call.refusal? ≠ none)
  /-- The turns follow the order of the stages. -/
  order : ∀ (i : Nat) (t : Turn σ), turns[i]? = some t → t.index = i ∧ p.stages[i]? = some t.stage
  /-- A turn in which a pipe or a process could not be made is the last one. -/
  last : ∀ (i : Nat) (t : Turn σ), turns[i]? = some t →
    (∃ call ∈ t.transcript streams, call.refusal? ≠ none) → turns.length = i + 1
  /-- In a turn nothing is touched but the targets of its stage. -/
  turn : ∀ t ∈ turns, t.Touches streams start
  /-- The process of a stage is made in its turn, behind the targets, and its report is read. -/
  process : ∀ t ∈ turns, t.Transcript streams table (t.result streams) (t.transcript streams)

namespace Pipeline

variable [Kernel σ] {streams : Streams} {p : Pipeline} {s : ShellState (Recorded σ)}

/-- In every turn of a run nothing is touched but the targets of its stage. -/
theorem touches_of_mem_turns {t : Turn σ} (ht : t ∈ p.turns streams s) :
    t.Touches streams s.surroundings.directory := by
  obtain ⟨-, htranscript, hdirectory, -⟩ := transcript_of_mem_turns ht
  rw [← hdirectory]
  exact htranscript.touches

/-- A turn of a run in which a pipe or a process could not be made comes to an error. -/
theorem refused_iff_of_mem_turns {t : Turn σ} (ht : t ∈ p.turns streams s) :
    (∃ call ∈ t.transcript streams, call.refusal? ≠ none) ↔
      ∃ error, t.result streams = .error error :=
  (transcript_of_mem_turns ht).2.1.refused_iff

/-- A turn in which a pipe or a process could not be made is the last one of a run. -/
theorem length_turns_of_refused {i : Nat} {t : Turn σ} (hi : (p.turns streams s)[i]? = some t)
    (hrefused : ∃ call ∈ t.transcript streams, call.refusal? ≠ none) :
    (p.turns streams s).length = i + 1 := by
  obtain ⟨error, herror⟩ := (refused_iff_of_mem_turns (List.mem_of_getElem? hi)).1 hrefused
  have hresult : ((p.turns streams s).map (Turn.result streams))[i]? = some (.error error) := by
    rw [List.getElem?_map, hi, Option.map_some, herror]
  have htranscript := (transcribed_execute streams p s).2
  generalize (p.execute streams s).1 = result at htranscript
  generalize (p.execute streams).transcript s = calls at htranscript
  cases htranscript with
  | unpiped errno done hdone hturns =>
    rw [hturns] at hi
    cases hi
  | finished states outcomes notes later segments hresults hall hnotes hreaped hlater =>
    rw [hresults, List.getElem?_map] at hresult
    obtain ⟨state, -, hstate⟩ := Option.map_eq_some_iff.1 hresult
    cases hstate
  | stopped states outcomes error notes later segments hresults hnotes hreaped hlater =>
    have hlength := congrArg List.length hresults
    rw [List.length_map, List.length_append, List.length_map] at hlength
    rw [hresults] at hresult
    rcases Nat.lt_or_ge i states.length with hlt | hge
    · rw [List.getElem?_append_left (by simpa using hlt), List.getElem?_map] at hresult
      obtain ⟨state, -, hstate⟩ := Option.map_eq_some_iff.1 hresult
      cases hstate
    · obtain ⟨hlt, -⟩ := List.getElem?_eq_some_iff.1 hi
      rw [hlength, List.length_singleton] at hlt ⊢
      omega

/-- What is asked for in a run, with something in front of it and behind it that is for no stage. -/
theorem touched_execute (streams : Streams) (p : Pipeline) (s : ShellState (Recorded σ))
    {notes complaints : List Call} (hnotes : ∀ call ∈ notes, call.isWrite = true)
    (hcomplaints : ∀ call ∈ complaints, call.isWrite = true) :
    Touched streams p s.surroundings.directory s.descriptors
      (notes ++ (p.execute streams).transcript s ++ complaints) (p.turns streams s) := by
  have hwritten : ∀ {calls : List Call}, (∀ call ∈ calls, call.isWrite = true) →
      ∀ call ∈ calls, call.isForStage = false ∧ call.refusal? = none := by
    intro calls hcalls call hcall
    exact ⟨Call.not_isForStage_of_isWrite (hcalls call hcall),
      Call.refusal?_of_isTransfer (Call.isTransfer_of_isWrite (hcalls call hcall))⟩
  have hmade : ∀ {first count : Nat}, ∀ call ∈ pipesMade first count,
      call.isForStage = false ∧ call.refusal? = none := by
    intro first count call hcall
    obtain ⟨pipe, -, rfl⟩ := List.mem_map.1 hcall
    exact ⟨rfl, rfl⟩
  -- Whether or not a turn comes to an error, the turns stand between the pipes and the waits.
  have hstaged : ∀ (states : List StageState) (outcomes : List StageOutcome)
      (before later : List Call) (segments : List (List Call)),
      Noted s.descriptors s.log.stamp before → Noted s.descriptors s.log.stamp later →
      ReapedAll s.descriptors s.log.stamp states outcomes segments →
      ((p.turns streams s).length = p.length ∨ ∃ t, (p.turns streams s).getLast? = some t ∧
        ∃ call ∈ t.transcript streams, call.refusal? ≠ none) →
      Touched streams p s.surroundings.directory s.descriptors
        (notes ++ (pipesMade s.fresh p.joints ++ before ++
          (p.turns streams s).flatMap (Turn.transcript streams) ++ segments.flatten ++ later) ++
            complaints) (p.turns streams s) := by
    intro states outcomes before later segments hbefore hlater hreaped hextent
    refine ⟨⟨notes ++ (pipesMade s.fresh p.joints ++ before),
      segments.flatten ++ later ++ complaints, by simp, fun call hcall => ?_, ?_, fun _ => hextent⟩,
      fun i t hi => index_of_getElem?_turns hi, fun i t => length_turns_of_refused,
      fun t => touches_of_mem_turns, fun t ht => (transcript_of_mem_turns ht).2.1⟩
    · simp only [List.mem_append] at hcall
      rcases hcall with (hcall | hcall | hcall) | (hcall | hcall) | hcall
      · exact (hwritten hnotes call hcall).1
      · exact (hmade call hcall).1
      · exact (hwritten hbefore.isWrite call hcall).1
      · rcases hreaped.call_cases call hcall with hwrite | ⟨pid, event, rfl⟩
        · exact Call.not_isForStage_of_isWrite hwrite
        · rfl
      · exact (hwritten hlater.isWrite call hcall).1
      · exact (hwritten hcomplaints call hcall).1
    · rintro ⟨call, hcall, hrefused⟩
      simp only [List.mem_append] at hcall
      rcases hcall with hcall | hcall | hcall
      · exact absurd (hwritten hnotes call hcall).2 hrefused
      · exact absurd (hmade call hcall).2 hrefused
      · exact absurd (hwritten hbefore.isWrite call hcall).2 hrefused
  have htranscript := (transcribed_execute streams p s).2
  generalize (p.execute streams s).1 = result at htranscript
  generalize (p.execute streams).transcript s = calls at htranscript
  cases htranscript with
  | unpiped errno done hdone hturns =>
    refine ⟨⟨notes ++ (pipesMade s.fresh done ++ [.makePipe (s.fresh + done) (.error errno)]),
      complaints, by rw [hturns]; simp, fun call hcall => ?_, fun _ => hturns, fun hnone => ?_⟩,
      fun i t hi => index_of_getElem?_turns hi, fun i t => length_turns_of_refused,
      fun t => touches_of_mem_turns, fun t ht => (transcript_of_mem_turns ht).2.1⟩
    · simp only [List.mem_append, List.mem_singleton] at hcall
      rcases hcall with (hcall | hcall | rfl) | hcall
      · exact (hwritten hnotes call hcall).1
      · exact (hmade call hcall).1
      · rfl
      · exact (hwritten hcomplaints call hcall).1
    · cases hnone (.makePipe (s.fresh + done) (.error errno)) (by simp)
  | finished states outcomes before later segments hresults hall hbefore hreaped hlater =>
    exact hstaged states outcomes before later segments hbefore hlater hreaped (Or.inl hall)
  | stopped states outcomes error before later segments hresults hbefore hreaped hlater =>
    refine hstaged states outcomes before later segments hbefore hlater hreaped (Or.inr ?_)
    have hlast := congrArg List.getLast? hresults
    rw [List.getLast?_map, List.getLast?_concat] at hlast
    obtain ⟨t, ht, herror⟩ := Option.map_eq_some_iff.1 hlast
    exact ⟨t, ht, (refused_iff_of_mem_turns (List.mem_of_getLast? ht)).2 ⟨error, herror⟩⟩

end Pipeline

/-! ## Lines -/

namespace Interpreter

variable [Kernel σ]

/-- A builtin line that comes to an error has not asked its handler, so that it would come to the
same with another one. -/
theorem execute_eq_of_error {sh other : Interpreter σ} {line : String} {s : ShellState σ}
    {p : Pipeline} {handler handler' : Handler σ} {stage : Stage} {error : ShellError}
    (hparse : Pipeline.ofTokens (Token.scan line) = .ok p)
    (hroute : sh.route p = some (handler, stage)) (hother : other.route p = some (handler', stage))
    (h : (sh.execute line s).1 = .error error) : other.execute line s = sh.execute line s := by
  simp only [execute, bind_apply, hparse] at h ⊢
  split
  · rfl
  · next hblank =>
    rw [if_neg hblank] at h
    simp only [dispatch, hroute, hother, bind_apply, runBuiltin_eq] at h ⊢
    generalize (note (.runningBuiltin stage.program)
      (note (.tokenized (Token.scan line)) (recover s).2).2).2 = ready at h ⊢
    rcases hopen : openTargets stage ready with ⟨failure | output, opened⟩
    · rfl
    · rw [hopen] at h
      cases h

/-- What a builtin line touches: the targets of its stage, and the handler is asked behind that. -/
inductive Served (sh : Interpreter (Recorded σ)) (line : String) (s : ShellState (Recorded σ))
    (p : Pipeline) (handler : Handler (Recorded σ)) (stage : Stage) : Prop
  /-- A target cannot be opened. The handler is not asked: it would make no difference if the name
  stood for another one. -/
  | unopened (path : String) (fault : Fault) (notes openings : List Call)
      (hcalls : (sh.execute line).transcript s = notes ++ openings)
      (hnotes : Noted s.descriptors s.log.stamp notes)
      (hopenings : Openings s.surroundings.directory stage openings (some (path, fault)))
      (hspared : targetFault? Call.unread? openings stage.input ≠ none →
        ∀ call ∈ openings, call.isWriting = false)
      (hresult : (sh.execute line s).1 = .error (.io path fault))
      (hunasked : ∀ (other : Interpreter (Recorded σ)) (handler' : Handler (Recorded σ)),
        other.route p = some (handler', stage) → other.execute line s = sh.execute line s)
  /-- Both targets are open when the handler is asked. What follows only moves bytes. -/
  | asked (opened : ShellState (Recorded σ)) (output : Option Fd)
      (notes openings deliveries : List Call)
      (hbefore : Between s opened (notes ++ openings))
      (hnotes : Noted s.descriptors s.log.stamp notes)
      (hopenings : Openings s.surroundings.directory stage openings none)
      (hresult : sh.execute line s = (.ok (sh.respond handler stage output opened).1,
        (sh.respond handler stage output opened).2))
      (hafter : Between (sh.consult handler stage opened).2 (sh.execute line s).2 deliveries)
      (hdeliveries : ∀ call ∈ deliveries, call.isTransfer = true)

/-- Which files a line touches, and in which order. -/
structure Touches (sh : Interpreter (Recorded σ)) (line : String) (s : ShellState (Recorded σ)) :
    Prop where
  /-- A blank line and a malformed line ask for nothing but the log. -/
  idle : (Token.scan line = [] ∨ ∃ fault, Pipeline.ofTokens (Token.scan line) = .error fault) →
    Noted s.descriptors s.log.stamp ((sh.execute line).transcript s)
  /-- A builtin opens the targets of its stage before its handler is asked. -/
  builtin : ∀ (p : Pipeline) (handler : Handler (Recorded σ)) (stage : Stage),
    Pipeline.ofTokens (Token.scan line) = .ok p → sh.route p = some (handler, stage) →
      sh.Served line s p handler stage
  /-- A line of programs opens the targets of its stages, one stage after the other. -/
  programs : ∀ p, Pipeline.ofTokens (Token.scan line) = .ok p → sh.route p = none →
    ∃ turns : List (Turn σ), Touched sh.streams p s.surroundings.directory s.descriptors
      ((sh.execute line).transcript s) turns
  /-- A stage has the last target of each direction in its part of the line, and no other one. -/
  targets : ∀ p, Pipeline.ofTokens (Token.scan line) = .ok p →
    ∀ (i : Nat) (stage : Stage), p.stages[i]? = some stage →
      ∃ part, (Token.parts (Token.scan line))[i]? = some part ∧
        stage.input = (Token.targets .input part).getLast? ∧
        stage.output = (Token.targets .output part).getLast?

section

variable {sh : Interpreter (Recorded σ)} {line : String} {s s' : ShellState (Recorded σ)}
  {result : Except ShellError Outcome} {p : Pipeline}

/-- A line that is blank or malformed is only noted. -/
theorem Transcript.noted_of_idle (h : sh.Transcript line s s' result)
    (hrun : sh.execute line s = (result, s'))
    (hidle : Token.scan line = [] ∨ ∃ fault, Pipeline.ofTokens (Token.scan line) = .error fault) :
    Noted s.descriptors s.log.stamp ((sh.execute line).transcript s) := by
  suffices hnoted : ∃ notes, Noted s.descriptors s.log.stamp notes ∧ Between s s' notes by
    obtain ⟨notes, hnotes, hbetween⟩ := hnoted
    rwa [Between.transcript_action_eq (by rw [hrun]; exact hbetween)]
  by_cases hblank : Token.scan line = []
  · obtain ⟨-, notes, hnotes, hbetween, -⟩ := h.of_blank hblank
    exact ⟨notes, hnotes, hbetween⟩
  · obtain ⟨fault, hfault⟩ := hidle.resolve_left hblank
    obtain ⟨-, notes, hnotes, hbetween, -⟩ := h.of_malformed hblank hfault
    exact ⟨notes, hnotes, hbetween⟩

/-- A builtin is served as soon as its targets are open. -/
theorem Transcript.served (h : sh.Transcript line s s' result)
    (hrun : sh.execute line s = (result, s')) {handler : Handler (Recorded σ)} {stage : Stage}
    (hparse : Pipeline.ofTokens (Token.scan line) = .ok p)
    (hroute : sh.route p = some (handler, stage)) : sh.Served line s p handler stage := by
  rcases h.of_builtin hparse hroute with
    ⟨path, fault, notes, openings, rfl, hnotes, hopenings, hbetween, -⟩ |
    ⟨opened, output, outcome, notes, openings, deliveries, rfl, hnotes, hopenings, hbetween,
      hrespond, hdelivered, htransfer, -⟩
  · have hresult : (sh.execute line s).1 = .error (.io path fault) := by rw [hrun]
    exact .unopened path fault notes openings
      (Between.transcript_action_eq (by rw [hrun]; exact hbetween)) hnotes hopenings
      (fun hunfed => (hopenings.spared hunfed).2) hresult
      fun other handler' hother => execute_eq_of_error hparse hroute hother hresult
  · refine .asked opened output notes openings deliveries hbetween hnotes hopenings ?_ ?_ htransfer
    · rw [hrun, hrespond]
    · rwa [hrun]

/-- A line of programs touches what its pipeline touches. -/
theorem Transcript.touched (h : sh.Transcript line s s' result)
    (hrun : sh.execute line s = (result, s'))
    (hparse : Pipeline.ofTokens (Token.scan line) = .ok p) (hroute : sh.route p = none) :
    ∃ turns : List (Turn σ),
      Touched sh.streams p s.surroundings.directory s.descriptors ((sh.execute line).transcript s)
        turns := by
  obtain ⟨s₀, notes, complaints, -, hnotes, hbefore, hdescriptors, -, hcomplaints, hbetween⟩ :=
    h.of_programs hparse hroute
  rw [Between.transcript_action_eq (by rw [hrun]; exact hbetween), ← hbefore.directory_eq,
    ← hdescriptors]
  exact ⟨_, p.touched_execute sh.streams s₀ hnotes.isWrite hcomplaints.isWrite⟩

end

/-- Whatever the line and whatever the system answers, nothing is touched but the targets of its
stages, in their order. -/
theorem touching_execute (sh : Interpreter (Recorded σ)) (line : String)
    (s : ShellState (Recorded σ)) : sh.Touches line s := by
  have htranscript := sh.transcribed_execute line s
  exact ⟨htranscript.noted_of_idle rfl, fun p handler stage => htranscript.served rfl,
    fun p => htranscript.touched rfl, fun p hparse i stage => Pipeline.target_eq hparse⟩

end Interpreter

end CommandShell
