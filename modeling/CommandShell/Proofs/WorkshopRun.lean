import CommandShell.Proofs.WorkshopWaits

/-!
# Runs in a workshop

A pipeline is run in a workshop from the beginning to the end: the pipes between the stages are
made, the stages have their turns, and the shell waits for all processes. What the processes do in
the meantime is up to the schedule. Main statement: whatever the schedule is, the run leaves what
the evaluation of the stages from left to right leaves (`Task.sequential_execute`), provided that
nothing gets in the way of its streams (`Task.unmatched_of_presumed`).
-/

namespace CommandShell

open Shell

namespace Workshop

section

variable {setting : Setting} {w w' : Workshop} {c : Crew} {st : Station}

/-! ## Pipes between stages -/

/-- A pipe between two stages is made. -/
theorem Staffed.makePipe (h : Staffed setting w c) (hreport : c.report = none)
    (hlast : c.lastPipe = c.fresh) {answer : Except Errno Unit}
    (hcall : (Call.makePipe c.fresh answer).Answered w w') :
    answer = .ok () ∧
      Staffed setting w' { c with fresh := c.fresh + 1, lastPipe := c.fresh + 1 } := by
  obtain ⟨hc, hserves, hsetting⟩ := h.elapse
  cases hcall
  have hnone : ∀ pipe bytes, c.report ≠ some (pipe, bytes) := fun pipe bytes => by simp [hreport]
  have hle : c.lastPipe ≤ c.fresh + 1 := hlast ▸ Nat.le_succ c.fresh
  refine ⟨rfl, ?_, ?_, hsetting⟩
  · exact { hc.skip (Nat.le_succ c.fresh) with
      pipes := fun st hst pipe hpipe => ⟨(hc.pipes st hst pipe hpipe).1,
        Nat.lt_of_lt_of_le (hc.pipes st hst pipe hpipe).2 hle⟩
      pipes_awaited := fun pipe hpipe => ⟨(hc.pipes_awaited pipe hpipe).1,
        Nat.lt_of_lt_of_le (hc.pipes_awaited pipe hpipe).2 hle⟩
      lastPipe_le := Nat.le_refl _
      report := fun pipe bytes hsome => absurd hsome (hnone pipe bytes) }
  · have hkept := hserves.congr (v := { w.elapse with
      pipes := Function.update w.elapse.pipes c.fresh []
      pipeLimit := max w.elapse.pipeLimit (c.fresh + 1) }) hc rfl rfl rfl rfl (fun _ _ => rfl)
      (fun _ _ => rfl) (fun pipe hpipe => Function.update_of_ne (Nat.ne_of_lt (hlast ▸ hpipe)) _ _)
      (fun pipe bytes hsome => absurd hsome (hnone pipe bytes))
    refine { hkept with dry := fun pipe hfirst hpipe hunused => ?_ }
    rcases Nat.lt_or_eq_of_le (Nat.le_of_lt_succ hpipe) with hlt | rfl
    · exact hkept.dry pipe hfirst (hlast ▸ hlt) hunused
    · exact Function.update_self _ _ _

/-- The pipes between the stages are made. -/
theorem Staffed.makePipes (h : Staffed setting w c) (hreport : c.report = none)
    (hlast : c.lastPipe = c.fresh) {count : Nat}
    (hcalls : Replayed w (pipesMade c.fresh count) w') :
    Staffed setting w' { c with fresh := c.fresh + count, lastPipe := c.fresh + count } := by
  induction count generalizing w c with
  | zero =>
    cases hcalls
    cases c
    cases hlast
    exact h
  | succ count ih =>
    rw [pipesMade_succ] at hcalls
    obtain ⟨between, hcall, hrest⟩ := hcalls
    have hmade := ih (h.makePipe hreport hlast hcall).2 hreport rfl hrest
    rw [Nat.add_assoc, Nat.add_comm 1 count] at hmade
    exact hmade

/-! ## What a crew leaves -/

/-- When all programs have ended, the files are what they will be. -/
theorem Serves.files_of_ended (h : w.Serves c) (hc : c.Arranged)
    (hended : ∀ st ∈ c.stations, (w.jobAt st.job).isLive = false) : w.files = c.files := by
  funext target
  by_cases hwritten : ∃ st ∈ c.stations, st.outlet.file? = some target
  · obtain ⟨st, hst, htarget⟩ := hwritten
    have harrived := h.arrived st hst
    rw [h.written_of_ended hst (hended st hst)] at harrived
    rw [hc.filed st hst target htarget]
    cases houtlet : st.outlet with
    | stream number =>
      rw [houtlet] at htarget
      cases htarget
    | pipe pipe =>
      rw [houtlet] at htarget
      cases htarget
    | file number other =>
      rw [houtlet] at htarget harrived
      cases htarget
      exact harrived.2
  · exact h.kept target fun st hst htarget => hwritten ⟨st, hst, htarget⟩

/-- When all programs have ended, all processes have. -/
theorem Serves.all_ended (h : w.Serves c) (hforked : c.forked = none)
    (hended : ∀ st ∈ c.stations, (w.jobAt st.job).isLive = false) :
    ∀ job ∈ w.jobs, job.isLive = false := by
  intro job hjob
  obtain ⟨i, hlt, rfl⟩ := exists_jobAt hjob
  exact h.ended_of_stations hforked hlt fun st hst _ => hended st hst

end

namespace Task

variable {task : Task} {w w' : Workshop} {c : Crew} {i limit : Nat}

/-- When all programs of a run have ended, the last stream was given what the evaluation hands on in
the end. -/
theorem Awaited.printed_of_ended (hc : task.Awaited i c) (hi : task.pipeline.joints < i)
    (hquiet : ¬ c.noisy task.sink) (hserves : w.Serves c)
    (hended : ∀ st ∈ c.stations, (w.jobAt st.job).isLive = false) :
    w.printed task.sink = c.printed task.sink ++ (task.evaluated i).feed := by
  obtain ⟨hwritten, hnothing⟩ := hc.left hi
  by_cases hlast : ∃ st ∈ c.stations, st.outlet = .stream task.sink
  · obtain ⟨st, hst, houtlet⟩ := hlast
    have harrived := hserves.arrived st hst
    rw [houtlet, hserves.written_of_ended hst (hended st hst), hwritten st hst houtlet] at harrived
    exact harrived.2
  · have hnone : ∀ st ∈ c.stations, st.outlet ≠ .stream task.sink := fun st hst houtlet =>
      hlast ⟨st, hst, houtlet⟩
    rw [hnothing hnone, List.append_nil]
    exact hserves.printed task.sink hquiet hnone

/-- Nothing is written to any other stream on which nothing is told. -/
theorem Occupied.printed_of_ne (hc : task.Occupied i c) (hserves : w.Serves c) {number : Nat}
    (hne : number ≠ task.sink) (hquiet : ¬ task.Tells number) :
    w.printed number = c.printed number := by
  refine hserves.printed number (mt (hc.noisy number).1 hquiet) fun st hst houtlet => ?_
  obtain ⟨j, stage, -, -, hmans⟩ := hc.manned st hst
  have hplace := hmans.outlet (by rw [houtlet]; rfl)
  rw [houtlet, outlet] at hplace
  split at hplace
  · cases hplace
  · exact hne (Port.stream.inj hplace)

/-! ## The beginning of a run -/

/-- The crew at the beginning: there is no program yet, and the first one can read from the first
stream. -/
def crew (task : Task) : Crew where
  stations := []
  forked := none
  awaited := some (.stream task.source)
  feed := task.feed
  files := task.files
  printed := task.workshop.printed
  streams number := number = task.source ∨ number = task.sink ∨ task.Tells number
  noisy := task.Tells
  reserved := []
  report := none
  shell := task.workshop.shell
  firstPipe := task.base.fresh
  lastPipe := task.base.fresh
  fresh := task.base.fresh

/-- At the beginning everything is ready for the first stage. -/
theorem Sound.staffed (h : task.Sound) : Staffed task.setting task.workshop task.crew := by
  have hstreams : ∀ number, task.crew.streams number →
      number < task.base.fresh ∧ task.workshop.descriptions number = none := by
    have hopen : ∀ {number fd slot}, task.base.descriptors.get? fd = some slot →
        slot.target = .file number → number < task.base.fresh := by
      intro number fd slot hslot htarget
      have hlt := h.numbered fd slot hslot
      rwa [htarget] at hlt
    rintro number (rfl | rfl | htells)
    · obtain ⟨fd, slot, hslot, htarget⟩ := open_of_seat h.lead.source
      exact ⟨hopen hslot htarget, h.unnamed _ (Or.inl rfl)⟩
    · obtain ⟨fd, slot, hslot, htarget⟩ := open_of_seat h.lead.sink
      exact ⟨hopen hslot htarget, h.unnamed _ (Or.inr rfl)⟩
    · obtain ⟨slot, hslot, htarget⟩ := id htells
      exact ⟨hopen hslot htarget, (h.aside number htells).1⟩
  have hsource := hstreams task.source (Or.inl rfl)
  refine ⟨?_, ?_, rfl⟩
  · constructor
    case awaited =>
      rintro _ _ st ⟨⟩
    case feed =>
      rintro pipe ⟨⟩
    case numbered_awaited =>
      rintro _ ⟨⟩
      exact hsource.1
    case pipes_awaited =>
      rintro pipe ⟨⟩
    case lastPipe_le => exact Nat.le_refl _
    case streams => exact fun number hnumber => (hstreams number hnumber).1
    case forked =>
      rintro i ⟨⟩
    case report =>
      rintro pipe bytes ⟨⟩
    all_goals
      rintro _ ⟨⟩
  · constructor
    case others =>
      intro i hi _ _
      rw [jobAt, List.getElem?_eq_getElem hi]
      exact h.ended _ (List.getElem_mem hi)
    case dry =>
      intro pipe hfirst hlast
      exact absurd hlast (Nat.not_lt_of_le hfirst)
    case printed => exact fun _ _ _ => rfl
    case kept => exact fun _ _ => rfl
    case awaits =>
      rintro _ ⟨⟩
      exact ⟨hsource.2, rfl⟩
    case shell => rfl
    case streams => exact fun number hnumber => (hstreams number hnumber).2
    case forked =>
      rintro i ⟨⟩
    case report =>
      rintro pipe bytes ⟨⟩
    all_goals
      rintro _ ⟨⟩

/-- When the pipes are made, it is the turn of the first stage. -/
theorem Sound.awaited (h : task.Sound) {notes : List Call} {stamp : String}
    (hnotes : Noted task.base.descriptors stamp notes)
    (hcalls : Replayed task.workshop (pipesMade task.base.fresh task.pipeline.joints ++ notes) w) :
    ∃ c, Staffed task.setting w c ∧ task.Awaited 0 c ∧ c.stations = [] ∧
      c.printed = task.workshop.printed ∧
      c.fresh = task.base.fresh + task.pipeline.joints := by
  obtain ⟨between, hmade, hnoted⟩ := hcalls.split
  have hc : task.Awaited 0 { task.crew with
      fresh := task.base.fresh + task.pipeline.joints
      lastPipe := task.base.fresh + task.pipeline.joints } := by
    refine ⟨⟨rfl, rfl, ?_, fun _ => Iff.rfl, fun _ => Iff.rfl, rfl, rfl⟩, fun _ => ⟨rfl, rfl⟩, ?_⟩
    · rintro st ⟨⟩
    · intro hlt
      exact absurd hlt (Nat.not_lt_zero _)
  have hstaffed := (h.staffed.makePipes rfl rfl hmade).noted hnotes (hc.toOccupied.leads h) hnoted
  exact ⟨_, hstaffed, hc, rfl, rfl, rfl⟩

/-! ## All turns -/

/-- What some turns in a row come to: the crew is ready for the next turn, and the states of the
stages foretell the outcomes that the evaluation has for them. -/
structure Conducted (task : Task) (i : Nat) (results : List (Except ShellError StageState))
    (c c' : Crew) : Prop where
  /-- The crew is ready for the next turn. -/
  awaited : task.Awaited (i + results.length) c'
  /-- The programs of the stages in front still belong to it. -/
  stations : ∀ st ∈ c.stations, st ∈ c'.stations
  /-- Only the programs of these stages have joined it. -/
  joined : ∀ st ∈ c'.stations, st ∈ c.stations ∨ .ok (.running (pidOf st.job)) ∈ results
  /-- The streams were given the same before. -/
  printed : c'.printed = c.printed
  /-- The states of the stages foretell their outcomes. -/
  foretold : ∃ states outcomes, results = states.map .ok ∧
    List.Forall₂ c'.Foretells states outcomes ∧
    (task.evaluated (i + results.length)).outcomes = (task.evaluated i).outcomes ++ outcomes

/-- All turns keep the crew in step with the evaluation. -/
theorem Sound.conducted (h : task.Sound) {row : List PipeEnds} {turns : List (Turn Workshop)}
    (hindices : turns.map Turn.index = List.range' i turns.length)
    (hturns : ∀ t ∈ turns, task.Belongs t row ∧ t.Transcript task.streams task.base.descriptors
      (t.result task.streams) (t.transcript task.streams))
    (hascends : Ascends limit c.fresh
      (numbersGiven (turns.flatMap (Turn.transcript task.streams))))
    (hcalls : Replayed w (turns.flatMap (Turn.transcript task.streams)) w')
    (hc : task.Awaited i c) (hstaffed : Staffed task.setting w c) :
    ∃ c', Staffed task.setting w' c' ∧
      task.Conducted i (turns.map (Turn.result task.streams)) c c' := by
  induction turns generalizing i w c with
  | nil =>
    cases hcalls
    exact ⟨c, hstaffed, hc, fun st hst => hst, fun st hst => Or.inl hst, rfl, [], [], rfl, .nil,
      (List.append_nil _).symm⟩
  | cons t rest ih =>
    obtain ⟨hindex, hindices⟩ := List.cons.inj hindices
    obtain rfl : t.index = i := hindex
    rw [List.flatMap_cons] at hascends hcalls
    rw [numbersGiven, List.filterMap_append] at hascends
    obtain ⟨between, hfirst, hlater⟩ := hascends.split
    obtain ⟨w₁, hcalls, hmore⟩ := hcalls.split
    obtain ⟨hbelongs, htranscript⟩ := hturns t List.mem_cons_self
    obtain ⟨c₁, hstaffed, hturn⟩ := h.turn hbelongs htranscript hfirst hcalls hc hstaffed
    obtain ⟨c₂, hstaffed, hrest⟩ := ih hindices
      (fun other hother => hturns other (List.mem_cons_of_mem _ hother))
      (hlater.of_le hturn.fresh_le) hmore hturn.awaited hstaffed
    obtain ⟨state, outcome, hstate, hforetells, houtcome⟩ := hturn.foretold
    obtain ⟨states, outcomes, hstates, hall, houtcomes⟩ := hrest.foretold
    have hlength : t.index + 1 + (rest.map (Turn.result task.streams)).length =
        t.index + ((t :: rest).map (Turn.result task.streams)).length := by
      rw [List.map_cons, List.length_cons]
      omega
    refine ⟨c₂, hstaffed, hlength ▸ hrest.awaited,
      fun st hst => hrest.stations st (hturn.stations st hst), fun st hst => ?_,
      hrest.printed.trans hturn.printed, state :: states, outcome :: outcomes, ?_,
      .cons (hforetells.mono hrest.stations) hall, ?_⟩
    · rcases hrest.joined st hst with hold | hnew
      · exact (hturn.joined st hold).imp_right fun hresult => List.mem_cons.2 (Or.inl hresult.symm)
      · exact Or.inr (List.mem_cons_of_mem _ hnew)
    · rw [List.map_cons, List.map_cons, hstate, hstates]
    · rw [← hlength, houtcomes, houtcome, List.append_assoc, List.singleton_append]

/-! ## The end of a run -/

/-- What the stages of a pipeline come to if they are evaluated from left to right. -/
def evaluation (task : Task) : Evaluation :=
  evaluate task.setting task.start task.feed task.files task.pipeline.stages

/-- What comes of a run, and the workshop that it leaves, match the evaluation. -/
structure Matches (task : Task) (result : Except ShellError Report) (w : Workshop) : Prop where
  /-- There is a report, with the outcomes of the evaluation. -/
  result_eq : result = .ok ⟨task.pipeline.joints, task.evaluation.outcomes⟩
  /-- The files are what they are in the evaluation. -/
  files_eq : w.files = task.evaluation.files
  /-- The last stream was given what the evaluation hands on in the end. -/
  printed_sink : w.printed task.sink = task.workshop.printed task.sink ++ task.evaluation.feed
  /-- No other stream was given anything, but for that on which something is told. -/
  printed_of_ne : ∀ number, number ≠ task.sink → ¬ task.Tells number →
    w.printed number = task.workshop.printed number
  /-- All processes have ended. -/
  ended : ∀ job ∈ w.jobs, job.isLive = false

/-- When all stages are evaluated, the evaluation is done. -/
theorem evaluated_length (task : Task) :
    task.evaluated task.pipeline.stages.length = task.evaluation := by
  rw [evaluated, List.take_length, evaluation]

/-- The crew is as it was before the waits. -/
theorem Awaited.of_remains {c' : Crew} (hc : task.Awaited i c) (hi : task.pipeline.joints < i)
    (h : c.Remains c') : task.Awaited i c' := by
  refine ⟨⟨h.forked.trans hc.forked, h.files.trans hc.files, ?_, ?_, ?_,
    h.firstPipe.trans hc.firstPipe, h.lastPipe.trans hc.lastPipe⟩,
    fun hle => absurd hi (Nat.not_lt_of_le hle), ?_⟩
  · rw [h.stations]
    exact hc.manned
  · rw [h.streams]
    exact hc.streams
  · rw [h.noisy]
    exact hc.noisy
  · rw [h.stations]
    exact hc.left

/-- No pipe is open at the beginning. -/
theorem Sound.refersTo_writeEnd (h : task.Sound) (pipe : Nat) :
    task.base.descriptors.refersTo (fun other => decide (other = .writeEnd pipe)) = false := by
  rw [Bool.eq_false_iff]
  intro hopen
  obtain ⟨fd, slot, hslot, htarget⟩ := (DescriptorTable.refersTo_iff _ _).1 hopen
  obtain ⟨number, hnumber⟩ := h.pipeless fd slot hslot
  rw [of_decide_eq_true htarget] at hnumber
  cases hnumber

/-- The turns of a run are those of its stages, one after the other. -/
theorem belongs_of_mem_turns (task : Task) :
    ∃ row, ∀ t ∈ task.pipeline.turns task.streams task.base, task.Belongs t row ∧
      t.Transcript task.streams task.base.descriptors (t.result task.streams)
        (t.transcript task.streams) := by
  obtain ⟨row, hlength, hplaced⟩ :=
    Pipeline.placed_turns task.streams task.pipeline task.base
  refine ⟨row, fun t ht => ?_⟩
  obtain ⟨-, htranscript, hdirectory, -⟩ := Pipeline.transcript_of_mem_turns ht
  obtain ⟨i, hi⟩ := List.getElem?_of_mem ht
  obtain ⟨rfl, hstage⟩ := Pipeline.index_of_getElem?_turns hi
  exact ⟨⟨hplaced t ht, hlength, Pipeline.index_le_of_mem_turns ht, hstage, hdirectory⟩,
    htranscript⟩

/-- When all stages had their turns and all programs have ended, everything is as it is in the
evaluation. -/
theorem Awaited.matches (hc : task.Awaited task.pipeline.stages.length c)
    (hquiet : ¬ c.noisy task.sink) (hstaffed : Staffed task.setting w c)
    (hprinted : c.printed = task.workshop.printed)
    (hended : ∀ st ∈ c.stations, (w.jobAt st.job).isLive = false) :
    task.Matches (.ok ⟨task.pipeline.joints, task.evaluation.outcomes⟩) w := by
  obtain ⟨harranged, hserves, -⟩ := hstaffed
  have hlast : task.pipeline.joints < task.pipeline.stages.length := Nat.lt_succ_self _
  constructor
  case result_eq => rfl
  case files_eq =>
    rw [hserves.files_of_ended harranged hended, hc.files, task.evaluated_length]
  case printed_sink =>
    rw [hc.printed_of_ended hlast hquiet hserves hended, hprinted, task.evaluated_length]
  case printed_of_ne =>
    intro number hne hquiet
    rw [hc.printed_of_ne hserves hne hquiet, hprinted]
  case ended => exact hserves.all_ended hc.forked hended

/-- When all stages had their turns, the shell waits for the programs that have joined the crew, and
then there is nothing left to do. -/
theorem Sound.reaped (h : task.Sound) {results : List (Except ShellError StageState)}
    {states : List StageState} {outcomes : List StageOutcome} {segments : List (List Call)}
    {later : List Call} {stamp : String} {c₀ : Crew} (hstations : c₀.stations = [])
    (hprinted : c₀.printed = task.workshop.printed) (hconducted : task.Conducted 0 results c₀ c)
    (hresults : results = states.map .ok) (hlength : results.length = task.pipeline.stages.length)
    (hstaffed : Staffed task.setting w c)
    (hreaped : ReapedAll task.base.descriptors stamp states outcomes segments)
    (hlater : Noted task.base.descriptors stamp later)
    (hcalls : Replayed w (segments.flatten ++ later) w') :
    task.Matches (.ok ⟨task.pipeline.joints, outcomes⟩) w' := by
  obtain ⟨between, hwaited, hnoted⟩ := hcalls.split
  obtain ⟨hawaited, -, hjoined, hkept, states', foretold, heq, hforetold, houtcomes⟩ := hconducted
  rw [Nat.zero_add, hlength] at hawaited houtcomes
  obtain rfl : states' = states :=
    List.map_injective_iff.2 (fun _ _ => Except.ok.inj) (heq.symm.trans hresults)
  have hleads := hawaited.toOccupied.leads h
  obtain ⟨rfl, -, ⟨c', hstaffed, hremains⟩, hended⟩ := hstaffed.reapedAll hawaited.forked
    h.refersTo_writeEnd hleads hforetold hreaped hwaited
  have hstaffed := hstaffed.noted hlater (hremains.leads hleads) hnoted
  obtain rfl : task.evaluation.outcomes = outcomes := by
    rw [← task.evaluated_length, houtcomes]
    rfl
  have hremained := hawaited.of_remains (Nat.lt_succ_self _) hremains
  refine hremained.matches (hremained.toOccupied.quiet h) hstaffed
    ((hremains.printed.trans hkept).trans hprinted) fun st hst => ?_
  -- The program has joined the crew in one of the turns, so that it was waited for.
  rw [hremains.stations] at hst
  refine staysEnded_noted hlater hnoted _ (hended st hst ?_)
  rcases hjoined st hst with hold | hnew
  · rw [hstations] at hold
    cases hold
  · rw [heq] at hnew
    obtain ⟨state, hstate, hrunning⟩ := List.mem_map.1 hnew
    cases hrunning
    exact hstate

/-- Pipes that are made one after the other have the next numbers. -/
theorem add_le_of_pipesMade {first count : Nat} {more : List Call}
    (h : Ascends limit first (numbersGiven (pipesMade first count ++ more))) :
    first + count ≤ limit := by
  induction count generalizing first with
  | zero => exact h.le
  | succ count ih =>
    have hle := ih h.2
    omega

/-- The pipes are made and the stages have their turns. -/
theorem Sound.started (h : task.Sound) {notes : List Call} {stamp : String}
    (hnotes : Noted task.base.descriptors stamp notes)
    (hascends : Ascends limit task.base.fresh (numbersGiven (pipesMade task.base.fresh
      task.pipeline.joints ++ notes ++ (task.pipeline.turns task.streams task.base).flatMap
        (Turn.transcript task.streams))))
    (hcalls : Replayed task.workshop (pipesMade task.base.fresh task.pipeline.joints ++ notes ++
      (task.pipeline.turns task.streams task.base).flatMap (Turn.transcript task.streams)) w) :
    ∃ c₀ c, c₀.stations = [] ∧ c₀.printed = task.workshop.printed ∧
      Staffed task.setting w c ∧ task.Conducted 0
        ((task.pipeline.turns task.streams task.base).map (Turn.result task.streams)) c₀ c := by
  obtain ⟨row, hturns⟩ := task.belongs_of_mem_turns
  have hindices := Pipeline.map_index_turns task.streams task.pipeline task.base
  rw [List.range_eq_range'] at hindices
  obtain ⟨w₀, hmade, hcalls⟩ := hcalls.split
  obtain ⟨c₀, hstaffed, hawaited, hstations, hprinted, hfresh⟩ := h.awaited hnotes hmade
  rw [numbersGiven, List.filterMap_append] at hascends
  obtain ⟨between, hbefore, hascends⟩ := hascends.split
  have hle : c₀.fresh ≤ between := hfresh ▸ add_le_of_pipesMade hbefore
  obtain ⟨c, hstaffed, hconducted⟩ :=
    h.conducted hindices hturns (hascends.of_le hle) hcalls hawaited hstaffed
  exact ⟨c₀, c, hstations, hprinted, hstaffed, hconducted⟩

/-- Whatever the schedule is, what comes of the run of a pipeline is what comes of evaluating its
stages from left to right. -/
theorem sequential_execute (task : Task) (h : task.Sound) :
    task.Matches (task.pipeline.execute task.streams task.base).1
      (task.pipeline.execute task.streams task.base).2.surroundings.host.host := by
  obtain ⟨⟨⟨-, hreplayed⟩, -, -, hnumbers⟩, htranscript⟩ :=
    Pipeline.transcribed_execute task.streams task.pipeline task.base
  generalize (task.pipeline.execute task.streams).transcript task.base = calls
    at hreplayed hnumbers htranscript
  generalize task.pipeline.execute task.streams task.base = answer
    at hreplayed hnumbers htranscript ⊢
  generalize answer.1 = result at htranscript ⊢
  cases htranscript with
  | unpiped errno done hdone hturns =>
    obtain ⟨between, -, next, hmade, -⟩ := hreplayed.split
    cases hmade
  | finished states outcomes notes later segments hresults hall hnotes hreaped hlater =>
    rw [List.append_assoc _ segments.flatten] at hreplayed hnumbers
    obtain ⟨between, hstarted, hreplayed⟩ := hreplayed.split
    rw [numbersGiven, List.filterMap_append] at hnumbers
    obtain ⟨limit, hnumbers, -⟩ := hnumbers.split
    obtain ⟨c₀, c, hstations, hprinted, hstaffed, hconducted⟩ :=
      h.started hnotes hnumbers hstarted
    exact h.reaped hstations hprinted hconducted hresults (by rw [List.length_map, hall]; rfl)
      hstaffed hreaped hlater hreplayed
  | stopped states outcomes error notes later segments hresults hnotes hreaped hlater =>
    -- Every turn of the run comes to a state.
    rw [List.append_assoc _ segments.flatten] at hreplayed hnumbers
    obtain ⟨between, hstarted, -⟩ := hreplayed.split
    rw [numbersGiven, List.filterMap_append] at hnumbers
    obtain ⟨limit, hnumbers, -⟩ := hnumbers.split
    obtain ⟨c₀, c, -, -, -, hconducted⟩ := h.started hnotes hnumbers hstarted
    obtain ⟨states', foretold, heq, -⟩ := hconducted.foretold
    have herror : Except.error error ∈ states'.map Except.ok := by
      rw [← heq, hresults]
      exact List.mem_append_right _ (List.mem_singleton_self _)
    obtain ⟨state, -, hstate⟩ := List.mem_map.1 herror
    cases hstate

end Task

/-! ## A run -/

/-- A program that copies what it reads, as soon as it has read it. -/
def copying : Program where
  output input := input
  ending _ := .exited 0
  early read := read
  enough _ := false
  early_prefix h := h
  output_eq h := by cases h
  ending_eq h := by cases h

/-- A program that writes a text and leaves its input alone. -/
def answering (text : Bytes) (code : Nat) : Program where
  output _ := text
  ending _ := .exited code
  early _ := text
  enough _ := true
  early_prefix _ := List.prefix_refl text
  output_eq _ _ := rfl
  ending_eq _ _ := rfl

/-- Two programs, a file to read and a file to write. -/
def sampleSetting : Setting where
  programs arguments :=
    if arguments = [utf8 "cat"] then .ok copying
    else if arguments = [utf8 "yes"] then .ok (answering [121] 3)
    else .error .noEntry
  toRead _ path := if path = "notes" then .ok 0 else .error .noEntry
  toWrite _ path := if path = "copy" then .ok 1 else .error .noEntry

/-- A file goes through a pipe into another file, a program is missing, and the last one writes to
the last stream. Before each request the programs go on by one byte, the youngest one first. -/
def sampleTask : Task where
  base := {
    descriptors := Machine.streamDescriptors 3
    fresh := 3
    surroundings := ⟨0, none, ⟨{
      setting := sampleSetting
      files := fun file => if file = 0 then some [1, 2, 3] else none
      descriptions := fun _ => none
      incoming := fun _ => []
      printed := fun _ => []
      pipes := fun _ => []
      pipeLimit := 0
      shell := .empty
      jobs := []
      schedule := List.replicate 40 [⟨3, .write none⟩, ⟨1, .read (some 1)⟩, ⟨1, .write (some 1)⟩,
        ⟨0, .read (some 1)⟩, ⟨0, .write (some 1)⟩, ⟨0, .stop⟩, ⟨3, .stop⟩, ⟨3, .finish⟩] }, []⟩⟩
    lastStatus := 0
    log := ⟨.error, ""⟩
    downfall := none }
  streams := .inherited
  pipeline := ⟨⟨"cat", [], some "notes", none⟩, [⟨"cat", [], none, some "copy"⟩,
    ⟨"nope", [], none, none⟩, ⟨"yes", [], none, none⟩]⟩
  source := 0
  sink := 1

theorem presumed_sampleTask : sampleTask.Presumed := by
  have hget : ∀ fd, sampleTask.base.descriptors.get? fd =
      if fd < 3 then some ⟨.file fd, 2 < fd⟩ else none := Machine.get?_streamDescriptors 3
  constructor
  case numbered =>
    intro fd slot hslot
    rw [hget] at hslot
    split at hslot
    · next hlt =>
      cases hslot
      exact hlt
    · cases hslot
  case pipeless =>
    intro fd slot hslot
    rw [hget] at hslot
    split at hslot
    · cases hslot
      exact ⟨fd, rfl⟩
    · cases hslot
  case lead => exact ⟨by decide +kernel, by decide +kernel⟩
  case apart =>
    have hread : ∀ {path : String} {file : File},
        Setting.find sampleTask.setting.toRead sampleTask.start path = .ok file → file = 0 := by
      intro path file hfind
      have hfile : (if path = "notes" then .ok 0 else .error Errno.noEntry) = Except.ok file :=
        (Setting.find_eq_ok_iff.1 hfind).2
      split at hfile <;> cases hfile
      rfl
    have hwrite : ∀ {path : String} {file : File},
        Setting.find sampleTask.setting.toWrite sampleTask.start path = .ok file → file = 1 := by
      intro path file hfind
      have hfile : (if path = "copy" then .ok 1 else .error Errno.noEntry) = Except.ok file :=
        (Setting.find_eq_ok_iff.1 hfind).2
      split at hfile <;> cases hfile
      rfl
    -- Only one of the stages has a file for its output.
    have hindex : ∀ {i : Nat} {stage : Stage} {path : String},
        sampleTask.pipeline.stages[i]? = some stage → stage.output = some path → i = 1 := by
      intro i stage path hstage houtput
      rcases i with _ | _ | _ | _ | i
      · cases hstage
        cases houtput
      · rfl
      · cases hstage
        cases houtput
      · cases hstage
        cases houtput
      · cases hstage
    constructor
    · intro i j stage other file path _ hopened _ _ hfind
      obtain ⟨_, _, hfind'⟩ := Setting.exists_of_opened? hopened
      rw [hread hfind] at hfind'
      cases hwrite hfind'
    · intro i j stage other file path hi hopened hj hne houtput _
      obtain ⟨_, houtput', _⟩ := Setting.exists_of_opened? hopened
      exact hne ((hindex hj houtput).trans (hindex hi houtput').symm)
  case unnamed => exact fun _ _ => rfl
  case ended =>
    rintro job ⟨⟩

theorem sound_sampleTask : sampleTask.Sound := by
  have hget : ∀ fd, sampleTask.base.descriptors.get? fd =
      if fd < 3 then some ⟨.file fd, 2 < fd⟩ else none := Machine.get?_streamDescriptors 3
  refine ⟨presumed_sampleTask, ⟨fun fd hfd => ?_, fun fd hfd => (by cases hfd),
    fun fd hfd => (by cases hfd)⟩, fun number htells => ⟨rfl, ?_⟩⟩
  · rw [hget, if_pos (Nat.lt_succ_of_le hfd)]
    exact Option.some_ne_none _
  · obtain ⟨slot, hslot, htarget⟩ := htells
    rw [hget] at hslot
    cases hslot
    cases htarget
    decide

namespace Task

theorem sequential_execute_sampleTask : sampleTask.Sound ∧
    sampleTask.Matches (sampleTask.pipeline.execute sampleTask.streams sampleTask.base).1
      (sampleTask.pipeline.execute sampleTask.streams sampleTask.base).2.surroundings.host.host ∧
    sampleTask.evaluation.outcomes = [.finished (.exited 0), .finished (.exited 0),
      .finished (.startFailed "nope: No such file or directory (os error 2)"),
      .finished (.exited 3)] ∧
    sampleTask.evaluation.files 1 = some [1, 2, 3] ∧ sampleTask.evaluation.feed = [121] :=
  ⟨sound_sampleTask, sampleTask.sequential_execute sound_sampleTask, by decide +kernel,
    by decide +kernel, by decide +kernel⟩

end Task

/-! ## Streams in the way -/

/-- Two programs, and one file to read and to write. -/
def smallSetting : Setting where
  programs arguments :=
    if arguments = [utf8 "cat"] then .ok copying
    else if arguments = [utf8 "yes"] then .ok (answering [121] 0)
    else .error .noEntry
  toRead _ path := if path = "e" then .ok 0 else .error .noEntry
  toWrite _ path := if path = "e" then .ok 0 else .error .noEntry

/-- A pipeline, run by a shell that may have seven streams. The one with the number 2 is the file
that can be read and written. -/
def smallTask (descriptors : Descriptors) (streams : Streams) (pipeline : Pipeline)
    (source sink : Nat) : Task where
  base := {
    descriptors := descriptors
    fresh := 7
    surroundings := ⟨0, none, ⟨{
      setting := smallSetting
      files := fun file => if file = 0 then some [120] else none
      descriptions := fun number => if number = 2 then some ⟨0, 0⟩ else none
      incoming := fun _ => []
      printed := fun _ => []
      pipes := fun _ => []
      pipeLimit := 0
      shell := .empty
      jobs := []
      schedule := [] }, []⟩⟩
    lastStatus := 0
    log := ⟨.error, ""⟩
    downfall := none }
  streams := streams
  pipeline := pipeline
  source := source
  sink := sink

/-- Something other than one of the seven streams. -/
def isForeign : Resource → Bool
  | .file number => decide (7 ≤ number)
  | _ => true

/-- A stage that writes the file is the only one, and does not read it. -/
theorem presumed_smallTask {descriptors : Descriptors} {streams : Streams} {pipeline : Pipeline}
    {source sink : Nat} (hown : descriptors.refersTo isForeign = false)
    (hlead : streams.Lead descriptors source sink) (hsource : source ≠ 2) (hsink : sink ≠ 2)
    (hlone : ∀ stage ∈ pipeline.stages, stage.output = none ∨
      pipeline.stages = [stage] ∧ stage.input = none) :
    (smallTask descriptors streams pipeline source sink).Presumed := by
  have hfile : ∀ fd slot, descriptors.get? fd = some slot →
      ∃ number, slot.target = .file number ∧ number < 7 := by
    intro fd slot hslot
    have hforeign : isForeign slot.target ≠ true := fun hforeign =>
      Bool.eq_false_iff.1 hown ((DescriptorTable.refersTo_iff _ _).2 ⟨fd, slot, hslot, hforeign⟩)
    cases htarget : slot.target with
    | file number =>
      rw [htarget] at hforeign
      exact ⟨number, rfl, Nat.lt_of_not_le fun hle => hforeign (decide_eq_true hle)⟩
    | readEnd pipe => exact absurd (by rw [htarget]; rfl) hforeign
    | writeEnd pipe => exact absurd (by rw [htarget]; rfl) hforeign
  -- Where one stage writes, there is no other one.
  have honly : ∀ {i j : Nat} {stage other : Stage} {path : String},
      pipeline.stages[i]? = some stage → stage.output = some path →
        pipeline.stages[j]? = some other → j = i ∧ other.input = none := by
    intro i j stage other path hi houtput hj
    rcases hlone stage (List.mem_of_getElem? hi) with hnone | ⟨hstages, hinput⟩
    · cases hnone.symm.trans houtput
    · rw [hstages] at hi hj
      obtain ⟨hlt, -⟩ := List.getElem?_eq_some_iff.1 hi
      obtain ⟨hlt', hother⟩ := List.getElem?_eq_some_iff.1 hj
      obtain rfl := Nat.lt_one_iff.1 hlt
      obtain rfl := Nat.lt_one_iff.1 hlt'
      exact ⟨rfl, hother ▸ hinput⟩
  constructor
  case numbered =>
    intro fd slot hslot
    obtain ⟨number, htarget, hlt⟩ := hfile fd slot hslot
    rw [htarget]
    exact hlt
  case pipeless =>
    intro fd slot hslot
    obtain ⟨number, htarget, -⟩ := hfile fd slot hslot
    exact ⟨number, htarget⟩
  case lead => exact hlead
  case apart =>
    constructor
    · intro i j stage other file path hi hopened hj hinput _
      obtain ⟨_, houtput, -⟩ := Setting.exists_of_opened? hopened
      cases (honly hi houtput hj).2.symm.trans hinput
    · intro i j stage other file path hi hopened hj hne
      obtain ⟨_, houtput, -⟩ := Setting.exists_of_opened? hopened
      exact absurd (honly hi houtput hj).1 hne
  case unnamed =>
    rintro number (rfl | rfl)
    · exact if_neg hsource
    · exact if_neg hsink
  case ended =>
    rintro job ⟨⟩

/-- A shell that tells of what goes wrong where the run ends, and a missing program. -/
def mixedTask : Task :=
  smallTask ((Machine.streamDescriptors 3).set 2 ⟨.file 1, false⟩) .inherited
    ⟨⟨"nope", [], none, none⟩, []⟩ 0 1

/-- A shell that tells of what goes wrong in the file that a stage writes, and a missing program. -/
def coveredTask : Task :=
  smallTask (Machine.streamDescriptors 3) .inherited ⟨⟨"nope", [], none, some "e"⟩, []⟩ 0 1

/-- A shell that tells of what goes wrong in the file that a stage reads, and a missing program in
front of this stage. -/
def recitedTask : Task :=
  smallTask (Machine.streamDescriptors 3) .inherited
    ⟨⟨"nope", [], none, none⟩, [⟨"cat", [], some "e", none⟩]⟩ 0 1

/-- A shell without its first two descriptors, and a missing program. -/
def closedTask : Task :=
  smallTask ((Machine.streamDescriptors 7).closeAll [0, 1, 3, 4]) ⟨some 5, some 6⟩
    ⟨⟨"nope", [], none, none⟩, []⟩ 5 6

/-- A run with the first two descriptors the other way round. -/
def crossedTask : Task :=
  smallTask (Machine.streamDescriptors 3) ⟨some 1, some 0⟩ ⟨⟨"yes", [], none, none⟩, []⟩ 1 0

namespace Task

/-- All is as it is presumed, and yet the run does not match the evaluation. -/
def Unmatched (task : Task) : Prop :=
  task.Presumed ∧ ¬ task.Matches (task.pipeline.execute task.streams task.base).1
    (task.pipeline.execute task.streams task.base).2.surroundings.host.host

/-- What is presumed of a run does not suffice: what is told may be mixed with what the programs
write, on a stream or in a file, or with what they read, the report of a program may be lost, and a
stream may be overwritten by the other one. -/
theorem unmatched_of_presumed : mixedTask.Unmatched ∧ coveredTask.Unmatched ∧
    recitedTask.Unmatched ∧ closedTask.Unmatched ∧ crossedTask.Unmatched := by
  refine ⟨⟨?_, fun h => absurd h.printed_sink (by decide +kernel)⟩,
    ⟨?_, fun h => absurd (congrFun h.files_eq 0) (by decide +kernel)⟩,
    ⟨?_, fun h => absurd h.printed_sink (by decide +kernel)⟩,
    ⟨?_, fun h => absurd (congrArg Except.toOption h.result_eq) (by decide +kernel)⟩,
    ⟨?_, fun h => absurd h.printed_sink (by decide +kernel)⟩⟩
  all_goals
    exact presumed_smallTask (by decide +kernel) ⟨by decide +kernel, by decide +kernel⟩ (by decide)
      (by decide) (by decide)

end Task

end Workshop

end CommandShell
