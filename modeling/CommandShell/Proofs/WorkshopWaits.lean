import CommandShell.Proofs.WorkshopTurns

/-!
# Waits in a workshop

When the shell waits for a process, the processes go on one after the other, from the oldest one on.
A program whose feeder has ended finds the end of its input, writes the rest of its output and ends.
Main statements: a process goes on to its end if all older ones have ended (`Serves.complete`), and
the answer of a wait for the program of a stage is how the program ends (`Staffed.await`).
-/

namespace CommandShell

open Shell

namespace Workshop

section

variable {w w' : Workshop} {c : Crew} {st : Station} {job : Job} {program : Program}
  {reading : Bool} {i k : Nat}

/-! ## Processes that have ended -/

/-- A step changes at most the process that takes it. -/
theorem jobs_act (w : Workshop) (k : Nat) (job : Job) (program : Program) (reading : Bool)
    (deed : Deed) : (w.act k job program reading deed).jobs = w.jobs ∨
      ∃ job', (w.act k job program reading deed).jobs = w.jobs.set k job' := by
  cases deed with
  | read limit =>
    rw [act]
    split
    · rw [read]
      split
      · exact Or.inl rfl
      · exact Or.inr ⟨_, by rw [setJob, jobs_advance]⟩
    · exact Or.inl rfl
  | stop =>
    rw [act]
    split
    · exact Or.inr ⟨_, rfl⟩
    · exact Or.inl rfl
  | write limit =>
    rw [act, write]
    split
    · exact Or.inr ⟨_, rfl⟩
    · exact Or.inr ⟨_, by rw [setJob, jobs_put]⟩
  | finish =>
    rw [act]
    split
    · exact Or.inr ⟨_, rfl⟩
    · exact Or.inl rfl

/-- A process that has ended does not come back. -/
theorem ended_perform (h : (w.jobAt i).isLive = false) (choice : Choice) :
    ((w.perform choice).jobAt i).isLive = false := by
  rw [perform]
  split
  · exact h
  · next job hjob =>
    split
    · next program reading hphase =>
      have hne : i ≠ choice.job := by
        rintro rfl
        rw [jobAt, hjob, Option.getD_some, Job.isLive, hphase] at h
        cases h
      rcases jobs_act w choice.job job program reading choice.deed with hjobs | ⟨job', hjobs⟩
      · rwa [jobAt, hjobs]
      · rwa [jobAt_of_set_of_ne hne hjobs]
    · exact h

theorem ended_foldl_perform (h : (w.jobAt i).isLive = false) (choices : List Choice) :
    ((choices.foldl perform w).jobAt i).isLive = false := by
  induction choices generalizing w with
  | nil => exact h
  | cons choice rest ih => exact ih (ended_perform h choice)

theorem ended_complete (h : (w.jobAt i).isLive = false) (k : Nat) :
    ((w.complete k).jobAt i).isLive = false :=
  ended_perform (ended_perform (ended_perform (ended_perform h _) _) _) _

/-! ## The end of a process -/

/-- What a running program does. -/
theorem perform_eq (hi : i < w.jobs.length) (h : (w.jobAt i).phase = .running program reading)
    (deed : Deed) :
    w.perform ⟨i, deed⟩ = w.act i (w.jobAt i) program reading deed := by
  rw [perform, jobs_eq_jobAt hi]
  dsimp only
  rw [h]

/-- When all that can be read now was read, nothing can be read now. -/
theorem pending_advance (w : Workshop) (source : Resource) :
    (w.advance source (w.pending source).length).pending source = [] := by
  cases source with
  | readEnd pipe => simp [advance, pending]
  | writeEnd pipe => rfl
  | file number =>
    cases hdescription : w.descriptions number with
    | none => simp [advance, pending, hdescription]
    | some description =>
      simp [advance, pending, hdescription]
      omega

/-- Nobody can write to a pipe when the program that writes to it has ended. -/
theorem Serves.not_holds (h : w.Serves c) (hforked : c.forked = none) {pipe : Nat}
    (hshell : c.shell.refersTo (fun other => decide (other = .writeEnd pipe)) = false)
    (hended : ∀ a ∈ c.stations, a.outlet = .pipe pipe → (w.jobAt a.job).isLive = false) :
    w.holds (.writeEnd pipe) = false := by
  rw [holds, h.shell, hshell, Bool.false_or, h.silent hforked hended]

/-- A process of the crew runs its program or has ended. -/
theorem Serves.running_or_ended (h : w.Serves c) (hst : st ∈ c.stations) :
    (w.jobAt st.job).isLive = false ∨
      ∃ reading, (w.jobAt st.job).phase = .running st.program reading := by
  have hstands := (h.fits st hst).stands
  rw [Job.isLive]
  generalize (w.jobAt st.job).phase = phase at hstands
  cases hstands with
  | reading => exact Or.inr ⟨true, rfl⟩
  | closing houtput hending => exact Or.inr ⟨false, rfl⟩
  | ended hdone => exact Or.inl rfl

/-- A program whose feeder has ended reads to the end. -/
theorem Serves.complete_read (h : w.Serves c) (hc : c.Arranged) (hst : st ∈ c.stations)
    (hforked : c.forked = none)
    (hshell : ∀ pipe, c.shell.refersTo (fun other => decide (other = .writeEnd pipe)) = false)
    (holder : ∀ a ∈ c.stations, a.job < st.job → (w.jobAt a.job).isLive = false) :
    ((w.perform ⟨st.job, .read none⟩).jobAt st.job).isLive = false ∨
      ∃ reading, ((w.perform ⟨st.job, .read none⟩).jobAt st.job).phase =
        .running st.program reading ∧
          (reading = true → (w.perform ⟨st.job, .read none⟩).exhausted st.inlet.source = true) := by
  rcases h.running_or_ended hst with hended | ⟨reading, hphase⟩
  · exact Or.inl (ended_perform hended _)
  have hserves := h.perform hc ⟨st.job, .read none⟩
  have hkept : ∀ a ∈ c.stations, a.job < st.job →
      ((w.perform ⟨st.job, .read none⟩).jobAt a.job).isLive = false := fun a ha hlt =>
    ended_perform (holder a ha hlt) _
  rw [perform_eq (h.present st hst) hphase] at hserves hkept ⊢
  cases reading with
  | false =>
    refine Or.inr ⟨false, ?_, fun hfalse => by cases hfalse⟩
    rw [Workshop.act, if_neg Bool.false_ne_true]
    exact hphase
  | true =>
    rw [Workshop.act, if_pos rfl, Workshop.read, (h.fits st hst).inlet] at hserves hkept ⊢
    dsimp only [upTo] at hserves hkept ⊢
    have hpending := pending_advance w st.inlet.source
    generalize hw₁ : (w.advance st.inlet.source (w.pending st.inlet.source).length).setJob st.job
      { w.jobAt st.job with
        consumed := (w.jobAt st.job).consumed ++ w.pending st.inlet.source } = w₁
      at hserves hkept ⊢
    refine Or.inr ⟨true, ?_, fun _ => ?_⟩
    · rw [← hw₁, jobAt_of_set_self (h.present st hst) (by rw [setJob, jobs_advance])]
      exact hphase
    · have hempty : w₁.pending st.inlet.source = [] := by
        rw [← hw₁]
        exact hpending
      cases hinlet : st.inlet with
      | stream number =>
        simp only [hinlet, Port.source] at hempty
        simp [exhausted, hempty, Port.source]
      | file number target =>
        simp only [hinlet, Port.source] at hempty
        simp [exhausted, hempty, Port.source]
      | pipe pipe =>
        simp only [hinlet, Port.source] at hempty
        have hnobody := hserves.not_holds hforked (hshell pipe) fun a ha houtlet =>
          hkept a ha (hc.fed a ha st hst pipe houtlet hinlet).2
        simp [exhausted, hempty, Port.source, hnobody]

/-- A program that finds the end of its input stops reading. -/
theorem Serves.complete_stop (h : w.Serves c) (hst : st ∈ c.stations)
    (hread : (w.jobAt st.job).isLive = false ∨
      ∃ reading, (w.jobAt st.job).phase = .running st.program reading ∧
        (reading = true → w.exhausted st.inlet.source = true)) :
    ((w.perform ⟨st.job, .stop⟩).jobAt st.job).isLive = false ∨
      ((w.perform ⟨st.job, .stop⟩).jobAt st.job).phase = .running st.program false := by
  rcases hread with hended | ⟨reading, hphase, hexhausted⟩
  · exact Or.inl (ended_perform hended _)
  right
  rw [perform_eq (h.present st hst) hphase, Workshop.act]
  cases reading with
  | false =>
    rw [Bool.false_and, if_neg Bool.false_ne_true]
    exact hphase
  | true =>
    rw [(h.fits st hst).inlet, Option.all_some, hexhausted rfl, Bool.or_true, Bool.and_true,
      if_pos rfl, jobAt_setJob_self (h.present st hst)]

/-- A program that has stopped reading writes to the end. -/
theorem Serves.complete_write (h : w.Serves c) (hst : st ∈ c.stations)
    (hstopped : (w.jobAt st.job).isLive = false ∨
      (w.jobAt st.job).phase = .running st.program false) :
    ((w.perform ⟨st.job, .write none⟩).jobAt st.job).isLive = false ∨
      ((w.perform ⟨st.job, .write none⟩).jobAt st.job).phase = .running st.program false ∧
        ((w.perform ⟨st.job, .write none⟩).jobAt st.job).written =
          st.program.output ((w.perform ⟨st.job, .write none⟩).jobAt st.job).consumed := by
  rcases hstopped with hended | hphase
  · exact Or.inl (ended_perform hended _)
  right
  have hfits := h.fits st hst
  have hstands := hfits.stands
  rw [hphase] at hstands
  cases hstands with
  | closing houtput hending =>
    have hwritten : (w.jobAt st.job).written ++
        (st.program.output (w.jobAt st.job).consumed).drop (w.jobAt st.job).written.length =
          st.program.output (w.jobAt st.job).consumed := by
      obtain ⟨more, hmore⟩ := hfits.written
      rw [houtput, ← hmore, List.drop_left]
    rw [perform_eq (h.present st hst) hphase, Workshop.act, if_neg Bool.false_ne_true,
      Workshop.write, hfits.outlet]
    dsimp only [upTo]
    rw [jobAt_of_set_self (h.present st hst) (by rw [setJob, jobs_put])]
    exact ⟨hphase, hwritten⟩

/-- A program that has written everything ends. -/
theorem Serves.complete_finish (h : w.Serves c) (hst : st ∈ c.stations)
    (hwritten : (w.jobAt st.job).isLive = false ∨
      (w.jobAt st.job).phase = .running st.program false ∧
        (w.jobAt st.job).written = st.program.output (w.jobAt st.job).consumed) :
    ((w.perform ⟨st.job, .finish⟩).jobAt st.job).isLive = false := by
  rcases hwritten with hended | ⟨hphase, hwritten⟩
  · exact ended_perform hended _
  rw [perform_eq (h.present st hst) hphase, Workshop.act, hwritten, if_pos (by simp),
    jobAt_setJob_self (h.present st hst)]
  rfl

/-- A process ends if all older ones have ended. -/
theorem Serves.complete (h : w.Serves c) (hc : c.Arranged) (hst : st ∈ c.stations)
    (hforked : c.forked = none)
    (hshell : ∀ pipe, c.shell.refersTo (fun other => decide (other = .writeEnd pipe)) = false)
    (holder : ∀ a ∈ c.stations, a.job < st.job → (w.jobAt a.job).isLive = false) :
    ((w.complete st.job).jobAt st.job).isLive = false := by
  have hread := h.complete_read hc hst hforked hshell holder
  have h₁ := h.perform hc ⟨st.job, .read none⟩
  have hstop := h₁.complete_stop hst hread
  have h₂ := h₁.perform hc ⟨st.job, .stop⟩
  have hwrite := h₂.complete_write hst hstop
  have h₃ := h₂.perform hc ⟨st.job, .write none⟩
  exact h₃.complete_finish hst hwrite

theorem Serves.complete_serves (h : w.Serves c) (hc : c.Arranged) (i : Nat) :
    (w.complete i).Serves c :=
  (((h.perform hc _).perform hc _).perform hc _).perform hc _

/-- If all processes up to some position go on one after the other, they end. -/
theorem Serves.completeAll (h : w.Serves c) (hc : c.Arranged) (hforked : c.forked = none)
    (hshell : ∀ pipe, c.shell.refersTo (fun other => decide (other = .writeEnd pipe)) = false)
    (count : Nat) :
    (w.completeAll count).Serves c ∧
      (∀ a ∈ c.stations, a.job < count → ((w.completeAll count).jobAt a.job).isLive = false) ∧
      ∀ i, (w.jobAt i).isLive = false → ((w.completeAll count).jobAt i).isLive = false := by
  induction count with
  | zero => exact ⟨h, fun a _ hlt => absurd hlt (Nat.not_lt_zero _), fun _ hended => hended⟩
  | succ count ih =>
    obtain ⟨hserves, hended, hkept⟩ := ih
    have hnext : w.completeAll (count + 1) = (w.completeAll count).complete count := by
      rw [Workshop.completeAll, List.range_succ, List.foldl_concat]
      rfl
    rw [hnext]
    refine ⟨hserves.complete_serves hc count, fun a ha hlt => ?_, fun i hi =>
      ended_complete (hkept i hi) count⟩
    rcases Nat.lt_or_eq_of_le (Nat.le_of_lt_succ hlt) with hlt | rfl
    · exact ended_complete (hended a ha hlt) count
    · exact hserves.complete hc ha hforked hshell hended

theorem ended_elapse (h : (w.jobAt i).isLive = false) : (w.elapse.jobAt i).isLive = false := by
  rw [elapse]
  split
  · exact h
  · next now later _ =>
    have hlater : ({ w with schedule := later }.jobAt i).isLive = false := h
    exact ended_foldl_perform hlater now

/-- After a wait the processes up to the one that is waited for have gone on. -/
theorem await_eq (w : Workshop) (pid : Pid) :
    (w.await pid).2 = w.completeAll (position pid + 1) := by
  rw [await]
  split <;> rfl

theorem steady_complete (w : Workshop) (i : Nat) : Steady w (w.complete i) :=
  (((steady_perform w _).trans (steady_perform _ _)).trans (steady_perform _ _)).trans
    (steady_perform _ _)

theorem steady_completeAll (w : Workshop) (count : Nat) : Steady w (w.completeAll count) := by
  rw [completeAll]
  generalize List.range count = positions
  induction positions generalizing w with
  | nil => exact .refl w
  | cons i rest ih => exact (steady_complete w i).trans (ih _)

/-- What is told of a process that has ended is how it has ended. -/
theorem await_of_ended (hi : i < w.jobs.length) {ending : Ending}
    (h : ((w.completeAll (i + 1)).jobAt i).phase = .ended ending)
    (hlength : (w.completeAll (i + 1)).jobs.length = w.jobs.length) :
    (w.await (pidOf i)).1 = ending.event := by
  rw [await, position_pidOf, jobs_eq_jobAt (hlength ▸ hi)]
  generalize (w.completeAll (i + 1)).jobAt i = job at h
  obtain ⟨table, consumed, written, phase⟩ := job
  cases h
  rfl

/-- An answer that settles a child is the last one. -/
theorem isFinal_of_settled {event : ChildEvent} (h : event.settled = true) :
    event.isFinal = true := by
  rw [ChildEvent.isFinal]
  cases hanswer : event.answer with
  | ended status => rfl
  | failed errno => rfl
  | notice notice =>
    rw [event.settled_of_answer (Or.inl ⟨notice, hanswer⟩)] at h
    cases h
  | interrupted =>
    rw [event.settled_of_answer (Or.inr hanswer)] at h
    cases h

/-! ## Waits -/

/-- A crew was left alone. -/
structure Crew.Remains (c c' : Crew) : Prop extends c.Resembles c' where
  /-- The same programs belong to it. -/
  stations : c'.stations = c.stations
  /-- No process was made. -/
  forked : c'.forked = c.forked
  /-- It leaves the same. -/
  files : c'.files = c.files

theorem Crew.Remains.refl (c : Crew) : c.Remains c :=
  ⟨⟨rfl, rfl, rfl, rfl, rfl⟩, rfl, rfl, rfl⟩

theorem Crew.Remains.trans {c₁ c₂ : Crew} (h : c.Remains c₁) (h' : c₁.Remains c₂) :
    c.Remains c₂ :=
  ⟨⟨h'.streams.trans h.streams, h'.noisy.trans h.noisy, h'.firstPipe.trans h.firstPipe,
    h'.lastPipe.trans h.lastPipe, h'.printed.trans h.printed⟩, h'.stations.trans h.stations,
    h'.forked.trans h.forked, h'.files.trans h.files⟩

/-- Processes that have ended stay so. -/
def StaysEnded (w w' : Workshop) : Prop :=
  ∀ i, (w.jobAt i).isLive = false → (w'.jobAt i).isLive = false

variable {setting : Setting} {table : Descriptors} {stamp : String} {pid : Pid}
  {calls : List Call} {event : ChildEvent}

/-- The shell waits for a process. -/
theorem Staffed.wait (h : Staffed setting w c) (hforked : c.forked = none)
    (htable : ∀ pipe, table.refersTo (fun other => decide (other = .writeEnd pipe)) = false)
    (hcall : (Call.wait pid table event).Answered w w') :
    event.isFinal = true ∧ StaysEnded w w' ∧
      Staffed setting w' { c with shell := table, awaited := none } ∧
      ∀ st ∈ c.stations, pid = pidOf st.job →
        event.answer = .ended st.ending.status ∧ (w'.jobAt st.job).isLive = false := by
  have hasked : Staffed setting { w with shell := table }
      { c with shell := table, awaited := none } :=
    h.ignore.reveal fun _ hnone => by cases hnone
  have hended : StaysEnded w { w with shell := table }.elapse := fun i hi => by
    have hbefore : ({ w with shell := table }.jobAt i).isLive = false := hi
    exact ended_elapse hbefore
  obtain ⟨hc, hserves, hsetting⟩ := hasked.elapse
  change { w with shell := table }.elapse.await pid = (event, w') at hcall
  generalize { w with shell := table }.elapse = w₁ at hserves hsetting hended hcall
  have hsteady := steady_completeAll w₁ (position pid + 1)
  obtain ⟨hfinished, hdone, hkept⟩ := hserves.completeAll hc hforked htable (position pid + 1)
  have hw' : w' = w₁.completeAll (position pid + 1) := by rw [← await_eq, hcall]
  have hevent : event = (w₁.await pid).1 := by rw [hcall]
  refine ⟨?_, ?_, ?_, ?_⟩
  · rw [hevent]
    exact isFinal_of_settled (settled_await w₁ pid)
  · rw [hw']
    exact fun i hi => hkept i (hended i hi)
  · rw [hw']
    exact ⟨hc, hfinished, hsteady.setting.trans hsetting⟩
  · rintro st hst rfl
    have hover := hdone st hst (Nat.lt_succ_self _)
    refine ⟨?_, by rw [hw']; exact hover⟩
    have hphase := hfinished.phase_of_ended hst hover
    rw [hevent, await_of_ended (hserves.present st hst) hphase hsteady.length]
    exact st.ending.answer_eq

/-- A process is waited for once. -/
theorem Staffed.watched (h : Staffed setting w c) (hforked : c.forked = none)
    (htable : ∀ pipe, table.refersTo (fun other => decide (other = .writeEnd pipe)) = false)
    (hwatched : Watched table stamp pid calls event) (hcalls : Replayed w calls w') :
    StaysEnded w w' ∧ Staffed setting w' { c with shell := table, awaited := none } ∧
      ∀ st ∈ c.stations, pid = pidOf st.job →
        event.answer = .ended st.ending.status ∧ (w'.jobAt st.job).isLive = false := by
  cases hwatched with
  | settled event final =>
    obtain ⟨between, hcall, rfl⟩ := hcalls
    exact (h.wait hforked htable hcall).2
  | again event last notes calls pending hnotes hrest =>
    obtain ⟨between, hcall, -⟩ := hcalls
    rw [(h.wait hforked htable hcall).1] at pending
    cases pending

theorem jobs_tell (w : Workshop) (goal : Resource) (bytes : Bytes) :
    (w.tell goal bytes).2.jobs = w.jobs := by
  cases goal with
  | readEnd pipe => rfl
  | writeEnd pipe =>
    rw [tell]
    split
    · exact jobs_put w _ bytes
    · rfl
  | file number => exact jobs_put w _ bytes

/-- Messages revive no process. -/
theorem staysEnded_noted (hnotes : Noted table stamp calls) (hcalls : Replayed w calls w') :
    StaysEnded w w' := by
  induction calls generalizing w with
  | nil =>
    cases hcalls
    exact fun _ hi => hi
  | cons call rest ih =>
    obtain ⟨between, hcall, hrest⟩ := hcalls
    obtain ⟨target, record, answer, rfl, -⟩ := hnotes call List.mem_cons_self
    have hbetween : between = (w.elapse.tell target (utf8 (record.render stamp))).2 :=
      (congrArg Prod.snd hcall).symm
    have hlater := ih (fun call hcall => hnotes call (List.mem_cons_of_mem _ hcall)) hrest
    refine fun i hi => hlater i ?_
    rw [jobAt, hbetween, jobs_tell]
    exact ended_elapse hi

/-- What is learned of a stage is what was foretold. -/
theorem Staffed.reaped (h : Staffed setting w c) (hforked : c.forked = none)
    (htable : ∀ pipe, table.refersTo (fun other => decide (other = .writeEnd pipe)) = false)
    (hleads : c.Leads table standardError) {state : StageState} {outcome foretold : StageOutcome}
    (hforetold : c.Foretells state foretold) (hreaped : Reaped table stamp state outcome calls)
    (hcalls : Replayed w calls w') :
    outcome = foretold ∧ StaysEnded w w' ∧ (∃ c', Staffed setting w' c' ∧ c.Remains c') ∧
      ∀ st ∈ c.stations, state = .running (pidOf st.job) → (w'.jobAt st.job).isLive = false := by
  cases hreaped with
  | settled outcome =>
    cases hcalls
    cases hforetold
    exact ⟨rfl, fun _ hi => hi, ⟨c, h, .refl c⟩, fun st _ heq => by cases heq⟩
  | ended pid calls last status hwatched hlast =>
    obtain ⟨hstays, hstaffed, hended⟩ := h.watched hforked htable hwatched hcalls
    cases hforetold with
    | running st hst =>
      have hanswer := (hended st hst rfl).1
      rw [hlast] at hanswer
      cases hanswer
      refine ⟨rfl, hstays, ⟨_, hstaffed, ⟨⟨rfl, rfl, rfl, rfl, rfl⟩, rfl, rfl, rfl⟩⟩, ?_⟩
      intro other hother heq
      exact (hended other hother (StageState.running.inj heq)).2
  | lost pid calls notes last errno hwatched hlast hnotes =>
    obtain ⟨between, hcalls, -⟩ := hcalls.split
    obtain ⟨-, -, hended⟩ := h.watched hforked htable hwatched hcalls
    cases hforetold with
    | running st hst =>
      have hanswer := (hended st hst rfl).1
      rw [hlast] at hanswer
      cases hanswer
  | buried pid reason calls notes last hwatched hnotes =>
    obtain ⟨between, hcalls, hlater⟩ := hcalls.split
    obtain ⟨hstays, hstaffed, -⟩ := h.watched hforked htable hwatched hcalls
    cases hforetold
    exact ⟨rfl, fun i hi => staysEnded_noted hnotes hlater i (hstays i hi),
      ⟨_, hstaffed.noted hnotes hleads hlater, ⟨⟨rfl, rfl, rfl, rfl, rfl⟩, rfl, rfl, rfl⟩⟩,
      fun st _ heq => by cases heq⟩

/-- What is learned of all stages is what was foretold, and the programs have ended. -/
theorem Staffed.reapedAll (h : Staffed setting w c) (hforked : c.forked = none)
    (htable : ∀ pipe, table.refersTo (fun other => decide (other = .writeEnd pipe)) = false)
    (hleads : c.Leads table standardError) {states : List StageState}
    {outcomes foretold : List StageOutcome} {segments : List (List Call)}
    (hforetold : List.Forall₂ c.Foretells states foretold)
    (hreaped : ReapedAll table stamp states outcomes segments)
    (hcalls : Replayed w segments.flatten w') :
    outcomes = foretold ∧ StaysEnded w w' ∧ (∃ c', Staffed setting w' c' ∧ c.Remains c') ∧
      ∀ st ∈ c.stations, .running (pidOf st.job) ∈ states →
        (w'.jobAt st.job).isLive = false := by
  induction hreaped generalizing w c foretold with
  | nil =>
    cases hforetold
    cases hcalls
    exact ⟨rfl, fun _ hi => hi, ⟨c, h, .refl c⟩, fun _ _ hmem => by cases hmem⟩
  | cons state outcome calls states outcomes segments hfirst hrest ih =>
    cases hforetold with
    | cons hhead htail =>
      obtain ⟨between, hcalls, hmore⟩ := hcalls.split
      obtain ⟨rfl, hstays, ⟨c₁, hstaffed, hremains⟩, hended⟩ :=
        h.reaped hforked htable hleads hhead hfirst hcalls
      have hforetold := htail.imp fun _ _ => Crew.Foretells.mono fun st hst =>
        hremains.stations ▸ hst
      obtain ⟨rfl, hstays', ⟨c₂, hstaffed, hremains'⟩, hended'⟩ := ih hstaffed
        (hremains.forked.trans hforked) (hremains.leads hleads) hforetold hmore
      refine ⟨rfl, fun i hi => hstays' i (hstays i hi), ⟨c₂, hstaffed, hremains.trans hremains'⟩,
        fun st hst hmem => ?_⟩
      rcases List.mem_cons.1 hmem with heq | hmem
      · exact hstays' _ (hended st hst heq.symm)
      · exact hended' st (hremains.stations ▸ hst) hmem

end

end Workshop

end CommandShell
