import CommandShell.Proofs.Serving
import CommandShell.Proofs.Transcript

/-!
# Requests to a workshop

What a request does to a crew. Pipes and opened files get new numbers, so that they change nothing
of what the crew uses; a new process is a copy of the shell until it starts its program and gets a
station. Main statements: a file is opened for the next program (`Staffed.openToRead`,
`Staffed.openToWrite`), a process is made (`Staffed.fork`), and if its program is started, it joins
the crew (`Staffed.exec`).
-/

namespace CommandShell

open Shell

namespace Workshop

/-- A workshop in a setting, with a crew whose places go together. -/
structure Staffed (setting : Setting) (w : Workshop) (c : Crew) : Prop where
  /-- The places go together. -/
  arranged : c.Arranged
  /-- The crew is at work. -/
  serves : w.Serves c
  /-- The setting does not change. -/
  setting_eq : w.setting = setting

namespace Port

variable {port : Port} {number : Nat}

theorem number_of_source (h : port.source = .file number) : port.number = number := by
  cases port <;> cases h <;> rfl

theorem number_of_goal (h : port.goal = .file number) : port.number = number := by
  cases port <;> cases h <;> rfl

end Port

section

variable {setting : Setting} {v w w' : Workshop} {c : Crew}

/-- A crew is the same as long as nothing is changed that it uses. -/
theorem Serves.congr (h : w.Serves c) (hc : c.Arranged) (hjobs : v.jobs = w.jobs)
    (hshell : v.shell = w.shell) (hfiles : v.files = w.files)
    (hincoming : v.incoming = w.incoming)
    (hprinted : ∀ number, ¬ c.noisy number → v.printed number = w.printed number)
    (hdescriptions : ∀ number < c.fresh, v.descriptions number = w.descriptions number)
    (hpipes : ∀ pipe < c.lastPipe, v.pipes pipe = w.pipes pipe)
    (hreport : ∀ pipe bytes, c.report = some (pipe, bytes) →
      v.pipes pipe = bytes ∧ pipe < v.pipeLimit) : v.Serves c := by
  have hjobAt : ∀ i, v.jobAt i = w.jobAt i := fun i => by rw [jobAt, jobAt, hjobs]
  refine ⟨?_, ?_, ?_, ?_, ?_, ?_, ?_, ?_, ?_, ?_, ?_, ?_, ?_, ?_, hreport⟩
  · rw [hjobs]
    exact h.present
  · intro st hst
    rw [hjobAt]
    exact h.fits st hst
  · intro i hi
    rw [hjobAt, hjobs]
    exact h.forked i hi
  · intro i hi
    rw [hjobAt]
    exact h.others i (hjobs ▸ hi)
  · intro st hst
    have hleft := h.left st hst
    rw [hjobAt]
    cases hinlet : st.inlet with
    | pipe pipe => trivial
    | stream number =>
      have hnumber := (hc.numbered st hst).1
      rw [hinlet] at hleft hnumber
      rw [Left, hdescriptions number hnumber, hincoming]
      exact hleft
    | file number target =>
      have hnumber := (hc.numbered st hst).1
      rw [hinlet] at hleft hnumber
      rw [Left, hdescriptions number hnumber, hfiles]
      exact hleft
  · intro st hst
    have harrived := h.arrived st hst
    rw [hjobAt]
    cases houtlet : st.outlet with
    | pipe pipe => trivial
    | stream number =>
      have hnumber := (hc.numbered st hst).2
      rw [houtlet] at harrived hnumber
      rw [Arrived, hdescriptions number hnumber, hprinted number (hc.unmixed st hst number houtlet)]
      exact harrived
    | file number target =>
      have hnumber := (hc.numbered st hst).2
      rw [houtlet] at harrived hnumber
      rw [Arrived, hdescriptions number hnumber, hfiles]
      exact harrived
  · intro a ha b hb pipe houtlet hinlet
    rw [hjobAt, hjobAt, hpipes pipe (hc.pipes a ha pipe (Or.inr houtlet)).2]
    exact h.piped a ha b hb pipe houtlet hinlet
  · intro pipe hfirst hlast
    rw [hpipes pipe hlast]
    exact h.dry pipe hfirst hlast
  · intro number hquiet
    rw [hprinted number hquiet]
    exact h.printed number hquiet
  · rw [hfiles]
    exact h.kept
  · intro port hport
    have hawaits := h.awaits port hport
    have hnumber := hc.numbered_awaited port hport
    cases port with
    | file number target => exact hawaits
    | stream number =>
      rw [Awaits, hdescriptions number hnumber, hincoming]
      exact hawaits
    | pipe pipe =>
      intro a ha houtlet
      rw [hjobAt, hshell, hpipes pipe (hc.pipes_awaited pipe hport).2]
      exact hawaits a ha houtlet
  · rw [hshell]
    exact h.shell
  · intro number hnumber
    rw [hdescriptions number (hc.streams number hnumber)]
    exact h.streams number hnumber
  · intro entry hentry
    rw [hdescriptions entry.1 (hc.reserved entry hentry).1]
    exact h.reserved entry hentry

/-- Whatever the schedule says, the crew is the same. -/
theorem Staffed.elapse (h : Staffed setting w c) : Staffed setting w.elapse c :=
  ⟨h.arranged, h.serves.elapse h.arranged, (steady_elapse w).setting.trans h.setting_eq⟩

/-- Numbers can be left out. -/
theorem Crew.Arranged.skip (hc : c.Arranged) {fresh : Nat} (h : c.fresh ≤ fresh) :
    { c with fresh := fresh }.Arranged :=
  { hc with
    numbered := fun st hst =>
      ⟨Nat.lt_of_lt_of_le (hc.numbered st hst).1 h, Nat.lt_of_lt_of_le (hc.numbered st hst).2 h⟩
    numbered_awaited := fun port hport => Nat.lt_of_lt_of_le (hc.numbered_awaited port hport) h
    lastPipe_le := Nat.le_trans hc.lastPipe_le h
    streams := fun number hnumber => Nat.lt_of_lt_of_le (hc.streams number hnumber) h
    reserved := fun entry hentry =>
      ⟨Nat.lt_of_lt_of_le (hc.reserved entry hentry).1 h, (hc.reserved entry hentry).2⟩
    report := fun pipe bytes hreport =>
      ⟨(hc.report pipe bytes hreport).1, Nat.lt_of_lt_of_le (hc.report pipe bytes hreport).2 h⟩ }

theorem Staffed.skip (h : Staffed setting w c) {fresh : Nat} (hle : c.fresh ≤ fresh) :
    Staffed setting w { c with fresh := fresh } :=
  ⟨h.arranged.skip hle, { h.serves with }, h.setting_eq⟩

/-! ## Pipes and files -/

/-- A pipe for a report is made. -/
theorem Staffed.makeReport (h : Staffed setting w c) {pipe : Nat} {answer : Except Errno Unit}
    (hnumber : c.fresh ≤ pipe) (hcall : (Call.makePipe pipe answer).Answered w w') :
    answer = .ok () ∧
      Staffed setting w' { c with fresh := pipe + 1, report := some (pipe, []) } := by
  obtain ⟨hc, hserves, hsetting⟩ := h.elapse.skip (Nat.le_succ_of_le hnumber)
  cases hcall
  refine ⟨rfl, ?_, ?_, hsetting⟩
  · refine { hc with report := ?_ }
    rintro _ _ ⟨⟩
    exact ⟨Nat.le_trans h.arranged.lastPipe_le hnumber, Nat.lt_succ_self pipe⟩
  · have hserves : w.elapse.Serves { c with fresh := pipe, report := none } :=
      { h.elapse.serves with report := fun _ _ hnone => by cases hnone }
    have hc : { c with fresh := pipe, report := none }.Arranged :=
      { h.arranged.skip hnumber with report := fun _ _ hnone => by cases hnone }
    refine { hserves.congr (v := { w.elapse with
      pipes := Function.update w.elapse.pipes pipe []
      pipeLimit := max w.elapse.pipeLimit (pipe + 1) }) hc rfl rfl rfl rfl (fun _ _ => rfl)
      (fun _ _ => rfl) (fun other hother => ?_) (fun _ _ hnone => by cases hnone) with
      report := ?_ }
    · refine Function.update_of_ne (Nat.ne_of_lt ?_) _ _
      exact Nat.lt_of_lt_of_le hother (Nat.le_trans h.arranged.lastPipe_le hnumber)
    · rintro _ _ ⟨⟩
      exact ⟨Function.update_self _ _ _, Nat.lt_of_succ_le (Nat.le_max_right _ _)⟩

/-- A file that a crew does not use is opened for the next program. -/
theorem Staffed.reserve (h : Staffed setting w c) {number : Nat} {target : File}
    (hnumber : c.fresh ≤ number) :
    Staffed setting { w with
      descriptions := Function.update w.descriptions number (some ⟨target, 0⟩) }
      { c with fresh := number + 1, reserved := (number, target) :: c.reserved } := by
  obtain ⟨hc, hserves, hsetting⟩ := h.skip (Nat.le_succ_of_le hnumber)
  refine ⟨?_, ?_, hsetting⟩
  · refine { hc with reserved := fun entry hentry => ?_ }
    rcases List.mem_cons.1 hentry with rfl | hentry
    · refine ⟨Nat.lt_succ_self number, fun st hst => ?_⟩
      obtain ⟨hinlet, houtlet⟩ := h.arranged.numbered st hst
      constructor
      · intro hsource
        rw [Port.number_of_source hsource] at hinlet
        exact Nat.not_lt_of_le hnumber hinlet
      · intro hgoal
        rw [Port.number_of_goal hgoal] at houtlet
        exact Nat.not_lt_of_le hnumber houtlet
    · exact hc.reserved entry hentry
  · have hcongr := h.serves.congr (v := { w with
      descriptions := Function.update w.descriptions number (some ⟨target, 0⟩) }) h.arranged
      rfl rfl rfl rfl (fun _ _ => rfl)
      (fun other hother => Function.update_of_ne
        (Nat.ne_of_lt (Nat.lt_of_lt_of_le hother hnumber)) _ _)
      (fun _ _ => rfl) h.serves.report
    refine { hcongr with reserved := fun entry hentry => ?_ }
    rcases List.mem_cons.1 hentry with rfl | hentry
    · exact Function.update_self _ _ _
    · exact hcongr.reserved entry hentry

/-- A file that no program writes to is opened for reading, if there is one. -/
theorem Staffed.openToRead (h : Staffed setting w c) {start : Directory} {path : String}
    {number : Nat} {answer : Except Errno Unit} (hnumber : c.fresh ≤ number)
    (hunwritten : ∀ target, setting.toRead start path = .ok target →
      ∀ st ∈ c.stations, st.outlet.file? ≠ some target)
    (hcall : (Call.openToRead start path number answer).Answered w w') :
    (∃ errno, answer = .error errno ∧
      (setting.toRead start path = .error errno ∨
        ∃ target, setting.toRead start path = .ok target ∧ c.files target = none ∧
          errno = .noEntry) ∧
      Staffed setting w' { c with fresh := number + 1 }) ∨
    (∃ target content, answer = .ok () ∧ setting.toRead start path = .ok target ∧
      c.files target = some content ∧
      Staffed setting w' { c with
        fresh := number + 1, reserved := (number, target) :: c.reserved }) := by
  have helapsed := h.elapse
  have hskipped := helapsed.skip (Nat.le_succ_of_le hnumber)
  change w.elapse.openToRead start path number = (answer, w') at hcall
  have hsetting : w.elapse.setting.toRead start path = setting.toRead start path := by
    rw [helapsed.setting_eq]
  rw [Workshop.openToRead, hsetting] at hcall
  cases htoRead : setting.toRead start path with
  | error errno =>
    rw [htoRead] at hcall
    cases hcall
    exact Or.inl ⟨errno, rfl, Or.inl rfl, hskipped⟩
  | ok target =>
    rw [htoRead] at hcall
    have hkept := helapsed.serves.kept target (hunwritten target htoRead)
    dsimp only at hcall
    rw [hkept] at hcall
    cases hfile : c.files target with
    | none =>
      rw [hfile] at hcall
      cases hcall
      exact Or.inl ⟨.noEntry, rfl, Or.inr ⟨target, rfl, hfile, rfl⟩, hskipped⟩
    | some content =>
      rw [hfile] at hcall
      cases hcall
      exact Or.inr ⟨target, content, rfl, rfl, hfile, helapsed.reserve hnumber⟩

/-- A file that no program uses is emptied. -/
theorem Staffed.empty (h : Staffed setting w c) {target : File}
    (hunused : ∀ st ∈ c.stations, st.inlet.file? ≠ some target ∧ st.outlet.file? ≠ some target) :
    Staffed setting { w with files := Function.update w.files target (some []) }
      { c with files := Function.update c.files target (some []) } := by
  obtain ⟨hc, hserves, hsetting⟩ := h
  refine ⟨?_, ?_, hsetting⟩
  · refine { hc with filed := fun st hst other hother => ?_ }
    refine (Function.update_of_ne ?_ _ _).trans (hc.filed st hst other hother)
    rintro rfl
    exact (hunused st hst).2 hother
  · refine { hserves with left := ?_, arrived := ?_, kept := ?_, awaits := ?_ }
    · intro st hst
      have hleft := hserves.left st hst
      cases hinlet : st.inlet with
      | pipe pipe => trivial
      | stream number =>
        rw [hinlet] at hleft
        exact hleft
      | file number other =>
        rw [hinlet] at hleft
        obtain ⟨position, content, hdescription, hcontent, hinput⟩ := hleft
        refine ⟨position, content, hdescription, ?_, hinput⟩
        refine (Function.update_of_ne ?_ _ _).trans hcontent
        rintro rfl
        exact (hunused st hst).1 (by rw [hinlet]; rfl)
    · intro st hst
      have harrived := hserves.arrived st hst
      cases houtlet : st.outlet with
      | pipe pipe => trivial
      | stream number =>
        rw [houtlet] at harrived
        exact harrived
      | file number other =>
        rw [houtlet] at harrived
        refine ⟨harrived.1, (Function.update_of_ne ?_ _ _).trans harrived.2⟩
        rintro rfl
        exact (hunused st hst).2 (by rw [houtlet]; rfl)
    · intro other hother
      by_cases hsame : other = target
      · subst hsame
        simp
      · simpa [Function.update_of_ne hsame] using hserves.kept other hother
    · intro port hport
      have hawaits := hserves.awaits port hport
      cases port with
      | file number other => exact hawaits
      | stream number => exact hawaits
      | pipe pipe => exact hawaits

/-- A file that no program uses is opened for writing, if this is allowed. -/
theorem Staffed.openToWrite (h : Staffed setting w c) {start : Directory} {path : String}
    {number : Nat} {answer : Except Errno Unit} (hnumber : c.fresh ≤ number)
    (hunused : ∀ target, setting.toWrite start path = .ok target →
      ∀ st ∈ c.stations, st.inlet.file? ≠ some target ∧ st.outlet.file? ≠ some target)
    (hcall : (Call.openToWrite start path number answer).Answered w w') :
    (∃ errno, answer = .error errno ∧ setting.toWrite start path = .error errno ∧
      Staffed setting w' { c with fresh := number + 1 }) ∨
    (∃ target, answer = .ok () ∧ setting.toWrite start path = .ok target ∧
      Staffed setting w' { c with
        fresh := number + 1
        files := Function.update c.files target (some [])
        reserved := (number, target) :: c.reserved }) := by
  have helapsed := h.elapse
  change w.elapse.openToWrite start path number = (answer, w') at hcall
  have hsetting : w.elapse.setting.toWrite start path = setting.toWrite start path := by
    rw [helapsed.setting_eq]
  rw [Workshop.openToWrite, hsetting] at hcall
  cases htoWrite : setting.toWrite start path with
  | error errno =>
    rw [htoWrite] at hcall
    cases hcall
    exact Or.inl ⟨errno, rfl, rfl, helapsed.skip (Nat.le_succ_of_le hnumber)⟩
  | ok target =>
    rw [htoWrite] at hcall
    cases hcall
    exact Or.inr ⟨target, rfl, rfl,
      (helapsed.empty (hunused target htoWrite)).reserve hnumber⟩

/-! ## Processes and messages -/

theorem jobAt_append_of_lt {jobs : List Job} (hjobs : w'.jobs = w.jobs ++ jobs) {i : Nat}
    (hi : i < w.jobs.length) : w'.jobAt i = w.jobAt i := by
  rw [jobAt, jobAt, hjobs, List.getElem?_append_left hi]

theorem jobAt_append_length {job : Job} (hjobs : w'.jobs = w.jobs ++ [job]) :
    w'.jobAt w.jobs.length = job := by
  rw [jobAt, hjobs, List.getElem?_concat_length, Option.getD_some]

/-- A copy of the shell is made. -/
theorem Staffed.fork (h : Staffed setting w c) (hforked : c.forked = none) {table : Descriptors}
    {answer : Except Errno Pid}
    (hreader : ∀ pipe, c.awaited = some (.pipe pipe) → ∀ a ∈ c.stations, a.outlet = .pipe pipe →
      table.refersTo (fun other => decide (other = .readEnd pipe)) = true)
    (hcall : (Call.fork table answer).Answered w w') :
    ∃ i, answer = .ok (pidOf i) ∧
      Staffed setting w' { c with forked := some i, shell := table } := by
  obtain ⟨hc, hserves, hsetting⟩ := h.elapse
  have hjobs : w'.jobs = w.elapse.jobs ++ [⟨table, [], [], .forked⟩] := by
    cases hcall
    rfl
  have hlength : w'.jobs.length = w.elapse.jobs.length + 1 := by
    rw [hjobs, List.length_append, List.length_singleton]
  have hold : ∀ st ∈ c.stations, w'.jobAt st.job = w.elapse.jobAt st.job := fun st hst =>
    jobAt_append_of_lt hjobs (hserves.present st hst)
  have hnew := jobAt_append_length hjobs
  cases hcall
  refine ⟨_, rfl, ?_, ?_, hsetting⟩
  · refine { hc with forked := ?_ }
    rintro _ ⟨⟩
    exact hserves.present
  · refine { hserves with
      present := ?_, fits := ?_, forked := ?_, others := ?_, left := ?_, arrived := ?_,
      piped := ?_, awaits := ?_, shell := rfl }
    · intro st hst
      rw [hlength]
      exact Nat.lt_succ_of_lt (hserves.present st hst)
    · intro st hst
      rw [hold st hst]
      exact hserves.fits st hst
    · rintro _ ⟨⟩
      rw [hlength, hnew]
      exact ⟨Nat.lt_succ_self _, rfl⟩
    · intro i hi hnone hne
      rw [hlength] at hi
      have hlt : i < w.elapse.jobs.length :=
        Nat.lt_of_le_of_ne (Nat.le_of_lt_succ hi) fun heq => hne (congrArg some heq.symm)
      rw [jobAt_append_of_lt hjobs hlt]
      exact hserves.others i hlt hnone (by simp [hforked])
    · intro st hst
      rw [hold st hst]
      exact hserves.left st hst
    · intro st hst
      rw [hold st hst]
      exact hserves.arrived st hst
    · intro a ha b hb
      rw [hold a ha, hold b hb]
      exact hserves.piped a ha b hb
    · intro port hport
      have hawaits := hserves.awaits port hport
      cases port with
      | file number target => exact hawaits
      | stream number => exact hawaits
      | pipe pipe =>
        intro a ha houtlet
        rw [hold a ha]
        exact ⟨hreader pipe hport a ha houtlet, (hawaits a ha houtlet).2⟩

/-- A copy of the shell may make any duplicate. -/
theorem Staffed.duplicate (h : Staffed setting w c) {pid : Pid} {source goal : Fd}
    {answer : Except Errno Unit} (hcall : (Call.duplicate pid source goal answer).Answered w w') :
    answer = .ok () ∧ Staffed setting w' c := by
  cases hcall
  exact ⟨rfl, h.elapse⟩

/-- A copy of the shell ends. -/
theorem Staffed.exit (h : Staffed setting w c) {i code : Nat} (hforked : c.forked = some i)
    (hcall : (Call.exit (pidOf i) code).Answered w w') :
    Staffed setting w' { c with forked := none } := by
  obtain ⟨hc, hserves, hsetting⟩ := h.elapse
  obtain ⟨hlt, hphase⟩ := hserves.forked i hforked
  have hw' : w' = w.elapse.setJob i
      { w.elapse.jobAt i with phase := .ended (.exited code) } := by
    change ((), w.elapse.exit (pidOf i) code) = ((), w') at hcall
    rw [Workshop.exit, position_pidOf, jobs_eq_jobAt hlt] at hcall
    exact (Prod.mk.inj hcall).2.symm
  have hjobs : w'.jobs = w.elapse.jobs.set i
      { w.elapse.jobAt i with phase := .ended (.exited code) } := by rw [hw', setJob]
  have hother : ∀ st ∈ c.stations, w'.jobAt st.job = w.elapse.jobAt st.job := fun st hst =>
    jobAt_of_set_of_ne (Nat.ne_of_lt (hc.forked i hforked st hst)) hjobs
  have hlength : w'.jobs.length = w.elapse.jobs.length := by rw [hjobs, List.length_set]
  refine ⟨{ hc with forked := fun _ hnone => by cases hnone }, ?_, by rw [hw']; exact hsetting⟩
  refine ⟨?_, ?_, fun _ hnone => (by cases hnone), ?_, ?_, ?_, ?_, ?_, ?_, ?_, ?_, ?_, ?_, ?_, ?_⟩
  · intro st hst
    rw [hlength]
    exact hserves.present st hst
  · intro st hst
    rw [hother st hst]
    exact hserves.fits st hst
  · intro j hj hnone _
    by_cases heq : j = i
    · subst heq
      rw [jobAt, hjobs, List.getElem?_set_self hlt]
      rfl
    · rw [jobAt_of_set_of_ne heq hjobs]
      refine hserves.others j (hlength ▸ hj) hnone ?_
      rw [hforked]
      exact fun hsame => heq (Option.some.inj hsame).symm
  · intro st hst
    rw [hother st hst, hw']
    exact hserves.left st hst
  · intro st hst
    rw [hother st hst, hw']
    exact hserves.arrived st hst
  · intro a ha b hb
    rw [hother a ha, hother b hb, hw']
    exact hserves.piped a ha b hb
  · rw [hw']
    exact hserves.dry
  · rw [hw']
    exact hserves.printed
  · rw [hw']
    exact hserves.kept
  · intro port hport
    have hawaits := hserves.awaits port hport
    cases port with
    | file number target => exact hawaits
    | stream number =>
      rw [hw']
      exact hawaits
    | pipe pipe =>
      intro a ha houtlet
      rw [hother a ha, hw']
      exact hawaits a ha houtlet
  · rw [hw']
    exact hserves.shell
  · rw [hw']
    exact hserves.streams
  · rw [hw']
    exact hserves.reserved
  · rw [hw']
    exact hserves.report

/-- A message goes to a stream to which no program writes. -/
theorem Staffed.tell (h : Staffed setting w c) {number : Nat} {bytes : Bytes}
    {answer : Except Errno Unit} (hstream : c.streams number) (hnoisy : c.noisy number)
    (hcall : (Call.write (.file number) bytes answer).Answered w w') :
    answer = .ok () ∧ Staffed setting w' c := by
  obtain ⟨hc, hserves, hsetting⟩ := h.elapse
  change w.elapse.tell (.file number) bytes = (answer, w') at hcall
  rw [Workshop.tell, put, hserves.streams number hstream] at hcall
  cases hcall
  refine ⟨rfl, hc, hserves.congr hc rfl rfl rfl rfl (fun other hquiet => ?_) (fun _ _ => rfl)
    (fun _ _ => rfl) hserves.report, hsetting⟩
  refine Function.update_of_ne ?_ _ _
  rintro rfl
  exact hquiet hnoisy

/-- A process reports something to the shell. -/
theorem Staffed.report (h : Staffed setting w c) {pipe : Nat} {before bytes : Bytes}
    {answer : Except Errno Unit} (hreport : c.report = some (pipe, before))
    (hheld : c.shell.refersTo (fun other => decide (other = .readEnd pipe)) = true)
    (hcall : (Call.write (.writeEnd pipe) bytes answer).Answered w w') :
    answer = .ok () ∧ Staffed setting w' { c with report := some (pipe, before ++ bytes) } := by
  obtain ⟨hc, hserves, hsetting⟩ := h.elapse
  have hholds : w.elapse.holds (.readEnd pipe) = true := by
    rw [holds, hserves.shell, hheld, Bool.true_or]
  obtain ⟨hpipe, hlimit⟩ := hserves.report pipe before hreport
  obtain ⟨hlast, hfresh⟩ := hc.report pipe before hreport
  change w.elapse.tell (.writeEnd pipe) bytes = (answer, w') at hcall
  rw [Workshop.tell, if_pos hholds, put, if_pos hholds, hpipe] at hcall
  cases hcall
  refine ⟨rfl, { hc with report := ?_ }, ?_, hsetting⟩
  · rintro _ _ ⟨⟩
    exact ⟨hlast, hfresh⟩
  · have hquiet : w.elapse.Serves { c with report := none } :=
      { hserves with report := fun _ _ hnone => by cases hnone }
    have hquietly : { c with report := none }.Arranged :=
      { hc with report := fun _ _ hnone => by cases hnone }
    refine { hquiet.congr (v := { w.elapse with
      pipes := Function.update w.elapse.pipes pipe (before ++ bytes) }) hquietly rfl rfl rfl rfl
      (fun _ _ => rfl) (fun _ _ => rfl) (fun other hother => Function.update_of_ne
        (Nat.ne_of_lt (Nat.lt_of_lt_of_le hother hlast)) _ _)
      (fun _ _ hnone => by cases hnone) with report := ?_ }
    rintro _ _ ⟨⟩
    exact ⟨Function.update_self _ _ _, hlimit⟩

/-- The shell tells of its descriptors, among which is the pipe from which the next program is to
read. -/
theorem Staffed.reveal (h : Staffed setting w c) {table : Descriptors}
    (hreader : ∀ pipe, c.awaited = some (.pipe pipe) → ∀ a ∈ c.stations, a.outlet = .pipe pipe →
      table.refersTo (fun other => decide (other = .readEnd pipe)) = true) :
    Staffed setting { w with shell := table } { c with shell := table } := by
  obtain ⟨hc, hserves, hsetting⟩ := h
  refine ⟨{ hc with }, { hserves with awaits := fun port hport => ?_, shell := rfl }, hsetting⟩
  have hawaits := hserves.awaits port hport
  cases port with
  | file number target => exact hawaits
  | stream number => exact hawaits
  | pipe pipe =>
    exact fun a ha houtlet => ⟨hreader pipe hport a ha houtlet, (hawaits a ha houtlet).2⟩

/-- The shell hears what was reported, and that nobody can report more: it has closed its own end of
the pipe for the report. -/
theorem Staffed.hear (h : Staffed setting w c) (hforked : c.forked = none) {pipe limit : Nat}
    {table : Descriptors} {bytes : Bytes} {answer : Except Errno Bytes}
    (hreport : c.report = some (pipe, bytes))
    (hclosed : table.refersTo (fun other => decide (other = .writeEnd pipe)) = false)
    (hreader : ∀ pipe, c.awaited = some (.pipe pipe) → ∀ a ∈ c.stations, a.outlet = .pipe pipe →
      table.refersTo (fun other => decide (other = .readEnd pipe)) = true)
    (hcall : (Call.read (.readEnd pipe) limit table answer).Answered w w') :
    answer = .ok (bytes.take limit) ∧
      Staffed setting w' { c with shell := table, report := some (pipe, bytes.drop limit) } := by
  obtain ⟨hc, hserves, hsetting⟩ := h.reveal hreader
  change { w with shell := table }.hear (.readEnd pipe) limit = (answer, w') at hcall
  generalize { w with shell := table } = w at hserves hsetting hcall
  obtain ⟨hpipe, hlimit⟩ := hserves.report pipe bytes hreport
  obtain ⟨hlast, hfresh⟩ := hc.report pipe bytes hreport
  have hsilent : w.holds (.writeEnd pipe) = false := by
    rw [holds, hserves.shell, hclosed, Bool.false_or]
    exact hserves.silent hforked fun st hst houtlet =>
      absurd (hc.pipes st hst pipe (Or.inr houtlet)).2 (Nat.not_lt_of_le hlast)
  rw [Workshop.hear, hpipe, hsilent, if_neg (Nat.not_le_of_lt hlimit), Bool.and_false,
    if_neg Bool.false_ne_true, advance, hpipe] at hcall
  cases hcall
  refine ⟨rfl, { hc with report := ?_ }, ?_, hsetting⟩
  · rintro _ _ ⟨⟩
    exact ⟨hlast, hfresh⟩
  · have hquiet : w.Serves { c with shell := table, report := none } :=
      { hserves with report := fun _ _ hnone => by cases hnone }
    have hquietly : { c with shell := table, report := none }.Arranged :=
      { hc with report := fun _ _ hnone => by cases hnone }
    refine { hquiet.congr (v := { w with
      pipes := Function.update w.pipes pipe (bytes.drop (bytes.take limit).length) }) hquietly rfl
      rfl rfl rfl (fun _ _ => rfl) (fun _ _ => rfl) (fun other hother => Function.update_of_ne
        (Nat.ne_of_lt (Nat.lt_of_lt_of_le hother hlast)) _ _)
      (fun _ _ hnone => by cases hnone) with report := ?_ }
    rintro _ _ ⟨⟩
    refine ⟨(Function.update_self _ _ _).trans ?_, hlimit⟩
    rw [List.length_take]
    rcases Nat.le_total limit bytes.length with hle | hle
    · rw [Nat.min_eq_left hle]
    · rw [Nat.min_eq_right hle, List.drop_length, List.drop_of_length_le hle]

end

end Workshop

end CommandShell
