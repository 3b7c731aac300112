import CommandShell.Proofs.Requests

/-!
# A program joins the crew

When a process starts its program, it gets a station between the place where it reads and the place
where it writes. It reads what the program in front of it leaves, or a file of its own; it writes to
a place where nobody else writes. Main statement: a process that starts its program joins the crew
(`Staffed.exec`).
-/

namespace CommandShell

open Shell

namespace Workshop

/-- Where the next program reads what is written to a place, if it is a pipe. -/
def Port.next? : Port → Option Port
  | pipe number => some (.pipe number)
  | _ => none

/-- The contents of the files when a program has written to the place where it writes. -/
def Station.leaves (st : Station) (files : File → Option Bytes) : File → Option Bytes :=
  match st.outlet.file? with
  | none => files
  | some target => Function.update files target (some st.output)

namespace Crew

/-- A program joins the crew. -/
def hire (c : Crew) (st : Station) : Crew :=
  { c with
    stations := c.stations ++ [st]
    forked := none
    awaited := st.outlet.next?
    feed := st.output
    files := st.leaves c.files
    reserved := [] }

/-- A place where something can be read by the next program. -/
inductive Offers (c : Crew) : Port → Bytes → Prop
  /-- It is the place where the next program is to read. -/
  | awaited (port : Port) (h : c.awaited = some port) : Offers c port c.feed
  /-- It is a file that was opened, and that no program writes to. -/
  | file (number : Nat) (target : File) (content : Bytes) (h : (number, target) ∈ c.reserved)
      (hcontent : c.files target = some content)
      (hunwritten : ∀ a ∈ c.stations, a.outlet.file? ≠ some target) :
      Offers c (.file number target) content

/-- A place where the next program can write, given where it reads. -/
inductive Admits (c : Crew) (inlet : Port) : Port → Prop
  /-- It is a stream to which no other program writes. -/
  | stream (number : Nat) (hstream : c.streams number) (hquiet : ¬ c.noisy number)
      (hunused : ∀ a ∈ c.stations, a.outlet ≠ .stream number) : Admits c inlet (.stream number)
  /-- It is a file that was opened, and that no other program uses. -/
  | file (number : Nat) (target : File) (h : (number, target) ∈ c.reserved)
      (hempty : c.files target = some [])
      (hunused : ∀ a ∈ c.stations, a.inlet.file? ≠ some target ∧ a.outlet.file? ≠ some target)
      (hinlet : inlet.file? ≠ some target) : Admits c inlet (.file number target)
  /-- It is a pipe that no other program uses, and that the shell can hand on. -/
  | pipe (number : Nat) (hfirst : c.firstPipe ≤ number) (hlast : number < c.lastPipe)
      (hunused : ∀ a ∈ c.stations, a.inlet ≠ .pipe number ∧ a.outlet ≠ .pipe number)
      (hinlet : inlet ≠ .pipe number)
      (hshell : c.shell.refersTo (fun other => decide (other = .readEnd number)) = true) :
      Admits c inlet (.pipe number)

/-- A process can join the crew with the descriptors of its program. -/
structure Accepts (c : Crew) (table : Descriptors) (st : Station) : Prop where
  /-- It is the copy of the shell. -/
  forked : c.forked = some st.job
  /-- It reads where it should. -/
  inlet : (table.get? 0).map Slot.target = some st.inlet.source
  /-- It writes where it should. -/
  outlet : (table.get? 1).map Slot.target = some st.outlet.goal
  /-- It has no other pipe to write to. -/
  writes : ∀ pipe, table.refersTo (fun other => decide (other = .writeEnd pipe)) = true →
    st.outlet = .pipe pipe
  /-- There is something to read. -/
  offers : c.Offers st.inlet st.input
  /-- It may write there. -/
  admits : c.Admits st.inlet st.outlet

end Crew

section

variable {setting : Setting} {w w' : Workshop} {c : Crew} {st : Station} {table : Descriptors}

theorem eq_pipe_of_next? {port other : Port} (h : port.next? = some other) :
    ∃ pipe, port = .pipe pipe ∧ other = .pipe pipe := by
  cases port <;> cases h
  exact ⟨_, rfl, rfl⟩

theorem source_ne_readEnd {port : Port} {pipe : Nat} (h : port ≠ .pipe pipe) :
    port.source ≠ .readEnd pipe := by
  intro heq
  cases port <;> cases heq
  exact h rfl

theorem goal_ne_writeEnd {port : Port} {pipe : Nat} (h : port ≠ .pipe pipe) :
    port.goal ≠ .writeEnd pipe := by
  intro heq
  cases port <;> cases heq
  exact h rfl

/-- Nobody else reads where a new program reads. -/
theorem Crew.Offers.source_ne {inlet : Port} {input : Bytes} (h : c.Offers inlet input)
    (hc : c.Arranged) : ∀ a ∈ c.stations, a.inlet.source ≠ inlet.source := by
  intro a ha
  cases h with
  | awaited port h => exact hc.awaited inlet h a ha
  | file number target content h hcontent hunwritten => exact ((hc.reserved _ h).2 a ha).1

/-- Nobody else writes to what a new program reads. -/
theorem Crew.Offers.file?_ne {inlet : Port} {input : Bytes} (h : c.Offers inlet input)
    (hserves : w.Serves c) {target : File} (htarget : inlet.file? = some target) :
    ∀ a ∈ c.stations, a.outlet.file? ≠ some target := by
  intro a ha
  cases h with
  | awaited port h =>
    have hawaits := hserves.awaits _ h
    cases inlet <;> cases htarget
    cases hawaits
  | file number other content h hcontent hunwritten =>
    cases htarget
    exact hunwritten a ha

/-- Nobody else writes where a new program writes. -/
theorem Crew.Admits.goal_ne {inlet outlet : Port} (h : c.Admits inlet outlet) (hc : c.Arranged)
    (hserves : w.Serves c) : ∀ a ∈ c.stations, a.outlet.goal ≠ outlet.goal := by
  intro a ha
  cases h with
  | pipe number hfirst hlast hunused hinlet hshell => exact goal_ne_writeEnd (hunused a ha).2
  | file number target h hempty hunused hinlet => exact ((hc.reserved _ h).2 a ha).2
  | stream number hstream hquiet hunused =>
    intro heq
    have harrived := hserves.arrived a ha
    cases houtlet : a.outlet with
    | pipe pipe =>
      rw [houtlet] at heq
      cases heq
    | stream other =>
      rw [houtlet] at heq
      cases heq
      exact hunused a ha houtlet
    | file other target =>
      rw [houtlet] at heq harrived
      cases heq
      cases (hserves.streams number hstream).symm.trans harrived.1

/-- A new program writes to no file that others use. -/
theorem Crew.Admits.file?_ne {inlet outlet : Port} (h : c.Admits inlet outlet) {target : File}
    (htarget : outlet.file? = some target) :
    inlet.file? ≠ some target ∧
      ∀ a ∈ c.stations, a.inlet.file? ≠ some target ∧ a.outlet.file? ≠ some target := by
  cases h with
  | stream number hstream hquiet hunused => cases htarget
  | pipe number hfirst hlast hunused hinlet hshell => cases htarget
  | file number other h hempty hunused hinlet =>
    cases htarget
    exact ⟨hinlet, hunused⟩

/-- A new program writes to no pipe that others use. -/
theorem Crew.Admits.pipe_ne {inlet : Port} {pipe : Nat} (h : c.Admits inlet (.pipe pipe)) :
    inlet ≠ .pipe pipe ∧ ∀ a ∈ c.stations, a.inlet ≠ .pipe pipe ∧ a.outlet ≠ .pipe pipe := by
  cases h with
  | pipe number hfirst hlast hunused hinlet hshell => exact ⟨hinlet, hunused⟩

/-- It writes to no pipe but those between stages. -/
theorem Crew.Admits.pipe_mem {inlet : Port} {pipe : Nat} (h : c.Admits inlet (.pipe pipe)) :
    c.firstPipe ≤ pipe ∧ pipe < c.lastPipe := by
  cases h with
  | pipe number hfirst hlast hunused hinlet hshell => exact ⟨hfirst, hlast⟩

/-- The shell can still hand on the pipe to which it writes. -/
theorem Crew.Admits.pipe_refersTo {inlet : Port} {pipe : Nat} (h : c.Admits inlet (.pipe pipe)) :
    c.shell.refersTo (fun other => decide (other = .readEnd pipe)) = true := by
  cases h with
  | pipe number hfirst hlast hunused hinlet hshell => exact hshell

/-- The place where a new program writes got its number before. -/
theorem Crew.Admits.number_lt {inlet outlet : Port} (h : c.Admits inlet outlet)
    (hc : c.Arranged) : outlet.number < c.fresh := by
  cases h with
  | stream number hstream hquiet hunused => exact hc.streams number hstream
  | file number target hreserved hempty hunused hinlet => exact (hc.reserved _ hreserved).1
  | pipe number hfirst hlast hunused hinlet hshell =>
    exact Nat.lt_of_lt_of_le hlast hc.lastPipe_le

/-- So did the place where it reads. -/
theorem Crew.Offers.number_lt {inlet : Port} {input : Bytes} (h : c.Offers inlet input)
    (hc : c.Arranged) : inlet.number < c.fresh := by
  cases h with
  | awaited port hport => exact hc.numbered_awaited _ hport
  | file number target content hreserved hcontent hunwritten =>
    exact (hc.reserved _ hreserved).1

/-- A new program that reads from a pipe reads what the next program was to read. -/
theorem Crew.Accepts.awaits (h : c.Accepts table st) {pipe : Nat} (hinlet : st.inlet = .pipe pipe) :
    c.awaited = some (.pipe pipe) ∧ st.input = c.feed := by
  have hoffers := h.offers
  rw [hinlet] at hoffers
  generalize st.input = input at hoffers ⊢
  cases hoffers with
  | awaited port hport => exact ⟨hport, rfl⟩

/-- A new program that writes to a pipe may write there. -/
theorem Crew.Accepts.admits_pipe (h : c.Accepts table st) {pipe : Nat}
    (houtlet : st.outlet = .pipe pipe) : c.Admits st.inlet (.pipe pipe) :=
  houtlet ▸ h.admits

theorem Crew.mem_hire {a : Station} :
    a ∈ (c.hire st).stations ↔ a ∈ c.stations ∨ a = st := by
  simp [Crew.hire]

theorem Crew.mem_hire_self : st ∈ (c.hire st).stations :=
  Crew.mem_hire.2 (Or.inr rfl)

theorem Crew.mem_hire_of_mem {a : Station} (h : a ∈ c.stations) : a ∈ (c.hire st).stations :=
  Crew.mem_hire.2 (Or.inl h)

/-- What tells the programs of a crew apart still does so if it tells the new one from them. -/
theorem Crew.inj_hire {β : Type} {f : Station → β}
    (hinj : ∀ a ∈ c.stations, ∀ b ∈ c.stations, f a = f b → a = b)
    (hne : ∀ a ∈ c.stations, f a ≠ f st) :
    ∀ a ∈ (c.hire st).stations, ∀ b ∈ (c.hire st).stations, f a = f b → a = b := by
  intro a ha b hb heq
  rcases Crew.mem_hire.1 ha with ha' | rfl <;> rcases Crew.mem_hire.1 hb with hb' | rfl
  · exact hinj a ha' b hb' heq
  · exact absurd heq (hne a ha')
  · exact absurd heq.symm (hne b hb')
  · rfl

theorem leaves_of_ne {files : File → Option Bytes} {target : File}
    (h : st.outlet.file? ≠ some target) : st.leaves files target = files target := by
  rw [Station.leaves]
  cases hfile : st.outlet.file? with
  | none => rfl
  | some other =>
    refine Function.update_of_ne ?_ _ _
    rintro rfl
    exact h hfile

theorem leaves_of_eq {files : File → Option Bytes} {target : File}
    (h : st.outlet.file? = some target) : st.leaves files target = some st.output := by
  rw [Station.leaves, h]
  exact Function.update_self _ _ _

/-- The files of a crew and of a new program: none is read and written, none is written by two. -/
theorem Crew.Accepts.files_apart (hc : c.Arranged) (hserves : w.Serves c)
    (h : c.Accepts table st) : ∀ a ∈ (c.hire st).stations, ∀ b ∈ (c.hire st).stations,
      ∀ file, a.outlet.file? = some file →
        b.inlet.file? ≠ some file ∧ (b.outlet.file? = some file → a = b) := by
  intro a ha b hb target htarget
  rcases Crew.mem_hire.1 ha with ha' | rfl <;> rcases Crew.mem_hire.1 hb with hb' | rfl
  · exact ⟨hc.unread a ha' b hb' target htarget, hc.unwritten a ha' b hb' target htarget⟩
  · exact ⟨fun hread => h.offers.file?_ne hserves hread a ha' htarget,
      fun hwritten => absurd htarget ((h.admits.file?_ne hwritten).2 a ha').2⟩
  · obtain ⟨hread, hwritten⟩ := (h.admits.file?_ne htarget).2 b hb'
    exact ⟨hread, fun htarget' => absurd htarget' hwritten⟩
  · exact ⟨(h.admits.file?_ne htarget).1, fun _ => rfl⟩

/-- What a crew and a new program read from a pipe is what an older one of them writes to it. -/
theorem Crew.Accepts.fed_hire (hc : c.Arranged) (h : c.Accepts table st) :
    ∀ a ∈ (c.hire st).stations, ∀ b ∈ (c.hire st).stations, ∀ pipe, a.outlet = .pipe pipe →
      b.inlet = .pipe pipe → b.input = a.output ∧ a.job < b.job := by
  intro a ha b hb pipe houtlet hinlet
  rcases Crew.mem_hire.1 ha with ha' | rfl <;> rcases Crew.mem_hire.1 hb with hb' | rfl
  · exact hc.fed a ha' b hb' pipe houtlet hinlet
  · obtain ⟨hport, hinput⟩ := h.awaits hinlet
    exact ⟨hinput.trans ((hc.feed pipe hport).1 a ha' houtlet), hc.forked b.job h.forked a ha'⟩
  · exact absurd hinlet ((h.admits_pipe houtlet).pipe_ne.2 b hb').1
  · exact absurd hinlet (h.admits_pipe houtlet).pipe_ne.1

/-- The places of a crew go together with those of a new program. -/
theorem Crew.Arranged.hire (hc : c.Arranged) (hserves : w.Serves c) (h : c.Accepts table st) :
    (c.hire st).Arranged where
  job_inj := Crew.inj_hire hc.job_inj fun a ha => Nat.ne_of_lt (hc.forked st.job h.forked a ha)
  inlet_inj := Crew.inj_hire hc.inlet_inj (h.offers.source_ne hc)
  outlet_inj := Crew.inj_hire hc.outlet_inj (h.admits.goal_ne hc hserves)
  unread a ha b hb target htarget := (h.files_apart hc hserves a ha b hb target htarget).1
  unwritten a ha b hb target htarget := (h.files_apart hc hserves a ha b hb target htarget).2
  fed := h.fed_hire hc
  unfed b hb pipe hinlet hnone := by
    rcases Crew.mem_hire.1 hb with hb | rfl
    · exact hc.unfed b hb pipe hinlet fun a ha => hnone a (Crew.mem_hire_of_mem ha)
    · obtain ⟨hport, hinput⟩ := h.awaits hinlet
      exact hinput.trans ((hc.feed pipe hport).2 fun a ha => hnone a (Crew.mem_hire_of_mem ha))
  awaited port hport a ha := by
    obtain ⟨pipe, houtlet, rfl⟩ := eq_pipe_of_next? hport
    rcases Crew.mem_hire.1 ha with ha | rfl
    · exact source_ne_readEnd ((h.admits_pipe houtlet).pipe_ne.2 a ha).1
    · exact source_ne_readEnd (h.admits_pipe houtlet).pipe_ne.1
  feed pipe hport := by
    obtain ⟨other, houtlet, heq⟩ := eq_pipe_of_next? hport
    cases heq
    refine ⟨fun a ha houtlet' => ?_, fun hnone => absurd houtlet (hnone st Crew.mem_hire_self)⟩
    rcases Crew.mem_hire.1 ha with ha | rfl
    · exact absurd houtlet' ((h.admits_pipe houtlet).pipe_ne.2 a ha).2
    · rfl
  -- The copy of the shell has become the new program.
  forked i hi := by cases hi
  filed a ha target htarget := by
    rcases Crew.mem_hire.1 ha with ha | rfl
    · refine (leaves_of_ne fun htarget' => ?_).trans (hc.filed a ha target htarget)
      exact ((h.admits.file?_ne htarget').2 a ha).2 htarget
    · exact leaves_of_eq htarget
  numbered a ha := by
    rcases Crew.mem_hire.1 ha with ha | rfl
    · exact hc.numbered a ha
    · exact ⟨h.offers.number_lt hc, h.admits.number_lt hc⟩
  numbered_awaited port hport := by
    obtain ⟨pipe, houtlet, rfl⟩ := eq_pipe_of_next? hport
    exact (h.admits_pipe houtlet).number_lt hc
  pipes a ha pipe hpipe := by
    rcases Crew.mem_hire.1 ha with ha | rfl
    · exact hc.pipes a ha pipe hpipe
    · rcases hpipe with hinlet | houtlet
      · exact hc.pipes_awaited pipe (h.awaits hinlet).1
      · exact (h.admits_pipe houtlet).pipe_mem
  pipes_awaited pipe hport := by
    obtain ⟨other, houtlet, heq⟩ := eq_pipe_of_next? hport
    cases heq
    exact (h.admits_pipe houtlet).pipe_mem
  lastPipe_le := hc.lastPipe_le
  streams := hc.streams
  unmixed a ha number houtlet := by
    rcases Crew.mem_hire.1 ha with ha | rfl
    · exact hc.unmixed a ha number houtlet
    · have hadmits := h.admits
      rw [houtlet] at hadmits
      cases hadmits with
      | stream number hstream hquiet hunused => exact hquiet
  -- What was opened for the new program belongs to it now.
  reserved entry hentry := by cases hentry
  report := hc.report

/-- What a new program can read is there. -/
theorem Crew.Offers.left {inlet : Port} {input : Bytes} (h : c.Offers inlet input)
    (hserves : w.Serves c) : w.Left [] input inlet := by
  cases h with
  | awaited port h =>
    have hawaits := hserves.awaits _ h
    cases inlet with
    | stream number => exact hawaits
    | file number target => cases hawaits
    | pipe pipe => trivial
  | file number target content h hcontent hunwritten =>
    exact ⟨0, _, hserves.reserved _ h, (hserves.kept target hunwritten).trans hcontent, rfl⟩

/-- Where a new program writes, nothing is written yet. -/
theorem Crew.Admits.arrived {inlet outlet : Port} (h : c.Admits inlet outlet)
    (hserves : w.Serves c) : w.Arrived c.printed [] outlet := by
  cases h with
  | stream number hstream hquiet hunused =>
    refine ⟨hserves.streams number hstream, ?_⟩
    rw [hserves.printed number hquiet hunused, List.append_nil]
  | file number target h hempty hunused hinlet =>
    exact ⟨hserves.reserved _ h, (hserves.kept target fun a ha => (hunused a ha).2).trans hempty⟩
  | pipe number hfirst hlast hunused hinlet hshell => trivial

/-- A copy of the shell that starts a program joins the crew. -/
theorem Serves.hire (h : w.Serves c) (hc : c.Arranged) (hst : c.Accepts table st) :
    (w.setJob st.job ⟨table, [], [], .running st.program true⟩).Serves (c.hire st) := by
  obtain ⟨hlt, hphase⟩ := h.forked st.job hst.forked
  have hself : (w.setJob st.job ⟨table, [], [], .running st.program true⟩).jobAt st.job =
      ⟨table, [], [], .running st.program true⟩ := jobAt_setJob_self hlt
  have hother : ∀ a ∈ c.stations,
      (w.setJob st.job ⟨table, [], [], .running st.program true⟩).jobAt a.job =
        w.jobAt a.job := fun a ha =>
    jobAt_of_set_of_ne (Nat.ne_of_lt (hc.forked st.job hst.forked a ha)) rfl
  constructor
  case present =>
    intro a ha
    rw [setJob, List.length_set]
    rcases Crew.mem_hire.1 ha with ha' | rfl
    · exact h.present a ha'
    · exact hlt
  case fits =>
    intro a ha
    rcases Crew.mem_hire.1 ha with ha' | rfl
    · rw [hother a ha']
      exact h.fits a ha'
    · rw [hself]
      refine ⟨hst.inlet, hst.outlet, fun pipe hpipe => hst.writes pipe ?_, List.nil_prefix,
        List.nil_prefix, .reading⟩
      simpa [Job.holds, Job.isLive] using hpipe
  case forked =>
    intro i hi
    cases hi
  case others =>
    intro i hi hnone _
    rw [setJob, List.length_set] at hi
    have hne : i ≠ st.job := fun heq => hnone st Crew.mem_hire_self heq.symm
    rw [jobAt_of_set_of_ne hne rfl]
    refine h.others i hi (fun a ha => hnone a (Crew.mem_hire_of_mem ha)) ?_
    rw [hst.forked]
    exact fun heq => hne (Option.some.inj heq).symm
  case left =>
    intro a ha
    rcases Crew.mem_hire.1 ha with ha' | rfl
    · rw [hother a ha']
      exact h.left a ha'
    · have hleft := hst.offers.left h
      rw [hself]
      exact hleft
  case arrived =>
    intro a ha
    rcases Crew.mem_hire.1 ha with ha' | rfl
    · rw [hother a ha']
      exact h.arrived a ha'
    · have harrived := hst.admits.arrived h
      rw [hself]
      exact harrived
  case piped =>
    intro a ha b hb pipe houtlet hinlet
    rcases Crew.mem_hire.1 ha with ha' | rfl <;> rcases Crew.mem_hire.1 hb with hb' | rfl
    · rw [hother a ha', hother b hb']
      exact h.piped a ha' b hb' pipe houtlet hinlet
    · -- What is in the pipe is all that was written to it, for the new program has read nothing.
      intro _
      rw [hother a ha', hself, List.nil_append]
      exact (h.awaits _ (hst.awaits hinlet).1 a ha' houtlet).2
    · exact absurd hinlet ((hst.admits_pipe houtlet).pipe_ne.2 b hb').1
    · exact absurd hinlet (hst.admits_pipe houtlet).pipe_ne.1
  case dry =>
    exact fun pipe hfirst hlast hnone =>
      h.dry pipe hfirst hlast fun a ha => hnone a (Crew.mem_hire_of_mem ha)
  case printed =>
    exact fun number hquiet hnone =>
      h.printed number hquiet fun a ha => hnone a (Crew.mem_hire_of_mem ha)
  case kept =>
    intro target hnone
    exact (h.kept target fun a ha => hnone a (Crew.mem_hire_of_mem ha)).trans
      (leaves_of_ne (hnone st Crew.mem_hire_self)).symm
  case awaits =>
    intro port hport
    obtain ⟨pipe, houtlet, rfl⟩ := eq_pipe_of_next? hport
    have hadmits := hst.admits_pipe houtlet
    intro a ha houtlet'
    rcases Crew.mem_hire.1 ha with ha' | rfl
    · exact absurd houtlet' (hadmits.pipe_ne.2 a ha').2
    · rw [hself]
      obtain ⟨hfirst, hlast⟩ := hadmits.pipe_mem
      exact ⟨h.shell ▸ hadmits.pipe_refersTo,
        h.dry pipe hfirst hlast fun b hb => (hadmits.pipe_ne.2 b hb).2⟩
  case shell => exact h.shell
  case streams => exact h.streams
  case reserved =>
    intro entry hentry
    cases hentry
  case report => exact h.report

/-- A process starts its program and joins the crew, unless there is no such program. -/
theorem Staffed.exec (h : Staffed setting w c) {i : Nat} {launch : Launch}
    {answer : Except Errno Unit} (hcall : (Call.exec (pidOf i) launch answer).Answered w w') :
    (∃ errno, answer = .error errno ∧ setting.programs launch.arguments.texts = .error errno ∧
      Staffed setting w' c) ∨
    (∃ program, answer = .ok () ∧ setting.programs launch.arguments.texts = .ok program ∧
      ∀ st : Station, st.job = i → st.program = program → c.Accepts launch.descriptors st →
        Staffed setting w' (c.hire st)) := by
  have helapsed := h.elapse
  change w.elapse.exec (pidOf i) launch = (answer, w') at hcall
  have hsetting : w.elapse.setting.programs launch.arguments.texts =
      setting.programs launch.arguments.texts := by
    rw [helapsed.setting_eq]
  rw [Workshop.exec, hsetting, position_pidOf] at hcall
  cases hprogram : setting.programs launch.arguments.texts with
  | error errno =>
    rw [hprogram] at hcall
    cases hcall
    exact Or.inl ⟨errno, rfl, rfl, helapsed⟩
  | ok program =>
    rw [hprogram] at hcall
    cases hcall
    refine Or.inr ⟨program, rfl, rfl, ?_⟩
    rintro st rfl rfl haccepts
    exact ⟨helapsed.arranged.hire helapsed.serves haccepts,
      helapsed.serves.hire helapsed.arranged haccepts, helapsed.setting_eq⟩

end

end Workshop

end CommandShell
