import CommandShell.Proofs.Crew

/-!
# A crew at work

What it means that the processes of a workshop are those of a crew, each as far as it has come.
Main statement: whatever step a process takes, the crew stays at work (`Serves.perform`), and so it
does whatever the schedule says (`Serves.elapse`).
-/

namespace CommandShell

namespace Workshop

/-- What was read at a place and what is left there is the whole input. -/
def Left (w : Workshop) (consumed input : Bytes) : Port → Prop
  | .stream number =>
    w.descriptions number = none ∧ consumed ++ w.incoming number = input
  | .file number target => ∃ position content, w.descriptions number = some ⟨target, position⟩ ∧
    w.files target = some content ∧ consumed ++ content.drop position = input
  | .pipe _ => True

/-- What was written to a place has arrived there. -/
def Arrived (w : Workshop) (printed : Nat → Bytes) (written : Bytes) : Port → Prop
  | .stream number =>
    w.descriptions number = none ∧ w.printed number = printed number ++ written
  | .file number target =>
    w.descriptions number = some ⟨target, written.length⟩ ∧ w.files target = some written
  | .pipe _ => True

/-- What the next program is to read is where it will read. -/
def Awaits (w : Workshop) (c : Crew) : Port → Prop
  | .stream number => w.descriptions number = none ∧ w.incoming number = c.feed
  | .file _ _ => False
  | .pipe pipe => ∀ a ∈ c.stations, a.outlet = .pipe pipe →
    w.shell.refersTo (fun other => decide (other = .readEnd pipe)) = true ∧
      w.pipes pipe = (w.jobAt a.job).written

/-- A workshop with a crew at work. -/
structure Serves (w : Workshop) (c : Crew) : Prop where
  /-- All processes were made. -/
  present : ∀ st ∈ c.stations, st.job < w.jobs.length
  /-- They are what they should be. -/
  fits : ∀ st ∈ c.stations, st.Fits (w.jobAt st.job)
  /-- There is a copy of the shell, if there should be one. -/
  forked : ∀ i, c.forked = some i → i < w.jobs.length ∧ (w.jobAt i).phase = .forked
  /-- All other processes have ended. -/
  others : ∀ i < w.jobs.length, (∀ st ∈ c.stations, st.job ≠ i) → c.forked ≠ some i →
    (w.jobAt i).isLive = false
  /-- What was not read yet is left. -/
  left : ∀ st ∈ c.stations, w.Left (w.jobAt st.job).consumed st.input st.inlet
  /-- What was written has arrived. -/
  arrived : ∀ st ∈ c.stations, w.Arrived c.printed (w.jobAt st.job).written st.outlet
  /-- What was written to a pipe and not yet read is in the pipe, as long as the reader lives. -/
  piped : ∀ a ∈ c.stations, ∀ b ∈ c.stations, ∀ pipe, a.outlet = .pipe pipe →
    b.inlet = .pipe pipe → (w.jobAt b.job).isLive = true →
      (w.jobAt b.job).consumed ++ w.pipes pipe = (w.jobAt a.job).written
  /-- A pipe to which nobody writes is empty. -/
  dry : ∀ pipe, c.firstPipe ≤ pipe → pipe < c.lastPipe →
    (∀ a ∈ c.stations, a.outlet ≠ .pipe pipe) → w.pipes pipe = []
  /-- Nothing was written to other streams, unless it was told there. -/
  printed : ∀ number, ¬ c.noisy number → (∀ st ∈ c.stations, st.outlet ≠ .stream number) →
    w.printed number = c.printed number
  /-- Other files are what they will be. -/
  kept : ∀ target, (∀ st ∈ c.stations, st.outlet.file? ≠ some target) →
    w.files target = c.files target
  /-- What the next program is to read is there. -/
  awaits : ∀ port, c.awaited = some port → w.Awaits c port
  /-- The shell has told of these descriptors. -/
  shell : w.shell = c.shell
  /-- No file has the number of a stream. -/
  streams : ∀ number, c.streams number → w.descriptions number = none
  /-- What was opened for the next program is as it was opened. -/
  reserved : ∀ entry ∈ c.reserved, w.descriptions entry.1 = some ⟨entry.2, 0⟩
  /-- What was reported and not yet read is in the pipe. -/
  report : ∀ pipe bytes, c.report = some (pipe, bytes) →
    w.pipes pipe = bytes ∧ pipe < w.pipeLimit

/-! ## Reading and writing -/

section

variable {w : Workshop} {c : Crew} {st : Station} {limit : Option Nat} {bytes : Bytes}
  {source goal : Resource} {count : Nat}

/-- The beginning of some bytes, and what is behind it. -/
theorem upTo_append_drop (limit : Option Nat) (bytes : Bytes) :
    upTo limit bytes ++ bytes.drop (upTo limit bytes).length = bytes := by
  cases limit with
  | none => simp [upTo]
  | some limit =>
    rw [upTo, List.length_take]
    rcases Nat.le_total limit bytes.length with hle | hle
    · rw [Nat.min_eq_left hle, List.take_append_drop]
    · simp [Nat.min_eq_right hle, List.take_of_length_le hle]

theorem upTo_isPrefix (limit : Option Nat) (bytes : Bytes) : upTo limit bytes <+: bytes :=
  ⟨_, upTo_append_drop limit bytes⟩

theorem files_advance (w : Workshop) (source : Resource) (count : Nat) :
    (w.advance source count).files = w.files := by
  cases source with
  | file number =>
    rw [advance]
    cases w.descriptions number <;> rfl
  | _ => rfl

theorem printed_advance (w : Workshop) (source : Resource) (count : Nat) :
    (w.advance source count).printed = w.printed := by
  cases source with
  | file number =>
    rw [advance]
    cases w.descriptions number <;> rfl
  | _ => rfl

theorem pipes_advance {pipe : Nat} (h : source ≠ .readEnd pipe) :
    (w.advance source count).pipes pipe = w.pipes pipe := by
  cases source with
  | file number =>
    rw [advance]
    cases w.descriptions number <;> rfl
  | writeEnd other => rfl
  | readEnd other => exact Function.update_of_ne (by rintro rfl; exact h rfl) _ _

theorem descriptions_advance {number : Nat} (h : source ≠ .file number) :
    (w.advance source count).descriptions number = w.descriptions number := by
  cases source with
  | readEnd pipe => rfl
  | writeEnd pipe => rfl
  | file other =>
    rw [advance]
    split
    · rfl
    · exact Function.update_of_ne (by rintro rfl; exact h rfl) _ _

/-- A stream stays one. -/
theorem descriptions_advance_of_none {number : Nat} (h : w.descriptions number = none) :
    (w.advance source count).descriptions number = none := by
  cases source with
  | readEnd pipe => exact h
  | writeEnd pipe => exact h
  | file other =>
    rw [advance]
    split
    · exact h
    · next description hdescription =>
      refine (Function.update_of_ne ?_ _ _).trans h
      rintro rfl
      rw [hdescription] at h
      cases h

theorem incoming_advance {number : Nat} (h : source ≠ .file number) :
    (w.advance source count).incoming number = w.incoming number := by
  cases source with
  | readEnd pipe => rfl
  | writeEnd pipe => rfl
  | file other =>
    rw [advance]
    split
    · exact Function.update_of_ne (by rintro rfl; exact h rfl) _ _
    · rfl

/-- What is read in one place is left in another one. -/
theorem Left.advance {consumed input : Bytes} {port : Port} (h : w.Left consumed input port)
    (hne : port.source ≠ source) : (w.advance source count).Left consumed input port := by
  cases port with
  | pipe pipe => trivial
  | stream number =>
    rw [Left, descriptions_advance hne.symm, incoming_advance hne.symm]
    exact h
  | file number target =>
    rw [Left, descriptions_advance hne.symm, files_advance]
    exact h

/-- What is read from a stream or a file is left no longer. -/
theorem Left.advance_self {consumed input : Bytes} {port : Port} (h : w.Left consumed input port)
    (limit : Option Nat) :
    (w.advance port.source (upTo limit (w.pending port.source)).length).Left
      (consumed ++ upTo limit (w.pending port.source)) input port := by
  cases port with
  | pipe pipe => trivial
  | stream number =>
    obtain ⟨hstream, rfl⟩ := h
    refine ⟨?_, ?_⟩
    · simp [Workshop.advance, Port.source, hstream]
    · simp only [Workshop.advance, Port.source, hstream, pending, Function.update_self,
        List.append_assoc, upTo_append_drop]
  | file number target =>
    obtain ⟨position, content, hdescription, hcontent, rfl⟩ := h
    refine ⟨position + (upTo limit (content.drop position)).length, content, ?_, ?_, ?_⟩
    · simp [Workshop.advance, Port.source, hdescription, pending, hcontent]
    · rw [files_advance, hcontent]
    · simp only [Port.source, pending, hdescription, hcontent, Option.getD_some,
        List.append_assoc, ← List.drop_drop, upTo_append_drop]

/-- Where something is read, nothing arrives. -/
theorem Arrived.advance {printed : Nat → Bytes} {written : Bytes} {port : Port}
    (h : w.Arrived printed written port)
    (hne : ∀ number target, port = .file number target → source ≠ .file number) :
    (w.advance source count).Arrived printed written port := by
  cases port with
  | pipe pipe => trivial
  | stream number =>
    rw [Arrived, printed_advance]
    exact ⟨descriptions_advance_of_none h.1, h.2⟩
  | file number target =>
    rw [Arrived, descriptions_advance (hne number target rfl), files_advance]
    exact h

/-- What is written at the end of a file is behind what was written before. -/
theorem overwrite_length (written bytes : Bytes) :
    overwrite written written.length bytes = written ++ bytes := by
  simp [overwrite]

theorem pipes_put {pipe : Nat} (h : goal ≠ .writeEnd pipe) :
    (w.put goal bytes).pipes pipe = w.pipes pipe := by
  cases goal with
  | readEnd other => rfl
  | writeEnd other =>
    rw [put]
    split
    · exact Function.update_of_ne (by rintro rfl; exact h rfl) _ _
    · rfl
  | file number =>
    rw [put]
    cases w.descriptions number <;> rfl

theorem incoming_put (w : Workshop) (goal : Resource) (bytes : Bytes) :
    (w.put goal bytes).incoming = w.incoming := by
  cases goal with
  | readEnd other => rfl
  | writeEnd other =>
    rw [put]
    split <;> rfl
  | file number =>
    rw [put]
    cases w.descriptions number <;> rfl

theorem printed_put {number : Nat} (h : goal = .file number → w.descriptions number ≠ none) :
    (w.put goal bytes).printed number = w.printed number := by
  cases goal with
  | readEnd other => rfl
  | writeEnd other =>
    rw [put]
    split <;> rfl
  | file other =>
    rw [put]
    split
    · next hstream =>
      refine Function.update_of_ne ?_ _ _
      rintro rfl
      exact h rfl hstream
    · rfl

theorem descriptions_put {number : Nat} (h : goal = .file number → w.descriptions number = none) :
    (w.put goal bytes).descriptions number = w.descriptions number := by
  cases goal with
  | readEnd other => rfl
  | writeEnd other =>
    rw [put]
    split <;> rfl
  | file other =>
    rw [put]
    split
    · rfl
    · next description hdescription =>
      refine Function.update_of_ne ?_ _ _
      rintro rfl
      rw [h rfl] at hdescription
      cases hdescription

theorem files_put {target : File} (h : ∀ number description, goal = .file number →
    w.descriptions number = some description → description.file ≠ target) :
    (w.put goal bytes).files target = w.files target := by
  cases goal with
  | readEnd other => rfl
  | writeEnd other =>
    rw [put]
    split <;> rfl
  | file other =>
    rw [put]
    split
    · rfl
    · next description hdescription =>
      exact Function.update_of_ne (h other description rfl hdescription).symm _ _

/-- What is written in one place changes nothing of what is left in another one. -/
theorem Left.put {consumed input : Bytes} {port : Port} (h : w.Left consumed input port)
    (hgoal : ∀ number target, port = .file number target → goal ≠ .file number)
    (htarget : ∀ number description, goal = .file number →
      w.descriptions number = some description → port.file? ≠ some description.file) :
    (w.put goal bytes).Left consumed input port := by
  cases port with
  | pipe pipe => trivial
  | stream number =>
    rw [Left, descriptions_put fun _ => h.1, incoming_put]
    exact h
  | file number target =>
    rw [Left, descriptions_put fun heq => absurd heq (hgoal number target rfl), files_put]
    · exact h
    · intro other description heq hdescription hsame
      exact htarget other description heq hdescription (by rw [hsame]; rfl)

/-- What is written in one place does not arrive in another one. -/
theorem Arrived.put {printed : Nat → Bytes} {written : Bytes} {port : Port}
    (h : w.Arrived printed written port) (hgoal : port.goal ≠ goal)
    (htarget : ∀ number description, goal = .file number →
      w.descriptions number = some description → port.file? ≠ some description.file) :
    (w.put goal bytes).Arrived printed written port := by
  cases port with
  | pipe pipe => trivial
  | stream number =>
    rw [Arrived, descriptions_put fun _ => h.1, printed_put fun heq => absurd heq.symm hgoal]
    exact h
  | file number target =>
    rw [Arrived, descriptions_put fun heq => absurd heq.symm hgoal, files_put]
    · exact h
    · intro other description heq hdescription hsame
      exact htarget other description heq hdescription (by rw [hsame]; rfl)

/-- What is written to a place arrives there. -/
theorem Arrived.put_self {printed : Nat → Bytes} {written : Bytes} {port : Port}
    (h : w.Arrived printed written port) (bytes : Bytes) :
    (w.put port.goal bytes).Arrived printed (written ++ bytes) port := by
  cases port with
  | pipe pipe => trivial
  | stream number =>
    obtain ⟨hstream, hprinted⟩ := h
    refine ⟨?_, ?_⟩
    · simp [Workshop.put, Port.goal, hstream]
    · simp [Workshop.put, Port.goal, hstream, hprinted]
  | file number target =>
    obtain ⟨hdescription, hcontent⟩ := h
    refine ⟨?_, ?_⟩
    · simp [Workshop.put, Port.goal, hdescription]
    · simp [Workshop.put, Port.goal, hdescription, hcontent, overwrite_length]

end

/-! ## Steps of a process -/

section

variable {w w' : Workshop} {c : Crew} {st : Station} {job : Job}

theorem jobAt_of_set_self (h : st.job < w.jobs.length) (hjobs : w'.jobs = w.jobs.set st.job job) :
    w'.jobAt st.job = job := by
  simp [jobAt, hjobs, h]

theorem jobAt_of_set_of_ne {i j : Nat} (h : j ≠ i) (hjobs : w'.jobs = w.jobs.set i job) :
    w'.jobAt j = w.jobAt j := by
  simp [jobAt, hjobs, List.getElem?_set_ne h.symm]

/-- If a process takes a step, all other processes stay what they were. -/
theorem Serves.jobAt_other (hc : c.Arranged) (hst : st ∈ c.stations)
    (hjobs : w'.jobs = w.jobs.set st.job job) :
    ∀ a ∈ c.stations, a ≠ st → w'.jobAt a.job = w.jobAt a.job := fun a ha hne =>
  jobAt_of_set_of_ne (fun heq => hne (hc.job_inj a ha st hst heq)) hjobs

/-- A process is still the one of its station if it has done more of what it should do. -/
theorem Station.Fits.progress {old : Job} (h : st.Fits old) (hlive : old.isLive = true)
    (hdescriptors : job.descriptors = old.descriptors) (hconsumed : job.consumed <+: st.input)
    (hwritten : job.written <+: st.output)
    (hstands : st.Stands job.consumed job.written job.phase) : st.Fits job where
  inlet := by
    rw [Job.stream, hdescriptors]
    exact h.inlet
  outlet := by
    rw [Job.stream, hdescriptors]
    exact h.outlet
  writes pipe hpipe := by
    refine h.writes pipe ?_
    rw [Job.holds, Bool.and_eq_true, hdescriptors] at hpipe
    rw [Job.holds, hlive, hpipe.2]
    rfl
  consumed := hconsumed
  written := hwritten
  stands := hstands

/-- A crew is still the same if one of its processes has taken a step. -/
theorem Serves.of_set (h : w.Serves c) (hc : c.Arranged) (hst : st ∈ c.stations)
    (hjobs : w'.jobs = w.jobs.set st.job job) (hfits : st.Fits job)
    (hleft : ∀ a ∈ c.stations, w'.Left (w'.jobAt a.job).consumed a.input a.inlet)
    (harrived : ∀ a ∈ c.stations, w'.Arrived c.printed (w'.jobAt a.job).written a.outlet)
    (hpiped : ∀ a ∈ c.stations, ∀ b ∈ c.stations, ∀ pipe, a.outlet = .pipe pipe →
      b.inlet = .pipe pipe → (w'.jobAt b.job).isLive = true →
        (w'.jobAt b.job).consumed ++ w'.pipes pipe = (w'.jobAt a.job).written)
    (hdry : ∀ pipe, c.firstPipe ≤ pipe → pipe < c.lastPipe →
      (∀ a ∈ c.stations, a.outlet ≠ .pipe pipe) → w'.pipes pipe = [])
    (hprinted : ∀ number, ¬ c.noisy number → (∀ a ∈ c.stations, a.outlet ≠ .stream number) →
      w'.printed number = c.printed number)
    (hkept : ∀ target, (∀ a ∈ c.stations, a.outlet.file? ≠ some target) →
      w'.files target = c.files target)
    (hawaits : ∀ port, c.awaited = some port → w'.Awaits c port) (hsteady : Steady w w')
    (hstreams : ∀ number, w.descriptions number = none → w'.descriptions number = none)
    (hreserved : ∀ number, st.inlet.source ≠ .file number → st.outlet.goal ≠ .file number →
      w'.descriptions number = w.descriptions number)
    (hreport : ∀ pipe, c.lastPipe ≤ pipe → w'.pipes pipe = w.pipes pipe) : w'.Serves c := by
  have hlength : w'.jobs.length = w.jobs.length := by rw [hjobs, List.length_set]
  have hself := jobAt_of_set_self (h.present st hst) hjobs
  refine ⟨?_, ?_, ?_, ?_, hleft, harrived, hpiped, hdry, hprinted, hkept, hawaits,
    hsteady.shell.trans h.shell, fun number hnumber => hstreams number (h.streams number hnumber),
    ?_, ?_⟩
  · intro a ha
    rw [hlength]
    exact h.present a ha
  · intro a ha
    by_cases hne : a = st
    · rw [hne, hself]
      exact hfits
    · rw [jobAt_other hc hst hjobs a ha hne]
      exact h.fits a ha
  · intro i hi
    obtain ⟨hlt, hphase⟩ := h.forked i hi
    rw [hlength, jobAt_of_set_of_ne (Nat.ne_of_gt (hc.forked i hi st hst)) hjobs]
    exact ⟨hlt, hphase⟩
  · intro i hlt hnone hforked
    rw [jobAt_of_set_of_ne (hnone st hst).symm hjobs]
    exact h.others i (hlength ▸ hlt) hnone hforked
  · intro entry hentry
    obtain ⟨hsource, hgoal⟩ := (hc.reserved entry hentry).2 st hst
    rw [hreserved entry.1 hsource hgoal]
    exact h.reserved entry hentry
  · intro pipe bytes hpipe
    rw [hreport pipe (hc.report pipe bytes hpipe).1, hsteady.pipeLimit]
    exact h.report pipe bytes hpipe

/-- What was read and what can be read now is a part of all that can be read. -/
theorem Serves.consumed_append_pending (h : w.Serves c) (hc : c.Arranged) (hst : st ∈ c.stations)
    (hlive : (w.jobAt st.job).isLive = true) :
    (w.jobAt st.job).consumed ++ w.pending st.inlet.source <+: st.input := by
  have hleft := h.left st hst
  cases hinlet : st.inlet with
  | stream number =>
    rw [hinlet] at hleft
    simp only [Port.source, pending, hleft.1]
    exact ⟨[], by rw [List.append_nil, hleft.2]⟩
  | file number target =>
    rw [hinlet] at hleft
    obtain ⟨position, content, hdescription, hcontent, hinput⟩ := hleft
    simp only [Port.source, pending, hdescription, hcontent, Option.getD_some]
    exact ⟨[], by rw [List.append_nil, hinput]⟩
  | pipe pipe =>
    simp only [Port.source, pending]
    by_cases hwriter : ∃ a ∈ c.stations, a.outlet = .pipe pipe
    · obtain ⟨a, ha, houtlet⟩ := hwriter
      rw [h.piped a ha st hst pipe houtlet hinlet hlive, (hc.fed a ha st hst pipe houtlet hinlet).1]
      exact (h.fits a ha).written
    · obtain ⟨hfirst, hlast⟩ := hc.pipes st hst pipe (Or.inl hinlet)
      rw [h.dry pipe hfirst hlast fun a ha houtlet => hwriter ⟨a, ha, houtlet⟩, List.append_nil]
      exact (h.fits st hst).consumed

/-- What is opened for writing is not what another program reads. -/
theorem Serves.source_ne (h : w.Serves c) (hc : c.Arranged) {a b : Station}
    (ha : a ∈ c.stations) (hb : b ∈ c.stations) {number : Nat} {target : File}
    (houtlet : a.outlet = .file number target) : b.inlet.source ≠ .file number := by
  intro hsource
  have harrived := h.arrived a ha
  have hleft := h.left b hb
  rw [houtlet] at harrived
  cases hinlet : b.inlet with
  | pipe pipe =>
    rw [hinlet] at hsource
    cases hsource
  | stream other =>
    rw [hinlet] at hsource hleft
    cases hsource
    cases hleft.1.symm.trans harrived.1
  | file other read =>
    rw [hinlet] at hsource hleft
    cases hsource
    obtain ⟨position, content, hdescription, -⟩ := hleft
    obtain ⟨hwritten, -⟩ := harrived
    rw [hdescription] at hwritten
    cases hwritten
    exact hc.unread a ha b hb target (by rw [houtlet]; rfl) (by rw [hinlet]; rfl)

/-- The pipes of a program are not those of reports. -/
theorem Crew.Arranged.ne_of_lastPipe_le (hc : c.Arranged) (hst : st ∈ c.stations) {pipe : Nat}
    (h : c.lastPipe ≤ pipe) :
    st.inlet.source ≠ .readEnd pipe ∧ st.outlet.goal ≠ .writeEnd pipe := by
  constructor
  · intro heq
    cases hinlet : st.inlet <;> rw [hinlet] at heq <;> cases heq
    exact Nat.not_lt_of_le h (hc.pipes st hst pipe (Or.inl hinlet)).2
  · intro heq
    cases houtlet : st.outlet <;> rw [houtlet] at heq <;> cases heq
    exact Nat.not_lt_of_le h (hc.pipes st hst pipe (Or.inr houtlet)).2

/-- A program reads. -/
theorem Serves.read (h : w.Serves c) (hc : c.Arranged) (hst : st ∈ c.stations)
    (hreading : (w.jobAt st.job).phase = .running st.program true) (limit : Option Nat) :
    (w.read st.job (w.jobAt st.job) limit).Serves c := by
  have hsteady := steady_read w st.job (w.jobAt st.job) limit
  have hlive : (w.jobAt st.job).isLive = true := by rw [Job.isLive, hreading]
  have hfits := h.fits st hst
  rw [Workshop.read, hfits.inlet] at hsteady ⊢
  dsimp only at hsteady ⊢
  generalize hbytes : upTo limit (w.pending st.inlet.source) = bytes at hsteady ⊢
  generalize hjob : ({ w.jobAt st.job with
    consumed := (w.jobAt st.job).consumed ++ bytes } : Job) = job at hsteady ⊢
  generalize hw' : (w.advance st.inlet.source bytes.length).setJob st.job job = w' at hsteady ⊢
  have hconsumed : job.consumed = (w.jobAt st.job).consumed ++ bytes := by rw [← hjob]
  have hwritten : job.written = (w.jobAt st.job).written := by rw [← hjob]
  have hphase : job.phase = .running st.program true := by rw [← hjob, hreading]
  have hjobs : w'.jobs = w.jobs.set st.job job := by
    rw [← hw', setJob, jobs_advance]
  have hself := jobAt_of_set_self (h.present st hst) hjobs
  have hother := Serves.jobAt_other hc hst hjobs
  have hwrites : ∀ a ∈ c.stations, (w'.jobAt a.job).written = (w.jobAt a.job).written := by
    intro a ha
    by_cases hne : a = st
    · rw [hne, hself, hwritten]
    · rw [hother a ha hne]
  apply h.of_set hc hst hjobs
  case hsteady => exact hsteady
  case hfits =>
    refine hfits.progress hlive (by rw [← hjob]) ?_ (by rw [hwritten]; exact hfits.written)
      (by rw [hphase]; exact .reading)
    refine List.IsPrefix.trans ?_ (h.consumed_append_pending hc hst hlive)
    rw [hconsumed, ← hbytes]
    exact (List.prefix_append_right_inj _).2 (upTo_isPrefix limit _)
  case hleft =>
    intro a ha
    by_cases hne : a = st
    · rw [hne, hself, hconsumed, ← hw', ← hbytes]
      exact (h.left st hst).advance_self limit
    · rw [hother a ha hne, ← hw']
      exact (h.left a ha).advance fun heq => hne (hc.inlet_inj a ha st hst heq)
  case harrived =>
    intro a ha
    rw [hwrites a ha, ← hw']
    refine (h.arrived a ha).advance fun number target houtlet => ?_
    exact h.source_ne hc ha hst houtlet
  case hpiped =>
    intro a ha b hb pipe houtlet hinlet hlive'
    rw [hwrites a ha, ← hw']
    by_cases hne : b = st
    · subst hne
      have hpiped := h.piped a ha b hst pipe houtlet hinlet hlive
      rw [hw', hself, hconsumed, ← hpiped, ← hw', ← hbytes, hinlet]
      simp only [setJob, advance, Port.source, pending, Function.update_self, List.append_assoc,
        upTo_append_drop]
    · have hsource : st.inlet.source ≠ .readEnd pipe := by
        intro heq
        refine hne (hc.inlet_inj b hb st hst ?_)
        rw [heq, hinlet, Port.source]
      rw [hother b hb hne] at hlive'
      rw [hw', hother b hb hne, ← hw', setJob, pipes_advance hsource]
      exact h.piped a ha b hb pipe houtlet hinlet hlive'
  case hdry =>
    intro pipe hfirst hlast hnone
    have hdry := h.dry pipe hfirst hlast hnone
    rw [← hw', setJob]
    by_cases hsource : st.inlet.source = .readEnd pipe
    · simp [hsource, advance, hdry]
    · exact (pipes_advance hsource).trans hdry
  case hprinted =>
    intro number hquiet hnone
    rw [← hw', setJob, printed_advance]
    exact h.printed number hquiet hnone
  case hkept =>
    intro target hnone
    rw [← hw', setJob, files_advance]
    exact h.kept target hnone
  case hawaits =>
    intro port hport
    have hawaits := h.awaits port hport
    have hsource := hc.awaited port hport st hst
    cases port with
    | file number target => exact hawaits
    | stream number =>
      rw [Awaits, ← hw', setJob, descriptions_advance hsource, incoming_advance hsource]
      exact hawaits
    | pipe pipe =>
      intro a ha houtlet
      rw [hwrites a ha, ← hw', setJob, pipes_advance hsource, (steady_advance w _ _).shell]
      exact hawaits a ha houtlet
  case hstreams =>
    intro number hstream
    rw [← hw', setJob]
    exact descriptions_advance_of_none hstream
  case hreserved =>
    intro number hsource _
    rw [← hw', setJob]
    exact descriptions_advance hsource
  case hreport =>
    intro pipe hlast
    rw [← hw', setJob]
    exact pipes_advance (hc.ne_of_lastPipe_le hst hlast).1

/-- What a live process refers to is held by it. -/
theorem Job.holds_of_stream {job : Job} (hlive : job.isLive = true) {fd : Fd}
    {resource : Resource} (h : job.stream fd = some resource) : job.holds resource = true := by
  obtain ⟨slot, hslot, rfl⟩ := Option.map_eq_some_iff.1 h
  rw [Job.holds, hlive, Bool.true_and, DescriptorTable.refersTo_iff]
  exact ⟨fd, slot, hslot, decide_eq_true rfl⟩

/-- What some process holds is held. -/
theorem holds_of_jobAt {i : Nat} (hi : i < w.jobs.length) {resource : Resource}
    (h : (w.jobAt i).holds resource = true) : w.holds resource = true := by
  rw [holds, Bool.or_eq_true]
  exact Or.inr (List.any_eq_true.2 ⟨_, List.mem_of_getElem? (jobs_eq_jobAt hi), h⟩)

/-- What is written to a pipe is kept as long as somebody can read it. -/
theorem pipes_put_self {pipe : Nat} {bytes : Bytes} (h : w.holds (.readEnd pipe) = true) :
    (w.put (.writeEnd pipe) bytes).pipes pipe = w.pipes pipe ++ bytes := by
  simp [put, h]

/-- The file that a program writes to is the one that its descriptor refers to. -/
theorem Serves.file?_eq (h : w.Serves c) (hst : st ∈ c.stations) {number : Nat}
    {description : Description} (hgoal : st.outlet.goal = .file number)
    (hdescription : w.descriptions number = some description) :
    st.outlet.file? = some description.file := by
  have harrived := h.arrived st hst
  cases houtlet : st.outlet with
  | pipe pipe =>
    rw [houtlet] at hgoal
    cases hgoal
  | stream other =>
    rw [houtlet] at hgoal harrived
    cases hgoal
    cases hdescription.symm.trans harrived.1
  | file other target =>
    rw [houtlet] at hgoal harrived
    cases hgoal
    cases hdescription.symm.trans harrived.1
    rfl

/-- What a program writes does not change what others can read. -/
theorem Serves.left_put (h : w.Serves c) (hc : c.Arranged) (hst : st ∈ c.stations) (bytes : Bytes) :
    ∀ a ∈ c.stations,
      (w.put st.outlet.goal bytes).Left (w.jobAt a.job).consumed a.input a.inlet := by
  intro a ha
  have hleft := h.left a ha
  refine hleft.put (fun number target hinlet hgoal => ?_) fun number description hgoal hopen => ?_
  · rw [hinlet] at hleft
    obtain ⟨position, content, hopen, -⟩ := hleft
    exact hc.unread st hst a ha target (h.file?_eq hst hgoal hopen) (by rw [hinlet]; rfl)
  · exact hc.unread st hst a ha _ (h.file?_eq hst hgoal hopen)

/-- What a program writes does not change what others have written. -/
theorem Serves.arrived_put (h : w.Serves c) (hc : c.Arranged) (hst : st ∈ c.stations)
    (bytes : Bytes) : ∀ a ∈ c.stations, a ≠ st →
      (w.put st.outlet.goal bytes).Arrived c.printed (w.jobAt a.job).written a.outlet := by
  intro a ha hne
  refine (h.arrived a ha).put (fun heq => hne (hc.outlet_inj a ha st hst heq))
    fun number description hgoal hopen hfile => hne ?_
  exact hc.unwritten a ha st hst _ hfile (h.file?_eq hst hgoal hopen)

/-- What a program writes does not get into the pipes of others. -/
theorem Crew.Arranged.pipes_put_other (hc : c.Arranged) (hst : st ∈ c.stations) (bytes : Bytes) :
    ∀ a ∈ c.stations, a ≠ st → ∀ pipe, a.outlet = .pipe pipe →
      (w.put st.outlet.goal bytes).pipes pipe = w.pipes pipe := by
  intro a ha hne pipe houtlet
  refine pipes_put fun heq => hne (hc.outlet_inj a ha st hst ?_)
  rw [heq, houtlet, Port.goal]

/-- What a program writes to a pipe is kept if the program that reads from it is there. -/
theorem Serves.pipes_put_reader (h : w.Serves c) {b : Station} (hb : b ∈ c.stations) {pipe : Nat}
    (hinlet : b.inlet = .pipe pipe) (hlive : (w.jobAt b.job).isLive = true) (bytes : Bytes) :
    (w.put (.writeEnd pipe) bytes).pipes pipe = w.pipes pipe ++ bytes := by
  have hreader : (w.jobAt b.job).stream 0 = some (.readEnd pipe) := by
    rw [(h.fits b hb).inlet, hinlet, Port.source]
  exact pipes_put_self (holds_of_jobAt (h.present b hb) (Job.holds_of_stream hlive hreader))

/-- A program writes. -/
theorem Serves.write (h : w.Serves c) (hc : c.Arranged) (hst : st ∈ c.stations) {reading : Bool}
    (hrunning : (w.jobAt st.job).phase = .running st.program reading) {bytes : Bytes}
    (hbytes : (w.jobAt st.job).written ++ bytes <+: st.output) :
    (w.write st.job (w.jobAt st.job) bytes).Serves c := by
  have hsteady := steady_write w st.job (w.jobAt st.job) bytes
  have hlive : (w.jobAt st.job).isLive = true := by rw [Job.isLive, hrunning]
  have hfits := h.fits st hst
  rw [Workshop.write, hfits.outlet] at hsteady ⊢
  dsimp only at hsteady ⊢
  generalize hjob : ({ w.jobAt st.job with
    written := (w.jobAt st.job).written ++ bytes } : Job) = job at hsteady ⊢
  generalize hw' : (w.put st.outlet.goal bytes).setJob st.job job = w' at hsteady ⊢
  have hconsumed : job.consumed = (w.jobAt st.job).consumed := by rw [← hjob]
  have hwritten : job.written = (w.jobAt st.job).written ++ bytes := by rw [← hjob]
  have hphase : job.phase = .running st.program reading := by rw [← hjob, hrunning]
  have hjobs : w'.jobs = w.jobs.set st.job job := by
    rw [← hw', setJob, jobs_put]
  have hself := jobAt_of_set_self (h.present st hst) hjobs
  have hother := Serves.jobAt_other hc hst hjobs
  have hreads : ∀ a ∈ c.stations, (w'.jobAt a.job).consumed = (w.jobAt a.job).consumed ∧
      (w'.jobAt a.job).isLive = (w.jobAt a.job).isLive := by
    intro a ha
    by_cases hne : a = st
    · rw [hne, hself, hlive, Job.isLive, hphase]
      exact ⟨hconsumed, rfl⟩
    · rw [hother a ha hne]
      exact ⟨rfl, rfl⟩
  apply h.of_set hc hst hjobs
  case hsteady => exact hsteady
  case hfits =>
    refine hfits.progress hlive (by rw [← hjob]) (by rw [hconsumed]; exact hfits.consumed)
      (by rw [hwritten]; exact hbytes) ?_
    have hstands := hfits.stands
    rw [hrunning] at hstands
    rw [hphase, hconsumed]
    cases hstands with
    | reading => exact .reading
    | closing houtput hending => exact .closing houtput hending
  case hleft =>
    intro a ha
    rw [(hreads a ha).1, ← hw']
    exact h.left_put hc hst bytes a ha
  case harrived =>
    intro a ha
    by_cases hne : a = st
    · rw [hne, hself, hwritten, ← hw']
      exact (h.arrived st hst).put_self bytes
    · rw [hother a ha hne, ← hw']
      exact h.arrived_put hc hst bytes a ha hne
  case hpiped =>
    intro a ha b hb pipe houtlet hinlet hlive'
    obtain ⟨hread, hlived⟩ := hreads b hb
    rw [hlived] at hlive'
    have hpiped := h.piped a ha b hb pipe houtlet hinlet hlive'
    rw [hread, ← hw']
    by_cases hne : a = st
    · subst hne
      rw [hw', hself, hwritten, ← hw', setJob, houtlet, Port.goal,
        h.pipes_put_reader hb hinlet hlive', ← hpiped, List.append_assoc]
    · rw [hw', hother a ha hne, ← hw', setJob, hc.pipes_put_other hst bytes a ha hne pipe houtlet]
      exact hpiped
  case hdry =>
    intro pipe hfirst hlast hnone
    rw [← hw', setJob, pipes_put]
    · exact h.dry pipe hfirst hlast hnone
    · intro heq
      cases houtlet : st.outlet <;> rw [houtlet] at heq <;> cases heq
      exact hnone st hst houtlet
  case hprinted =>
    intro number hquiet hnone
    rw [← hw', setJob, printed_put]
    · exact h.printed number hquiet hnone
    · intro heq hstream
      have harrived := h.arrived st hst
      cases houtlet : st.outlet <;> rw [houtlet] at heq harrived <;> cases heq
      · exact hnone st hst houtlet
      · cases hstream.symm.trans harrived.1
  case hkept =>
    intro target hnone
    rw [← hw', setJob, files_put]
    · exact h.kept target hnone
    · rintro number description heq hdescription rfl
      exact hnone st hst (h.file?_eq hst heq hdescription)
  case hawaits =>
    intro port hport
    have hawaits := h.awaits port hport
    cases port with
    | file number target => exact hawaits
    | stream number =>
      rw [Awaits, ← hw', setJob, descriptions_put fun _ => hawaits.1, incoming_put]
      exact hawaits
    | pipe pipe =>
      intro a ha houtlet
      obtain ⟨hshell, hpipe⟩ := hawaits a ha houtlet
      refine ⟨by rw [← hw', setJob, (steady_put w _ _).shell]; exact hshell, ?_⟩
      by_cases hne : a = st
      · -- Nobody reads yet, but the shell can still hand on the pipe.
        subst hne
        have hheld : w.holds (.readEnd pipe) = true := by rw [holds, hshell, Bool.true_or]
        rw [hself, hwritten, ← hw', setJob, houtlet, Port.goal, pipes_put_self hheld, hpipe]
      · rw [hother a ha hne, ← hw', setJob, hc.pipes_put_other hst bytes a ha hne pipe houtlet,
          hpipe]
  case hstreams =>
    intro number hstream
    rw [← hw', setJob]
    exact (descriptions_put fun _ => hstream).trans hstream
  case hreserved =>
    intro number _ hgoal
    rw [← hw', setJob]
    exact descriptions_put fun heq => absurd heq hgoal
  case hreport =>
    intro pipe hlast
    rw [← hw', setJob]
    exact pipes_put (hc.ne_of_lastPipe_le hst hlast).2

/-- A program goes over to another phase. -/
theorem Serves.setPhase (h : w.Serves c) (hc : c.Arranged) (hst : st ∈ c.stations)
    (hlive : (w.jobAt st.job).isLive = true) {phase : Phase}
    (hstands : st.Stands (w.jobAt st.job).consumed (w.jobAt st.job).written phase) :
    (w.setJob st.job { w.jobAt st.job with phase := phase }).Serves c := by
  have hfits := h.fits st hst
  generalize hjob : ({ w.jobAt st.job with phase := phase } : Job) = job
  have hsteady := steady_setJob w st.job job
  generalize hw' : w.setJob st.job job = w' at hsteady ⊢
  have hjobs : w'.jobs = w.jobs.set st.job job := by rw [← hw', setJob]
  have hself := jobAt_of_set_self (h.present st hst) hjobs
  have hother := Serves.jobAt_other hc hst hjobs
  have hreads : ∀ a ∈ c.stations, (w'.jobAt a.job).consumed = (w.jobAt a.job).consumed ∧
      (w'.jobAt a.job).written = (w.jobAt a.job).written := by
    intro a ha
    by_cases hne : a = st
    · rw [hne, hself, ← hjob]
      exact ⟨rfl, rfl⟩
    · rw [hother a ha hne]
      exact ⟨rfl, rfl⟩
  apply h.of_set hc hst hjobs
  case hsteady => exact hsteady
  case hfits =>
    rw [← hjob]
    exact hfits.progress hlive rfl hfits.consumed hfits.written hstands
  case hleft =>
    intro a ha
    rw [(hreads a ha).1, ← hw']
    exact h.left a ha
  case harrived =>
    intro a ha
    rw [(hreads a ha).2, ← hw']
    exact h.arrived a ha
  case hpiped =>
    intro a ha b hb pipe houtlet hinlet hlive'
    have hlived : (w.jobAt b.job).isLive = true := by
      by_cases hne : b = st
      · rw [hne]
        exact hlive
      · rwa [hother b hb hne] at hlive'
    rw [(hreads a ha).2, (hreads b hb).1, ← hw']
    exact h.piped a ha b hb pipe houtlet hinlet hlived
  case hawaits =>
    intro port hport
    have hawaits := h.awaits port hport
    cases port with
    | file number target => exact hawaits
    | stream number =>
      rw [← hw']
      exact hawaits
    | pipe pipe =>
      intro a ha houtlet
      rw [(hreads a ha).2, ← hw']
      exact hawaits a ha houtlet
  all_goals rw [← hw']
  case hdry => exact h.dry
  case hprinted => exact h.printed
  case hkept => exact h.kept
  case hstreams => exact fun _ hstream => hstream
  case hreserved => exact fun _ _ _ => rfl
  case hreport => exact fun _ _ => rfl

theorem pending_of_exhausted {source : Resource} (h : w.exhausted source = true) :
    w.pending source = [] := by
  simp only [exhausted, Bool.and_eq_true, List.isEmpty_iff] at h
  exact h.1

/-- The end of a pipe is only seen when nobody can write to it. -/
theorem not_holds_of_exhausted {pipe : Nat} (h : w.exhausted (.readEnd pipe) = true) :
    w.holds (.writeEnd pipe) = false := by
  simp only [exhausted, Bool.and_eq_true, Bool.not_eq_true'] at h
  exact h.2

/-- A process of the crew that has ended has ended as it should. -/
theorem Serves.phase_of_ended (h : w.Serves c) (hst : st ∈ c.stations)
    (hended : (w.jobAt st.job).isLive = false) :
    (w.jobAt st.job).phase = .ended st.ending := by
  have hstands := (h.fits st hst).stands
  rw [Job.isLive] at hended
  generalize (w.jobAt st.job).phase = phase at hstands hended
  cases hstands with
  | reading => cases hended
  | closing houtput hending => cases hended
  | ended hdone => rfl

/-- A program that has ended has written everything. -/
theorem Serves.written_of_ended (h : w.Serves c) (hst : st ∈ c.stations)
    (hended : (w.jobAt st.job).isLive = false) : (w.jobAt st.job).written = st.output := by
  have hstands := (h.fits st hst).stands
  rw [h.phase_of_ended hst hended] at hstands
  cases hstands with
  | ended hwritten => exact hwritten

/-- Where nothing can be read any more, everything was read. -/
theorem Serves.consumed_eq_of_exhausted (h : w.Serves c) (hc : c.Arranged)
    (hst : st ∈ c.stations) (hlive : (w.jobAt st.job).isLive = true)
    (hexhausted : w.exhausted st.inlet.source = true) :
    (w.jobAt st.job).consumed = st.input := by
  have hleft := h.left st hst
  have hpending := pending_of_exhausted hexhausted
  cases hinlet : st.inlet with
  | stream number =>
    rw [hinlet] at hleft hpending
    obtain ⟨hstream, hinput⟩ := hleft
    simp only [Port.source, pending, hstream] at hpending
    rw [← hinput, hpending, List.append_nil]
  | file number target =>
    rw [hinlet] at hleft hpending
    obtain ⟨position, content, hdescription, hcontent, hinput⟩ := hleft
    simp only [Port.source, pending, hdescription, hcontent, Option.getD_some] at hpending
    rw [← hinput, hpending, List.append_nil]
  | pipe pipe =>
    rw [hinlet] at hpending hexhausted
    by_cases hwriter : ∃ a ∈ c.stations, a.outlet = .pipe pipe
    · obtain ⟨a, ha, houtlet⟩ := hwriter
      have hpiped := h.piped a ha st hst pipe houtlet hinlet hlive
      rw [show w.pipes pipe = [] from hpending, List.append_nil] at hpiped
      -- A writer that still lives could write to the pipe.
      have hended : (w.jobAt a.job).isLive = false := by
        rw [← Bool.not_eq_true]
        intro halive
        have hwriter : (w.jobAt a.job).stream 1 = some (.writeEnd pipe) := by
          rw [(h.fits a ha).outlet, houtlet, Port.goal]
        have hheld := holds_of_jobAt (h.present a ha) (Job.holds_of_stream halive hwriter)
        rw [not_holds_of_exhausted hexhausted] at hheld
        cases hheld
      rw [(hc.fed a ha st hst pipe houtlet hinlet).1, hpiped]
      exact h.written_of_ended ha hended
    · have hinput := hc.unfed st hst pipe hinlet fun a ha houtlet => hwriter ⟨a, ha, houtlet⟩
      have hconsumed := (h.fits st hst).consumed
      rw [hinput] at hconsumed ⊢
      exact List.prefix_nil.1 hconsumed

/-- A program that stops reading has read all that matters. -/
theorem Serves.closing (h : w.Serves c) (hc : c.Arranged) (hst : st ∈ c.stations)
    (hlive : (w.jobAt st.job).isLive = true)
    (hstop : st.program.enough (w.jobAt st.job).consumed = true ∨
      w.exhausted st.inlet.source = true) :
    st.program.output (w.jobAt st.job).consumed = st.output ∧
      st.program.ending (w.jobAt st.job).consumed = st.ending := by
  rcases hstop with henough | hexhausted
  · have hconsumed := (h.fits st hst).consumed
    exact ⟨(st.program.output_eq henough hconsumed).symm,
      (st.program.ending_eq henough hconsumed).symm⟩
  · rw [h.consumed_eq_of_exhausted hc hst hlive hexhausted]
    exact ⟨rfl, rfl⟩

/-- More of a text is written, up to its end. -/
theorem upTo_continues {written text output : Bytes} (hwritten : written <+: output)
    (htext : text <+: output) (limit : Option Nat) :
    written ++ upTo limit (text.drop written.length) <+: output := by
  rcases Nat.le_total written.length text.length with hle | hle
  · obtain ⟨more, rfl⟩ := List.prefix_of_prefix_length_le hwritten htext hle
    rw [List.drop_left]
    exact List.IsPrefix.trans ((List.prefix_append_right_inj _).2 (upTo_isPrefix limit more)) htext
  · have hnone : upTo limit (text.drop written.length) = [] :=
      List.prefix_nil.1 (List.drop_of_length_le hle ▸ upTo_isPrefix limit _)
    rw [hnone, List.append_nil]
    exact hwritten

/-- A program takes a step. -/
theorem Serves.act (h : w.Serves c) (hc : c.Arranged) (hst : st ∈ c.stations) {reading : Bool}
    (hrunning : (w.jobAt st.job).phase = .running st.program reading) (deed : Deed) :
    (w.act st.job (w.jobAt st.job) st.program reading deed).Serves c := by
  have hlive : (w.jobAt st.job).isLive = true := by rw [Job.isLive, hrunning]
  have hfits := h.fits st hst
  have hstands := hfits.stands
  rw [hrunning] at hstands
  cases deed with
  | read limit =>
    rw [Workshop.act]
    split
    · next hreading => exact h.read hc hst (hreading ▸ hrunning) limit
    · exact h
  | stop =>
    rw [Workshop.act, hfits.inlet, Option.all_some]
    split
    · next hstop =>
      rw [Bool.and_eq_true, Bool.or_eq_true] at hstop
      obtain ⟨houtput, hending⟩ := h.closing hc hst hlive hstop.2
      exact h.setPhase hc hst hlive (.closing houtput hending)
    · exact h
  | write limit =>
    refine h.write hc hst hrunning (upTo_continues hfits.written ?_ limit)
    cases hstands with
    | reading => exact st.program.early_prefix hfits.consumed
    | closing houtput hending => exact houtput ▸ List.prefix_rfl
  | finish =>
    rw [Workshop.act]
    split
    · next hfinish =>
      rw [Bool.and_eq_true, beq_iff_eq] at hfinish
      cases hstands with
      | reading => cases hfinish.1
      | closing houtput hending =>
        refine h.setPhase hc hst hlive ?_
        rw [hending]
        exact .ended (hfinish.2.trans houtput)
    · exact h

/-- A process that runs a program has a station. -/
theorem Serves.exists_station (h : w.Serves c) {i : Nat} (hi : i < w.jobs.length)
    {program : Program} {reading : Bool} (hrunning : (w.jobAt i).phase = .running program reading) :
    ∃ st ∈ c.stations, st.job = i ∧ st.program = program := by
  by_cases hstation : ∃ st ∈ c.stations, st.job = i
  · obtain ⟨st, hst, rfl⟩ := hstation
    have hstands := (h.fits st hst).stands
    rw [hrunning] at hstands
    refine ⟨st, hst, rfl, ?_⟩
    cases hstands <;> rfl
  · exfalso
    by_cases hforked : c.forked = some i
    · rw [(h.forked i hforked).2] at hrunning
      cases hrunning
    · have hended := h.others i hi (fun st hst heq => hstation ⟨st, hst, heq⟩) hforked
      rw [Job.isLive, hrunning] at hended
      cases hended

/-- A process that runs no program of the crew has ended. -/
theorem Serves.ended_of_stations (h : w.Serves c) (hforked : c.forked = none)
    {i : Nat} (hi : i < w.jobs.length)
    (hended : ∀ st ∈ c.stations, st.job = i → (w.jobAt st.job).isLive = false) :
    (w.jobAt i).isLive = false := by
  by_cases hstation : ∃ st ∈ c.stations, st.job = i
  · obtain ⟨st, hst, rfl⟩ := hstation
    exact hended st hst rfl
  · exact h.others i hi (fun st hst heq => hstation ⟨st, hst, heq⟩) (by simp [hforked])

/-- Nobody but the shell can write to a pipe when the program that writes to it has ended. -/
theorem Serves.silent (h : w.Serves c) (hforked : c.forked = none) {pipe : Nat}
    (hended : ∀ a ∈ c.stations, a.outlet = .pipe pipe → (w.jobAt a.job).isLive = false) :
    (w.jobs.any fun job => job.holds (.writeEnd pipe)) = false := by
  rw [List.any_eq_false]
  intro job hjob hheld
  obtain ⟨i, hlt, rfl⟩ := exists_jobAt hjob
  have hdone := h.ended_of_stations hforked hlt fun a ha heq =>
    hended a ha ((h.fits a ha).writes pipe (heq ▸ hheld))
  rw [Job.holds, hdone] at hheld
  cases hheld

/-- Whatever step a process takes, the crew is the same. -/
theorem Serves.perform (h : w.Serves c) (hc : c.Arranged) (choice : Choice) :
    (w.perform choice).Serves c := by
  rw [Workshop.perform]
  split
  · exact h
  · next job hjob =>
    split
    · next program reading hphase =>
      obtain ⟨hi, -⟩ := List.getElem?_eq_some_iff.1 hjob
      rw [jobs_eq_jobAt hi, Option.some.injEq] at hjob
      subst hjob
      obtain ⟨st, hst, hposition, rfl⟩ := h.exists_station hi hphase
      rw [← hposition] at hphase ⊢
      exact h.act hc hst hphase choice.deed
    · exact h

theorem Serves.foldl_perform (h : w.Serves c) (hc : c.Arranged) (choices : List Choice) :
    (choices.foldl Workshop.perform w).Serves c := by
  induction choices generalizing w with
  | nil => exact h
  | cons choice rest ih => exact ih (h.perform hc choice)

/-- Whatever the schedule says, the crew is the same. -/
theorem Serves.elapse (h : w.Serves c) (hc : c.Arranged) : w.elapse.Serves c := by
  rw [Workshop.elapse]
  split
  · exact h
  · next now later _ =>
    have hlater : { w with schedule := later }.Serves c :=
      ⟨h.present, h.fits, h.forked, h.others, h.left, h.arrived, h.piped, h.dry, h.printed,
        h.kept, h.awaits, h.shell, h.streams, h.reserved, h.report⟩
    exact hlater.foldl_perform hc now

end

end Workshop

end CommandShell
