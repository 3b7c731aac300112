import CommandShell.Proofs.TurnRequests
import CommandShell.Proofs.Wiring

/-!
# Turns in a workshop

A pipeline is run in a workshop. Before every turn the crew consists of the programs of the stages
in front, all that they will leave is what the evaluation of these stages leaves, and the next
program can read what the evaluation hands on. Main statement: this is so again after the turn, and
the state of the stage foretells the outcome that the evaluation has for it (`Task.turn`).
-/

namespace CommandShell

open Shell

/-- A run begins and ends with two streams. -/
structure Streams.Lead (streams : Streams) (table : Descriptors) (source sink : Nat) : Prop where
  /-- The first stage can read from one of them. -/
  source : (seat table table streams.input 0).map Slot.target = some (.file source)
  /-- The last stage can write to one of them. -/
  sink : (seat table table streams.output 1).map Slot.target = some (.file sink)

section

variable {σ : Type} [Kernel σ] {base equipped forking : ShellState (Recorded σ)} {t : Turn σ}
  {row : List PipeEnds} {arguments : ArgumentVector} {io : StageIo} {report : PipeEnds}
  {openings : List Call}

/-- When the shell makes the process of a stage, it still has the pipe behind the stage. -/
theorem Turn.Ready.get?_reader (h : t.Ready arguments io report equipped forking openings)
    (hplaced : t.Placed base row) (hlt : t.index < row.length) :
    forking.descriptors.get? row[t.index].reader =
      some ⟨.readEnd (base.fresh + t.index), true⟩ := by
  have hslot := hplaced.standing.reader t.index row[t.index] (Nat.sub_le _ _)
    (List.getElem?_eq_getElem hlt)
  refine h.keeps hslot fun hmem => ?_
  rcases List.mem_append.1 hmem with hmem | hmem
  · obtain ⟨hpos, hget⟩ := hplaced.get?_pipedIn (mem_displaced hmem)
    rw [hslot] at hget
    simp only [Option.some.injEq, Slot.mk.injEq, Resource.readEnd.injEq, and_true] at hget
    omega
  · have hget := (hplaced.get?_pipedOut (mem_displaced hmem)).2
    rw [hslot] at hget
    cases hget

/-- It can hand the pipe on to the process. -/
theorem Turn.Ready.holdsReader (h : t.Ready arguments io report equipped forking openings)
    (hplaced : t.Placed base row) (hlt : t.index < row.length) : forking.descriptors.refersTo
      (fun other => decide (other = .readEnd (base.fresh + t.index))) = true := by
  rw [DescriptorTable.refersTo_iff]
  exact ⟨_, ⟨.readEnd (base.fresh + t.index), true⟩, h.get?_reader hplaced hlt, decide_eq_true rfl⟩

/-- What belongs to a stage is a file, or an end of a pipe at the stage. -/
theorem Turn.Ready.get?_held (h : t.Ready arguments io report equipped forking openings)
    (hplaced : t.Placed base row) (hindex : t.index ≤ row.length) {fd : Fd} (hfd : fd ∈ io.held) :
    (∃ number, forking.descriptors.get? fd = some ⟨.file number, true⟩) ∨
      ∃ resource, (t.feed base = some resource ∨ t.drain base row.length = some resource) ∧
        forking.descriptors.get? fd = some ⟨resource, true⟩ := by
  have hheld {call : Directory → String → Nat → Except Errno Unit → Call} {start : Directory}
      {redirection : Option String} {piped : Option Resource} {own : Option Fd}
      (hchosen : Chosen call start openings forking.descriptors redirection piped none
        (own <|> none)) (hown : own = some fd) :
      (∃ number, forking.descriptors.get? fd = some ⟨.file number, true⟩) ∨
        ∃ resource, piped = some resource ∧
          forking.descriptors.get? fd = some ⟨resource, true⟩ := by
    subst hown
    generalize hchoice : (some fd <|> none) = choice at hchosen
    cases hchosen with
    | file path other number hpath asked hslot =>
      cases hchoice
      exact Or.inl ⟨number, hslot⟩
    | pipe other resource hnone hpiped hslot =>
      cases hchoice
      exact Or.inr ⟨resource, hpiped, hslot⟩
    | given hnone hpiped => cases hchoice
  rcases List.mem_append.1 hfd with hmem | hmem
  · refine (hheld (h.chosenInput hplaced hindex .inherited fun _ hasked => hasked)
      (Option.mem_toList.1 hmem)).imp_right ?_
    exact fun ⟨resource, hpiped, hslot⟩ => ⟨resource, Or.inl hpiped, hslot⟩
  · refine (hheld (h.chosenOutput hplaced .inherited fun _ hasked => hasked)
      (Option.mem_toList.1 hmem)).imp_right ?_
    exact fun ⟨resource, hpiped, hslot⟩ => ⟨resource, Or.inr hpiped, hslot⟩

/-- It still has the pipe when it listens to the process. -/
theorem Turn.Ready.listensReader (h : t.Ready arguments io report equipped forking openings)
    (hplaced : t.Placed base row) (hlt : t.index < row.length) :
    (report.listening io forking.descriptors).refersTo
      (fun other => decide (other = .readEnd (base.fresh + t.index))) = true := by
  rw [DescriptorTable.refersTo_iff]
  refine ⟨row[t.index].reader, ⟨.readEnd (base.fresh + t.index), true⟩, ?_, decide_eq_true rfl⟩
  have hslot := h.get?_reader hplaced hlt
  rw [PipeEnds.listening, DescriptorTable.get?_closeAll, if_neg, hslot]
  intro hmem
  rcases List.mem_append.1 hmem with hmem | hmem
  · rw [List.mem_singleton.1 hmem, (makePipe_ok h.makePipe_eq).writer] at hslot
    cases hslot
  · rcases h.get?_held hplaced (Nat.le_of_lt hlt) hmem with
      ⟨number, hfile⟩ | ⟨resource, hfeed | hdrain, hpipe⟩
    · rw [hfile] at hslot
      cases hslot
    · rw [hpipe] at hslot
      cases hslot
      rw [Turn.feed] at hfeed
      split at hfeed
      · simp only [Option.some.injEq, Resource.readEnd.injEq] at hfeed
        omega
      · cases hfeed
    · rw [hpipe] at hslot
      cases hslot
      rw [Turn.drain] at hdrain
      split at hdrain <;> cases hdrain

end

namespace Workshop

/-- A pipeline that is to be run in a workshop. -/
structure Task where
  /-- The shell at the beginning. -/
  base : ShellState (Recorded Workshop)
  /-- The streams of the run. -/
  streams : Streams
  /-- The pipeline. -/
  pipeline : Pipeline
  /-- The stream from which the first stage reads. -/
  source : Nat
  /-- The stream to which the last stage writes. -/
  sink : Nat

namespace Task

variable (task : Task)

/-- The workshop at the beginning. -/
def workshop : Workshop := task.base.surroundings.host.host

/-- What does not change. -/
def setting : Setting := task.workshop.setting

/-- All that can be read from the first stream. -/
def feed : Bytes := task.workshop.incoming task.source

/-- The contents of the files at the beginning. -/
def files : File → Option Bytes := task.workshop.files

/-- The directory in which the pipeline is run. -/
def start : Directory := task.base.surroundings.directory

/-- How far the evaluation is when some stages are evaluated. -/
def evaluated (i : Nat) : Evaluation :=
  evaluate task.setting task.start task.feed task.files (task.pipeline.stages.take i)

/-- Where a stage reads that has no file for its input. -/
def inlet (i : Nat) : Port :=
  if i = 0 then .stream task.source else .pipe (task.base.fresh + (i - 1))

/-- Where a stage writes that has no file for its output. -/
def outlet (i : Nat) : Port :=
  if i < task.pipeline.joints then .pipe (task.base.fresh + i) else .stream task.sink

/-- The shell tells of what goes wrong, and so do its copies, where its descriptor for complaints
leads. -/
def Tells (number : Nat) : Prop :=
  ∃ slot, task.base.descriptors.get? standardError = some slot ∧ slot.target = .file number

/-- What is presumed of the files and the streams of a run. -/
structure Presumed : Prop where
  /-- New things get new numbers. -/
  numbered : Numbered task.base
  /-- The shell has no pipes of its own. -/
  pipeless : ∀ fd slot, task.base.descriptors.get? fd = some slot →
    ∃ number, slot.target = .file number
  /-- The run begins and ends with streams. -/
  lead : task.streams.Lead task.base.descriptors task.source task.sink
  /-- They are no files that are opened under a path. -/
  unnamed : ∀ number, number = task.source ∨ number = task.sink →
    task.workshop.descriptions number = none
  /-- No file that is written is used otherwise. -/
  apart : Apart task.setting task.start task.files task.pipeline.stages
  /-- All earlier processes have ended. -/
  ended : ∀ job ∈ task.workshop.jobs, job.isLive = false

/-- A run in which nothing gets in the way of its streams. -/
structure Sound : Prop extends task.Presumed where
  /-- The standard streams are open, and the run was given other ones. -/
  standard : task.streams.Standard task.base
  /-- What is told goes to a stream, and it is not the one with which the run ends. -/
  aside : ∀ number, task.Tells number →
    task.workshop.descriptions number = none ∧ number ≠ task.sink

/-- A station is that of a stage. -/
structure Mans (i : Nat) (stage : Stage) (st : Station) : Prop where
  /-- It reads the file of the stage. -/
  reads : ∀ file, st.inlet.file? = some file → ∃ path, stage.input = some path ∧
    Setting.find task.setting.toRead task.start path = .ok file
  /-- Otherwise it reads from the place in front of the stage. -/
  inlet : st.inlet.file? = none → st.inlet = task.inlet i
  /-- It writes the file of the stage. -/
  writes : ∀ file, st.outlet.file? = some file →
    task.setting.opened? task.start task.files stage = some file
  /-- Otherwise it writes to the place behind the stage. -/
  outlet : st.outlet.file? = none → st.outlet = task.outlet i

/-- What is common to the crews of a run: their stations are those of the first stages, and they
will leave what the evaluation of these stages leaves. -/
structure Occupied (i : Nat) (c : Crew) : Prop where
  /-- No process is a copy of the shell. -/
  forked : c.forked = none
  /-- The files will be what they are in the evaluation. -/
  files : c.files = (task.evaluated i).files
  /-- Every station is that of a stage. -/
  manned : ∀ st ∈ c.stations, ∃ j stage, j < i ∧ task.pipeline.stages[j]? = some stage ∧
    task.Mans j stage st
  /-- The streams are those of the run, and those on which something is told. -/
  streams : ∀ number, c.streams number ↔
    number = task.source ∨ number = task.sink ∨ task.Tells number
  /-- Something is told where the shell tells of it. -/
  noisy : ∀ number, c.noisy number ↔ task.Tells number
  /-- The first pipe between stages. -/
  firstPipe : c.firstPipe = task.base.fresh
  /-- The end of the pipes between stages. -/
  lastPipe : c.lastPipe = task.base.fresh + task.pipeline.joints

/-- A crew before the turn of a stage, or when all stages had their turns. -/
structure Awaited (i : Nat) (c : Crew) : Prop extends task.Occupied i c where
  /-- The next program can read what the evaluation hands on. -/
  awaited : i ≤ task.pipeline.joints →
    c.awaited = some (task.inlet i) ∧ c.feed = (task.evaluated i).feed
  /-- If there is no next stage, what the evaluation hands on is written to the last stream. -/
  left : task.pipeline.joints < i →
    (∀ st ∈ c.stations, st.outlet = .stream task.sink → st.output = (task.evaluated i).feed) ∧
      ((∀ st ∈ c.stations, st.outlet ≠ .stream task.sink) → (task.evaluated i).feed = [])

end Task

/-- Two crews work in the same surroundings. -/
structure Crew.Resembles (c c' : Crew) : Prop where
  /-- The same streams. -/
  streams : c'.streams = c.streams
  /-- The same streams on which something is told. -/
  noisy : c'.noisy = c.noisy
  /-- The same pipes between stages. -/
  firstPipe : c'.firstPipe = c.firstPipe
  /-- And no other ones. -/
  lastPipe : c'.lastPipe = c.lastPipe
  /-- The streams were given the same before. -/
  printed : c'.printed = c.printed

/-- A descriptor leads to the same streams. -/
theorem Crew.Resembles.leads {c c' : Crew} (h : c.Resembles c') {table : Descriptors} {fd : Fd}
    (hleads : c.Leads table fd) : c'.Leads table fd := by
  rw [Crew.Leads, h.streams, h.noisy]
  exact hleads

/-- The state of a stage foretells its outcome. -/
inductive Crew.Foretells (c : Crew) : StageState → StageOutcome → Prop
  /-- The outcome is known. -/
  | settled (outcome : StageOutcome) : Foretells c (.settled outcome) outcome
  /-- The program was not started. -/
  | failed (i : Nat) (reason : String) :
      Foretells c (.execFailed (pidOf i) reason) (.finished (.startFailed reason))
  /-- The program was started. -/
  | running (st : Station) (h : st ∈ c.stations) :
      Foretells c (.running (pidOf st.job)) (.finished st.ending.status)

/-- What is foretold stays true when programs join the crew. -/
theorem Crew.Foretells.mono {c c' : Crew} {state : StageState} {outcome : StageOutcome}
    (hsub : ∀ st ∈ c.stations, st ∈ c'.stations) (h : c.Foretells state outcome) :
    c'.Foretells state outcome := by
  cases h with
  | settled outcome => exact .settled outcome
  | failed i reason => exact .failed i reason
  | running st h => exact .running st (hsub st h)

section

variable {setting : Setting} {w w' : Workshop} {c : Crew}

/-- The next program need not read where it could. -/
theorem Staffed.ignore (h : Staffed setting w c) :
    Staffed setting w { c with awaited := none } := by
  obtain ⟨hc, hserves, hsetting⟩ := h
  refine ⟨{ hc with awaited := ?_, feed := ?_, numbered_awaited := ?_, pipes_awaited := ?_ },
    { hserves with awaits := ?_ }, hsetting⟩
  all_goals
    intro port hport
    cases hport

/-- From a pipe to which nobody writes nothing can be read. -/
theorem Staffed.expect (h : Staffed setting w c) {pipe : Nat} (hfirst : c.firstPipe ≤ pipe)
    (hlast : pipe < c.lastPipe)
    (hnone : ∀ st ∈ c.stations, st.inlet ≠ .pipe pipe ∧ st.outlet ≠ .pipe pipe) :
    Staffed setting w { c with awaited := some (.pipe pipe), feed := [] } := by
  obtain ⟨hc, hserves, hsetting⟩ := h
  refine ⟨{ hc with awaited := ?_, feed := ?_, numbered_awaited := ?_, pipes_awaited := ?_ },
    { hserves with awaits := ?_ }, hsetting⟩
  · rintro _ ⟨⟩ st hst
    exact source_ne_readEnd (hnone st hst).1
  · rintro _ ⟨⟩
    exact ⟨fun st hst houtlet => absurd houtlet (hnone st hst).2, fun _ => rfl⟩
  · rintro _ ⟨⟩
    exact Nat.lt_of_lt_of_le hlast hc.lastPipe_le
  · rintro _ ⟨⟩
    exact ⟨hfirst, hlast⟩
  · rintro _ ⟨⟩ st hst houtlet
    exact absurd houtlet (hnone st hst).2

end

namespace Task

variable {task : Task} {i : Nat} {c : Crew} {w w' : Workshop}

theorem evaluated_succ {stage : Stage} (h : task.pipeline.stages[i]? = some stage) :
    task.evaluated (i + 1) = (task.evaluated i).next task.setting task.start stage :=
  evaluate_take_succ h

/-- Nobody in front of a stage writes where the stage writes. -/
theorem Occupied.outlet_ne (h : task.Occupied i c) (hi : i ≤ task.pipeline.joints) {st : Station}
    (hst : st ∈ c.stations) : st.outlet ≠ task.outlet i := by
  obtain ⟨j, stage, hj, -, hmans⟩ := h.manned st hst
  intro heq
  have hfile : st.outlet.file? = none := by
    rw [heq, outlet]
    split <;> rfl
  rw [hmans.outlet hfile, outlet, outlet, if_pos (Nat.lt_of_lt_of_le hj hi)] at heq
  split at heq
  · cases Nat.add_left_cancel (Port.pipe.inj heq)
    exact Nat.lt_irrefl _ hj
  · cases heq

/-- No stage that had its turn reads from a pipe behind the last one of them. -/
theorem Occupied.inlet_ne (h : task.Occupied i c) {k : Nat} (hk : i ≤ k + 1) {st : Station}
    (hst : st ∈ c.stations) : st.inlet ≠ .pipe (task.base.fresh + k) := by
  obtain ⟨j, stage, hj, -, hmans⟩ := h.manned st hst
  intro heq
  rw [hmans.inlet (by rw [heq]; rfl), inlet] at heq
  split at heq
  · cases heq
  · have hnumber := Nat.add_left_cancel (Port.pipe.inj heq)
    omega

/-- If the last stage that had its turn hands nothing on, the next one can read nothing. -/
theorem Occupied.vacate (h : task.Occupied (i + 1) c) (hstaffed : Staffed task.setting w c)
    (hnone : ∀ st ∈ c.stations, st.outlet ≠ task.outlet i)
    (hfeed : (task.evaluated (i + 1)).feed = []) :
    ∃ awaited feed, Staffed task.setting w { c with awaited := awaited, feed := feed } ∧
      task.Awaited (i + 1) { c with awaited := awaited, feed := feed } := by
  by_cases hi : i < task.pipeline.joints
  · have houtlet : task.outlet i = .pipe (task.base.fresh + i) := by rw [outlet, if_pos hi]
    have hpipe : ∀ st ∈ c.stations, st.inlet ≠ .pipe (task.base.fresh + i) ∧
        st.outlet ≠ .pipe (task.base.fresh + i) := fun st hst =>
      ⟨h.inlet_ne (Nat.le_refl _) hst, houtlet ▸ hnone st hst⟩
    have hfirst : c.firstPipe ≤ task.base.fresh + i := by
      rw [h.firstPipe]
      exact Nat.le_add_right _ _
    have hlast : task.base.fresh + i < c.lastPipe := by
      rw [h.lastPipe]
      exact Nat.add_lt_add_left hi _
    refine ⟨_, _, hstaffed.expect hfirst hlast hpipe, { h with awaited := ?_, left := ?_ }⟩
    · intro _
      rw [hfeed, inlet, if_neg (Nat.succ_ne_zero i), Nat.add_sub_cancel]
      exact ⟨rfl, rfl⟩
    · intro hlt
      exact absurd hi (Nat.not_lt_of_le (Nat.le_of_lt_succ hlt))
  · have houtlet : task.outlet i = .stream task.sink := by rw [outlet, if_neg hi]
    refine ⟨c.awaited, c.feed, hstaffed, { h with awaited := ?_, left := ?_ }⟩
    · intro hle
      exact absurd hle hi
    · intro _
      exact ⟨fun st hst heq => absurd heq (houtlet ▸ hnone st hst), fun _ => hfeed⟩

/-! ## Places of a stage -/

section

variable {t : Turn Workshop} {own : Option Bytes} {file : Option File} {openings : List Call}
  {table : Descriptors} {chosen : Option Fd} {feed : Bytes} {inlet : Port}

/-- What was chosen for a stream of a stage, if it is what the run was given, leads where the run
begins or ends. -/
theorem seat_of_given {base : Descriptors} {given : Option Fd} {goal : Fd} {target : Resource}
    (h : (seat base base given goal).map Slot.target = some target)
    (hkeeps : ∀ fd slot, base.get? fd = some slot → table.get? fd = some slot) :
    (seat base table given goal).map Slot.target = some target := by
  cases given with
  | none => exact h
  | some fd =>
    simp only [seat, Option.map_map, Option.map_eq_some_iff] at h ⊢
    obtain ⟨slot, hslot, heq⟩ := h
    exact ⟨slot, hkeeps fd slot hslot, heq⟩

/-- What was opened or made for a stream of a stage is what its program finds. -/
theorem seat_of_some {base : Descriptors} {fd goal : Fd} {resource : Resource}
    (h : table.get? fd = some ⟨resource, true⟩) :
    (seat base table (some fd) goal).map Slot.target = some resource := by
  simp [seat, h]

/-- What the run was given for a stream of a stage is open at the beginning. -/
theorem open_of_seat {base : Descriptors} {given : Option Fd} {goal : Fd} {target : Resource}
    (h : (seat base base given goal).map Slot.target = some target) :
    ∃ fd slot, base.get? fd = some slot ∧ slot.target = target := by
  cases given with
  | some fd =>
    rw [seat, Option.map_map, Option.map_eq_some_iff] at h
    obtain ⟨slot, hslot, htarget⟩ := h
    exact ⟨fd, slot, hslot, htarget⟩
  | none =>
    obtain ⟨slot, hslot, htarget⟩ := Option.map_eq_some_iff.1 h
    rw [seat, DescriptorTable.get?_surviving, Option.filter_eq_some_iff] at hslot
    exact ⟨goal, slot, hslot.1, htarget⟩

/-- A stage without a file for its input reads what is handed on. -/
theorem own_eq_none {files : File → Option Bytes} {stage : Stage}
    (h : task.setting.targets task.start files stage = .ok (own, file))
    (hnone : stage.input = none) : own = none := by
  rw [Setting.targets, Setting.source, hnone] at h
  dsimp only at h
  split at h
  · cases h
  · cases h
    rfl

/-- A stage without a file for its output hands on what it writes. -/
theorem file_eq_none {files : File → Option Bytes} {stage : Stage}
    (h : task.setting.targets task.start files stage = .ok (own, file))
    (hnone : stage.output = none) : file = none := by
  rw [Setting.targets, Setting.goal, hnone] at h
  dsimp only at h
  split at h
  · cases h
  · cases h
    rfl

/-- The program of a stage can read where it should: from its own file, or else from what is handed
on. -/
theorem Sound.offers (h : task.Sound) {files : File → Option Bytes}
    (htargets : task.setting.targets task.start files t.stage = .ok (own, file))
    (hlays : c.Lays task.setting task.start t.stage openings own file)
    (hawaited : t.stage.input = none →
      c.awaited = some (task.inlet t.index) ∧ c.feed = feed)
    (hunwritten : ∀ path target, t.stage.input = some path →
      Setting.find task.setting.toRead task.start path = .ok target →
        ∀ st ∈ c.stations, st.outlet.file? ≠ some target)
    (hkeeps : ∀ fd slot, task.base.descriptors.get? fd = some slot → table.get? fd = some slot)
    (hchosen : Chosen .openToRead task.start openings table t.stage.input (t.feed task.base)
      task.streams.input chosen) :
    ∃ inlet, (seat task.base.descriptors table chosen 0).map Slot.target = some inlet.source ∧
      c.Offers inlet (own.getD feed) ∧
      (∀ target, inlet.file? = some target → ∃ path, t.stage.input = some path ∧
        Setting.find task.setting.toRead task.start path = .ok target) ∧
      (inlet.file? = none → inlet = task.inlet t.index) := by
  have hpiped : t.stage.input = none → c.Offers (task.inlet t.index) (own.getD feed) := by
    intro hnone
    obtain ⟨hport, hfeed⟩ := hawaited hnone
    rw [own_eq_none htargets hnone, Option.getD_none, ← hfeed]
    exact .awaited _ hport
  have hfile : (task.inlet t.index).file? = none := by
    rw [Task.inlet]
    split <;> rfl
  cases hchosen with
  | file path fd number hinput asked hfd =>
    obtain ⟨target, content, hpath, hfind, rfl, hentry, hcontent⟩ := hlays.source path number asked
    refine ⟨.file number target, seat_of_some hfd,
      .file number target content hentry hcontent (hunwritten path target hpath hfind), ?_, ?_⟩
    · rintro _ ⟨⟩
      exact ⟨path, hpath, hfind⟩
    · intro hnone
      cases hnone
  | pipe fd resource hnone hfed hfd =>
    refine ⟨task.inlet t.index, ?_, hpiped hnone, fun target htarget => ?_, fun _ => rfl⟩
    · rw [Turn.feed] at hfed
      split at hfed
      · next hpos =>
        cases hfed
        rw [Task.inlet, if_neg (Nat.ne_of_gt hpos)]
        exact seat_of_some hfd
      · cases hfed
    · rw [hfile] at htarget
      cases htarget
  | given hnone hfed =>
    refine ⟨task.inlet t.index, ?_, hpiped hnone, fun target htarget => ?_, fun _ => rfl⟩
    · rw [Turn.feed] at hfed
      split at hfed
      · cases hfed
      · next hpos =>
        rw [Task.inlet, if_pos (Nat.eq_zero_of_not_pos hpos)]
        exact seat_of_given h.lead.source hkeeps
    · rw [hfile] at htarget
      cases htarget

/-- The program of a stage can write where it should: to its own file, or else to the place behind
the stage. -/
theorem Sound.admits (h : task.Sound) {files : File → Option Bytes}
    (htargets : task.setting.targets task.start files t.stage = .ok (own, file))
    (hlays : c.Lays task.setting task.start t.stage openings own file)
    (hfirst : c.firstPipe = task.base.fresh)
    (hlast : c.lastPipe = task.base.fresh + task.pipeline.joints)
    (hsink : c.streams task.sink) (hquiet : ¬ c.noisy task.sink)
    (hunused : ∀ target, file = some target → inlet.file? ≠ some target ∧
      ∀ st ∈ c.stations, st.inlet.file? ≠ some target ∧ st.outlet.file? ≠ some target)
    (houtlet : ∀ st ∈ c.stations, st.outlet ≠ task.outlet t.index)
    (hinlet : ∀ st ∈ c.stations, st.inlet ≠ .pipe (task.base.fresh + t.index))
    (hother : inlet ≠ .pipe (task.base.fresh + t.index))
    (hreader : t.index < task.pipeline.joints → c.shell.refersTo
      (fun other => decide (other = .readEnd (task.base.fresh + t.index))) = true)
    (hkeeps : ∀ fd slot, task.base.descriptors.get? fd = some slot → table.get? fd = some slot)
    (hchosen : Chosen .openToWrite task.start openings table t.stage.output
      (t.drain task.base task.pipeline.joints) task.streams.output chosen) :
    ∃ outlet, (seat task.base.descriptors table chosen 1).map Slot.target = some outlet.goal ∧
      c.Admits inlet outlet ∧ outlet.file? = file ∧
      (file = none → outlet = task.outlet t.index) := by
  cases hchosen with
  | file path fd number houtput asked hfd =>
    obtain ⟨target, rfl, hentry, hempty⟩ := hlays.goal path number asked
    obtain ⟨hself, hothers⟩ := hunused target rfl
    exact ⟨.file number target, seat_of_some hfd, .file number target hentry hempty hothers hself,
      rfl, fun hnone => by cases hnone⟩
  | pipe fd resource hnone hdrain hfd =>
    have hfile := file_eq_none htargets hnone
    rw [Turn.drain] at hdrain
    split at hdrain
    · next hlt =>
      cases hdrain
      rw [Task.outlet, if_pos hlt] at houtlet ⊢
      refine ⟨.pipe (task.base.fresh + t.index), seat_of_some hfd, ?_, hfile.symm, fun _ => rfl⟩
      refine .pipe _ (hfirst ▸ Nat.le_add_right _ _) (hlast ▸ Nat.add_lt_add_left hlt _)
        (fun st hst => ⟨hinlet st hst, houtlet st hst⟩) hother (hreader hlt)
    · cases hdrain
  | given hnone hdrain =>
    have hfile := file_eq_none htargets hnone
    rw [Turn.drain] at hdrain
    split at hdrain
    · cases hdrain
    · next hlt =>
      rw [Task.outlet, if_neg hlt] at houtlet ⊢
      exact ⟨.stream task.sink, seat_of_given h.lead.sink hkeeps,
        .stream _ hsink hquiet houtlet, hfile.symm, fun _ => rfl⟩

end

/-! ## After a turn -/

section

variable {c' : Crew} {stage : Stage} {st : Station} {file : Option File}

/-- A stage had its turn, and its program may have joined the crew. -/
theorem Occupied.next (h : task.Occupied i c) (hstage : task.pipeline.stages[i]? = some stage)
    (hsame : c.Resembles c') (hforked : c'.forked = none)
    (hfiles : c'.files = (task.evaluated (i + 1)).files)
    (hmanned : ∀ st ∈ c'.stations, st ∈ c.stations ∨ task.Mans i stage st) :
    task.Occupied (i + 1) c' := by
  refine ⟨hforked, hfiles, fun st hst => ?_, ?_, ?_, ?_, ?_⟩
  · rcases hmanned st hst with hold | hmans
    · obtain ⟨j, other, hj, hother, hmans⟩ := h.manned st hold
      exact ⟨j, other, Nat.lt_succ_of_lt hj, hother, hmans⟩
    · exact ⟨i, stage, Nat.lt_succ_self i, hstage, hmans⟩
  · rw [hsame.streams]
    exact h.streams
  · rw [hsame.noisy]
    exact h.noisy
  · rw [hsame.firstPipe, h.firstPipe]
  · rw [hsame.lastPipe, h.lastPipe]

/-- A stage that does not run leaves the crew as it was, and hands nothing on. -/
theorem Awaited.pass (h : task.Awaited i c) (hstaffed : Staffed task.setting w c')
    (hi : i ≤ task.pipeline.joints) (hstage : task.pipeline.stages[i]? = some stage)
    (hsame : c.Resembles c') (hstations : c'.stations = c.stations) (hforked : c'.forked = none)
    (hfiles : c'.files = (task.evaluated (i + 1)).files)
    (hfeed : (task.evaluated (i + 1)).feed = []) :
    ∃ awaited feed, Staffed task.setting w { c' with awaited := awaited, feed := feed } ∧
      task.Awaited (i + 1) { c' with awaited := awaited, feed := feed } := by
  have hnext := h.toOccupied.next hstage hsame hforked hfiles fun st hst =>
    Or.inl (hstations ▸ hst)
  refine hnext.vacate hstaffed (fun st hst => ?_) hfeed
  exact h.toOccupied.outlet_ne hi (hstations ▸ hst)

/-- A stage that runs hands on what it does not write to its own file. -/
theorem Awaited.join (h : task.Awaited i c) (hstaffed : Staffed task.setting w c')
    (hi : i ≤ task.pipeline.joints) (hstage : task.pipeline.stages[i]? = some stage)
    (hsame : c.Resembles c') (hstations : c'.stations = c.stations ++ [st])
    (hforked : c'.forked = none)
    (hfiles : c'.files = st.leaves (emptied c.files file))
    (hawaited : c'.awaited = st.outlet.next?) (hfeed : c'.feed = st.output)
    (hmans : task.Mans i stage st) (hfile : st.outlet.file? = file)
    (hrun : task.evaluated (i + 1) = (task.evaluated i).run st.program st.input file) :
    ∃ awaited feed, Staffed task.setting w { c' with awaited := awaited, feed := feed } ∧
      task.Awaited (i + 1) { c' with awaited := awaited, feed := feed } := by
  have hmem : ∀ a ∈ c'.stations, a ∈ c.stations ∨ a = st := by
    intro a ha
    simpa [hstations] using ha
  have hleft : c'.files = (task.evaluated (i + 1)).files := by
    rw [hfiles, Station.leaves, hfile, hrun, h.files]
    cases file with
    | none => rfl
    | some target => exact Function.update_idem _ _ _
  have hnext := h.toOccupied.next hstage hsame hforked hleft fun a ha =>
    (hmem a ha).imp_right (by rintro rfl; exact hmans)
  cases file with
  | some target =>
    refine hnext.vacate hstaffed (fun a ha => ?_) (by rw [hrun]; rfl)
    rcases hmem a ha with hold | rfl
    · exact h.toOccupied.outlet_ne hi hold
    · intro heq
      rw [heq, outlet] at hfile
      split at hfile <;> cases hfile
  | none =>
    have houtlet := hmans.outlet hfile
    have houtput : (task.evaluated (i + 1)).feed = st.output := by rw [hrun]; rfl
    refine ⟨c'.awaited, c'.feed, hstaffed, { hnext with awaited := fun hle => ?_, left := ?_ }⟩
    · change c'.awaited = _ ∧ c'.feed = _
      rw [hawaited, hfeed, houtput, houtlet, outlet, if_pos (Nat.lt_of_succ_le hle), inlet,
        if_neg (Nat.succ_ne_zero i), Nat.add_sub_cancel]
      exact ⟨rfl, rfl⟩
    · intro hlt
      have hlast : task.outlet i = .stream task.sink := by
        rw [outlet, if_neg (Nat.not_lt_of_le (Nat.le_of_lt_succ hlt))]
      constructor
      · intro a ha heq
        rcases hmem a ha with hold | rfl
        · exact absurd (heq.trans hlast.symm) (h.toOccupied.outlet_ne hi hold)
        · exact houtput.symm
      · intro hnone
        refine absurd (houtlet.trans hlast) (hnone st ?_)
        change st ∈ c'.stations
        simp [hstations]

end

/-! ## Turns -/

section

variable {t : Turn Workshop} {stage : Stage}

/-- No stage in front of a stage writes the file that the stage reads. -/
theorem Sound.unwritten (h : task.Sound) (hc : task.Occupied i c)
    (hstage : task.pipeline.stages[i]? = some stage) (path : String) (target : File)
    (hinput : stage.input = some path)
    (hfind : Setting.find task.setting.toRead task.start path = .ok target) :
    ∀ st ∈ c.stations, st.outlet.file? ≠ some target := by
  intro st hst hfile
  obtain ⟨j, other, hj, hother, hmans⟩ := hc.manned st hst
  exact h.apart.unread hother (hmans.writes target hfile) hstage hinput hfind

/-- Neither a stage in front of a stage nor the stage itself uses the file that the stage writes. -/
theorem Sound.unused (h : task.Sound) (hc : task.Occupied i c)
    (hstage : task.pipeline.stages[i]? = some stage) (target : File)
    (hopened : task.setting.opened? task.start c.files stage = some target) :
    (∀ path, stage.input = some path →
      Setting.find task.setting.toRead task.start path ≠ .ok target) ∧
    ∀ st ∈ c.stations, st.inlet.file? ≠ some target ∧ st.outlet.file? ≠ some target := by
  rw [hc.files, Setting.opened?, evaluated, h.apart.targets_eq hstage] at hopened
  have hopened : task.setting.opened? task.start task.files stage = some target := hopened
  refine ⟨fun path hinput => h.apart.unread hstage hopened hstage hinput, fun st hst => ?_⟩
  obtain ⟨j, other, hj, hother, hmans⟩ := hc.manned st hst
  constructor
  · intro hfile
    obtain ⟨path, hinput, hfind⟩ := hmans.reads target hfile
    exact h.apart.unread hstage hopened hother hinput hfind
  · intro hfile
    obtain ⟨path, houtput, hfind⟩ := Setting.exists_of_opened? (hmans.writes target hfile)
    exact h.apart.unwritten hstage hopened hother (Nat.ne_of_lt hj) houtput hfind

/-- A turn is one of the run, at its place. -/
structure Belongs (t : Turn Workshop) (row : List PipeEnds) : Prop where
  /-- The right ends were taken for it. -/
  placed : t.Placed task.base row
  /-- All pipes were made. -/
  length_eq : row.length = task.pipeline.joints
  /-- It is not behind the last one. -/
  index_le : t.index ≤ task.pipeline.joints
  /-- It is the turn of the stage at its position. -/
  stage_eq : task.pipeline.stages[t.index]? = some t.stage
  /-- The working directory is still the same. -/
  directory_eq : t.before.surroundings.directory = task.start

/-- What a turn comes to: the crew is ready for the next turn, and the state of the stage foretells
the outcome that the evaluation has for it. -/
structure Concluded (t : Turn Workshop) (limit : Nat) (result : Except ShellError StageState)
    (c c' : Crew) : Prop where
  /-- The crew is ready for the next turn. -/
  awaited : task.Awaited (t.index + 1) c'
  /-- It has only used numbers that were given. -/
  fresh_le : c'.fresh ≤ limit
  /-- The programs of the stages in front still belong to it. -/
  stations : ∀ st ∈ c.stations, st ∈ c'.stations
  /-- Only the program of the stage has joined it. -/
  joined : ∀ st ∈ c'.stations, st ∈ c.stations ∨ result = .ok (.running (pidOf st.job))
  /-- The streams were given the same before. -/
  printed : c'.printed = c.printed
  /-- The state of the stage foretells its outcome. -/
  foretold : ∃ state outcome, result = .ok state ∧ c'.Foretells state outcome ∧
    (task.evaluated (t.index + 1)).outcomes = (task.evaluated t.index).outcomes ++ [outcome]

/-- The shell tells of everything on a stream. -/
theorem Occupied.leads (h : task.Occupied i c) (hsound : task.Sound) :
    c.Leads task.base.descriptors standardError := by
  obtain ⟨slot, hslot⟩ := Option.ne_none_iff_exists'.1
    (hsound.standard.inherited standardError (Nat.le_refl 2))
  obtain ⟨number, htarget⟩ := hsound.pipeless standardError slot hslot
  have htells : task.Tells number := ⟨slot, hslot, htarget⟩
  exact ⟨slot, number, hslot, htarget, (h.streams number).2 (Or.inr (Or.inr htells)),
    (h.noisy number).2 htells⟩

variable {row : List PipeEnds} {openings notes course reads later : List Call} {limit : Nat}

/-- The turn of a stage one of whose files cannot be opened. -/
theorem Sound.turn_unopened (h : task.Sound) (ht : task.Belongs t row) {path : String}
    {fault : Fault} (hopenings : Openings task.start t.stage openings (some (path, fault)))
    (hnotes : Noted task.base.descriptors t.before.log.stamp notes)
    (hascends : Ascends limit c.fresh (numbersGiven (openings ++ notes)))
    (hcalls : Replayed w (openings ++ notes) w') (hc : task.Awaited t.index c)
    (hstaffed : Staffed task.setting w c) :
    ∃ c', Staffed task.setting w' c' ∧
      task.Concluded t limit (.ok (.settled (.aborted (.io path fault)))) c c' := by
  obtain ⟨w₁, hopened, hnoted⟩ := hcalls.split
  obtain ⟨fresh, reserved, hascends, ⟨failure, heq, htargets, hstaffed⟩ | ⟨heq, -⟩⟩ :=
    hstaffed.acquire hopenings hascends (h.unwritten hc.toOccupied ht.stage_eq)
      (h.unused hc.toOccupied ht.stage_eq) hopened
  · cases heq
    rw [hc.files] at htargets
    have hstaffed := hstaffed.noted hnotes (hc.toOccupied.leads h) hnoted
    have hnext : task.evaluated (t.index + 1) =
        (task.evaluated t.index).skip (task.evaluated t.index).files
          (.aborted (.io path fault)) := by
      rw [evaluated_succ ht.stage_eq, Evaluation.next, htargets]
    obtain ⟨awaited, feed, hstaffed, hawaited⟩ := hc.pass hstaffed ht.index_le ht.stage_eq
      ⟨rfl, rfl, rfl, rfl, rfl⟩ rfl hc.forked (by rw [hnext]; exact hc.files) (by rw [hnext]; rfl)
    exact ⟨_, hstaffed, hawaited, hascends.le, fun st hst => hst, fun st hst => Or.inl hst, rfl,
      _, _, rfl, .settled _, by rw [hnext]; rfl⟩
  · cases heq

/-- The turn of a stage one of whose arguments cannot be passed on. -/
theorem Sound.turn_unpassable (h : task.Sound) (ht : task.Belongs t row) {reason : String}
    (hopenings : Openings task.start t.stage openings none)
    (hpass : ArgumentVector.ofArguments t.stage.argv = .error reason)
    (hascends : Ascends limit c.fresh (numbersGiven openings))
    (hcalls : Replayed w openings w') (hc : task.Awaited t.index c)
    (hstaffed : Staffed task.setting w c) :
    ∃ c', Staffed task.setting w' c' ∧
      task.Concluded t limit (.ok (.settled (.finished (.startFailed reason)))) c c' := by
  rw [← List.append_nil openings] at hascends
  obtain ⟨fresh, reserved, hascends, ⟨failure, heq, -⟩ | ⟨-, own, file, htargets, hstaffed, -⟩⟩ :=
    hstaffed.acquire hopenings hascends (h.unwritten hc.toOccupied ht.stage_eq)
      (h.unused hc.toOccupied ht.stage_eq) hcalls
  · cases heq
  · rw [hc.files] at htargets
    have hnext : task.evaluated (t.index + 1) =
        (task.evaluated t.index).skip (emptied (task.evaluated t.index).files file)
          (.finished (.startFailed reason)) := by
      rw [evaluated_succ ht.stage_eq, Evaluation.next, htargets]
      simp only [hpass]
    obtain ⟨awaited, feed, hstaffed, hawaited⟩ := hc.pass hstaffed ht.index_le ht.stage_eq
      ⟨rfl, rfl, rfl, rfl, rfl⟩ rfl hc.forked (by rw [hnext, hc.files]; rfl) (by rw [hnext]; rfl)
    exact ⟨_, hstaffed, hawaited, hascends.le, fun st hst => hst, fun st hst => Or.inl hst, rfl,
      _, _, rfl, .settled _, by rw [hnext]; rfl⟩

/-- The process of a stage was made, and its files were opened before. -/
structure Forked (t : Turn Workshop) (i pipe : Nat) (table : Descriptors) (own : Option Bytes)
    (file : Option File) (openings : List Call) (c c' : Crew) : Prop where
  /-- The crew works in the same surroundings. -/
  resembles : c.Resembles c'
  /-- No program has joined it. -/
  stations : c'.stations = c.stations
  /-- The file that the stage writes is empty. -/
  files : c'.files = emptied c.files file
  /-- The process is a copy of the shell. -/
  forked : c'.forked = some i
  /-- It has reported nothing. -/
  report : c'.report = some (pipe, [])
  /-- It was made with these descriptors. -/
  shell : c'.shell = table
  /-- The pipe of the report has the last number. -/
  fresh : c'.fresh = pipe + 1
  /-- The files of the stage are there for it. -/
  lays : c'.Lays task.setting task.start t.stage openings own file
  /-- If the stage has no file for its input, it can read what is handed on. -/
  awaited : t.stage.input = none → c'.awaited = c.awaited ∧ c'.feed = c.feed

variable {arguments : ArgumentVector} {io : StageIo} {report : PipeEnds}
  {equipped forking : ShellState (Recorded Workshop)} {own : Option Bytes} {file : Option File}
  {c' : Crew}

/-- The files of a stage are opened, and its process is made. -/
theorem Sound.fork (h : task.Sound) (ht : task.Belongs t row)
    (hready : t.Ready arguments io report equipped forking openings)
    (hopenings : Openings task.start t.stage openings none) {pid : Pid} {rest : List Call}
    (hascends : Ascends limit c.fresh (numbersGiven (openings ++
      (.makePipe equipped.fresh (.ok ()) :: .fork forking.descriptors (.ok pid) :: rest))))
    (hcalls : Replayed w (openings ++
      (.makePipe equipped.fresh (.ok ()) :: .fork forking.descriptors (.ok pid) :: rest)) w')
    (hc : task.Awaited t.index c) (hstaffed : Staffed task.setting w c) :
    ∃ w₁ i own file c', pid = pidOf i ∧
      task.setting.targets task.start (task.evaluated t.index).files t.stage = .ok (own, file) ∧
      Replayed w₁ rest w' ∧ Ascends limit (equipped.fresh + 1) (numbersGiven rest) ∧
      Staffed task.setting w₁ c' ∧
      task.Forked t i equipped.fresh forking.descriptors own file openings c c' := by
  obtain ⟨w₁, hopened, w₂, hpipe, w₃, hfork, hrest⟩ := hcalls.split
  obtain ⟨fresh, reserved, hascends, ⟨failure, heq, -⟩ |
    ⟨-, own, file, htargets, hstaffed, hlays⟩⟩ :=
    hstaffed.acquire hopenings hascends (h.unwritten hc.toOccupied ht.stage_eq)
      (h.unused hc.toOccupied ht.stage_eq) hopened
  · cases heq
  rw [hc.files] at htargets
  obtain ⟨hnumber, hascends⟩ := hascends
  obtain ⟨-, hstaffed⟩ := hstaffed.makeReport hnumber hpipe
  cases hinput : t.stage.input with
  | some path =>
    -- The stage has a file of its own, and the shell has closed the pipe in front of it.
    obtain ⟨i, hpid, hstaffed⟩ :=
      hstaffed.ignore.fork hc.forked (fun _ hnone => by cases hnone) hfork
    refine ⟨w₃, i, own, file, _, Except.ok.inj hpid, htargets, hrest, hascends, hstaffed,
      ⟨rfl, rfl, rfl, rfl, rfl⟩, rfl, rfl, rfl, rfl, rfl, rfl, ⟨hlays.source, hlays.goal⟩, ?_⟩
    intro hnone
    rw [hinput] at hnone
    cases hnone
  | none =>
    have hreader : ∀ pipe, c.awaited = some (.pipe pipe) →
        forking.descriptors.refersTo (fun other => decide (other = .readEnd pipe)) = true := by
      intro pipe hport
      rw [(hc.awaited ht.index_le).1, inlet, Option.some.injEq] at hport
      split at hport
      · cases hport
      · next hpos =>
        cases hport
        have hchosen := hready.chosenInput ht.placed (ht.length_eq ▸ ht.index_le)
          task.streams fun _ hasked => hasked
        rw [Turn.feed, if_pos (Nat.pos_of_ne_zero hpos)] at hchosen
        obtain ⟨fd, -, hfd⟩ := hchosen.of_piped hinput rfl
        rw [DescriptorTable.refersTo_iff]
        exact ⟨fd, _, hfd, decide_eq_true rfl⟩
    obtain ⟨i, hpid, hstaffed⟩ := hstaffed.fork hc.forked
      (fun pipe hport _ _ _ => hreader pipe hport) hfork
    exact ⟨w₃, i, own, file, _, Except.ok.inj hpid, htargets, hrest, hascends, hstaffed,
      ⟨rfl, rfl, rfl, rfl, rfl⟩, rfl, rfl, rfl, rfl, rfl, rfl, ⟨hlays.source, hlays.goal⟩,
      fun _ => ⟨rfl, rfl⟩⟩

/-- Nothing is told where the run ends. -/
theorem Occupied.quiet (hc : task.Occupied i c) (h : task.Sound) : ¬ c.noisy task.sink :=
  fun hnoisy => (h.aside task.sink ((hc.noisy task.sink).1 hnoisy)).2 rfl

/-- What the shell leaves to a program are no pipes. -/
theorem Sound.surviving (h : task.Sound) {fd : Fd} {slot : Slot Resource}
    (hslot : task.base.descriptors.surviving.get? fd = some slot) :
    ∃ number, slot.target = .file number := by
  rw [DescriptorTable.get?_surviving, Option.filter_eq_some_iff] at hslot
  exact h.pipeless fd slot hslot.1

/-- A program that is started for a stage can join the crew. -/
theorem Sound.accepts (h : task.Sound) (ht : task.Belongs t row)
    (hready : t.Ready arguments io report equipped forking openings)
    (hc : task.Awaited t.index c)
    (htargets : task.setting.targets task.start (task.evaluated t.index).files t.stage =
      .ok (own, file)) {j : Nat}
    (hforked : task.Forked t j equipped.fresh forking.descriptors own file openings c c')
    {wired : Descriptors}
    (hwired : Child.rewire forking.descriptors
      (t.child task.streams arguments io report).wires = some wired) (program : Program) :
    ∃ st : Station, st.job = j ∧ st.program = program ∧
      st.input = own.getD (task.evaluated t.index).feed ∧ st.outlet.file? = file ∧
      c'.Accepts wired.surviving st ∧ task.Mans t.index t.stage st := by
  have hkeeps : ∀ fd slot, task.base.descriptors.get? fd = some slot →
      forking.descriptors.get? fd = some slot := fun fd slot hslot =>
    (hready.exchanged ht.placed).keeps hslot
  have hopened : ∀ target, file = some target →
      task.setting.opened? task.start c.files t.stage = some target := by
    rintro target rfl
    rw [Setting.opened?, hc.files, htargets]
  have hfound := hready.get?_launched ht.placed h.standard hwired
  have hchosenIn := hready.chosenInput ht.placed (ht.length_eq ▸ ht.index_le) task.streams
    fun _ hasked => hasked
  have hchosenOut := hready.chosenOutput ht.placed task.streams fun _ hasked => hasked
  rw [ht.directory_eq] at hchosenIn hchosenOut
  rw [ht.length_eq] at hchosenOut
  obtain ⟨inlet, hsource, hoffers, hreads, hfed⟩ := h.offers htargets hforked.lays
    (fun hnone => by
      obtain ⟨hport, hfeed⟩ := hforked.awaited hnone
      rw [hport, hfeed]
      exact hc.awaited ht.index_le)
    (hforked.stations ▸ h.unwritten hc.toOccupied ht.stage_eq) hkeeps hchosenIn
  have hunused : ∀ target, file = some target → inlet.file? ≠ some target ∧
      ∀ st ∈ c'.stations, st.inlet.file? ≠ some target ∧ st.outlet.file? ≠ some target := by
    intro target hfile
    obtain ⟨hself, hothers⟩ := h.unused hc.toOccupied ht.stage_eq target (hopened target hfile)
    refine ⟨fun hread => ?_, hforked.stations ▸ hothers⟩
    obtain ⟨path, hinput, hfind⟩ := hreads target hread
    exact hself path hinput hfind
  have hother : inlet ≠ .pipe (task.base.fresh + t.index) := by
    intro heq
    have hplace := hfed (by rw [heq]; rfl)
    rw [heq, Task.inlet] at hplace
    split at hplace
    · cases hplace
    · have hnumber := Nat.add_left_cancel (Port.pipe.inj hplace)
      omega
  obtain ⟨outlet, hgoal, hadmits, hfile, hdrain⟩ := h.admits htargets hforked.lays
    (hforked.resembles.firstPipe.trans hc.firstPipe)
    (hforked.resembles.lastPipe.trans hc.lastPipe)
    (hforked.resembles.streams ▸ (hc.streams task.sink).2 (Or.inr (Or.inl rfl)))
    (hforked.resembles.noisy ▸ hc.toOccupied.quiet h) hunused
    (hforked.stations ▸ fun st hst => hc.toOccupied.outlet_ne ht.index_le hst)
    (hforked.stations ▸ fun st hst => hc.toOccupied.inlet_ne (Nat.le_succ _) hst) hother
    (fun hlt => hforked.shell ▸ hready.holdsReader ht.placed (ht.length_eq ▸ hlt)) hkeeps hchosenOut
  refine ⟨⟨j, program, own.getD (task.evaluated t.index).feed, inlet, outlet⟩, rfl, rfl, rfl, hfile,
    ⟨hforked.forked, ?_, ?_, fun pipe hpipe => ?_, hoffers, hadmits⟩, ⟨hreads, hfed, ?_, ?_⟩⟩
  · rw [hfound 0, if_pos rfl]
    exact hsource
  · rw [hfound 1, if_neg Nat.one_ne_zero, if_pos rfl]
    exact hgoal
  · obtain ⟨fd, slot, hslot, htarget⟩ := (DescriptorTable.refersTo_iff _ _).1 hpipe
    have htarget := of_decide_eq_true htarget
    rw [hfound fd] at hslot
    split at hslot
    · -- The end of a pipe to which is written is not where a program reads.
      next hzero =>
      rw [hslot, Option.map_some, htarget, Option.some.injEq] at hsource
      cases inlet <;> cases hsource
    · split at hslot
      · rw [hslot, Option.map_some, htarget, Option.some.injEq] at hgoal
        cases outlet <;> cases hgoal
        rfl
      · obtain ⟨number, hnumber⟩ := h.surviving hslot
        rw [htarget] at hnumber
        cases hnumber
  · intro target htarget
    have hopen := hopened target (hfile.symm.trans htarget)
    rwa [Setting.opened?, hc.files, evaluated, h.apart.targets_eq ht.stage_eq] at hopen
  · intro hnone
    exact hdrain (hfile.symm.trans hnone)

/-- The turn of a stage whose program is missing. -/
theorem Forked.failed {pipe : Nat} {table : Descriptors}
    (hforked : task.Forked t i pipe table own file openings c c') (ht : task.Belongs t row)
    (hpass : ArgumentVector.ofArguments t.stage.argv = .ok arguments)
    (hc : task.Awaited t.index c)
    (htargets : task.setting.targets task.start (task.evaluated t.index).files t.stage =
      .ok (own, file)) {errno : Errno}
    (hprogram : task.setting.programs (t.stage.argv.map utf8) = .error errno)
    (hfresh : c'.fresh ≤ limit) {listening : Descriptors}
    {reported : Option (Nat × Bytes)}
    (hstaffed : Staffed task.setting w { c' with
      forked := none, awaited := none, shell := listening, report := reported }) :
    ∃ c'', Staffed task.setting w c'' ∧ task.Concluded t limit
      (.ok (.execFailed (pidOf i) (t.stage.startFault errno.reported))) c c'' := by
  have hnext : task.evaluated (t.index + 1) =
      (task.evaluated t.index).skip (emptied (task.evaluated t.index).files file)
        (.finished (.startFailed (t.stage.startFault errno.reported))) := by
    rw [evaluated_succ ht.stage_eq, Evaluation.next, htargets]
    simp only [hpass, hprogram]
  obtain ⟨awaited, feed, hstaffed, hawaited⟩ := hc.pass hstaffed ht.index_le ht.stage_eq
    ⟨hforked.resembles.streams, hforked.resembles.noisy, hforked.resembles.firstPipe,
      hforked.resembles.lastPipe, hforked.resembles.printed⟩ hforked.stations rfl
    (by rw [hnext, ← hc.files]; exact hforked.files) (by rw [hnext]; rfl)
  exact ⟨_, hstaffed, hawaited, hfresh, fun st hst => hforked.stations ▸ hst,
    fun st hst => Or.inl (hforked.stations ▸ hst), hforked.resembles.printed, _, _, rfl,
    .failed _ _, by rw [hnext]; rfl⟩

/-- The turn of a stage whose program joins the crew. -/
theorem Forked.started {pipe : Nat} {table : Descriptors}
    (hforked : task.Forked t i pipe table own file openings c c') (ht : task.Belongs t row)
    (hpass : ArgumentVector.ofArguments t.stage.argv = .ok arguments)
    (hc : task.Awaited t.index c)
    (htargets : task.setting.targets task.start (task.evaluated t.index).files t.stage =
      .ok (own, file)) {st : Station} (hjob : st.job = i)
    (hprogram : task.setting.programs (t.stage.argv.map utf8) = .ok st.program)
    (hinput : st.input = own.getD (task.evaluated t.index).feed) (hfile : st.outlet.file? = file)
    (hmans : task.Mans t.index t.stage st) (hfresh : c'.fresh ≤ limit)
    {listening : Descriptors} {reported : Option (Nat × Bytes)}
    (hstaffed : Staffed task.setting w
      { c'.hire st with shell := listening, report := reported }) :
    ∃ c'', Staffed task.setting w c'' ∧
      task.Concluded t limit (.ok (.running (pidOf i))) c c'' := by
  have hnext : task.evaluated (t.index + 1) =
      (task.evaluated t.index).run st.program st.input file := by
    rw [evaluated_succ ht.stage_eq, Evaluation.next, htargets, hinput]
    simp only [hpass, hprogram]
  obtain ⟨awaited, feed, hstaffed, hawaited⟩ := hc.join hstaffed ht.index_le ht.stage_eq
    ⟨hforked.resembles.streams, hforked.resembles.noisy, hforked.resembles.firstPipe,
      hforked.resembles.lastPipe, hforked.resembles.printed⟩ (by rw [← hforked.stations]; rfl) rfl
    (by rw [← hforked.files]; rfl) rfl rfl hmans hfile hnext
  refine ⟨_, hstaffed, hawaited, hfresh, fun other hother => ?_, fun other hother => ?_,
    hforked.resembles.printed, _, .finished st.ending.status, rfl, ?_, ?_⟩
  · exact List.mem_append_left _ (hforked.stations ▸ hother)
  · rcases List.mem_append.1 hother with hold | hnew
    · exact Or.inl (hforked.stations ▸ hold)
    · cases List.mem_singleton.1 hnew
      exact Or.inr (by rw [hjob])
  · rw [← hjob]
    exact .running st (List.mem_append_right _ (List.mem_singleton_self st))
  · rw [hnext]
    cases file <;> rfl

/-- The turn of a stage whose process is made. -/
theorem Sound.turn_forked (h : task.Sound) (ht : task.Belongs t row)
    (hready : t.Ready arguments io report equipped forking openings)
    (hopenings : Openings task.start t.stage openings none) {pid : Pid} {failure : Option Errno}
    {heard : Except Errno Bytes} (hnotes : Noted task.base.descriptors t.before.log.stamp notes)
    (hcourse : (t.child task.streams arguments io report).Transcript pid forking.descriptors
      t.before.surroundings.directory failure course)
    (hheard : Heard (.readEnd equipped.fresh) (report.listening io forking.descriptors) reads heard)
    (hlater : Noted task.base.descriptors t.before.log.stamp later)
    (hascends : Ascends limit c.fresh (numbersGiven (openings ++
      (.makePipe equipped.fresh (.ok ()) :: .fork forking.descriptors (.ok pid) ::
        (notes ++ course ++ reads ++ later)))))
    (hcalls : Replayed w (openings ++ (.makePipe equipped.fresh (.ok ()) ::
      .fork forking.descriptors (.ok pid) :: (notes ++ course ++ reads ++ later))) w')
    (hc : task.Awaited t.index c) (hstaffed : Staffed task.setting w c) :
    ∃ c', Staffed task.setting w' c' ∧
      task.Concluded t limit (.ok (.heard t.stage.program pid (heardErrno heard))) c c' := by
  obtain ⟨w₁, i, own, file, c₁, rfl, htargets, hrest, hascends, hstaffed, hforked⟩ :=
    h.fork ht hready hopenings hascends hcalls hc hstaffed
  obtain ⟨w₄, hrest, hlast⟩ := hrest.split
  obtain ⟨w₃, hrest, hreads⟩ := hrest.split
  obtain ⟨w₂, hnoted, htried⟩ := hrest.split
  have hmade := makePipe_ok hready.makePipe_eq
  have hlt : 2 < report.writer := hready.two_lt ht.placed h.standard (by simp [PipeEnds.both])
  have hheld :
      c₁.shell.refersTo (fun other => decide (other = .readEnd equipped.fresh)) = true := by
    rw [hforked.shell, DescriptorTable.refersTo_iff]
    exact ⟨_, _, hmade.reader, decide_eq_true rfl⟩
  have hleads : c₁.Leads task.base.descriptors standardError :=
    hforked.resembles.leads (hc.toOccupied.leads h)
  have hkept : c₁.Leads forking.descriptors 2 := by
    obtain ⟨slot, number, hslot, hstream⟩ := hleads
    exact ⟨slot, number, (hready.exchanged ht.placed).keeps hslot, hstream⟩
  have hclosed : (report.listening io forking.descriptors).refersTo
      (fun other => decide (other = .writeEnd equipped.fresh)) = false :=
    Turn.refersTo_listening (hready.reserved ht.placed h.numbered)
  have htexts : arguments.texts = t.stage.argv.map utf8 :=
    ArgumentVector.texts_ofArguments hready.passable
  have hattempt := (hstaffed.noted hnotes hleads hnoted).attempt hforked.forked hforked.report
    hheld (hready.source_open ht.placed (ht.length_eq ▸ ht.index_le) h.standard.isOpen) hmade.writer
    (Nat.lt_of_succ_lt hlt) hkept hcourse htried
  rw [Turn.child, htexts] at hattempt
  have hfresh : c₁.fresh ≤ limit := hforked.fresh ▸ hascends.le
  rcases hattempt with ⟨errno, rfl, hprogram, hstaffed⟩ |
    ⟨program, wired, rfl, hprogram, hwired, hhire⟩
  · obtain ⟨rfl, hstaffed⟩ := hstaffed.ignore.heard rfl rfl hclosed
      (fun _ hnone => by cases hnone) hheard hreads
    have hfailure : heardErrno (.ok errno.toBytes) = some errno.reported := by
      have hread := errno.ofBytes?_reported []
      rwa [List.append_nil] at hread
    rw [hfailure]
    exact hforked.failed ht hready.passable hc htargets hprogram hfresh
      (hstaffed.noted hlater hleads hlast)
  · obtain ⟨st, hjob, rfl, hinput, hfile, haccepts, hmans⟩ :=
      h.accepts ht hready hc htargets hforked hwired program
    -- The next program is to read from the pipe behind the stage, if the stage writes to it.
    have hreader : ∀ pipe, (c₁.hire st).awaited = some (.pipe pipe) →
        (report.listening io forking.descriptors).refersTo
          (fun other => decide (other = .readEnd pipe)) = true := by
      intro pipe hnext
      obtain ⟨_, houtlet, ⟨⟩⟩ := eq_pipe_of_next? hnext
      have hplace := hmans.outlet (by rw [houtlet]; rfl)
      rw [houtlet, outlet] at hplace
      split at hplace
      · next hlt =>
        cases hplace
        exact hready.listensReader ht.placed (ht.length_eq ▸ hlt)
      · cases hplace
    obtain ⟨rfl, hstaffed⟩ := (hhire st hjob rfl haccepts).heard rfl hforked.report hclosed
      (fun pipe hnext _ _ _ => hreader pipe hnext) hheard hreads
    exact hforked.started ht hready.passable hc htargets hjob hprogram hinput hfile hmans hfresh
      (hstaffed.noted hlater hleads hlast)

/-- Every turn keeps the crew in step with the evaluation. -/
theorem Sound.turn (h : task.Sound) (ht : task.Belongs t row) {calls : List Call}
    {result : Except ShellError StageState}
    (htranscript : t.Transcript task.streams task.base.descriptors result calls)
    (hascends : Ascends limit c.fresh (numbersGiven calls)) (hcalls : Replayed w calls w')
    (hc : task.Awaited t.index c) (hstaffed : Staffed task.setting w c) :
    ∃ c', Staffed task.setting w' c' ∧ task.Concluded t limit result c c' := by
  cases htranscript with
  | unopened path fault openings notes hopenings hnotes =>
    exact h.turn_unopened ht (ht.directory_eq ▸ hopenings) hnotes hascends hcalls hc hstaffed
  | unpassable reason openings hopenings hpass =>
    exact h.turn_unpassable ht (ht.directory_eq ▸ hopenings) hpass hascends hcalls hc hstaffed
  | unheard pipe errno openings hopenings hpipe =>
    obtain ⟨w₁, -, w₂, hmade, -⟩ := hcalls.split
    cases hmade
  | unborn pipe table errno openings notes hopenings hpipe hnotes =>
    obtain ⟨w₁, -, w₂, -, w₃, hfork, -⟩ := hcalls.split
    cases hfork
  | forked arguments io report equipped forking openings notes course reads later pid failure heard
      hready hopenings hnotes hreached hcourse hheard hlater =>
    exact h.turn_forked ht hready (ht.directory_eq ▸ hopenings) hnotes hcourse hheard hlater
      hascends hcalls hc hstaffed

end

end Task

end Workshop

end CommandShell
