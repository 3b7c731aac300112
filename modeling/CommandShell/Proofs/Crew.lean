import CommandShell.Proofs.TableLaws
import CommandShell.Proofs.Workshop

/-!
# The crew of a workshop

The processes that run the programs of a pipeline, each with all that it will have read in the end
and with the two places between which it stands. In whatever order they take their steps, what a
process has read is a beginning of its input, what it has written is a beginning of its output, and
what is in between is in the pipes and files. Main statement: whatever the processes do, the
surroundings, the number of the processes and the pipes stay the same (`steady_elapse`).
-/

namespace CommandShell

namespace Workshop

/-- A place that a program reads from or writes to. -/
inductive Port where
  /-- A stream that was there from the start. -/
  | stream (number : Nat)
  /-- A file that was opened, with its number. -/
  | file (number : Nat) (file : File)
  /-- A pipe between two stages. -/
  | pipe (number : Nat)
  deriving DecidableEq, Repr

namespace Port

/-- What a program refers to that reads from a place. -/
def source : Port → Resource
  | stream number => .file number
  | file number _ => .file number
  | pipe number => .readEnd number

/-- What a program refers to that writes to a place. -/
def goal : Port → Resource
  | stream number => .file number
  | file number _ => .file number
  | pipe number => .writeEnd number

/-- The file at a place, if there is one. -/
def file? : Port → Option File
  | file _ target => some target
  | _ => none

/-- The number by which a place is known. -/
def number : Port → Nat
  | stream number => number
  | file number _ => number
  | pipe number => number

end Port

/-- A process that runs the program of a stage. -/
structure Station where
  /-- The position of the process. -/
  job : Nat
  /-- Its program. -/
  program : Program
  /-- All that the program can read. -/
  input : Bytes
  /-- Where it reads. -/
  inlet : Port
  /-- Where it writes. -/
  outlet : Port

namespace Station

/-- All that the program writes. -/
def output (st : Station) : Bytes := st.program.output st.input

/-- How the process ends. -/
def ending (st : Station) : Ending := st.program.ending st.input

/-- What a process may be doing, given what its program has read and written. -/
inductive Stands (st : Station) (consumed written : Bytes) : Phase → Prop
  /-- The program still reads. -/
  | reading : Stands st consumed written (.running st.program true)
  /-- The program has read enough. -/
  | closing (houtput : st.program.output consumed = st.output)
      (hending : st.program.ending consumed = st.ending) :
      Stands st consumed written (.running st.program false)
  /-- The program has written everything. -/
  | ended (h : written = st.output) : Stands st consumed written (.ended st.ending)

/-- A process is the one of a station. -/
structure Fits (st : Station) (job : Job) : Prop where
  /-- It reads where it should. -/
  inlet : job.stream 0 = some st.inlet.source
  /-- It writes where it should. -/
  outlet : job.stream 1 = some st.outlet.goal
  /-- It has no other pipe to write to. -/
  writes : ∀ pipe, job.holds (.writeEnd pipe) = true → st.outlet = .pipe pipe
  /-- What was read is a part of what can be read. -/
  consumed : job.consumed <+: st.input
  /-- What was written is a part of what will be written. -/
  written : job.written <+: st.output
  /-- The process does what is left to be done. -/
  stands : st.Stands job.consumed job.written job.phase

end Station

/-- The processes of a pipeline, and what they leave behind when they have ended. -/
structure Crew where
  /-- The processes that run programs. -/
  stations : List Station
  /-- The position of a process that is still a copy of the shell, if there is one. -/
  forked : Option Nat
  /-- Where the next program can read, if this is known. -/
  awaited : Option Port
  /-- All that the next program can read there. -/
  feed : Bytes
  /-- The contents of the files in the end. -/
  files : File → Option Bytes
  /-- What the streams had been given before. -/
  printed : Nat → Bytes
  /-- The numbers that stand for streams. -/
  streams : Nat → Prop
  /-- The streams on which the shell and its copies tell of something. -/
  noisy : Nat → Prop
  /-- Files that were opened for the next program, with their numbers. -/
  reserved : List (Nat × File)
  /-- The pipe on which a process reports to the shell, and what was written to it and not yet
  read. -/
  report : Option (Nat × Bytes)
  /-- The descriptors of the shell, as far as it has told of them. -/
  shell : Descriptors
  /-- The number of the first pipe between stages. -/
  firstPipe : Nat
  /-- A number that is greater than those of the pipes between stages. -/
  lastPipe : Nat
  /-- A number that nothing has had so far. -/
  fresh : Nat

/-- The places of a crew go together. -/
structure Crew.Arranged (c : Crew) : Prop where
  /-- No process has two stations. -/
  job_inj : ∀ a ∈ c.stations, ∀ b ∈ c.stations, a.job = b.job → a = b
  /-- No two of them read the same. -/
  inlet_inj : ∀ a ∈ c.stations, ∀ b ∈ c.stations, a.inlet.source = b.inlet.source → a = b
  /-- No two of them write to the same place. -/
  outlet_inj : ∀ a ∈ c.stations, ∀ b ∈ c.stations, a.outlet.goal = b.outlet.goal → a = b
  /-- No file that is written is read. -/
  unread : ∀ a ∈ c.stations, ∀ b ∈ c.stations, ∀ file, a.outlet.file? = some file →
    b.inlet.file? ≠ some file
  /-- No file is written by two of them. -/
  unwritten : ∀ a ∈ c.stations, ∀ b ∈ c.stations, ∀ file, a.outlet.file? = some file →
    b.outlet.file? = some file → a = b
  /-- What is read from a pipe is what is written to it, by an older process. -/
  fed : ∀ a ∈ c.stations, ∀ b ∈ c.stations, ∀ pipe, a.outlet = .pipe pipe →
    b.inlet = .pipe pipe → b.input = a.output ∧ a.job < b.job
  /-- Nothing is read from a pipe that nobody writes to. -/
  unfed : ∀ b ∈ c.stations, ∀ pipe, b.inlet = .pipe pipe →
    (∀ a ∈ c.stations, a.outlet ≠ .pipe pipe) → b.input = []
  /-- Nobody reads where the next program is to read. -/
  awaited : ∀ port, c.awaited = some port → ∀ st ∈ c.stations, st.inlet.source ≠ port.source
  /-- What is to be read from a pipe is what is written to it. -/
  feed : ∀ pipe, c.awaited = some (.pipe pipe) →
    (∀ a ∈ c.stations, a.outlet = .pipe pipe → c.feed = a.output) ∧
      ((∀ a ∈ c.stations, a.outlet ≠ .pipe pipe) → c.feed = [])
  /-- A copy of the shell is younger than the processes that run programs. -/
  forked : ∀ i, c.forked = some i → ∀ st ∈ c.stations, st.job < i
  /-- Of a file that is written the output is left. -/
  filed : ∀ st ∈ c.stations, ∀ file, st.outlet.file? = some file →
    c.files file = some st.output
  /-- All places got their numbers before. -/
  numbered : ∀ st ∈ c.stations, st.inlet.number < c.fresh ∧ st.outlet.number < c.fresh
  /-- So did the place where the next program is to read. -/
  numbered_awaited : ∀ port, c.awaited = some port → port.number < c.fresh
  /-- The pipes are those between stages. -/
  pipes : ∀ st ∈ c.stations, ∀ pipe, st.inlet = .pipe pipe ∨ st.outlet = .pipe pipe →
    c.firstPipe ≤ pipe ∧ pipe < c.lastPipe
  /-- So is the one from which the next program is to read. -/
  pipes_awaited : ∀ pipe, c.awaited = some (.pipe pipe) →
    c.firstPipe ≤ pipe ∧ pipe < c.lastPipe
  /-- All pipes between stages were made before. -/
  lastPipe_le : c.lastPipe ≤ c.fresh
  /-- The streams were there before. -/
  streams : ∀ number, c.streams number → number < c.fresh
  /-- No program writes where something is told. -/
  unmixed : ∀ st ∈ c.stations, ∀ number, st.outlet = .stream number → ¬ c.noisy number
  /-- What was opened for the next program is used by no other one. -/
  reserved : ∀ entry ∈ c.reserved, entry.1 < c.fresh ∧
    ∀ st ∈ c.stations, st.inlet.source ≠ .file entry.1 ∧ st.outlet.goal ≠ .file entry.1
  /-- The pipe of a report is not one between stages. -/
  report : ∀ pipe bytes, c.report = some (pipe, bytes) → c.lastPipe ≤ pipe ∧ pipe < c.fresh

/-! ## Steps of a workshop -/

section

variable (w : Workshop)

/-- The process at a position. -/
def jobAt (i : Nat) : Job := w.jobs[i]?.getD ⟨.empty, [], [], .forked⟩

variable {w} {i : Nat} {job : Job}

theorem jobs_eq_jobAt (h : i < w.jobs.length) : w.jobs[i]? = some (w.jobAt i) := by
  rw [jobAt, List.getElem?_eq_getElem h]
  rfl

theorem exists_jobAt (h : job ∈ w.jobs) : ∃ i < w.jobs.length, w.jobAt i = job := by
  obtain ⟨i, hi⟩ := List.getElem?_of_mem h
  obtain ⟨hlt, -⟩ := List.getElem?_eq_some_iff.1 hi
  rw [jobs_eq_jobAt hlt, Option.some.injEq] at hi
  exact ⟨i, hlt, hi⟩

theorem jobAt_setJob_self (h : i < w.jobs.length) : (w.setJob i job).jobAt i = job := by
  simp [jobAt, setJob, h]

/-- What a workshop keeps whatever its processes do. -/
structure Steady (w w' : Workshop) : Prop where
  /-- The surroundings are the same. -/
  setting : w'.setting = w.setting
  /-- The shell has the same descriptors. -/
  shell : w'.shell = w.shell
  /-- No pipe is made. -/
  pipeLimit : w'.pipeLimit = w.pipeLimit
  /-- No process is made. -/
  length : w'.jobs.length = w.jobs.length

theorem Steady.refl (w : Workshop) : Steady w w := ⟨rfl, rfl, rfl, rfl⟩

theorem Steady.trans {w₁ w₂ : Workshop} (h : Steady w w₁) (h' : Steady w₁ w₂) : Steady w w₂ :=
  ⟨h'.setting.trans h.setting, h'.shell.trans h.shell, h'.pipeLimit.trans h.pipeLimit,
    h'.length.trans h.length⟩

theorem steady_setJob (w : Workshop) (i : Nat) (job : Job) : Steady w (w.setJob i job) :=
  ⟨rfl, rfl, rfl, List.length_set⟩

theorem jobs_advance (w : Workshop) (source : Resource) (count : Nat) :
    (w.advance source count).jobs = w.jobs := by
  cases source with
  | file number =>
    rw [advance]
    cases w.descriptions number <;> rfl
  | _ => rfl

theorem jobs_put (w : Workshop) (goal : Resource) (bytes : Bytes) :
    (w.put goal bytes).jobs = w.jobs := by
  cases goal with
  | readEnd pipe => rfl
  | writeEnd pipe =>
    rw [put]
    split <;> rfl
  | file number =>
    rw [put]
    cases w.descriptions number <;> rfl

theorem steady_advance (w : Workshop) (source : Resource) (count : Nat) :
    Steady w (w.advance source count) := by
  refine ⟨?_, ?_, ?_, by rw [jobs_advance]⟩
  all_goals
    cases source with
    | file number =>
      rw [advance]
      cases w.descriptions number <;> rfl
    | _ => rfl

theorem steady_put (w : Workshop) (goal : Resource) (bytes : Bytes) :
    Steady w (w.put goal bytes) := by
  refine ⟨?_, ?_, ?_, by rw [jobs_put]⟩
  all_goals
    cases goal with
    | readEnd pipe => rfl
    | writeEnd pipe =>
      rw [put]
      split <;> rfl
    | file number =>
      rw [put]
      cases w.descriptions number <;> rfl

theorem steady_read (w : Workshop) (i : Nat) (job : Job) (limit : Option Nat) :
    Steady w (w.read i job limit) := by
  rw [read]
  split
  · exact .refl w
  · exact (steady_advance w _ _).trans (steady_setJob _ _ _)

theorem steady_write (w : Workshop) (i : Nat) (job : Job) (bytes : Bytes) :
    Steady w (w.write i job bytes) := by
  rw [write]
  split
  · exact steady_setJob w _ _
  · exact (steady_put w _ _).trans (steady_setJob _ _ _)

theorem steady_act (w : Workshop) (i : Nat) (job : Job) (program : Program) (reading : Bool)
    (deed : Deed) : Steady w (w.act i job program reading deed) := by
  cases deed with
  | read limit =>
    rw [act]
    split
    · exact steady_read w i job limit
    · exact .refl w
  | stop =>
    rw [act]
    split
    · exact steady_setJob w _ _
    · exact .refl w
  | write limit => exact steady_write w i job _
  | finish =>
    rw [act]
    split
    · exact steady_setJob w _ _
    · exact .refl w

theorem steady_perform (w : Workshop) (choice : Choice) : Steady w (w.perform choice) := by
  rw [perform]
  split
  · exact .refl w
  · split
    · exact steady_act w _ _ _ _ _
    · exact .refl w

theorem steady_foldl_perform (choices : List Choice) (w : Workshop) :
    Steady w (choices.foldl perform w) := by
  induction choices generalizing w with
  | nil => exact .refl w
  | cons choice rest ih => exact (steady_perform w choice).trans (ih _)

theorem steady_elapse (w : Workshop) : Steady w w.elapse := by
  rw [elapse]
  split
  · exact .refl w
  · next now later _ =>
    have hfold := steady_foldl_perform now { w with schedule := later }
    exact ⟨hfold.setting, hfold.shell, hfold.pipeLimit, hfold.length⟩

end

end Workshop

end CommandShell
