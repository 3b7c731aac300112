import CommandShell.Proofs.Recording

/-!
# A shell on a system that is seen

A shell on a system that passes every request on to another system does what it would do on the
other one: every answer is the same, and so is all that is left behind. Neither does it matter which
home directory is set, as long as no builtin is asked. A record of the requests changes nothing
therefore, and what is shown of the records is shown of the runs on any system. Main statements: a
pipeline comes out as it does on the system that is seen (`mirrors_execute`), and what stays the
same when a state is seen is left alone (`Mirrors.fixed`).
-/

namespace CommandShell

open Shell

variable {σ τ ρ α β : Type}

/-- An action does to states what another action does to what is seen of them. -/
def Mirrors (view : τ → ρ) (x : StateM τ α) (y : StateM ρ α) : Prop :=
  ∀ s, y (view s) = ((x s).1, view (x s).2)

namespace Mirrors

variable {view : τ → ρ}

theorem pure (a : α) : Mirrors view (pure a) (pure a) := fun _ => rfl

/-- Actions in a row are mirrored one after the other. -/
theorem bind {x : StateM τ α} {y : StateM ρ α} {f : α → StateM τ β} {g : α → StateM ρ β}
    (hx : Mirrors view x y) (hf : ∀ a, Mirrors view (f a) (g a)) :
    Mirrors view (x >>= f) (y >>= g) := by
  intro s
  have hrun : (y >>= g) (view s) = g (y (view s)).1 (y (view s)).2 := rfl
  rw [hrun, hx s]
  exact hf (x s).1 (x s).2

/-- An action may depend on a state, as far as what is seen of it decides what is done. -/
theorem get_bind {f : τ → StateM τ β} {g : ρ → StateM ρ β}
    (hf : ∀ s, Mirrors view (f s) (g (view s))) : Mirrors view (get >>= f) (get >>= g) :=
  fun s => hf s s

/-- If an action does the same to a state as it is seen, a state that is seen as it is stays one. -/
theorem fixed {view : τ → τ} {x : StateM τ α} (h : Mirrors view x x) {s : τ} (hs : view s = s) :
    view (x s).2 = (x s).2 := by
  have hrun := h s
  rw [hs] at hrun
  exact (congrArg Prod.snd hrun).symm

end Mirrors

/-- A system passes requests on to another system, whose state is seen in its own. Only builtins ask
about directories, so that these requests are not among them. -/
structure PassesOn [Kernel τ] [Kernel ρ] (host : τ → ρ) : Prop where
  makePipe : ∀ pipe, Mirrors host (Kernel.makePipe pipe) (Kernel.makePipe pipe)
  openToRead : ∀ start path number,
    Mirrors host (Kernel.openToRead start path number) (Kernel.openToRead start path number)
  openToWrite : ∀ start path number,
    Mirrors host (Kernel.openToWrite start path number) (Kernel.openToWrite start path number)
  fork : ∀ table, Mirrors host (Kernel.fork table) (Kernel.fork table)
  permitDuplicate : ∀ pid source goal,
    Mirrors host (Kernel.permitDuplicate pid source goal) (Kernel.permitDuplicate pid source goal)
  exec : ∀ pid launch, Mirrors host (Kernel.exec pid launch) (Kernel.exec pid launch)
  exit : ∀ pid code, Mirrors host (Kernel.exit pid code) (Kernel.exit pid code)
  write : ∀ goal bytes, Mirrors host (Kernel.write goal bytes) (Kernel.write goal bytes)
  read : ∀ source limit table,
    Mirrors host (Kernel.read source limit table) (Kernel.read source limit table)
  wait : ∀ pid table, Mirrors host (Kernel.wait pid table) (Kernel.wait pid table)

/-- What is seen of a shell on a system, and with the home directory that is seen. -/
def ShellState.seen (host : τ → ρ) (home : Option String → Option String) (s : ShellState τ) :
    ShellState ρ where
  descriptors := s.descriptors
  fresh := s.fresh
  surroundings := ⟨s.surroundings.directory, home s.surroundings.home, host s.surroundings.host⟩
  lastStatus := s.lastStatus
  log := s.log
  downfall := s.downfall

/-- The same shell on a system with a record in which nothing stands so far. -/
def ShellState.recorded (s : ShellState σ) : ShellState (Recorded σ) where
  descriptors := s.descriptors
  fresh := s.fresh
  surroundings := ⟨s.surroundings.directory, s.surroundings.home, ⟨s.surroundings.host, []⟩⟩
  lastStatus := s.lastStatus
  log := s.log
  downfall := s.downfall

/-- A system passes requests on to itself. -/
theorem PassesOn.refl [Kernel σ] : PassesOn (id : σ → σ) where
  makePipe _ _ := rfl
  openToRead _ _ _ _ := rfl
  openToWrite _ _ _ _ := rfl
  fork _ _ := rfl
  permitDuplicate _ _ _ _ := rfl
  exec _ _ _ := rfl
  exit _ _ _ := rfl
  write _ _ _ := rfl
  read _ _ _ _ := rfl
  wait _ _ _ := rfl

section

variable {host : τ → ρ} {home : Option String → Option String}

/-! ## Requests -/

theorem Mirrors.ask {x : StateM τ α} {y : StateM ρ α} (h : Mirrors host x y) :
    Mirrors (ShellState.seen host home) (ask x) (ask y) := by
  intro s
  have hs := h s.surroundings.host
  rw [Shell.ask, within, Action.ask]
  simp only [ShellState.seen, hs]
  rfl

namespace Shell

theorem mirrors_closeOption (fd : Option Fd) :
    Mirrors (ShellState.seen host home) (closeOption fd : Shell τ _) (closeOption fd) := by
  cases fd with
  | none => exact Mirrors.pure ()
  | some fd => exact fun _ => rfl

variable [Kernel τ] [Kernel ρ] (hp : PassesOn host)
include hp

theorem mirrors_write (fd : Fd) (bytes : Bytes) :
    Mirrors (ShellState.seen host home) (write fd bytes : Shell τ _) (write fd bytes) := by
  refine Mirrors.get_bind fun s => ?_
  have hseen : (s.seen host home).descriptors = s.descriptors := rfl
  rw [hseen]
  cases s.descriptors.get? fd with
  | none => exact Mirrors.pure _
  | some slot => exact (hp.write _ _).ask

theorem mirrors_print (fd : Fd) (text : String) :
    Mirrors (ShellState.seen host home) (print fd text : Shell τ _) (print fd text) :=
  (mirrors_write hp _ _).bind fun _ _ => rfl

theorem mirrors_note (event : Event) :
    Mirrors (ShellState.seen host home) (note event : Shell τ _) (note event) := by
  refine Mirrors.get_bind fun s => ?_
  have hseen : (s.seen host home).log = s.log := rfl
  rw [hseen]
  by_cases h : s.log.admits event.record = true
  · simp only [h, if_true]
    exact (mirrors_write hp _ _).bind fun _ => Mirrors.pure ()
  · simp only [h]
    exact Mirrors.pure ()

omit [Kernel τ] [Kernel ρ] hp in
/-- A file is opened as it is on the system that is seen. -/
theorem mirrors_openFile
    {request : Directory → String → Nat → StateM τ (Except Errno Unit)}
    {request' : Directory → String → Nat → StateM ρ (Except Errno Unit)}
    (h : ∀ start path number,
      Mirrors host (request start path number) (request' start path number))
    (path : String) :
    Mirrors (ShellState.seen host home) (openFile request path) (openFile request' path) := by
  rw [openFile, openFile]
  split
  · exact Mirrors.pure _
  · have hnumber : Mirrors (ShellState.seen host home) (freshNumber : Shell τ _)
        freshNumber := fun _ => rfl
    refine hnumber.bind fun number => Mirrors.get_bind fun s => ?_
    refine (h s.surroundings.directory path number).ask.bind fun answer => ?_
    cases answer with
    | error errno => exact Mirrors.pure _
    | ok => exact Mirrors.bind (fun _ => rfl) fun fd => Mirrors.pure _

/-- A pipe is made as it is on the system that is seen. -/
theorem mirrors_makePipe :
    Mirrors (ShellState.seen host home) (makePipe : Shell τ _) makePipe := by
  refine Mirrors.bind (fun _ => rfl) fun number => (hp.makePipe _).ask.bind fun answer => ?_
  cases answer with
  | error errno => exact Mirrors.pure _
  | ok =>
    exact Mirrors.bind (fun _ => rfl) fun reader =>
      Mirrors.bind (fun _ => rfl) fun writer => Mirrors.pure _

end Shell

section

variable [Kernel τ] [Kernel ρ] (hp : PassesOn host)
include hp

/-! ## Processes of stages -/

namespace Child

theorem mirrors_redirectOne (pid : Pid) (source : Option Fd) (goal : Fd) (table : Descriptors) :
    Mirrors host (redirectOne pid source goal table : StateM τ _)
      (redirectOne pid source goal table) := by
  cases source with
  | none => exact Mirrors.pure _
  | some fd =>
    refine (hp.permitDuplicate _ _ _).bind fun answer => ?_
    cases answer with
    | error errno => exact Mirrors.pure _
    | ok => cases h : table.duplicate fd goal <;> simpa only [h] using Mirrors.pure _

theorem mirrors_redirect (pid : Pid) (input output : Option Fd) (table : Descriptors) :
    Mirrors host (redirect pid input output table : StateM τ _)
      (redirect pid input output table) := by
  refine (mirrors_redirectOne hp pid input 0 table).bind fun answer => ?_
  cases answer with
  | error errno => exact Mirrors.pure _
  | ok fed =>
    refine (mirrors_redirectOne hp pid output 1 fed).bind fun answer => ?_
    cases answer <;> exact Mirrors.pure _

theorem mirrors_tell (table : Descriptors) (fd : Fd) (bytes : Bytes) :
    Mirrors host (tell table fd bytes : StateM τ _) (tell table fd bytes) := by
  rw [tell, tell]
  cases table.get? fd with
  | none => exact Mirrors.pure ()
  | some slot => exact (hp.write _ _).bind fun _ => Mirrors.pure ()

theorem mirrors_abandon (child : Child) (pid : Pid) (table : Descriptors) (errno : Errno) :
    Mirrors host (child.abandon pid table errno : StateM τ _)
      (child.abandon pid table errno) :=
  (mirrors_tell hp _ _ _).bind fun _ => (mirrors_tell hp _ _ _).bind fun _ =>
    (mirrors_tell hp _ _ _).bind fun _ => (mirrors_tell hp _ _ _).bind fun _ => hp.exit _ _

/-- The process of a stage does what it does on the system that is seen. -/
theorem mirrors_run (child : Child) (pid : Pid) (table : Descriptors) (directory : Directory) :
    Mirrors host (child.run pid table directory : StateM τ _)
      (child.run pid table directory) := by
  refine (mirrors_redirect hp pid child.input child.output table).bind fun answer => ?_
  obtain ⟨failure, table'⟩ := answer
  cases failure with
  | some errno => exact mirrors_abandon hp child pid table' errno
  | none =>
    refine (hp.exec _ _).bind fun answer => ?_
    cases answer with
    | ok => exact Mirrors.pure ()
    | error errno => exact mirrors_abandon hp child pid table' errno

end Child

/-! ## Stages -/

namespace StageIo

omit [Kernel τ] [Kernel ρ] hp in
theorem mirrors_close (io : StageIo) :
    Mirrors (ShellState.seen host home) (io.close : Shell τ _) io.close :=
  (mirrors_closeOption _).bind fun _ => mirrors_closeOption _

omit [Kernel τ] [Kernel ρ] hp in
theorem mirrors_prefer (redirected piped : Option Fd) :
    Mirrors (ShellState.seen host home) (prefer redirected piped : Shell τ _)
      (prefer redirected piped) := by
  cases redirected with
  | none => exact Mirrors.pure _
  | some fd => exact (mirrors_closeOption _).bind fun _ => Mirrors.pure _

omit [Kernel τ] [Kernel ρ] hp in
theorem mirrors_openTarget {open? : String → Shell τ (Except ShellError Fd)}
    {open?' : String → Shell ρ (Except ShellError Fd)}
    (h : ∀ path, Mirrors (ShellState.seen host home) (open? path) (open?' path))
    (redirection : Option String) :
    Mirrors (ShellState.seen host home) (openTarget open? redirection)
      (openTarget open?' redirection) := by
  cases redirection with
  | none => exact Mirrors.pure _
  | some path =>
    refine (h path).bind fun answer => ?_
    cases answer <;> exact Mirrors.pure _

/-- The descriptors of a stage are found as they are on the system that is seen. -/
theorem mirrors_acquire (stage : Stage) (pipedIn pipedOut : Option Fd) :
    Mirrors (ShellState.seen host home) (acquire stage pipedIn pipedOut : Shell τ _)
      (acquire stage pipedIn pipedOut) := by
  have hinput : ∀ path, Mirrors (ShellState.seen host home) (openInput path : Shell τ _)
      (openInput path) := mirrors_openFile hp.openToRead
  have houtput : ∀ path, Mirrors (ShellState.seen host home) (openOutput path : Shell τ _)
      (openOutput path) := mirrors_openFile hp.openToWrite
  refine (mirrors_openTarget hinput stage.input).bind fun answer => ?_
  cases answer with
  | error error => exact (mirrors_close _).bind fun _ => Mirrors.pure _
  | ok input =>
    refine (mirrors_openTarget houtput stage.output).bind fun answer => ?_
    cases answer with
    | error error =>
      exact (mirrors_closeOption _).bind fun _ => (mirrors_close _).bind fun _ => Mirrors.pure _
    | ok output =>
      exact (mirrors_prefer _ _).bind fun _ => (mirrors_prefer _ _).bind fun _ => Mirrors.pure _

end StageIo

omit [Kernel τ] [Kernel ρ] hp in
/-- The first answer decides how reading goes on. -/
theorem readToEnd_eq [Kernel σ] (source : Resource) (before : Bytes) (table : Descriptors)
    (host : σ) :
    readToEnd source before table host =
      match (Kernel.read source readSize table host).1 with
      | .ok [] => (.ok before, (Kernel.read source readSize table host).2)
      | .ok (b :: bytes) =>
        readToEnd source (before ++ b :: bytes) table (Kernel.read source readSize table host).2
      | .error errno =>
        if errno = .interrupted then
          readToEnd source before table (Kernel.read source readSize table host).2
        else (.error errno, (Kernel.read source readSize table host).2) := by
  rw [readToEnd]
  split <;> simp only [*, dite_eq_ite]

theorem mirrors_readToEnd (source : Resource) (before : Bytes) (table : Descriptors) :
    Mirrors host (readToEnd source before table : StateM τ _)
      (readToEnd source before table) := by
  intro r
  fun_induction readToEnd source before table r with
  | case1 before r answer h =>
    have hanswer : (Kernel.read source readSize table r).1 = .ok [] := h
    rw [readToEnd_eq, hp.read, hanswer]
  | case2 before r answer b bytes h hless ih =>
    have hanswer : (Kernel.read source readSize table r).1 = .ok (b :: bytes) := h
    rw [readToEnd_eq, hp.read, hanswer]
    exact ih
  | case3 before r answer h hless ih =>
    have hanswer : (Kernel.read source readSize table r).1 = .error .interrupted := h
    rw [readToEnd_eq, hp.read, hanswer]
    exact ih
  | case4 before r answer errno h hi =>
    have hanswer : (Kernel.read source readSize table r).1 = .error errno := h
    rw [readToEnd_eq, hp.read, hanswer]
    exact if_neg hi

theorem mirrors_readReport (reader : Fd) :
    Mirrors (ShellState.seen host home) (readReport reader : Shell τ _)
      (readReport reader) := by
  refine Mirrors.get_bind fun s => ?_
  have hseen : (s.seen host home).descriptors = s.descriptors := rfl
  rw [hseen]
  cases s.descriptors.get? reader with
  | none => exact Mirrors.pure none
  | some slot =>
    refine (mirrors_readToEnd hp slot.target [] s.descriptors).ask.bind fun answer => ?_
    cases answer <;> exact Mirrors.pure _

/-- A process is made as it is on the system that is seen, and the same is learned of it. -/
theorem mirrors_launchStage (streams : Streams) (index : Nat) (stage : Stage)
    (arguments : ArgumentVector) (io : StageIo) (report : PipeEnds) :
    Mirrors (ShellState.seen host home)
      (launchStage streams index stage arguments io report : Shell τ _)
      (launchStage streams index stage arguments io report) := by
  refine Mirrors.get_bind fun s => (hp.fork _).ask.bind fun answer => ?_
  cases answer with
  | error errno =>
    exact (mirrors_note hp _).bind fun _ => Mirrors.bind (fun _ => rfl) fun _ =>
      io.mirrors_close.bind fun _ => Mirrors.pure _
  | ok pid =>
    refine Mirrors.get_bind fun s => ?_
    refine Mirrors.bind (fun _ => rfl) fun _ => io.mirrors_close.bind fun _ => ?_
    refine (mirrors_note hp _).bind fun _ => ?_
    refine (Child.mirrors_run hp _ pid s.descriptors s.surroundings.directory).ask.bind fun _ => ?_
    refine (mirrors_readReport hp report.reader).bind fun failure =>
      Mirrors.bind (fun _ => rfl) fun _ => ?_
    cases failure with
    | none => exact Mirrors.pure _
    | some errno => exact (mirrors_note hp _).bind fun _ => Mirrors.pure _

/-- A stage is started as it is on the system that is seen. -/
theorem mirrors_startStage (streams : Streams) (index : Nat) (stage : Stage)
    (pipedIn pipedOut : Option Fd) :
    Mirrors (ShellState.seen host home)
      (startStage streams index stage pipedIn pipedOut : Shell τ _)
      (startStage streams index stage pipedIn pipedOut) := by
  refine (StageIo.mirrors_acquire hp stage pipedIn pipedOut).bind fun answer => ?_
  cases answer with
  | error error => exact (mirrors_note hp _).bind fun _ => Mirrors.pure _
  | ok io =>
    simp only [spawnStage]
    cases ArgumentVector.ofArguments stage.argv with
    | error reason => exact io.mirrors_close.bind fun _ => Mirrors.pure _
    | ok arguments =>
      refine (mirrors_makePipe hp).bind fun answer => ?_
      cases answer with
      | error errno => exact io.mirrors_close.bind fun _ => Mirrors.pure _
      | ok report => exact mirrors_launchStage hp streams index stage arguments io report

/-! ## Pipelines -/

theorem PipeSet.mirrors_allocate (made : PipeSet) (count : Nat) :
    Mirrors (ShellState.seen host home) (made.allocate count : Shell τ _)
      (made.allocate count) := by
  induction count generalizing made with
  | zero => exact Mirrors.pure _
  | succ count ih =>
    refine (mirrors_makePipe hp).bind fun answer => ?_
    cases answer with
    | error errno => exact Mirrors.bind (fun _ => rfl) fun _ => Mirrors.pure _
    | ok ends => exact ih (made.push ends)

theorem mirrors_spawnAll (streams : Streams) (last index : Nat) (pipes : PipeSet)
    (stages : List Stage) :
    Mirrors (ShellState.seen host home)
      (spawnAll streams last index pipes stages : Shell τ _)
      (spawnAll streams last index pipes stages) := by
  induction stages generalizing index pipes with
  | nil => exact Mirrors.pure _
  | cons stage rest ih =>
    refine (mirrors_startStage hp streams index stage _ _).bind fun answer => ?_
    cases answer with
    | error error => exact Mirrors.pure _
    | ok state => exact (ih _ _).bind fun _ => Mirrors.pure _

omit [Kernel τ] [Kernel ρ] hp in
/-- The first answer decides how waiting goes on. -/
theorem waitTerminal_eq [Kernel σ] (pid : Pid) (s : ShellState σ) :
    waitTerminal pid s =
      match (Kernel.wait pid s.descriptors s.surroundings.host).1.answer with
      | .ended status =>
        (.ok status, s.withHost (Kernel.wait pid s.descriptors s.surroundings.host).2)
      | .failed errno =>
        (.error (.wait pid errno), s.withHost (Kernel.wait pid s.descriptors s.surroundings.host).2)
      | .interrupted =>
        waitTerminal pid (s.withHost (Kernel.wait pid s.descriptors s.surroundings.host).2)
      | .notice notice =>
        waitTerminal pid (note (.notTerminal pid notice)
          (s.withHost (Kernel.wait pid s.descriptors s.surroundings.host).2)).2 := by
  rw [waitTerminal]
  split <;> simp only [*]

/-- A process is waited for as it is on the system that is seen. -/
theorem mirrors_waitTerminal (pid : Pid) :
    Mirrors (ShellState.seen host home) (waitTerminal pid : Shell τ _)
      (waitTerminal pid) := by
  intro s
  have hwait : ∀ s : ShellState τ, Kernel.wait pid (s.seen host home).descriptors
      (s.seen host home).surroundings.host =
        ((Kernel.wait pid s.descriptors s.surroundings.host).1,
          host (Kernel.wait pid s.descriptors s.surroundings.host).2) := fun s =>
    hp.wait pid s.descriptors s.surroundings.host
  fun_induction waitTerminal pid s with
  | case1 s answer status h =>
    have hanswer : (Kernel.wait pid s.descriptors s.surroundings.host).1.answer = .ended status := h
    rw [waitTerminal_eq, hwait, hanswer]
    rfl
  | case2 s answer errno h =>
    have hanswer : (Kernel.wait pid s.descriptors s.surroundings.host).1.answer = .failed errno := h
    rw [waitTerminal_eq, hwait, hanswer]
    rfl
  | case3 s answer h hless ih =>
    have hanswer : (Kernel.wait pid s.descriptors s.surroundings.host).1.answer = .interrupted := h
    rw [waitTerminal_eq, hwait, hanswer]
    exact ih
  | case4 s answer notice h hless ih =>
    have hanswer : (Kernel.wait pid s.descriptors s.surroundings.host).1.answer =
      .notice notice := h
    have hnote : Mirrors (ShellState.seen host home) (note (.notTerminal pid notice))
        (note (.notTerminal pid notice)) := mirrors_note hp _
    have hnoted := hnote (s.withHost answer.2)
    rw [waitTerminal_eq, hwait, hanswer]
    exact (congrArg (fun noted => waitTerminal pid noted.2) hnoted).trans ih

theorem mirrors_reap (state : StageState) :
    Mirrors (ShellState.seen host home) (state.reap : Shell τ _) state.reap := by
  cases state with
  | settled outcome => exact Mirrors.pure _
  | running pid =>
    refine (mirrors_waitTerminal hp pid).bind fun answer => ?_
    cases answer with
    | ok status => exact Mirrors.pure _
    | error error => exact (mirrors_note hp _).bind fun _ => Mirrors.pure _
  | execFailed pid reason =>
    refine (mirrors_waitTerminal hp pid).bind fun answer => ?_
    cases answer with
    | ok status => exact Mirrors.pure _
    | error error => exact (mirrors_note hp _).bind fun _ => Mirrors.pure _

theorem mirrors_reapAll (states : List StageState) :
    Mirrors (ShellState.seen host home) (reapAll states : Shell τ _) (reapAll states) := by
  induction states with
  | nil => exact Mirrors.pure _
  | cons state rest ih =>
    exact (mirrors_reap hp state).bind fun _ => ih.bind fun _ => Mirrors.pure _

theorem mirrors_noteFinished (index : Nat) (outcomes : List StageOutcome) :
    Mirrors (ShellState.seen host home) (noteFinished index outcomes : Shell τ _)
      (noteFinished index outcomes) := by
  induction outcomes generalizing index with
  | nil => exact Mirrors.pure ()
  | cons outcome rest ih =>
    cases outcome with
    | finished status => exact (mirrors_note hp _).bind fun _ => ih (index + 1)
    | aborted error => exact ih (index + 1)

/-- A pipeline comes out as it does on the system that is seen. -/
theorem mirrors_execute (streams : Streams) (p : Pipeline) :
    Mirrors (ShellState.seen host home) (p.execute streams : Shell τ _)
      (p.execute streams) := by
  refine (PipeSet.mirrors_allocate hp .empty p.joints).bind fun answer => ?_
  cases answer with
  | error errno => exact Mirrors.pure _
  | ok pipes =>
    refine (mirrors_note hp _).bind fun _ => ?_
    refine (mirrors_spawnAll hp streams p.joints 0 pipes p.stages).bind fun result => ?_
    obtain ⟨states, fault, left⟩ := result
    refine Mirrors.bind (fun _ => rfl) fun _ => (mirrors_reapAll hp states).bind fun outcomes => ?_
    refine (mirrors_noteFinished hp 0 outcomes).bind fun _ => ?_
    cases fault <;> exact Mirrors.pure _

end

end

end CommandShell
