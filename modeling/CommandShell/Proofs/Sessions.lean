import CommandShell.CommandLine
import CommandShell.Main
import CommandShell.Proofs.Scripts

/-!
# Sessions

The loop of an interactive shell and the run of a script stop for different reasons, and each of
them finds its result in a way of its own. That they agree is said for every source that delivers
some events and does nothing else: the loop does what the script of the delivered lines does, up to
the first event after which nothing more is read. A source may do whatever it likes when it is asked
again afterwards, so that the loop cannot ask it again. The prompt does not matter, since looking
for the name of the working directory changes nothing. Main statement: the loop agrees with the
script, and the exit code of the shell is what remains of the status of either
(`Interpreter.agreeing_loop`).
-/

namespace CommandShell

open Shell

variable {σ ρ : Type}

namespace ReadEvent

/-- Whether no further line is to be expected behind an event. -/
def isLast : ReadEvent → Bool
  | endOfInput => true
  | failed _ => true
  | _ => false

/-- The line that an event brings. -/
def text? : ReadEvent → Option String
  | line text => some text
  | _ => none

/-- The lines that are delivered before the input ends or cannot be read. -/
def lines (events : List ReadEvent) : List String :=
  (events.takeWhile fun event => !event.isLast).filterMap text?

/-- The event with which the input ends, or cannot be read. -/
def ending? (events : List ReadEvent) : Option ReadEvent := events.find? isLast

variable (text : String) (fault : Fault) (events : List ReadEvent)

@[simp]
theorem lines_line : lines (line text :: events) = text :: lines events := rfl

@[simp]
theorem lines_interrupted : lines (interrupted :: events) = lines events := rfl

@[simp]
theorem lines_endOfInput : lines (endOfInput :: events) = [] := rfl

@[simp]
theorem lines_failed : lines (failed fault :: events) = [] := rfl

@[simp]
theorem ending?_line : ending? (line text :: events) = ending? events := rfl

@[simp]
theorem ending?_interrupted : ending? (interrupted :: events) = ending? events := rfl

@[simp]
theorem ending?_endOfInput : ending? (endOfInput :: events) = some endOfInput := rfl

@[simp]
theorem ending?_failed : ending? (failed fault :: events) = some (failed fault) := rfl

/-- The end of the input behind the last event changes nothing about the lines. -/
theorem lines_append_endOfInput : lines (events ++ [endOfInput]) = lines events := by
  induction events with
  | nil => rfl
  | cons event events ih => cases event <;> simp [ih]

/-- If it can be read, the input ends behind the last event at the latest. -/
theorem ending?_append_endOfInput (h : ∀ fault, ending? events ≠ some (failed fault)) :
    ending? (events ++ [endOfInput]) = some endOfInput := by
  induction events with
  | nil => rfl
  | cons event events ih =>
    cases event with
    | line => exact ih h
    | interrupted => exact ih h
    | endOfInput => rfl
    | failed fault => exact absurd rfl (h fault)

/-- What stands behind the event with which the input ends does not matter. -/
theorem ending?_append {event : ReadEvent} (h : ending? events = some event)
    (more : List ReadEvent) : ending? (events ++ more) = some event := by
  rw [ending?, List.find?_append, ← ending?, h, Option.some_or]

/-- The input ends in two ways. -/
theorem ending?_cases {event : ReadEvent} (h : ending? events = some event) :
    event = endOfInput ∨ ∃ fault, event = failed fault := by
  have hlast : event.isLast = true := List.find?_some h
  cases event with
  | line text => cases hlast
  | interrupted => cases hlast
  | endOfInput => exact Or.inl rfl
  | failed fault => exact Or.inr ⟨fault, rfl⟩

end ReadEvent

namespace LineSource

/-- A source delivers events one after the other, whatever the prompt is, and does nothing else.
Nothing is said about what it does afterwards. -/
inductive Delivers (source : LineSource σ ρ) : ρ → List ReadEvent → Prop
  /-- Nothing is delivered yet. -/
  | nil (kept : ρ) : Delivers source kept []
  /-- One event is delivered, and others afterwards. -/
  | cons {kept kept' : ρ} {event : ReadEvent} {events : List ReadEvent}
    (next : ∀ prompt s, source.next prompt kept s = ((event, kept'), s))
    (rest : Delivers source kept' events) : Delivers source kept (event :: events)

/-- The events of a list are delivered, and then the end of the input. -/
theorem delivers_ofEvents (events : List ReadEvent) :
    (ofEvents : LineSource σ _).Delivers events (events ++ [.endOfInput]) := by
  induction events with
  | nil => exact .cons (fun _ _ => rfl) (.nil ([] : List ReadEvent))
  | cons event events ih => exact .cons (fun _ _ => rfl) ih

end LineSource

/-- A source delivers events, and there are no more of them than it has announced, apart from the
one that ends them. -/
structure LineSource.Announces (source : LineSource σ ρ) (kept : ρ) (s : ShellState σ)
    (events : List ReadEvent) : Prop where
  /-- The events are delivered one after the other. -/
  delivers : source.Delivers kept events
  /-- There are no more of them than announced. -/
  length_le : events.length ≤ source.bound kept s + 1

/-- The events of a list are announced with the end of the input behind them. -/
theorem LineSource.announces_ofEvents (events : List ReadEvent) (s : ShellState σ) :
    (ofEvents : LineSource σ _).Announces events s (events ++ [.endOfInput]) :=
  ⟨delivers_ofEvents events, by simp [ofEvents]⟩

/-- Asking for the name of a directory changes nothing. -/
def Kernel.NamesQuietly (σ : Type) [Kernel σ] : Prop :=
  ∀ (directory : Directory) (host : σ), (Kernel.nameOf directory host).2 = host

namespace Interpreter

variable [Kernel σ] {sh : Interpreter σ} {source : LineSource σ ρ} {template : String}
  {kept kept' : ρ} {event : ReadEvent} {events : List ReadEvent} {fuel : Nat} {s : ShellState σ}

/-- Looking for the name of the working directory asks the system and does nothing else. -/
theorem workingDirectory_snd (w : Surroundings σ) :
    (Action.workingDirectory w).2 = { w with host := (Kernel.nameOf w.directory w.host).2 } := by
  have hget : (get : Action σ (Surroundings σ)) w = (w, w) := rfl
  simp only [Action.workingDirectory, bind_apply, hget]
  cases (Action.ask (Kernel.nameOf w.directory) w).1 <;> rfl

/-- Making a prompt changes nothing. -/
theorem prompt_snd (hname : Kernel.NamesQuietly σ) (template : String) (s : ShellState σ) :
    (prompt template s).2 = s := by
  have hdir : (within Action.workingDirectory s).2 = s := by
    change { s with surroundings := (Action.workingDirectory s.surroundings).2 } = s
    rw [workingDirectory_snd, hname]
  rw [prompt, bind_apply, hdir]
  cases (within Action.workingDirectory s).1 <;> rfl

/-- One turn of the loop, if the source does nothing but deliver an event. -/
theorem loopFrom_succ (hname : Kernel.NamesQuietly σ)
    (hnext : ∀ prompt s, source.next prompt kept s = ((event, kept'), s)) :
    sh.loopFrom source template kept (fuel + 1) s = match event with
      | .line text =>
        if (sh.runLine text s).1.continueLoop then
          sh.loopFrom source template kept' fuel (sh.runLine text s).2
        else (.ok (sh.runLine text s).2.lastStatus, (sh.runLine text s).2)
      | .interrupted => sh.loopFrom source template kept' fuel s
      | .endOfInput => (.ok s.lastStatus, s)
      | .failed fault => (.error fault, s) := by
  rw [loopFrom, bind_apply, prompt_snd hname, bind_apply, hnext]
  cases event with
  | line text =>
    simp only [bind_apply]
    split <;> rfl
  | interrupted => rfl
  | endOfInput => rfl
  | failed fault => rfl

/-- What the loop does if a line leaves the shell, or the input ends. -/
theorem loopFrom_of_stop (hname : Kernel.NamesQuietly σ) (hdelivers : source.Delivers kept events)
    (hfuel : events.length ≤ fuel)
    (hstop : (∃ i, sh.Leaves (ReadEvent.lines events) s i) ∨
      ReadEvent.ending? events = some .endOfInput) :
    sh.loopFrom source template kept fuel s =
      (.ok (sh.runScript (ReadEvent.lines events) s).1,
        (sh.runScript (ReadEvent.lines events) s).2) := by
  induction hdelivers generalizing fuel s with
  | nil =>
    rcases hstop with ⟨i, hi⟩ | hend
    · exact absurd hi (not_leaves_nil i)
    · cases hend
  | @cons kept kept' event events hnext _ ih =>
    obtain ⟨fuel, rfl⟩ := Nat.exists_eq_add_one_of_ne_zero (Nat.ne_zero_of_lt hfuel)
    have hfuel' : events.length ≤ fuel := Nat.le_of_succ_le_succ hfuel
    rw [loopFrom_succ hname hnext]
    cases event with
    | line text =>
      simp only [ReadEvent.lines_line, ReadEvent.ending?_line] at hstop ⊢
      cases hleave : (sh.runLine text s).1.continueLoop with
      | false => simp [runScript_cons_leave sh text _ s hleave]
      | true =>
        rw [runScript_cons_proceed hleave, if_pos rfl]
        refine ih hfuel' (hstop.imp_left fun hleaves => ?_)
        exact (exists_leaves_cons.mp hleaves).resolve_left (by simp [hleave])
    | interrupted => exact ih hfuel' hstop
    | endOfInput => rfl
    | failed fault =>
      rcases hstop with ⟨i, hi⟩ | hend
      · exact absurd hi (not_leaves_nil i)
      · cases hend

/-- What the loop does if no line leaves the shell before the input cannot be read. -/
theorem loopFrom_of_failure (hname : Kernel.NamesQuietly σ)
    (hdelivers : source.Delivers kept events) (hfuel : events.length ≤ fuel) {fault : Fault}
    (hstays : ∀ i, ¬ sh.Leaves (ReadEvent.lines events) s i)
    (hend : ReadEvent.ending? events = some (.failed fault)) :
    sh.loopFrom source template kept fuel s =
      (.error fault, (sh.runScript (ReadEvent.lines events) s).2) := by
  induction hdelivers generalizing fuel s with
  | nil => cases hend
  | @cons kept kept' event events hnext _ ih =>
    obtain ⟨fuel, rfl⟩ := Nat.exists_eq_add_one_of_ne_zero (Nat.ne_zero_of_lt hfuel)
    have hfuel' : events.length ≤ fuel := Nat.le_of_succ_le_succ hfuel
    rw [loopFrom_succ hname hnext]
    cases event with
    | line text =>
      simp only [ReadEvent.lines_line, ReadEvent.ending?_line] at hstays hend ⊢
      have hproceed : (sh.runLine text s).1.continueLoop = true :=
        eq_true_of_ne_false fun hleave => hstays 0 (leaves_cons_zero.mpr hleave)
      rw [runScript_cons_proceed hproceed, if_pos hproceed]
      exact ih hfuel' (fun i hi => hstays (i + 1) (leaves_cons_succ.mpr hi)) hend
    | interrupted => exact ih hfuel' hstays hend
    | endOfInput => cases hend
    | failed fault =>
      cases hend
      rfl

/-- How the loop of an interactive shell agrees with the run of a script. -/
structure LoopAgrees (sh : Interpreter σ) (s : ShellState σ) : Prop where
  /-- If a line leaves the shell, the loop leaves the state and the status of the script. -/
  stopped : ∀ {ρ : Type} (source : LineSource σ ρ) template kept events,
    source.Announces kept s events → (∃ i, sh.Leaves (ReadEvent.lines events) s i) →
    sh.loop source template kept s =
      (.ok (sh.runScript (ReadEvent.lines events) s).1,
        (sh.runScript (ReadEvent.lines events) s).2)
  /-- So it does if the input ends. -/
  ended : ∀ {ρ : Type} (source : LineSource σ ρ) template kept events,
    source.Announces kept s events → ReadEvent.ending? events = some .endOfInput →
    sh.loop source template kept s =
      (.ok (sh.runScript (ReadEvent.lines events) s).1,
        (sh.runScript (ReadEvent.lines events) s).2)
  /-- If the input cannot be read before a line leaves the shell, the loop fails for this reason,
  and leaves the state of the script. -/
  failed : ∀ {ρ : Type} (source : LineSource σ ρ) template kept events fault,
    source.Announces kept s events → (∀ i, ¬ sh.Leaves (ReadEvent.lines events) s i) →
    ReadEvent.ending? events = some (.failed fault) →
    sh.loop source template kept s =
      (.error fault, (sh.runScript (ReadEvent.lines events) s).2)
  /-- So it comes to the same whatever the prompt is, and whatever else the source would have done:
  nothing is read behind the event with which the loop stops. -/
  unread : ∀ {ρ ρ' : Type} (source : LineSource σ ρ) (other : LineSource σ ρ') template template'
    kept kept' events, source.Announces kept s events → other.Announces kept' s events →
    (∃ i, sh.Leaves (ReadEvent.lines events) s i) ∨ ReadEvent.ending? events ≠ none →
    sh.loop source template kept s = sh.loop other template' kept' s
  /-- Any list of events can be what is delivered; behind the last one the input ends. -/
  listed : ∀ template events, (∃ i, sh.Leaves (ReadEvent.lines events) s i) ∨
      (∀ fault, ReadEvent.ending? events ≠ some (.failed fault)) →
    sh.loop LineSource.ofEvents template events s =
      (.ok (sh.runScript (ReadEvent.lines events) s).1,
        (sh.runScript (ReadEvent.lines events) s).2)
  /-- The list may hold a failure. -/
  listed_failed : ∀ template events fault, (∀ i, ¬ sh.Leaves (ReadEvent.lines events) s i) →
    ReadEvent.ending? events = some (.failed fault) →
    sh.loop LineSource.ofEvents template events s =
      (.error fault, (sh.runScript (ReadEvent.lines events) s).2)

end Interpreter

namespace CommandLine

/-- A shell that keeps to the level of the log that was chosen for it. -/
def prepared (options : Options) (environment : Environment) (s : ShellState σ) : ShellState σ :=
  { s with log := { s.log with threshold := chooseLevel options.level environment.logLevel } }

/-- The exit code of a shell with a status, which does not count if the shell has come down. -/
def codeOf : Option Errno → Int → Nat
  | none, status => exitCode status
  | some _, _ => 101

theorem leaveWith_apply (status : Int) (s : ShellState σ) :
    leaveWith (exitCode status) s = (codeOf s.downfall status, s) := by
  obtain ⟨descriptors, fresh, surroundings, lastStatus, log, downfall⟩ := s
  cases downfall <;> rfl

/-- How the exit code of the shell is made. -/
structure ExitCodes [Kernel σ] (s : ShellState σ) : Prop where
  /-- A line is given behind an option. -/
  given : ∀ line, Options.read ["-c", line] = .ok (.run ⟨some line, none, none⟩)
  /-- A given line is run as a script, and its status makes the exit code. -/
  command : ∀ arguments environment options line status s',
    Options.read arguments = .ok (.run options) → options.command = some line →
    Interpreter.standard.runScript [line] (prepared options environment s) = (status, s') →
    run arguments environment s = (codeOf s'.downfall status, s')
  /-- Without one, the status of the loop makes the exit code. -/
  interactive : ∀ arguments environment options status s',
    Options.read arguments = .ok (.run options) → options.command = none →
    Interpreter.standard.loop (LineSource.standardInput environment.terminal)
      options.promptTemplate []
      (note (.editingPrepared environment.terminal.measure) (prepared options environment s)).2 =
        (.ok status, s') →
    run arguments environment s = (codeOf s'.downfall status, s')
  /-- A status counts as long as the shell has not come down. -/
  counted : ∀ status, codeOf none status = exitCode status
  /-- An exit code is the remainder of the status, which is never negative. -/
  remainder : ∀ status : Int, (exitCode status : Int) = status % 256 ∧ exitCode status < 256
  /-- It consists of the last eight bits of the status as a word. -/
  masked : ∀ status : Int, exitCode status = (BitVec.ofInt 32 status &&& 255#32).toNat

theorem exitCode_cast (status : Int) : (exitCode status : Int) = status % 256 :=
  Int.toNat_of_nonneg (Int.emod_nonneg status (by decide))

/-- Masking a word of 32 bits keeps what remains of a division by 256. -/
theorem exitCode_eq_mask (status : Int) :
    exitCode status = (BitVec.ofInt 32 status &&& 255#32).toNat := by
  have hmask : (BitVec.ofInt 32 status &&& 255#32).toNat = (status % 4294967296).toNat % 256 := by
    rw [BitVec.toNat_and, BitVec.toNat_ofInt]
    exact Nat.and_two_pow_sub_one_eq_mod _ 8
  rw [hmask, exitCode]
  omega

example : exitCode (-1) = 255 := by decide

theorem exitCodes_run [Kernel σ] (s : ShellState σ) : ExitCodes s where
  given line := rfl
  command arguments environment options line status s' hread hcommand hscript := by
    have hprepared : (modify fun s : ShellState σ => { s with log := { s.log with
        threshold := chooseLevel options.level environment.logLevel } } : Shell σ Unit) s =
      ((), prepared options environment s) := rfl
    simp only [run, hread, runOptions, hcommand]
    rw [bind_apply, hprepared, bind_apply, hscript, leaveWith_apply]
  interactive arguments environment options status s' hread hcommand hloop := by
    have hprepared : (modify fun s : ShellState σ => { s with log := { s.log with
        threshold := chooseLevel options.level environment.logLevel } } : Shell σ Unit) s =
      ((), prepared options environment s) := rfl
    simp only [run, hread, runOptions, hcommand]
    rw [bind_apply, hprepared, bind_apply, bind_apply, hloop]
    exact leaveWith_apply status s'
  counted _ := rfl
  remainder status := ⟨exitCode_cast status, exitCode_lt status⟩
  masked := exitCode_eq_mask

end CommandLine

/-- What the loop does for a list of events, or for anything else that delivers them. -/
theorem Interpreter.loopAgrees_loop [Kernel σ] (hname : Kernel.NamesQuietly σ)
    (sh : Interpreter σ) (s : ShellState σ) : sh.LoopAgrees s where
  stopped source template kept events hsource hleaves :=
    loopFrom_of_stop hname hsource.delivers hsource.length_le (Or.inl hleaves)
  ended source template kept events hsource hend :=
    loopFrom_of_stop hname hsource.delivers hsource.length_le (Or.inr hend)
  failed source template kept events fault hsource hstays hend :=
    loopFrom_of_failure hname hsource.delivers hsource.length_le hstays hend
  unread source other template template' kept kept' events hsource hother hstop := by
    have hstopped : (∃ i, sh.Leaves (ReadEvent.lines events) s i) ∨
        ReadEvent.ending? events = some .endOfInput →
          sh.loop source template kept s = sh.loop other template' kept' s := fun h =>
      (loopFrom_of_stop hname hsource.delivers hsource.length_le h).trans
        (loopFrom_of_stop hname hother.delivers hother.length_le h).symm
    by_cases hleaves : ∃ i, sh.Leaves (ReadEvent.lines events) s i
    · exact hstopped (Or.inl hleaves)
    · obtain ⟨event, hevent⟩ := Option.ne_none_iff_exists'.mp (hstop.resolve_left hleaves)
      have hstays := not_exists.mp hleaves
      rcases ReadEvent.ending?_cases events hevent with rfl | ⟨fault, rfl⟩
      · exact hstopped (Or.inr hevent)
      · exact (loopFrom_of_failure hname hsource.delivers hsource.length_le hstays hevent).trans
          (loopFrom_of_failure hname hother.delivers hother.length_le hstays hevent).symm
  listed template events hstop := by
    have hsource := LineSource.announces_ofEvents events s
    rw [← ReadEvent.lines_append_endOfInput] at hstop ⊢
    exact loopFrom_of_stop hname hsource.delivers hsource.length_le
      (hstop.imp_right (ReadEvent.ending?_append_endOfInput events))
  listed_failed template events fault hstays hend := by
    have hsource := LineSource.announces_ofEvents events s
    rw [← ReadEvent.lines_append_endOfInput] at hstays ⊢
    exact loopFrom_of_failure hname hsource.delivers hsource.length_le hstays
      (ReadEvent.ending?_append events hend _)

/-- The loop does what the script of the delivered lines does, and the exit code of the shell is
what remains of the status of either. -/
theorem Interpreter.agreeing_loop [Kernel σ] (hname : Kernel.NamesQuietly σ) (sh : Interpreter σ)
    (s : ShellState σ) : sh.LoopAgrees s ∧ CommandLine.ExitCodes s :=
  ⟨sh.loopAgrees_loop hname s, CommandLine.exitCodes_run s⟩

/-- On a machine the name of a directory is only looked for, so that all this holds there. -/
theorem Interpreter.agreeing_loop_machine : Kernel.NamesQuietly Machine.State ∧
    (standard : Interpreter Machine.State).LoopAgrees (Main.setup .empty none none).boot ∧
      CommandLine.ExitCodes (Main.setup .empty none none).boot := by
  have hname : Kernel.NamesQuietly Machine.State := fun _ _ => rfl
  exact ⟨hname, agreeing_loop hname _ _⟩

end CommandShell
