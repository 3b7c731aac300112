import CommandShell.Proofs.ArgumentScan
import CommandShell.Proofs.Ownership

/-!
# Changing the working directory

The builtin that changes the working directory asks the system twice: for the absolute path of its
target, and for the directory at this path. Only if both answers are good anything is changed. Main
statement: the builtin ends in one of five ways, each of which tells the requests that were made,
the reply, and what has become of the surroundings (`Builtin.course_changeDirectory`).
-/

namespace CommandShell

open Shell

variable {σ : Type} [Kernel σ]

/-- A path is made absolute by a request to the system. -/
theorem Action.canonicalize_apply {path : String} {w : Surroundings σ}
    (hnamed : hasNul path = false) {answer : Except Errno String} {host : σ}
    (h : Kernel.canonicalize w.directory path w.host = (answer, host)) :
    Action.canonicalize path w = (answer.mapError .system, { w with host := host }) := by
  have hask : Action.ask (Kernel.canonicalize w.directory path) w =
      (answer, { w with host := host }) := by rw [Action.ask, h]
  rw [Action.canonicalize, hnamed, if_neg Bool.false_ne_true, bind_apply]
  change (Action.ask (Kernel.canonicalize w.directory path) >>= _) w = _
  rw [bind_apply, hask]
  cases answer <;> rfl

/-- The system is not asked for a name that holds a NUL byte. -/
theorem Action.canonicalize_of_hasNul {path : String} (h : hasNul path = true)
    (w : Surroundings σ) : Action.canonicalize path w = (.error .nulInName, w) := by
  rw [Action.canonicalize, h]
  rfl

/-- A directory is entered if the system gives it. -/
theorem Action.enter_of_ok {path : String} {w : Surroundings σ} {directory : Directory} {host : σ}
    (h : Kernel.enter w.directory path w.host = (.ok directory, host)) :
    Action.enter path w = (.ok (), ⟨directory, w.home, host⟩) := by
  have hask : Action.ask (Kernel.enter w.directory path) w =
      (.ok directory, { w with host := host }) := by rw [Action.ask, h]
  rw [Action.enter, bind_apply]
  change (Action.ask (Kernel.enter w.directory path) >>= _) w = _
  rw [bind_apply, hask]
  rfl

/-- Nothing is entered otherwise. -/
theorem Action.enter_of_error {path : String} {w : Surroundings σ} {errno : Errno} {host : σ}
    (h : Kernel.enter w.directory path w.host = (.error errno, host)) :
    Action.enter path w = (.error (.system errno), { w with host := host }) := by
  have hask : Action.ask (Kernel.enter w.directory path) w =
      (.error errno, { w with host := host }) := by rw [Action.ask, h]
  rw [Action.enter, bind_apply]
  change (Action.ask (Kernel.enter w.directory path) >>= _) w = _
  rw [bind_apply, hask]
  rfl

/-- The working directory is named by a request to the system. -/
theorem Action.workingDirectory_apply (w : Surroundings σ) :
    Action.workingDirectory w = ((Kernel.nameOf w.directory w.host).1.mapError .system,
      { w with host := (Kernel.nameOf w.directory w.host).2 }) := by
  rcases h : Kernel.nameOf w.directory w.host with ⟨answer, host⟩
  have hask : Action.ask (Kernel.nameOf w.directory) w = (answer, { w with host := host }) := by
    rw [Action.ask, h]
  rw [Action.workingDirectory, bind_apply]
  change (Action.ask (Kernel.nameOf w.directory) >>= _) w = _
  rw [bind_apply, hask]
  cases answer <;> rfl

namespace Builtin

/-- Where the words behind the name of the builtin send the shell, if they send it anywhere. -/
def goal? (home : Option String) (words : List String) : Option String :=
  match cdGrammar.read words with
  | .ok (.run target) => destination target home
  | .ok .help => none
  | .error _ => none

/-- How the builtin can end, given where it is to go. -/
inductive Course (w : Surroundings σ) : Option String → Reply → Surroundings σ → Prop
  /-- There is no place to go to. -/
  | unset : Course w none (.failed "cd: no target and HOME not set") w
  /-- The name of the target holds a NUL byte. -/
  | unnamed (path : String) (h : hasNul path = true) :
    Course w (some path)
      (.failed ("cd: can't canonicalize " ++ path ++ ": " ++ Fault.nulInName.message)) w
  /-- The target has no absolute path. -/
  | missing (path : String) (errno : Errno) (host : σ) (hnamed : hasNul path = false)
    (h : Kernel.canonicalize w.directory path w.host = (.error errno, host)) :
    Course w (some path)
      (.failed ("cd: can't canonicalize " ++ path ++ ": " ++ (Fault.system errno).message))
      { w with host := host }
  /-- The directory at the absolute path cannot be entered. -/
  | refused (path canonical : String) (errno : Errno) (between host : σ)
    (hnamed : hasNul path = false)
    (h : Kernel.canonicalize w.directory path w.host = (.ok canonical, between))
    (h' : Kernel.enter w.directory canonical between = (.error errno, host)) :
    Course w (some path)
      (.failed ("cd: can't chdir to " ++ canonical ++ ": " ++ (Fault.system errno).message))
      { w with host := host }
  /-- The directory at the absolute path is entered. -/
  | entered (path canonical : String) (directory : Directory) (between host : σ)
    (hnamed : hasNul path = false)
    (h : Kernel.canonicalize w.directory path w.host = (.ok canonical, between))
    (h' : Kernel.enter w.directory canonical between = (.ok directory, host)) :
    Course w (some path) (.completed "" (.proceed 0)) ⟨directory, w.home, host⟩

/-- The builtin ends in one of these ways. -/
theorem course_changeDirectory (target : Option String) (w : Surroundings σ) :
    Course w (destination target w.home) (changeDirectory target w).1
      (changeDirectory target w).2 := by
  have hget : (get : Action σ (Surroundings σ)) w = (w, w) := rfl
  rw [changeDirectory, bind_apply, hget]
  simp only
  cases destination target w.home with
  | none => exact .unset
  | some path =>
    simp only
    cases hnamed : hasNul path with
    | true =>
      rw [bind_apply, Action.canonicalize_of_hasNul hnamed]
      exact .unnamed path hnamed
    | false =>
      rcases h : Kernel.canonicalize w.directory path w.host with ⟨errno | canonical, between⟩
      · rw [bind_apply, Action.canonicalize_apply hnamed h]
        exact .missing path errno between hnamed h
      · rw [bind_apply, Action.canonicalize_apply hnamed h]
        simp only [Except.mapError, bind_apply]
        rcases h' : Kernel.enter w.directory canonical between with ⟨errno | directory, host⟩
        · rw [Action.enter_of_error h']
          exact .refused path canonical errno between host hnamed h h'
        · rw [Action.enter_of_ok h']
          exact .entered path canonical directory between host hnamed h h'

end Builtin

end CommandShell
