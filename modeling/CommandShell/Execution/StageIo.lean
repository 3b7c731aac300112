import CommandShell.Pipeline
import CommandShell.ShellState

/-!
# Input and output of a stage

The descriptors that a stage reads from and writes to, as far as they are its own. A redirection
takes precedence over a pipe; the end of a pipe that is displaced by it is closed, so that the
neighbour of the stage sees the end of its input, or that nobody reads its output.
-/

namespace CommandShell

/-- The descriptors that a stage reads from and writes to, when they are not those of the shell. -/
structure StageIo where
  /-- The descriptor to read from. -/
  input : Option Fd
  /-- The descriptor to write to. -/
  output : Option Fd
  deriving DecidableEq, Repr

namespace StageIo

open Shell

variable {σ : Type}

/-- Closes the descriptors of a stage. -/
def close (io : StageIo) : Shell σ Unit := do
  closeOption io.input
  closeOption io.output

/-- The descriptor that counts, of a redirection and the end of a pipe; the other one is closed. -/
def prefer (redirected piped : Option Fd) : Shell σ (Option Fd) := do
  match redirected with
  | none => return piped
  | some fd =>
    closeOption piped
    return some fd

/-- Opens the target of a redirection, if there is one. -/
def openTarget (open? : String → Shell σ (Except ShellError Fd)) :
    Option String → Shell σ (Except ShellError (Option Fd))
  | none => pure (.ok none)
  | some path => do
    match ← open? path with
    | .error error => return .error error
    | .ok fd => return .ok (some fd)

variable [Kernel σ]

/-- Opens the redirections of a stage, the one for its input first. The ends of the pipes on both
sides belong to the stage from now on: they are closed if a redirection cannot be opened. -/
def acquire (stage : Stage) (pipedIn pipedOut : Option Fd) :
    Shell σ (Except ShellError StageIo) := do
  match ← openTarget openInput stage.input with
  | .error error =>
    close ⟨pipedIn, pipedOut⟩
    return .error error
  | .ok input =>
    match ← openTarget openOutput stage.output with
    | .error error =>
      closeOption input
      close ⟨pipedIn, pipedOut⟩
      return .error error
    | .ok output =>
      let input ← prefer input pipedIn
      let output ← prefer output pipedOut
      return .ok ⟨input, output⟩

end StageIo

end CommandShell
