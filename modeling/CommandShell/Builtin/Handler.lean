import CommandShell.ShellState
import CommandShell.Text.Trim

/-!
# Handlers of builtins

A builtin works on the surroundings of the shell and answers with a reply: what it wants to be
written, and what is to become of the line. Where the reply is written is not its affair, and what
it means that some of it could not be written depends on the kind of reply only.
-/

namespace CommandShell

/-- What a line leaves behind. -/
structure Outcome where
  /-- Whether further lines are read. -/
  continueLoop : Bool
  /-- The status of the line. -/
  status : Int
  deriving DecidableEq, Repr

namespace Outcome

/-- Further lines are read. -/
def proceed (status : Int) : Outcome := ⟨true, status⟩

/-- No further line is read. -/
def leave (status : Int) : Outcome := ⟨false, status⟩

/-- The shell has come down. -/
def down : Outcome := leave 101

end Outcome

/-- The names of the builtins with their descriptions. -/
abbrev Listing := List (String × String)

/-- What a builtin answers. -/
inductive Reply where
  /-- It is done, provided that its output can be written. -/
  | completed (output : String) (outcome : Outcome)
  /-- It is done, whether its output can be written or not. -/
  | announced (output : String) (outcome : Outcome)
  /-- Its usage text is shown, and what is lost of it is noted. -/
  | usage (name text : String) (status : Int)
  /-- It has failed, and the user is told why. -/
  | failed (complaint : String)
  deriving DecidableEq, Repr

/-- What follows from a reply once its output was written or got lost. -/
structure Verdict where
  /-- What the user is told. -/
  complaint : Option String
  /-- What the log is told. -/
  event : Option Event
  /-- What the line leaves behind. -/
  outcome : Outcome
  deriving DecidableEq, Repr

namespace Reply

/-- What is to be written. -/
def output : Reply → String
  | completed output _ => output
  | announced output _ => output
  | usage _ text _ => Text.trimEnd text ++ "\n"
  | failed _ => ""

/-- What follows if all output was written. -/
def written : Reply → Verdict
  | completed _ outcome => ⟨none, none, outcome⟩
  | announced _ outcome => ⟨none, none, outcome⟩
  | usage _ _ status => ⟨none, none, .proceed status⟩
  | failed complaint => ⟨some complaint, none, .proceed 1⟩

/-- What follows if output got lost. -/
def lost (reply : Reply) (fault : Fault) : Verdict :=
  match reply with
  | completed _ _ => ⟨some fault.message, none, .proceed 1⟩
  | announced _ outcome => ⟨none, none, outcome⟩
  | usage name _ status => ⟨none, some (.usageNotWritten name fault), .proceed status⟩
  | failed complaint => ⟨some complaint, none, .proceed 1⟩

/-- What follows, given the fault by which output got lost, if it did. -/
def verdict (reply : Reply) : Option Fault → Verdict
  | none => reply.written
  | some fault => reply.lost fault

end Reply

/-- A builtin, ready to be run. -/
structure Handler (σ : Type) where
  /-- What it does, on one line. -/
  description : String
  /-- Runs it with all its arguments, its own name first, beside the builtins that are listed. -/
  invoke : List String → Listing → Action σ Reply

end CommandShell
