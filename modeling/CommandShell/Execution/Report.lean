import CommandShell.ShellError
import CommandShell.Status

/-!
# Reports of finished pipelines

How each stage of a pipeline came out, and what that makes of the pipeline as a whole: the last
stage decides alone.
-/

namespace CommandShell

/-- How a stage came out. -/
inductive StageOutcome where
  /-- The stage reached a terminal state. -/
  | finished (status : Status)
  /-- The stage never ran, or its end could not be learned. -/
  | aborted (error : ShellError)
  deriving DecidableEq, Repr

/-- How the stages of a pipeline came out. -/
structure Report where
  /-- The number of pipes between the stages. -/
  pipes : Nat
  /-- The outcome of every stage, in order. -/
  outcomes : List StageOutcome
  deriving DecidableEq, Repr

namespace Report

/-- What the outcome of the last stage means for the pipeline. -/
def concludeFrom : Option StageOutcome → Except ShellError Status
  | some (.finished status) => .ok status
  | some (.aborted error) => .error error
  | none => .error (.malformed .emptyStage)

/-- The status of the pipeline, or the error that kept its last stage from running. -/
def conclusion (r : Report) : Except ShellError Status := concludeFrom r.outcomes.getLast?

/-- The outcomes before the last one. -/
def earlier (r : Report) : List StageOutcome := r.outcomes.dropLast

end Report

end CommandShell
