import CommandShell.Execution.Reap

/-!
# Running pipelines

All pipes between the stages are made first, then the stages are started from left to right, and
then all that were started are waited for in order. There is no report if a pipe or a process could
not be made; the stages started before that are waited for all the same.
-/

namespace CommandShell

open Shell

variable {σ : Type} [Kernel σ]

/-- Notes the terminal states of stages, counted from `index`. -/
def noteFinished (index : Nat) : List StageOutcome → Shell σ Unit
  | [] => pure ()
  | .finished status :: rest => do
    note (.stageFinished index status)
    noteFinished (index + 1) rest
  | .aborted _ :: rest => noteFinished (index + 1) rest

/-- Runs a pipeline to its end. The ends of pipes that no stage has taken are closed before the
shell waits, since otherwise a stage might never see the end of its input. -/
def Pipeline.execute (streams : Streams) (p : Pipeline) : Shell σ (Except ShellError Report) := do
  match ← PipeSet.allocate .empty p.joints with
  | .error errno => return .error (.spawn 0 errno)
  | .ok pipes =>
    note (.allocatedPipeline p.length pipes.size)
    let (states, fault, left) ← spawnAll streams p.joints 0 pipes p.stages
    left.close
    let outcomes ← reapAll states
    noteFinished 0 outcomes
    match fault with
    | some error => return .error error
    | none => return .ok ⟨pipes.size, outcomes⟩

end CommandShell
