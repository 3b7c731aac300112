import CommandShell.Execution.Spawn

/-!
# Waiting for the stages of a pipeline

Every process is waited for until it has ended or waiting fails for good. That it stops or goes on
is noted, and an interrupted wait is repeated.
-/

namespace CommandShell

open Shell

variable {σ : Type}

/-- The state of a shell after a request to the system. -/
def ShellState.withHost (s : ShellState σ) (host : σ) : ShellState σ :=
  { s with surroundings := { s.surroundings with host := host } }

variable [Kernel σ]

/-- Waits until a process has ended. The system's patience bounds the number of answers that leave
the process unsettled. -/
def waitTerminal (pid : Pid) (s : ShellState σ) : Except ShellError Status × ShellState σ :=
  let answer := Kernel.wait pid s.descriptors s.surroundings.host
  match h : answer.1.answer with
  | .ended status => (.ok status, s.withHost answer.2)
  | .failed errno => (.error (.wait pid errno), s.withHost answer.2)
  | .interrupted =>
    have : Kernel.patience answer.2 < Kernel.patience s.surroundings.host :=
      Kernel.patience_wait pid _ _ (answer.1.settled_of_answer (Or.inr h))
    waitTerminal pid (s.withHost answer.2)
  | .notice notice =>
    have : Kernel.patience
          (note (.notTerminal pid notice) (s.withHost answer.2)).2.surroundings.host
        < Kernel.patience s.surroundings.host :=
      Nat.lt_of_le_of_lt (patience_note _ (s.withHost answer.2))
        (Kernel.patience_wait pid _ _ (answer.1.settled_of_answer (Or.inl ⟨notice, h⟩)))
    waitTerminal pid (note (.notTerminal pid notice) (s.withHost answer.2)).2
termination_by Kernel.patience s.surroundings.host

/-- The outcome of a stage, once its process has ended. -/
def StageState.reap : StageState → Shell σ StageOutcome
  | settled outcome => pure outcome
  | running pid => do
    match ← waitTerminal pid with
    | .ok status => return .finished status
    | .error error =>
      note (.stageNotReaped pid error)
      return .aborted error
  | execFailed pid reason => do
    match ← waitTerminal pid with
    | .ok _ => pure ()
    | .error error => note (.failedStageNotReaped pid error)
    return .finished (.startFailed reason)

/-- The outcomes of all stages, waited for in order. -/
def reapAll : List StageState → Shell σ (List StageOutcome)
  | [] => pure []
  | state :: rest => do
    let outcome ← state.reap
    let outcomes ← reapAll rest
    return outcome :: outcomes

end CommandShell
