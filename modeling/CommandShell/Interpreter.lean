import CommandShell.Builtin.Sink
import CommandShell.Builtin.Standard
import CommandShell.Execution
import CommandShell.Pipeline.Reading

/-!
# Interpreting lines

A line with one stage that names a builtin runs inside the shell; every other line runs as a
pipeline of programs. What goes wrong is told to the user and becomes the status of the line, so
that a run of lines ends only where a builtin asks for it, or with its last line, or where the user
cannot be told: then the shell comes down in the middle of the line. Main statements:
no lines leave everything as it is (`runScript_nil`), and a line that leaves the shell is the last
one (`runScript_cons_leave`).
-/

namespace CommandShell

open Shell

variable {σ : Type}

/-- What a shell is equipped with. -/
structure Interpreter (σ : Type) where
  /-- The builtins. -/
  builtins : Registry σ
  /-- The streams that pipelines begin and end with. -/
  streams : Streams

namespace Interpreter

/-- The builtin that a pipeline is sent to, with the only stage of the pipeline, if it is not run as
programs. -/
def route (sh : Interpreter σ) (p : Pipeline) : Option (Handler σ × Stage) :=
  match p.single? with
  | none => none
  | some stage => (sh.builtins.get? stage.program).map fun handler => (handler, stage)

/-- The line about a stage that never ran. -/
def abortMessage (index : Nat) (error : ShellError) : String :=
  "pipesh: stage " ++ toString (index + 1) ++ ": " ++ error.message ++ "\n"

variable [Kernel σ]

/-- The shell with the builtins and streams that it has by itself. -/
def standard : Interpreter σ := ⟨.standard, .inherited⟩

/-- Tells the user about the stages that never ran, counted from `index`. A shell that comes down
over one of them says nothing of the others. -/
def complainAborted (index : Nat) : List StageOutcome → Shell σ Unit
  | [] => pure ()
  | .aborted error :: rest => do
    complain (abortMessage index error)
    if ← isDown then pure () else complainAborted (index + 1) rest
  | .finished _ :: rest => complainAborted (index + 1) rest

/-- Asks a builtin for its reply to a stage. -/
def consult (sh : Interpreter σ) (handler : Handler σ) (stage : Stage) : Shell σ Reply :=
  within (handler.invoke stage.argv sh.builtins.listing)

/-- Runs a builtin whose input, if it is redirected, could be opened. -/
def runToOutput (sh : Interpreter σ) (handler : Handler σ) (stage : Stage) :
    Shell σ (Except ShellError Outcome) := do
  match stage.output with
  | none => return .ok (← (← sh.consult handler stage).deliverToOutput)
  | some path =>
    match ← openOutput path with
    | .error error => return .error error
    | .ok fd =>
      let outcome ← (← sh.consult handler stage).deliverToFile fd
      close fd
      return .ok outcome

/-- Runs a builtin. It reads no input, but an input that cannot be opened fails the line. -/
def runBuiltin (sh : Interpreter σ) (handler : Handler σ) (stage : Stage) :
    Shell σ (Except ShellError Outcome) := do
  match stage.input with
  | none => sh.runToOutput handler stage
  | some path =>
    match ← openInput path with
    | .error error => return .error error
    | .ok fd =>
      close fd
      sh.runToOutput handler stage

/-- Runs a pipeline of programs. -/
def runPrograms (sh : Interpreter σ) (p : Pipeline) : Shell σ (Except ShellError Outcome) := do
  match ← p.execute sh.streams with
  | .error error => return .error error
  | .ok report =>
    complainAborted 0 report.earlier
    match report.conclusion with
    | .error error => return .error error
    | .ok status => return .ok (.proceed status.code)

/-- Runs a pipeline where it belongs. -/
def dispatch (sh : Interpreter σ) (p : Pipeline) : Shell σ (Except ShellError Outcome) := do
  match sh.route p with
  | some (handler, stage) =>
    note (.runningBuiltin stage.program)
    sh.runBuiltin handler stage
  | none =>
    note (.runningPipeline p.length)
    sh.runPrograms p

/-- Makes a shell that has come down ready for another line. -/
def recover : Shell σ Unit := modify fun s => { s with downfall := none }

/-- Interprets one line and passes on its error. A blank line is done at once. If the shell comes
down, it does not matter what the line comes to. -/
def execute (sh : Interpreter σ) (line : String) : Shell σ (Except ShellError Outcome) := do
  recover
  let tokens := Token.scan line
  note (.tokenized tokens)
  if tokens.isEmpty then return .ok (.proceed 0)
  match Pipeline.ofTokens tokens with
  | .error fault => return .error (.malformed fault)
  | .ok p => sh.dispatch p

/-- What a line leaves behind, once its error, if there is one, was told to the user. -/
def settleLine (result : Except ShellError Outcome) : Shell σ Outcome := do
  if ← isDown then return .down
  match result with
  | .ok outcome => return outcome
  | .error error =>
    note (.lineFailed error)
    complain ("pipesh: " ++ error.message ++ "\n")
    return .proceed error.status

/-- Keeps the status of a line as that of the last line, unless the shell has come down. -/
def keepStatus (outcome : Outcome) : Shell σ Outcome := do
  if ← isDown then return .down
  modify fun s => { s with lastStatus := outcome.status }
  return outcome

/-- Interprets one line. A line in which the shell comes down leaves no status. -/
def runLine (sh : Interpreter σ) (line : String) : Shell σ Outcome := do
  keepStatus (← settleLine (← sh.execute line))

/-- Interprets lines until one of them leaves the shell. The status is that of the last line that
was run. -/
def runScript (sh : Interpreter σ) : List String → Shell σ Int
  | [] => do return (← get).lastStatus
  | line :: rest => do
    let outcome ← sh.runLine line
    if outcome.continueLoop then sh.runScript rest else return (← get).lastStatus

/-- No lines leave everything as it is. -/
theorem runScript_nil (sh : Interpreter σ) (s : ShellState σ) :
    sh.runScript [] s = (s.lastStatus, s) := rfl

/-- After a line that leaves the shell no other one is run. -/
theorem runScript_cons_leave (sh : Interpreter σ) (line : String) (rest : List String)
    (s : ShellState σ) (h : (sh.runLine line s).1.continueLoop = false) :
    sh.runScript (line :: rest) s =
      ((sh.runLine line s).2.lastStatus, (sh.runLine line s).2) := by
  simp only [runScript, bind, StateT.bind]
  generalize sh.runLine line s = result at h ⊢
  obtain ⟨⟨continueLoop, status⟩, after⟩ := result
  simp only at h
  subst h
  rfl

end Interpreter

end CommandShell
