import CommandShell.Log
import CommandShell.ShellError
import CommandShell.Text.Quoted
import CommandShell.Wait

/-!
# Events of a shell

What a shell tells about its work, and the log record of each event. A value is shown as a text
between quotes, as a number, or in its own wording.
-/

namespace CommandShell

/-- How the width of a cluster on the terminal is found. -/
inductive ClusterMeasure where
  /-- From the widths of its characters. -/
  | characters
  /-- From the widths of its characters, joined pictures apart. -/
  | withoutJoining
  deriving DecidableEq, Repr

/-- The name of a measure in the log. -/
def ClusterMeasure.name : ClusterMeasure → String
  | characters => "WcWidth"
  | withoutJoining => "NoZwj"

/-- Something a shell tells about its work. -/
inductive Event where
  /-- A line was cut into tokens. -/
  | tokenized (tokens : List Token)
  /-- A line runs inside the shell. -/
  | runningBuiltin (name : String)
  /-- A line runs as programs. -/
  | runningPipeline (stages : Nat)
  /-- A line could not be run to its end. -/
  | lineFailed (error : ShellError)
  /-- The last output of a builtin got lost. -/
  | outputNotFlushed (fault : Fault)
  /-- The usage text of a builtin could not be written. -/
  | usageNotWritten (name : String) (fault : Fault)
  /-- The pipes of a pipeline were made. -/
  | allocatedPipeline (stages pipes : Nat)
  /-- A stage is left out, since a file could not be opened. -/
  | redirectionFailed (stage : Nat) (error : ShellError)
  /-- No process could be made for a stage. -/
  | forkFailed (stage : Nat) (errno : Errno)
  /-- A process was made for a stage. -/
  | spawned (stage : Nat) (pid : Pid) (program : String)
  /-- The process of a stage could not start its program. -/
  | execFailed (stage : Nat) (pid : Pid) (error : ShellError)
  /-- Something happened to a process that is not its end. -/
  | notTerminal (pid : Pid) (notice : Notice)
  /-- The end of a stage could not be learned. -/
  | stageNotReaped (pid : Pid) (error : ShellError)
  /-- The end of a process that started no program could not be learned. -/
  | failedStageNotReaped (pid : Pid) (error : ShellError)
  /-- A stage has ended. -/
  | stageFinished (stage : Nat) (status : Status)
  /-- The editing of lines was prepared. -/
  | editingPrepared (measure : ClusterMeasure)
  /-- Lines are read without editing, since the terminal cannot edit. -/
  | plainTerminal
  /-- Lines are read without editing, since the input is no terminal. -/
  | noTerminal
  deriving DecidableEq, Repr

/-- How a token is shown in the log. -/
def Token.shown : Token → String
  | word w => "Word(" ++ Text.quote w ++ ")"
  | pipe => "Pipe"
  | input => "InputRedirect"
  | output => "OutputRedirect"

/-- How a notice about a process is shown in the log. -/
def Notice.shown (pid : Pid) : Notice → String
  | stopped signal => "Stopped(Pid(" ++ toString pid ++ "), " ++ signal.name ++ ")"
  | continued => "Continued(Pid(" ++ toString pid ++ "))"
  | traced signal event =>
    "PtraceEvent(Pid(" ++ toString pid ++ "), " ++ signal.name ++ ", " ++ toString event ++ ")"
  | tracedRequest => "PtraceSyscall(Pid(" ++ toString pid ++ "))"
  | unchanged => "StillAlive"

namespace Event

/-- The component that reads and dispatches lines. -/
def interpreter : String := "pipesh::interpreter"

/-- The component that runs builtins. -/
def builtin : String := "pipesh::builtin"

/-- The component that runs pipelines. -/
def executor : String := "pipesh::executor"

/-- The component that reads lines. -/
def lineReader : String := "rustyline"

/-- The log record of an event. -/
def record : Event → LogRecord
  | tokenized tokens => ⟨.debug, interpreter, "tokenized",
      [("tokens", "[" ++ String.intercalate ", " (tokens.map Token.shown) ++ "]")]⟩
  | runningBuiltin name => ⟨.info, interpreter, "running builtin", [("builtin", Text.quote name)]⟩
  | runningPipeline stages =>
    ⟨.info, interpreter, "running pipeline", [("stages", toString stages)]⟩
  | lineFailed error => ⟨.warn, interpreter, "line failed", [("error", error.message)]⟩
  | outputNotFlushed fault =>
    ⟨.warn, interpreter, "flushing builtin output failed", [("error", fault.message)]⟩
  | usageNotWritten name fault => ⟨.warn, builtin, "writing usage failed",
      [("builtin", Text.quote name), ("error", fault.message)]⟩
  | allocatedPipeline stages pipes => ⟨.debug, executor, "allocated pipeline",
      [("stages", toString stages), ("pipes", toString pipes)]⟩
  | redirectionFailed stage error => ⟨.warn, executor, "redirection failed, stage skipped",
      [("stage", toString stage), ("error", error.message)]⟩
  | forkFailed stage errno => ⟨.warn, executor, "fork failed",
      [("stage", toString stage), ("error", errno.named)]⟩
  | spawned stage pid program => ⟨.info, executor, "spawned stage",
      [("stage", toString stage), ("pid", toString pid), ("program", Text.quote program)]⟩
  | execFailed stage pid error => ⟨.debug, executor, "exec failed",
      [("stage", toString stage), ("pid", toString pid), ("error", error.message)]⟩
  | notTerminal pid notice => ⟨.debug, executor, "stage not terminal yet",
      [("pid", toString pid), ("status", notice.shown pid)]⟩
  | stageNotReaped pid error => ⟨.warn, executor, "could not reap stage",
      [("pid", toString pid), ("error", error.message)]⟩
  | failedStageNotReaped pid error => ⟨.warn, executor, "could not reap failed stage",
      [("pid", toString pid), ("error", error.message)]⟩
  | stageFinished stage status => ⟨.debug, executor, "stage finished",
      [("stage", toString stage), ("status", status.describe)]⟩
  | editingPrepared measure =>
    ⟨.debug, lineReader, "GraphemeClusterMode: " ++ measure.name, []⟩
  | plainTerminal => ⟨.debug, lineReader, "unsupported terminal", []⟩
  | noTerminal => ⟨.debug, lineReader, "stdin is not a tty", []⟩

end Event

end CommandShell
