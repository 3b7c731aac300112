import CommandShell.Execution.Child
import CommandShell.Execution.Report
import CommandShell.Execution.StageIo
import CommandShell.Reading

/-!
# Starting the stages of a pipeline

The stages are started from left to right. A stage whose redirections cannot be opened, or whose
arguments cannot be passed on, is settled without a process and the others go on; a pipe or a
process that cannot be made stops the rest. The ends of the pipes are kept together until the stage
that an end belongs to takes it; an end that was taken is closed whichever way its stage goes.
-/

namespace CommandShell

open Shell

variable {σ : Type}

/-- The streams that a pipeline begins and ends with, when they are not the standard ones. -/
structure Streams where
  /-- The descriptor that the first stage reads from. -/
  input : Option Fd
  /-- The descriptor that the last stage writes to. -/
  output : Option Fd
  deriving DecidableEq, Repr

/-- The standard input and output of the shell. -/
def Streams.inherited : Streams := ⟨none, none⟩

/-- Where a stage stands once its process was made. -/
inductive StageState where
  /-- There is nothing more to wait for. -/
  | settled (outcome : StageOutcome)
  /-- The program of the stage runs. -/
  | running (pid : Pid)
  /-- The program could not be started, and the process has to be waited for. -/
  | execFailed (pid : Pid) (reason : String)
  deriving DecidableEq, Repr

/-- The ends of the pipes between the stages, each of them until a stage takes it. -/
structure PipeSet where
  /-- The ends from which is read, one for every pipe. -/
  readers : List (Option Fd)
  /-- The ends to which is written, one for every pipe. -/
  writers : List (Option Fd)
  deriving DecidableEq, Repr

namespace PipeSet

/-- No pipe at all. -/
def empty : PipeSet := ⟨[], []⟩

/-- The pipes with a new one behind them. -/
def push (pipes : PipeSet) (ends : PipeEnds) : PipeSet :=
  ⟨pipes.readers ++ [some ends.reader], pipes.writers ++ [some ends.writer]⟩

/-- The number of pipes, whether their ends were taken or not. -/
def size (pipes : PipeSet) : Nat := pipes.readers.length

/-- The ends that nobody has taken. -/
def ends (pipes : PipeSet) : List Fd := pipes.readers.filterMap id ++ pipes.writers.filterMap id

/-- Takes the end of a pipe from which is read. There is none if it was taken before. -/
def takeReader (pipes : PipeSet) (index : Nat) : Option Fd × PipeSet :=
  (pipes.readers[index]?.join, { pipes with readers := pipes.readers.set index none })

/-- Takes the end of a pipe to which is written. There is none if it was taken before. -/
def takeWriter (pipes : PipeSet) (index : Nat) : Option Fd × PipeSet :=
  (pipes.writers[index]?.join, { pipes with writers := pipes.writers.set index none })

/-- Takes the end that feeds a stage. The first stage is not fed by a pipe. -/
def takeInput (pipes : PipeSet) (index : Nat) : Option Fd × PipeSet :=
  if 0 < index then pipes.takeReader (index - 1) else (none, pipes)

/-- Takes the end that a stage feeds. The last stage does not feed a pipe. -/
def takeOutput (pipes : PipeSet) (last index : Nat) : Option Fd × PipeSet :=
  if index < last then pipes.takeWriter index else (none, pipes)

/-- Closes the ends that nobody has taken. -/
def close (pipes : PipeSet) : Shell σ Unit := closeAll pipes.ends

/-- Makes a number of pipes behind those that were made before. If one of them cannot be made, all
of them are closed again. -/
def allocate [Kernel σ] (made : PipeSet) : Nat → Shell σ (Except Errno PipeSet)
  | 0 => pure (.ok made)
  | count + 1 => do
    match ← makePipe with
    | .error errno =>
      made.close
      return .error errno
    | .ok ends => allocate (made.push ends) count

end PipeSet

variable [Kernel σ]

/-- Reads the error number that the process of a stage reports, if its program was not started. -/
def readReport (reader : Fd) : Shell σ (Option Errno) := do
  let state ← get
  match state.descriptors.get? reader with
  | none => return none
  | some slot =>
    match ← ask (readToEnd slot.target [] state.descriptors) with
    | .error _ => return none
    | .ok bytes => return Errno.ofBytes? bytes

/-- Makes the process of a stage with its descriptors, and learns whether its program was started.
The shell gives up what belongs to the process, since otherwise the report would never end, and then
the log tells of it, before the process itself can tell of anything. -/
def launchStage (streams : Streams) (index : Nat) (stage : Stage) (arguments : ArgumentVector)
    (io : StageIo) (report : PipeEnds) : Shell σ (Except ShellError StageState) := do
  match ← ask (Kernel.fork (← get).descriptors) with
  | .error errno =>
    note (.forkFailed index errno)
    report.close
    io.close
    return .error (.spawn index errno)
  | .ok pid =>
    let state ← get
    let child : Child := ⟨stage.program, arguments, io.input <|> streams.input,
      io.output <|> streams.output, report.writer⟩
    close report.writer
    io.close
    note (.spawned index pid stage.program)
    ask (child.run pid state.descriptors state.surroundings.directory)
    let failure ← readReport report.reader
    close report.reader
    match failure with
    | none => return .ok (.running pid)
    | some errno =>
      let error := ShellError.exec stage.program errno.systemText
      note (.execFailed index pid error)
      return .ok (.execFailed pid error.message)

/-- Starts a stage that has its descriptors. -/
def spawnStage (streams : Streams) (index : Nat) (stage : Stage) (io : StageIo) :
    Shell σ (Except ShellError StageState) := do
  match ArgumentVector.ofArguments stage.argv with
  | .error reason =>
    io.close
    return .ok (.settled (.finished (.startFailed reason)))
  | .ok arguments =>
    match ← makePipe with
    | .error errno =>
      io.close
      return .error (.spawn index errno)
    | .ok report => launchStage streams index stage arguments io report

/-- Opens the files of a stage and starts it. A stage whose files cannot be opened is left out. -/
def startStage (streams : Streams) (index : Nat) (stage : Stage) (pipedIn pipedOut : Option Fd) :
    Shell σ (Except ShellError StageState) := do
  match ← StageIo.acquire stage pipedIn pipedOut with
  | .error error =>
    note (.redirectionFailed index error)
    return .ok (.settled (.aborted error))
  | .ok io => spawnStage streams index stage io

/-- Starts the stages from `index` to `last`. Each of them takes the ends of its pipes first, so
that the shell gives them up whatever becomes of the stage. The states of the stages come with the
error that stopped the rest, if there was one, and with the ends that no stage has taken. -/
def spawnAll (streams : Streams) (last index : Nat) (pipes : PipeSet) :
    List Stage → Shell σ (List StageState × Option ShellError × PipeSet)
  | [] => pure ([], none, pipes)
  | stage :: rest => do
    let (pipedIn, pipes) := pipes.takeInput index
    let (pipedOut, pipes) := pipes.takeOutput last index
    match ← startStage streams index stage pipedIn pipedOut with
    | .error error => return ([], some error, pipes)
    | .ok state =>
      let (states, fault, pipes) ← spawnAll streams last (index + 1) pipes rest
      return (state :: states, fault, pipes)

end CommandShell
