import CommandShell.Machine.Script.Jobs
import CommandShell.Machine.Script.Redirecting
import CommandShell.Machine.Script.Source

/-!
# Processes of scripts

How an interpreter makes processes that go on with a part of its script, how what they write is
found out, and how a process of a script ends: what is to be done at the end of the script is done,
and the status is the code. How commands and texts are run is given.
-/

namespace CommandShell.Machine.Script

open Ascii Tool

/-- What is known about where a command stands. -/
structure Mode where
  /-- Whether nothing is left to be done behind it. -/
  isLast : Bool
  /-- Whether somebody looks at its status. -/
  isTested : Bool

namespace Mode

/-- Something is left, and nobody looks. -/
def plain : Mode := ⟨false, false⟩

/-- Somebody looks at the status. -/
def tested : Mode := ⟨false, true⟩

/-- Nothing is left. -/
def last : Mode := ⟨true, false⟩

/-- The same with something left. -/
def inner (m : Mode) : Mode := { m with isLast := false }

/-- The same with nothing left. -/
def atEnd (m : Mode) : Mode := { m with isLast := true }

end Mode

/-- Runs a command. -/
abbrev Runner := Command → Mode → Act Nat

/-! ### Texts -/

/-- Runs the lines of a script, `fuel` at most, and tells the status of the last command. -/
def runLines (run : Runner) (mode : Mode) (status : Nat) (source : Source) : Nat → Act Nat
  | 0 => pure status
  | fuel + 1 => do
    match ← source.next none with
    | (.ended, _) => return status
    | (.commands none _, source) => runLines run mode status source fuel
    | (.commands (some command) isLast, source) =>
      let status ← run command (if isLast then mode else mode.inner)
      if (← get).skip ≠ .nothing then return status
      runLines run mode status source fuel

/-- Runs a text. -/
def runText (run : Runner) (mode : Mode) (text : Bytes) : Act Nat :=
  runLines run mode 0 (.ofText text) endless

/-- Goes on behind what is skipped of a script. -/
def endReturn : Act Unit :=
  modify fun s => match s.skip with
    | .returning _ => { s with skip := .nothing }
    | _ => s

/-! ### The end -/

/-- Takes over the status that was kept where it counts, and skips nothing more. -/
def settle (reason : Leave) : Act Unit :=
  modify fun s =>
    let status := match s.keptStatus with
      | none => s.status
      | some kept => if reason = .exit || s.skip = .returning false then kept else s.status
    { s with status := status, keptStatus := none, skip := .nothing, loops := 0 }

/-- Undoes redirections until so many are left, or makes the last ones last. -/
def unwindRedirections (forgets : Bool) (depth : Nat) : Nat → Act Unit
  | 0 => pure ()
  | fuel + 1 => do
    if (← get).redirected.length ≤ depth then return
    closeRedirections forgets
    unwindRedirections forgets depth fuel

/-- Undoes redirections until so many are left. -/
def undoRedirections (depth : Nat) : Act Unit := do
  unwindRedirections false depth (← get).redirected.length

/-- Makes variables what they were until so many noted sets of them are left, `fuel` at most. -/
def closeFrames (depth : Nat) : Nat → Act Unit
  | 0 => pure ()
  | fuel + 1 => do
    if (← get).frames.length ≤ depth then return
    closeFrame
    closeFrames depth fuel

/-- Ends the process. What is to be done at the end of the script is done before. -/
def endProcess {α : Type} (run : Runner) (reason : Leave) : Act α := do
  undoRedirections 0
  settle reason
  let s ← get
  match s.traps.lookup 0 with
  | none => pure ()
  | some action =>
    set { s with keptStatus := some s.status, traps := s.traps.filter fun (n, _) => n ≠ 0 }
    match ← outcome (runText run .plain action) with
    | .ok _ =>
      modify fun s => { s with skip := .returning false }
      settle .ended
    | .error reason =>
      undoRedirections 0
      settle reason
  flush
  liftM (m := Program) (Program.exit (← get).status)

/-- Why something is over. -/
def reasonOf {α : Type} : Except Leave α → Leave
  | .ok _ => .ended
  | .error reason => reason

/-! ### Children -/

/-- What becomes of a process that was just made: it knows nothing of the jobs of the one that made
it. Nobody waits for one that runs behind, and it reads nothing if it is the first one of its
job. -/
def becomeChild (isBehind isFirst : Bool) : Act Unit := do
  let conversed := (← get).converses
  modify fun s => { s with isOutermost := false, jobs := [], redirected := [] }
  Signals.forget
  if conversed then Attention.renewAll
  if isBehind then
    ask (.dispose Attention.interrupt .ignored)
    ask (.dispose Attention.quit .ignored)
    if isFirst then
      ask (.close 0)
      let _ ← ask (.openFile (utf8 "/dev/null") .input)

/-- Makes a process that does something and ends. -/
def spawn (run : Runner) (isBehind isFirst : Bool) (act : Act Unit) : Act ProcessId := do
  match (← ask .fork : Option ProcessId) with
  | some pid => return pid
  | none =>
    endProcess run (reasonOf (← outcome (do
      becomeChild isBehind isFirst
      act)))

/-- Makes a pipe. -/
def makePipe : Act (Fd × Fd) := do
  match (← ask .makePipe : Except Errno (Fd × Fd)) with
  | .ok ends => return ends
  | .error _ => fail (utf8 "Pipe call failed")

/-- Moves a descriptor to another number. -/
def moveDescriptor (source goal : Fd) : Act Unit := do
  let _ ← ask (.duplicate source goal)
  ask (.close source)

/-- Reads until nothing is left, in `fuel` pieces at most. -/
def readToEnd (fd : Fd) (before : ByteArray) : Nat → Act ByteArray
  | 0 => pure before
  | fuel + 1 => do
    match ← insist (ask (.read fd pieceSize) : Act (Except Errno ByteArray)) with
    | .error _ => return before
    | .ok piece => if piece.isEmpty then return before else readToEnd fd (before ++ piece) fuel

/-- What a command writes. -/
def capture (run : Runner) (command : Option Command) : Act Bytes := do
  match command with
  | none => return []
  | some command =>
    let (reader, writer) ← makePipe
    let _ ← Jobs.makePlace
    let pid ← spawn run false false (do
      ask (.close reader)
      if writer ≠ 1 then moveDescriptor writer 1
      let _ ← run command .last)
    ask (.close writer)
    let output ← readToEnd reader .empty endless
    ask (.close reader)
    let status ← Jobs.awaitAll 0 [pid]
    modify fun s => { s with replacedStatus := status }
    return output.toList

/-- Makes the processes of a pipeline. The descriptor from which the next one reads is given. -/
def spawnStages (run : Runner) (mode : Mode) (isBehind : Bool) (source : Option Fd) :
    List Command → Act (List ProcessId)
  | [] => pure []
  | stage :: rest => do
    let pipe ← if rest.isEmpty then pure none else some <$> makePipe
    let pid ← spawn run isBehind source.isNone (do
      match pipe with
      | some (reader, _) => ask (.close reader)
      | none => pure ()
      match source with
      | some fd => if fd ≠ 0 then moveDescriptor fd 0
      | none => pure ()
      match pipe with
      | some (_, writer) => if 1 < writer then moveDescriptor writer 1
      | none => pure ()
      let _ ← run stage mode.atEnd)
    match source with
    | some fd => ask (.close fd)
    | none => pure ()
    match pipe with
    | some (_, writer) => ask (.close writer)
    | none => pure ()
    return pid :: (← spawnStages run mode isBehind (pipe.map (·.1)) rest)

end CommandShell.Machine.Script
