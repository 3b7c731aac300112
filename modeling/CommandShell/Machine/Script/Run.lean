import CommandShell.Machine.Script.Simple

/-!
# Running commands

How commands are run that are put together from others. Each one leads to a status; one that fails
where nobody looks at its status can break the script off. Between commands is done what is to be
done for the signals that have come.
-/

namespace CommandShell.Machine.Script

open Ascii Tool

/-! ### Signals -/

/-- Does what is to be done for some signals; the status stays what it was. -/
def answerSignals (run : Runner) (status : Nat) : List Nat → Act Unit
  | [] => pure ()
  | signal :: rest => do
    let s ← get
    if s.skip ≠ .nothing then set { s with pending := signal :: rest ++ s.pending }
    else
      match s.traps.lookup signal with
      | none => pure ()
      | some action =>
        let _ ← onStack answerSize (runText run .plain action)
        if (← get).skip ≠ .returning true then modify fun s => { s with status := status }
      answerSignals run status rest

/-- Does what is to be done for the signals that have come. -/
def runTraps (run : Runner) : Act Unit := do
  if Attention.isPaid (← get) then
    noteSignals
    Attention.heedInterrupt
  let s ← get
  if s.pending.isEmpty then return
  let status := s.keptStatus.getD s.status
  set { s with pending := [], keptStatus := some status }
  answerSignals run status s.pending.mergeSort
  modify fun state => { state with keptStatus := s.keptStatus }

/-! ### Loops -/

/-- How a loop goes on. -/
inductive Course where
  /-- As if nothing had been skipped. -/
  | onward
  /-- With its next turn. -/
  | again
  /-- Not at all. -/
  | over
  /-- Not at all, since a named command or a file is left. -/
  | left
  deriving DecidableEq

/-- How a loop goes on behind one of its parts, and what is left to be skipped outside of it. -/
def course : Skip → Course × Skip
  | .nothing => (.onward, .nothing)
  | .breaking n => (.over, if n ≤ 1 then .nothing else .breaking (n - 1))
  | .continuing n => if n ≤ 1 then (.again, .nothing) else (.over, .continuing (n - 1))
  | .returning hasStatus => (.left, .returning hasStatus)

/-- Takes one loop off what is skipped, and tells how the loop goes on. -/
def passLoop : Act Course := do
  let s ← get
  let (c, skip) := course s.skip
  set { s with skip := skip }
  return c

/-- Repeats a command as long as another one succeeds, or fails, `fuel` times at most. -/
def runLoop (run : Runner) (mode : Mode) (opposite : Bool) (test body : Command) (status : Nat) :
    Nat → Act Nat
  | 0 => pure status
  | fuel + 1 => do
    ask .pause
    let tested ← run test .tested
    match ← passLoop with
    | .left => return tested
    | .over => return status
    | .again => runLoop run mode opposite test body status fuel
    | .onward =>
      if (tested = 0) = opposite then return status
      let status ← run body mode.inner
      match ← passLoop with
      | .onward | .again => runLoop run mode opposite test body status fuel
      | _ => return status

/-- Repeats a command for each of some words. -/
def runForEach (run : Runner) (mode : Mode) (name : Bytes) (body : Command) (status : Nat) :
    List Bytes → Act Nat
  | [] => pure status
  | word :: rest => do
    ask .pause
    setVariable name word false
    let status ← run body mode.inner
    match ← passLoop with
    | .onward | .again => runForEach run mode name body status rest
    | _ => return status

/-- Runs a loop. -/
def asLoop (loop : Act Nat) : Act Nat := do
  modify fun s => { s with loops := s.loops + 1 }
  let status ← loop
  modify fun s => { s with loops := s.loops - 1 }
  return status

/-! ### Choices -/

/-- Whether a word matches one of some patterns. -/
def matchesAny (capture : Capture) (subject : Bytes) : List Word → Act Bool
  | [] => pure false
  | pattern :: rest => do
    if isMatch (← expandPattern capture pattern) subject then return true
    matchesAny capture subject rest

/-- Runs the first case that a word matches. -/
def runCases (run : Runner) (mode : Mode) (subject : Bytes) : List Case → Act Nat
  | [] => pure 0
  | .mk patterns body :: rest => do
    if !(← matchesAny (capture run) subject patterns) then runCases run mode subject rest
    else match body with
      | some body => if (← get).skip = .nothing then run body mode else return 0
      | none => return 0

/-! ### Processes -/

/-- Runs a command in a process of its own, or in this one if nothing is left to be done. -/
def runSubshell (run : Runner) (mode : Mode) (line : Nat) (body : Command)
    (redirections : List Redirection) : Act Nat := do
  modify fun s => { s with line := line }
  let goals ← resolveTargets (capture run) redirections
  let act (mode : Mode) : Act Unit := do
    modify fun s => { s with redirected := [] }
    redirect (capture run) goals
    let _ ← run body mode.atEnd
  if mode.isLast && !Attention.areAwaited (← get) then
    act mode
    leave .ended
  let _ ← Jobs.makePlace
  Jobs.awaitAll 0 [← spawn run false false (act mode)]

/-- Runs a command in a process of its own for which nobody waits. -/
def runBehind (run : Runner) (line : Nat) (body : Command) (redirections : List Redirection) :
    Act Nat := do
  modify fun s => { s with line := line }
  let goals ← resolveTargets (capture run) redirections
  let number ← Jobs.makePlace
  let pid ← spawn run true true (do
    redirect (capture run) goals
    let _ ← run body .last)
  Jobs.add number [pid]
  return 0

/-- Runs commands of which each one reads what the one in front of it writes. -/
def runPipeline (run : Runner) (mode : Mode) (isBehind : Bool) (stages : List Command) :
    Act Nat := do
  let number ← Jobs.makePlace
  let pids ← spawnStages run mode isBehind none stages
  if isBehind then
    Jobs.add number pids
    return 0
  Jobs.awaitAll 0 pids

/-- Runs a command with redirections. -/
def runRedirected (run : Runner) (mode : Mode) (line : Nat) (body : Command)
    (redirections : List Redirection) : Act Nat := do
  modify fun s => { s with line := line }
  let capture := capture run
  let goals ← resolveTargets capture redirections
  let depth := (← get).redirected.length
  openRedirections
  let status ← redirectSafely capture goals
  let status ← if status = 0 then run body mode.inner else pure status
  undoRedirections depth
  return status

/-! ### All commands -/

/-- What a command leads to: a status that is to be kept, if there is one, and whether it breaks the
script off if it tells a failure. -/
structure Effect where
  /-- The status. -/
  status : Option Nat
  /-- Whether it counts as that of a command alone. -/
  isChecked : Bool

/-- A status that is kept. -/
def Effect.kept (status : Nat) : Effect := ⟨some status, false⟩

/-- A status that is kept and counts. -/
def Effect.checked (status : Nat) : Effect := ⟨some status, true⟩

/-- No other status than there was. -/
def Effect.none : Effect := ⟨Option.none, false⟩

/-- Runs a second command if the first one had a certain outcome. -/
def runSecond (run : Runner) (mode : Mode) (goesOn : Nat → Bool) (status : Nat)
    (second : Command) : Act Effect := do
  if !goesOn status || (← get).skip ≠ .nothing then return .none
  return .kept (← run second mode)

/-- Runs a command. How the commands in it are run is given. -/
def step (run : Runner) (command : Command) (mode : Mode) : Act Effect := do
  match command with
  | .simple line assignments words redirections =>
    return .checked (← runSimple run mode line assignments words redirections)
  | .pipeline stages isBehind => return .checked (← runPipeline run mode isBehind stages)
  | .subshell line body redirections =>
    return .checked (← runSubshell run mode line body redirections)
  | .background line body redirections =>
    return .checked (← runBehind run line body redirections)
  | .redirected line body redirections =>
    return .kept (← runRedirected run mode line body redirections)
  | .sequence first second =>
    runSecond run mode (fun _ => true) (← run first mode.inner) second
  | .both first second => runSecond run mode (· = 0) (← run first .tested) second
  | .either first second => runSecond run mode (· ≠ 0) (← run first .tested) second
  | .negation command =>
    let status ← run command .tested
    if (← get).skip ≠ .nothing then return .none
    return .kept (if status = 0 then 1 else 0)
  | .conditional test yes no =>
    let status ← run test .tested
    if (← get).skip ≠ .nothing then return .none
    if status = 0 then return .kept (← run yes mode)
    match no with
    | some no => return .kept (← run no mode)
    | none => return .kept 0
  | .loop opposite test body =>
    return .kept (← asLoop (runLoop run mode opposite test body 0 endless))
  | .forEach line name words body =>
    modify fun s => { s with line := line }
    let fields ← expandRest (capture run) false words
    return .kept (← asLoop (runForEach run mode name body 0 fields))
  | .choice line subject cases =>
    modify fun s => { s with line := line }
    let text ← expandText (capture run) subject
    return .kept (← runCases run mode text cases)
  | .definition name body =>
    modify fun s => { s with
      definitions := assign name body s.definitions
      locations := remove name s.locations }
    return .kept 0

/-- Runs a command, with a nesting of `fuel` at most. -/
def runWithin : Nat → Runner
  | 0, _, _ => pure 0
  | fuel + 1, command, mode => do
    let run := runWithin fuel
    let s ← get
    let isStrict := s.has .errorExit && !mode.isTested
    let effect ← if s.has .noExec then pure Effect.none else do
      runTraps run
      step run command mode
    match effect.status with
    | some status => modify fun s => { s with status := status }
    | none => pure ()
    runTraps run
    if effect.isChecked && isStrict && effect.status.getD 0 ≠ 0 then leave .ended
    if mode.isLast then leave .ended
    return (← get).status

/-- Runs a command. -/
def runCommand : Runner := runWithin endless

end CommandShell.Machine.Script
