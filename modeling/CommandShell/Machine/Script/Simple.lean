import CommandShell.Machine.Script.Condition
import CommandShell.Machine.Script.Directories
import CommandShell.Machine.Script.Input
import CommandShell.Machine.Script.Limits
import CommandShell.Machine.Script.Locating
import CommandShell.Machine.Script.Printing
import CommandShell.Machine.Script.Process
import CommandShell.Machine.Script.Prompt

/-!
# Simple commands

How a command is run that consists of assignments, words and redirections: its words are expanded,
its descriptors are redirected, its assignments are made, and then a program is started, a command
of the interpreter is performed or a named command is run. How other commands are run is given.
-/

namespace CommandShell.Machine.Script

open Ascii Tool

/-! ### Words -/

/-- The words of a command. -/
structure Words where
  /-- What was passed over in front of what is run. -/
  passed : List Bytes
  /-- What is run. -/
  fields : List Bytes
  /-- What was not expanded yet. -/
  rest : List Word

/-- What is known about what a command runs. -/
structure Selection where
  /-- What the first word stands for, if that is known. -/
  found : Option Found
  /-- Where it is looked for. -/
  scope : Locating.Scope
  /-- Whether the first command of the interpreter among the words is special. -/
  isSpecial : Option Bool
  /-- Whether further words can be assignments. -/
  takesAssignments : Bool
  /-- Whether redirections last. -/
  isLasting : Bool

/-- Expands words up to the first one that leads to something. -/
def firstFields (capture : Capture) : List Word → Act (List Bytes × List Word)
  | [] => pure ([], [])
  | word :: rest => do
    let fields ← expandFields capture word
    if fields.isEmpty then firstFields capture rest else return (fields, rest)

/-- Sees to it that there is something behind the first word, if possible. -/
def withNext (capture : Capture) (w : Words) : Act Words := do
  if !w.fields.tail.isEmpty then return w
  let (fields, rest) ← firstFields capture w.rest
  return { w with fields := w.fields ++ fields, rest := rest }

/-- Passes over the first word. -/
def Words.pass (w : Words) : Words :=
  { w with passed := w.passed ++ w.fields.take 1, fields := w.fields.tail }

/-- Passes over the options behind a word that only says how the next one is looked for, `fuel` of
them at most. The search path is told, unless there is no next word or the options ask for something
else. -/
def passOptions (capture : Capture) (w : Words) (path : Option Bytes) :
    Nat → Act (Option (Option Bytes) × Words)
  | 0 => pure (none, w)
  | fuel + 1 => do
    let w ← withNext capture w
    match w.fields.tail with
    | [] => return (none, w)
    | (minus :: letter :: letters) :: _ =>
      if letter = minus && letters.isEmpty then
        let w ← withNext capture w.pass
        if w.fields.tail.isEmpty then return (none, w) else return (some path, w.pass)
      else if (letter :: letters).all (· = byteOf 'p') then
        passOptions capture w.pass (some Locating.usualPath) fuel
      else return (none, w)
    | _ => return (some path, w.pass)

/-- All words again from the place at which some stood. -/
def Words.from (w : Words) (place : Nat) : Words :=
  let all := w.passed ++ w.fields
  { w with passed := all.take place, fields := all.drop place }

/-- Finds out what the first one of some words stands for, `fuel` times at most if it says how the
next one is looked for. -/
def choose (capture : Capture) (w : Words) (c : Selection) : Nat → Act (Selection × Words)
  | 0 => pure (c, w)
  | fuel + 1 => do
    match w.fields with
    | [] => return (c, w)
    | name :: _ =>
      match Locating.known? (← get) c.scope name with
      | some (.builtin b) =>
        let c := { c with
          found := some (.builtin b)
          isSpecial := some (c.isSpecial.getD b.isSpecial)
          takesAssignments := b.takesAssignments
          isLasting := b = .execute }
        if b ≠ .command then return (c, w)
        match ← passOptions capture w none endless with
        | (none, passed) => return (c, passed.from w.passed.length)
        | (some path, passed) => choose capture passed { c with scope := ⟨false, path⟩ } fuel
      | found => return ({ c with found := found }, w)

/-- Nothing is known. -/
def Selection.start : Selection := ⟨none, .everywhere, none, false, false⟩

/-- Expands further words. Some of them can be assignments. -/
def expandRest (capture : Capture) (takesAssignments : Bool) : List Word → Act (List Bytes)
  | [] => pure []
  | word :: rest => do
    let fields ← if takesAssignments && isAssignment word then
        List.singleton <$> expandAssignment capture word
      else expandFields capture word
    return fields ++ (← expandRest capture takesAssignments rest)

/-! ### Commands of the interpreter -/

/-- Leaves loops, or goes on with the next turn of one. -/
def skipLoops (skip : Nat → Skip) (arguments : List Bytes) : Act Nat := do
  let n ← match arguments with
    | [] => pure 1
    | text :: _ => do
      let n ← requireCount text
      if n = 0 then refuseNumber text
      pure n
  let n := min n (← get).loops
  if 0 < n then modify fun s => { s with skip := skip n }
  return 0

/-- Leaves a named command or a file. -/
def returnFrom (arguments : List Bytes) : Act Nat := do
  match arguments with
  | [] =>
    modify fun s => { s with skip := .returning false }
    return (← get).status
  | text :: _ =>
    let n ← requireCount text
    modify fun s => { s with skip := .returning true }
    return n

/-- Ends the script. -/
def exitScript (arguments : List Bytes) : Act Nat := do
  match arguments with
  | [] => leave .exit
  | text :: _ =>
    let n ← requireCount text
    modify fun s => { s with keptStatus := some n }
    leave .exit

/-- The path of a file that holds commands. One without a slash is looked for in directories. -/
def findFile (name : Bytes) : List Bytes → Act Bytes
  | [] => fail (name ++ utf8 ": not found")
  | place :: rest => do
    let candidate := Locating.pathIn place name
    match (← ask (.inspect candidate true) : Except Errno FileFacts) with
    | .ok facts => if facts.kind = .regular then return candidate else findFile name rest
    | .error _ => findFile name rest

/-- Moves a descriptor out of the way of those that scripts name. -/
def setAside (fd : Fd) : Act Fd := do
  if leastKept ≤ fd then return fd
  return (← moveAway fd fd).getD fd

/-- The size of the stack. -/
def stackSize : Nat := 18000

/-- Does something that takes a part of the stack. The process crashes if nothing is left of it. -/
def onStack (size : Nat) (act : Act Nat) : Act Nat := do
  let taken := (← get).stack
  if stackSize < taken + size then liftM (m := Program) (Program.crash Signals.badAddress)
  modify fun s => { s with stack := taken + size }
  let result ← outcome act
  modify fun s => { s with stack := taken }
  match result with
  | .ok status => return status
  | .error reason => leave reason

/-- How much of the stack the answer to a signal takes. -/
def answerSize : Nat := 1

/-- How much of the stack a text of commands takes. -/
def textSize : Nat := 2

/-- How much of the stack a file of commands takes. -/
def fileSize : Nat := 3

/-- Runs the commands in an open file. -/
def runOpened (run : Runner) (fd : Fd) : Act Nat := do
  let result ← outcome (onStack fileSize (runLines run .plain 0 (.ofFd fd) endless))
  ask (.close fd)
  match result with
  | .error reason => leave reason
  | .ok status =>
    endReturn
    return status

/-- Runs the commands in a file. -/
def runFile (run : Runner) (arguments : List Bytes) : Act Nat := do
  let (_, operands) ← readOptions "" arguments
  match operands with
  | [] => return 0
  | name :: _ =>
    let path ← if name.contains slash then pure name
      else findFile name (splitAt colon (Locating.pathOf (← get)))
    let fd ← setAside (← openOr refuseInput path .input)
    modify fun s => { s with running := some path }
    runOpened run fd

/-- Goes on as another program, if there is one. -/
def execute (arguments : List Bytes) : Act Nat := do
  if arguments.isEmpty then return 0
  let conversed := (← get).converses
  modify fun s => (s.withSetting .interactive false).withSetting .monitor false
  if conversed then Attention.renewAll
  Locating.become arguments (Locating.pathOf (← get)) 0

/-- Performs a command of the interpreter, and tells the status. -/
def perform (run : Runner) (mode : Mode) (b : Builtin) (word : Bytes) (arguments : List Bytes) :
    Act Nat :=
  match b with
  | .aliasNames => Assigning.aliasAll arguments
  | .bracket => Condition.test true arguments
  | .changeDirectory => Directories.change arguments
  | .command => Locating.describeChosen arguments
  | .continueLoop => skipLoops .continuing arguments
  | .describe => Locating.describeAll arguments
  | .dot => runFile run arguments
  | .echo => Printing.echo arguments
  | .evaluate =>
    if arguments.isEmpty then pure 0
    else onStack textSize
      (runText run ⟨false, mode.isTested⟩ (List.intercalate [space] arguments))
  | .execute => execute arguments
  | .exit => exitScript arguments
  | .exportNames => Assigning.markAll .exported word arguments
  | .failure => pure 1
  | .getOption => Settings.getOption arguments
  | .hash => Locating.hash arguments
  | .jobs => Jobs.showAll arguments
  | .kill => Signals.kill arguments
  | .leaveLoop => skipLoops .breaking arguments
  | .limits => Limits.ulimit arguments
  | .localNames => Assigning.localizeAll arguments
  | .mask => Limits.umask arguments
  | .nothing | .success => pure 0
  | .printf => Printing.printf arguments
  | .readLine => Input.read arguments
  | .readonlyNames => Assigning.markAll .fixed word arguments
  | .resumeBehind | .resumeInFront => Jobs.resume arguments
  | .returnFrom => returnFrom arguments
  | .settings => Settings.configure arguments
  | .shift => Settings.shift arguments
  | .test => Condition.test false arguments
  | .times => Limits.times
  | .trap => Signals.trap arguments
  | .unaliasNames => Assigning.unaliasAll arguments
  | .unset => Assigning.unset arguments
  | .wait => Jobs.wait arguments
  | .workingDirectory => Directories.write arguments

/-- Writes what was put out, and complains if that is not possible. -/
def finishOutput (word : Bytes) (status : Nat) : Act Unit := do
  flush
  let s ← get
  if s.failed then warn (word ++ utf8 ": I/O error")
  modify fun s => { s with status := if s.failed then status ||| 1 else status }

/-- Does something as a command of the interpreter. An error in a special one breaks the script
off. -/
def asBuiltin (isSpecial : Bool) (word : Option Bytes) (act : Act Nat) : Act Nat := do
  let outer := (← get).running
  modify fun s => { s with running := word }
  let result ← outcome (do finishOutput (word.getD []) (← act))
  modify fun s => { s with collected := .empty, failed := false, running := outer }
  match result with
  | .ok () => return (← get).status
  | .error reason =>
    if reason = .error && !isSpecial then return (← get).status else leave reason

/-! ### Named commands -/

/-- How many named commands can run one inside of the other. -/
def mostNested : Nat := 1000

/-- Runs a named command with some parameters. -/
def runDefinition (run : Runner) (mode : Mode) (body : Command) (parameters : List Bytes) :
    Act Nat := do
  let outer ← get
  if mostNested ≤ outer.depth then
    fail (utf8 s!"Maximum function recursion depth ({mostNested}) reached")
  Settings.setPositional parameters
  modify fun s => { s with loops := 0, depth := s.depth + 1 }
  let result ← outcome (run body mode.inner)
  modify fun s => { s with
    positional := outer.positional
    optionPlace := outer.optionPlace
    loops := outer.loops
    depth := outer.depth }
  endReturn
  match result with
  | .ok _ => return (← get).status
  | .error reason => leave reason

/-! ### Programs -/

/-- Makes a process that goes on as a program. -/
def spawnProgram (words : List Bytes) (path : Bytes) (place : Nat) : Act ProcessId := do
  match (← ask .fork : Option ProcessId) with
  | some pid => return pid
  | none =>
    let conversed := (← get).converses
    modify fun s => { s with isOutermost := false }
    if conversed then Attention.renewAll
    let _ ← outcome (Locating.become words path place : Act Unit)
    liftM (m := Program) (Program.exit (← get).status)

/-- Runs a program and waits for it, or goes on as the program if nothing is left to be done. -/
def runProgram (mode : Mode) (words : List Bytes) (path : Bytes) (place : Nat) : Act Nat := do
  if mode.isLast && !Attention.areAwaited (← get) then Locating.become words path place
  else
    let _ ← Jobs.makePlace
    Jobs.awaitAll 0 [← spawnProgram words path place]

/-- Runs what a word stands for that is no command of the interpreter. -/
def runFound (run : Runner) (mode : Mode) (scope : Locating.Scope) (words : List Bytes) :
    Act Nat := do
  match ← Locating.find scope true (words.headD []) with
  | .unknown =>
    modify fun s => { s with status := 127 }
    return 127
  | .definition body => runDefinition run mode body words.tail
  | .program place =>
    runProgram mode words (scope.path.getD (Locating.pathOf (← get))) (place.getD 0)
  | .builtin b =>
    asBuiltin false words.head? (perform run mode b (words.headD []) words.tail)

/-! ### Assignments -/

/-- Makes the assignments of a command, and tells their texts. They pass with the command, or
last. -/
def assignAll (capture : Capture) (passes exports : Bool) : List Word → Act (List Bytes)
  | [] => pure []
  | word :: rest => do
    let text ← expandAssignment capture word
    let name := namePart text
    let value := text.drop (name.length + 1)
    if passes then
      keepVariable name
      setValue name value true
    else setValue name value exports
    return text :: (← assignAll capture passes exports rest)

/-! ### Traces -/

/-- The text in front of a command that is shown. Nothing is shown while it is found out. -/
def tracePrompt (capture : Capture) : Act Bytes := do
  modify fun s => s.withSetting .trace false
  let result ← outcome (Prompt.textOf capture "PS4")
  modify fun s => s.withSetting .trace true
  match result with
  | .ok text => return text
  | .error reason => leave reason

/-- Shows a command that is run, if that is wanted, where complaints went before it was
redirected. -/
def trace (capture : Capture) (words : List Bytes) : Act Unit := do
  let s ← get
  if !s.has .trace then return
  let prompt ← tracePrompt capture
  let fd := match (s.redirected.headD []).lookup 2 with
    | some (some kept) => kept
    | _ => 2
  let _ ← writeBytes fd (pack (prompt ++ List.intercalate [space] words ++ [newline]))

/-! ### The whole command -/

/-- Carries a command out whose words were expanded. -/
def carryOut (run : Runner) (mode : Mode) (c : Selection) (words : List Bytes) : Act Nat := do
  match c.found, words with
  | _, [] => asBuiltin false none do return (← get).replacedStatus
  | some (.builtin b), word :: arguments =>
    asBuiltin (c.isSpecial = some true) (some word) (perform run mode b word arguments)
  | _, words => runFound run mode c.scope words

/-- The variable that holds the last word of the last command while a user types them. -/
def lastWord : Bytes := utf8 "_"

/-- Remembers the last word of a command that a user has typed. -/
def rememberLast (typed : Bool) (fields : List Bytes) : Act Unit := do
  match fields.getLast? with
  | some word => if typed then setValue lastWord word false
  | none => return

/-- Runs a command of assignments, words and redirections. -/
def runSimple (run : Runner) (mode : Mode) (line : Nat) (assignments words : List Word)
    (redirections : List Redirection) : Act Nat := do
  modify fun s => { s with line := line, replacedStatus := 0 }
  let capture := capture run
  let (fields, rest) ← firstFields capture words
  let (c, w) ← choose capture ⟨[], fields, rest⟩ .start endless
  let fields := w.fields ++ (← expandRest capture c.takesAssignments w.rest)
  let isSpecial := c.isSpecial = some true
  let passes := !fields.isEmpty && !isSpecial
  let outer ← get
  if passes then openFrame
  let goals ← resolveTargets capture redirections
  openRedirections
  let status ← redirectSafely capture goals
  let isLasting := c.isLasting
  let status ← if status ≠ 0 then do
      modify fun s => { s with status := status }
      if isSpecial then leave .error
      pure status
    else do
      let texts ← assignAll capture passes (isLasting && 1 < fields.length) assignments
      trace capture (texts ++ w.passed ++ fields)
      carryOut run mode c fields
  undoRedirections (outer.redirected.length + 1)
  closeRedirections isLasting
  closeFrames outer.frames.length (← get).frames.length
  rememberLast (outer.has .interactive && outer.depth = 0) fields
  return status

end CommandShell.Machine.Script
