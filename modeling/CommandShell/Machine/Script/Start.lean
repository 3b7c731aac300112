import CommandShell.Machine.Script.Conversation

/-!
# Starting an interpreter

How an interpreter is started: its arguments turn settings on and name the script, or hold it, and
its variables come from the outside.
-/

namespace CommandShell.Machine.Script

open Ascii Tool

/-- The name under which an interpreter complains before it knows its own. -/
def usualName : Bytes := utf8 "sh"

/-- Variables with their values at the start. -/
def usualVariables : List (Bytes × Variable) :=
  [("IFS", " \t\n"), ("PATH", "/usr/local/sbin:/usr/local/bin:/usr/sbin:/usr/bin:/sbin:/bin"),
    ("PS1", "# "), ("PS2", "> "), ("PS4", "+ "), ("OPTIND", "1")].map fun (name, value) =>
    (utf8 name, ⟨some (utf8 value), false, false⟩)

/-- A session that knows nothing but some processes. -/
def Session.fresh (root parent : ProcessId) : Session where
  name := usualName
  line := 0
  running := none
  status := 0
  replacedStatus := 0
  variableTable := usualVariables
  positional := []
  optionPlace := ⟨1, none⟩
  frames := []
  definitions := []
  aliases := []
  locations := []
  settings := []
  traps := []
  pending := []
  skip := .nothing
  loops := 0
  depth := 0
  stack := 0
  keptStatus := none
  root := root
  parent := parent
  lastBackground := none
  jobs := []
  isOutermost := true
  directory := none
  documents := []
  nextDocument := 0
  collected := .empty
  failed := false
  redirected := []
  readLine := 0
  isAtEnd := false

/-! ### Variables -/

/-- Takes variables over from the outside. What is no name is left away. -/
def importVariables (bindings : Variables) : Act Unit :=
  modify fun s => { s with
    variableTable := bindings.foldl (fun table (name, value) =>
      if isName name then assign name ⟨some value, true, false⟩ table else table)
      s.variableTable }

/-- Gives a variable a value that does not come from the outside. -/
def giveValue (name : String) (value : Bytes) : Act Unit :=
  modify fun s =>
    let old := (s.named? (utf8 name)).getD ⟨none, false, false⟩
    let new := { old with value := some value }
    { s with variableTable := assign (utf8 name) new s.variableTable }

/-- The path of the working directory that a variable holds, if it leads there. -/
def rememberedDirectory : Act (Option Bytes) := do
  match (← get).valueOf? Directories.current with
  | none => return none
  | some path =>
    if !isAbsolute path then return none
    match (← ask (.inspect path true) : Except Errno FileFacts),
        (← ask (.inspect dot true) : Except Errno FileFacts) with
    | .ok there, .ok here => return if there.node = here.node then some path else none
    | _, _ => return none

/-- Gets a session ready. -/
def prepare (bindings : Variables) : Act Unit := do
  importVariables bindings
  giveValue "IFS" fieldBlanks
  giveValue "OPTIND" (decimal 1)
  giveValue "PPID" (decimal (← get).parent)
  Directories.remember (← rememberedDirectory) false

/-! ### Arguments -/

/-- Sets the positional parameters, and the name under which the interpreter complains. -/
def setParameters (name : Option Bytes) (parameters : List Bytes) : Act Unit := do
  match name with
  | some name => modify fun s => { s with name := name }
  | none => pure ()
  Settings.setPositional parameters

/-- Where the script is read from that arguments behind the settings name or hold; a text, if they
hold one, and what is read behind it or otherwise. -/
def sourceOf (isText : Bool) (rest : List Bytes) : Act (Option Bytes × Option Source) := do
  match isText, rest with
  | true, [] => fail (utf8 "-c requires an argument")
  | true, text :: rest =>
    let readsInput := (← get).has .standardInput
    setParameters rest.head? rest.tail
    return (some text, if readsInput then some (.ofFd 0) else none)
  | false, rest =>
    if (← get).has .standardInput || rest.isEmpty then
      modify fun s => s.withSetting .standardInput true
      setParameters none rest
      return (none, some (.ofFd 0))
    let path := rest.headD []
    let fd ← setAside (← openOr refuseInput path .input)
    setParameters (some path) rest.tail
    return (none, some (.ofFd fd))

/-- Runs the commands in the file at a path in which parameters and commands are replaced, if there
is such a file. -/
def runProfile (run : Runner) (path : Bytes) : Act Unit := do
  let path ← Prompt.expandTemplate (capture run) path
  match (← ask (.openFile path .input) : Except Errno Fd) with
  | .error _ => return
  | .ok fd =>
    let _ ← runOpened run (← setAside fd)

/-- Runs the commands that users want to be run before others. -/
def runProfiles (run : Runner) (isLogin : Bool) : Act Unit := do
  if isLogin then
    let _ ← attempt (runProfile run (utf8 "/etc/profile"))
    let _ ← attempt (runProfile run (utf8 "$HOME/.profile"))
  let s ← get
  if s.has .interactive then
    match s.valueOf? (utf8 "ENV") with
    | none | some [] => return
    | some path =>
      let _ ← attempt (runProfile run path)

/-- Whether the user has just logged in if an interpreter has a name. -/
def isLoginName (name : Bytes) : Bool := name.head? = some minus

/-- Turns job control on together with conversation, unless the arguments say otherwise. -/
def adaptSettings (o : Settings.Outcome) : Act Unit := do
  let s ← get
  if s.has .interactive && !o.dropped.contains .monitor then Settings.turn .monitor true
  if s.converses then Attention.renewAll
  Settings.withoutControl

/-- Runs the script that arguments name or hold. -/
def runArguments (arguments : List Bytes) (bindings : Variables) : Act Unit := do
  prepare bindings
  let name := arguments.headD usualName
  modify fun s => { s with name := name }
  let o ← Settings.turnAll true arguments.tail
  flush
  let (text, source) ← sourceOf o.isText o.rest
  adaptSettings o
  runProfiles runCommand (o.isLogin || isLoginName name)
  let done ← match text with
    | none => pure true
    | some text => do
      let goesOn := source.isSome || (← get).has .interactive
      let mode := if goesOn then Mode.plain else Mode.last
      let status ← attempt (runText runCommand mode text)
      pure status.isSome
  match source with
  | some source => converse runCommand source 0 endless
  | none => if !done then converse runCommand (.ofFd 0) 0 endless

/-- Interprets a script. -/
def interpret (arguments : List Bytes) (bindings : Variables) : Task := do
  let root : ProcessId ← Program.ask .self
  let parent : ProcessId ← Program.ask .parent
  let whole : Act Nat := do
    endProcess runCommand (reasonOf (← outcome (runArguments arguments bindings)))
  let (_, s) ← whole.run.run (.fresh root parent)
  return s.status

end CommandShell.Machine.Script
