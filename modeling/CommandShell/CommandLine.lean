import CommandShell.Arguments
import CommandShell.Loop

/-!
# The command line of the shell

The shell runs a single line that is given as an argument, or the lines of its standard input. Its
exit code is what remains of the status of the last line when it is divided by 256, or a number of
its own if the shell has come down. Main statement: an exit code lies between 0 and 255
(`exitCode_lt`).
-/

namespace CommandShell

open Shell

/-- What the arguments of the shell say. -/
structure Options where
  /-- The line to be run. -/
  command : Option String
  /-- The level of the log. -/
  level : Option LogLevel
  /-- The template of the prompt. -/
  prompt : Option String
  deriving DecidableEq, Repr

namespace Options

/-- The template of the prompt if none is given. -/
def defaultPrompt : String := "\x7bcwd\x7d> "

/-- The template of the prompt that counts. -/
def promptTemplate (o : Options) : String := o.prompt.getD defaultPrompt

/-- The usage text of the shell. -/
def usage : String :=
  "Usage: pipesh [-c <command>] [--log-level <log-level>] [--prompt <prompt>]\n\n" ++
  "A small interactive shell: builtins, pipes and `<` / `>` redirections.\n\n" ++
  "Options:\n" ++
  "  -c, --command     run a single command line and exit with its status\n" ++
  "  --log-level       log verbosity: error, warn, info, debug or trace (default:\n" ++
  "                    $PIPESH_LOG, then warn)\n" ++
  "  --prompt          prompt template; `\x7bcwd\x7d` is replaced with the working\n" ++
  "                    directory\n" ++
  "  --help, help      display usage information\n"

/-- The option that gives the line to be run. -/
def commandRule : OptionRule Options :=
  ⟨["-c", "--command"], fun o => o.command.isSome,
    fun o text => .ok { o with command := some text }⟩

/-- The option that gives the level of the log. -/
def levelRule : OptionRule Options :=
  ⟨["--log-level"], fun o => o.level.isSome,
    fun o text => (LogLevel.read text).map fun level => { o with level := some level }⟩

/-- The option that gives the template of the prompt. -/
def promptRule : OptionRule Options :=
  ⟨["--prompt"], fun o => o.prompt.isSome, fun o text => .ok { o with prompt := some text }⟩

/-- The arguments that the shell takes. -/
def grammar : Grammar Options :=
  ⟨[commandRule, levelRule, promptRule], [], ⟨none, none, none⟩, usage⟩

/-- Reads the arguments of the shell. -/
def read (arguments : List String) : Except ArgumentFault (Request Options) :=
  grammar.read arguments

end Options

/-- The level of the log: that of the arguments, or else that of the environment if it names one, or
else warnings. -/
def chooseLevel (argument : Option LogLevel) (environment : Option String) : LogLevel :=
  match argument with
  | some level => level
  | none =>
    match environment.map LogLevel.read with
    | some (.ok level) => level
    | _ => .warn

/-- The exit code that a status makes. -/
def exitCode (status : Int) : Nat := (status % 256).toNat

/-- An exit code lies between 0 and 255. -/
theorem exitCode_lt (status : Int) : exitCode status < 256 := by
  have h := Int.emod_lt_of_pos status (show (0 : Int) < 256 by decide)
  rw [exitCode]
  omega

/-- What the shell finds in its environment. -/
structure Environment where
  /-- The level of the log. -/
  logLevel : Option String
  /-- The terminal. -/
  terminal : LineSource.Terminal

namespace CommandLine

variable {σ : Type}

/-- What is told to the user about arguments that were refused. -/
def refusal (fault : ArgumentFault) : String :=
  fault.message ++ "\nRun pipesh --help for more information.\n"

/-- What is told to the user when reading lines has failed. -/
def readFailure (fault : Fault) : String :=
  "Error: " ++ fault.message ++ "\n\nCaused by:\n    " ++ fault.message ++ "\n"

/-- The exit code of a shell that ends by itself, or that of one that has come down. -/
def leaveWith (code : Nat) : Shell σ Nat := do
  if ← isDown then return exitCode Outcome.down.status else return code

variable [Kernel σ]

/-- Runs the shell with options, and gives its exit code. -/
def runOptions (options : Options) (environment : Environment) : Shell σ Nat := do
  modify fun s =>
    { s with log := { s.log with threshold := chooseLevel options.level environment.logLevel } }
  match options.command with
  | some line => leaveWith (exitCode (← Interpreter.standard.runScript [line]))
  | none =>
    note (.editingPrepared environment.terminal.measure)
    let source := LineSource.standardInput environment.terminal
    match ← Interpreter.standard.loop source options.promptTemplate [] with
    | .ok status => leaveWith (exitCode status)
    | .error fault =>
      offer standardError (readFailure fault)
      return 1

/-- Runs the shell with arguments, and gives its exit code. -/
def run (arguments : List String) (environment : Environment) : Shell σ Nat := do
  match Options.read arguments with
  | .error fault =>
    complain (refusal fault)
    leaveWith 1
  | .ok .help =>
    print standardOutput (Options.usage ++ "\n")
    leaveWith 0
  | .ok (.run options) => runOptions options environment

end CommandLine

end CommandShell
