import CommandShell.Text.Trim

/-!
# Command-line arguments

A command takes options, each of which has a value, and positional arguments. Its arguments are
scanned from the left: `help` and `--help` ask for its usage text, `--` ends the options, an option
takes whatever follows as its value, and anything else fills the next position. The first fault
ends the scan. Main statements: each kind of argument has one equation, and an argument that asks
for the usage text leaves what was read so far as it was (`scan_help`).
-/

namespace CommandShell

/-- Why the arguments of a command were refused. -/
inductive ArgumentFault where
  /-- An option follows a request for the usage text. -/
  | trailingAfterHelp
  /-- The command has no such option, or no position left. -/
  | unrecognized (argument : String)
  /-- An option is the last argument. -/
  | missingValue (option : String)
  /-- The value of an option makes no sense. -/
  | badOption (option value reason : String)
  /-- The argument in a position makes no sense. -/
  | badPositional (name value reason : String)
  deriving DecidableEq, Repr

/-- The wording of a fault. -/
def ArgumentFault.message : ArgumentFault → String
  | trailingAfterHelp => "Trailing arguments are not allowed after `help`."
  | unrecognized argument => "Unrecognized argument: " ++ argument ++ "\n"
  | missingValue option => "No value provided for option '" ++ option ++ "'.\n"
  | badOption option value reason =>
    "Error parsing option '" ++ option ++ "' with value '" ++ value ++ "': " ++ reason ++ "\n"
  | badPositional name value reason =>
    "Error parsing positional argument '" ++ name ++ "' with value '" ++ value ++ "': " ++ reason ++
      "\n"

/-- An option of a command that reads its arguments into an `α`. -/
structure OptionRule (α : Type) where
  /-- The spellings of the option. -/
  names : List String
  /-- Whether the option was given already. -/
  isGiven : α → Bool
  /-- Stores a value, unless it makes no sense. -/
  store : α → String → Except String α

/-- A position of a command that reads its arguments into an `α`. -/
structure PositionalRule (α : Type) where
  /-- What the argument is called. -/
  name : String
  /-- Stores an argument, unless it makes no sense. -/
  store : α → String → Except String α

/-- The arguments that a command takes. -/
structure Grammar (α : Type) where
  /-- The options, in no particular order. -/
  options : List (OptionRule α)
  /-- The positions, in order. -/
  positionals : List (PositionalRule α)
  /-- What is read from no arguments at all. -/
  start : α
  /-- The usage text. -/
  usage : String

/-- What the arguments of a command ask for. -/
inductive Request (α : Type) where
  /-- To run the command. -/
  | run (arguments : α)
  /-- To show its usage text. -/
  | help

/-- How far a scan has come. -/
structure ScanState (α : Type) where
  /-- What was read so far. -/
  value : α
  /-- The positions that are left. -/
  vacant : List (PositionalRule α)
  /-- Whether the usage text was asked for. -/
  help : Bool
  /-- Whether the options have ended. -/
  ended : Bool

namespace Grammar

variable {α : Type}

/-- The reason for refusing an option that was given before. -/
def duplicateValue : String := "duplicate values provided"

/-- Whether an argument asks for the usage text. -/
def asksForHelp (argument : String) : Bool := argument == "--help" || argument == "help"

/-- Whether an argument has the form of an option. -/
def isOption (argument : String) : Bool := argument.toList.head? == some '-'

/-- The option that has a spelling. -/
def option? (g : Grammar α) (name : String) : Option (OptionRule α) :=
  g.options.find? (·.names.contains name)

/-- Stores the value of an option. -/
def storeOption (rule : OptionRule α) (value : α) (name text : String) :
    Except ArgumentFault α :=
  if rule.isGiven value then .error (.badOption name text duplicateValue)
  else match rule.store value text with
    | .error reason => .error (.badOption name text reason)
    | .ok stored => .ok stored

/-- Stores the argument of the next position. -/
def storePositional (s : ScanState α) (text : String) : Except ArgumentFault (ScanState α) :=
  match s.vacant with
  | [] => .error (.unrecognized text)
  | rule :: rest =>
    match rule.store s.value text with
    | .error reason => .error (.badPositional rule.name text reason)
    | .ok stored => .ok { s with value := stored, vacant := rest }

/-- Scans arguments. -/
def scan (g : Grammar α) (s : ScanState α) : List String → Except ArgumentFault (ScanState α)
  | [] => .ok s
  | argument :: rest =>
    if !s.ended && asksForHelp argument then scan g { s with help := true } rest
    else if !s.ended && isOption argument then
      if argument == "--" then scan g { s with ended := true } rest
      else if s.help then .error .trailingAfterHelp
      else match g.option? argument with
        | none => .error (.unrecognized argument)
        | some rule =>
          match rest with
          | [] => .error (.missingValue argument)
          | text :: rest =>
            match storeOption rule s.value argument text with
            | .error fault => .error fault
            | .ok stored => scan g { s with value := stored } rest
    else
      match storePositional s argument with
      | .error fault => .error fault
      | .ok s => scan g s rest

/-- Reads the arguments of a command. -/
def read (g : Grammar α) (arguments : List String) : Except ArgumentFault (Request α) :=
  match g.scan ⟨g.start, g.positionals, false, false⟩ arguments with
  | .error fault => .error fault
  | .ok s => .ok (if s.help then .help else .run s.value)

/-- A request for the usage text changes nothing else. -/
theorem scan_help (g : Grammar α) (s : ScanState α) (argument : String) (rest : List String)
    (he : s.ended = false) (ha : asksForHelp argument = true) :
    g.scan s (argument :: rest) = g.scan { s with help := true } rest := by
  rw [scan.eq_def]
  simp [he, ha]

/-- The word that ends the options ends them once. -/
theorem scan_end (g : Grammar α) (s : ScanState α) (rest : List String) (he : s.ended = false) :
    g.scan s ("--" :: rest) = g.scan { s with ended := true } rest := by
  rw [scan.eq_def]
  simp [he, asksForHelp, isOption]

/-- After the end of the options every argument fills a position. -/
theorem scan_ended (g : Grammar α) (s : ScanState α) (argument : String) (rest : List String)
    (he : s.ended = true) :
    g.scan s (argument :: rest) = match storePositional s argument with
      | .error fault => .error fault
      | .ok s => g.scan s rest := by
  rw [scan.eq_def]
  simp [he]

end Grammar

end CommandShell
