import CommandShell.Text.LowerCase
import CommandShell.Text.Trim

/-!
# Log levels

The five levels of detail of the log, and how their names are read: white space around a name and
the case of its letters do not matter.
-/

namespace CommandShell

/-- How much of what happens is written to the log. -/
inductive LogLevel where
  | error
  | warn
  | info
  | debug
  | trace
  deriving DecidableEq, Repr, Inhabited

namespace LogLevel

/-- The name of a level. -/
def name : LogLevel → String
  | error => "error"
  | warn => "warn"
  | info => "info"
  | debug => "debug"
  | trace => "trace"

/-- The name of a level in capitals, as it stands in the log. -/
def label : LogLevel → String
  | error => "ERROR"
  | warn => "WARN"
  | info => "INFO"
  | debug => "DEBUG"
  | trace => "TRACE"

/-- The rank of a level: the greater, the more is written. -/
def rank : LogLevel → Nat
  | error => 0
  | warn => 1
  | info => 2
  | debug => 3
  | trace => 4

/-- The level of a name in lower case. The level `warn` has a second name. -/
def ofName? (name : String) : Option LogLevel :=
  if name == "error" then some error
  else if name == "warn" || name == "warning" then some warn
  else if name == "info" then some info
  else if name == "debug" then some debug
  else if name == "trace" then some trace
  else none

/-- A text in the form in which level names are compared. -/
def normalize (text : String) : String := Text.lower (Text.trim text)

/-- Reads a level. A text that names none is given back in its normal form. -/
def read (text : String) : Except String LogLevel :=
  match ofName? (normalize text) with
  | some level => .ok level
  | none => .error ("unknown log level `" ++ normalize text ++ "`")

theorem ofName?_name (l : LogLevel) : ofName? l.name = some l := by cases l <;> decide

end LogLevel

end CommandShell
