import CommandShell.Machine.Ascii
import CommandShell.ArgumentVector
import CommandShell.Machine.Program

/-!
# Built-in commands of scripts

The commands that an interpreter has by itself. Some of them are special: an error in one of them
breaks the script off, and assignments in front of one of them last.
-/

namespace CommandShell.Machine.Script

open Ascii

/-- A command that an interpreter has by itself. -/
inductive Builtin where
  | aliasNames
  | bracket
  | changeDirectory
  | command
  | continueLoop
  | describe
  | dot
  | echo
  | evaluate
  | execute
  | exit
  | exportNames
  | failure
  | getOption
  | hash
  | jobs
  | kill
  | leaveLoop
  | limits
  | localNames
  | mask
  | nothing
  | printf
  | readLine
  | readonlyNames
  | resumeBehind
  | resumeInFront
  | returnFrom
  | settings
  | shift
  | success
  | test
  | times
  | trap
  | unaliasNames
  | unset
  | wait
  | workingDirectory
  deriving DecidableEq, Repr

namespace Builtin

/-- The names of the commands. -/
def table : List (String × Builtin) := [
  (".", dot), (":", nothing), ("[", bracket), ("alias", aliasNames), ("bg", resumeBehind),
  ("break", leaveLoop), ("cd", changeDirectory), ("chdir", changeDirectory), ("command", command),
  ("continue", continueLoop), ("echo", echo), ("eval", evaluate), ("exec", execute),
  ("exit", exit), ("export", exportNames), ("false", failure), ("fg", resumeInFront),
  ("getopts", getOption), ("hash", hash), ("jobs", jobs), ("kill", kill), ("local", localNames),
  ("printf", printf), ("pwd", workingDirectory), ("read", readLine), ("readonly", readonlyNames),
  ("return", returnFrom), ("set", settings), ("shift", shift), ("test", test), ("times", times),
  ("trap", trap), ("true", success), ("type", describe), ("ulimit", limits), ("umask", mask),
  ("unalias", unaliasNames), ("unset", unset), ("wait", wait)]

/-- The command with a name. -/
def ofName? (name : Bytes) : Option Builtin :=
  (table.find? fun (other, _) => utf8 other == name).map (·.2)

/-- Whether a command is special. -/
def isSpecial : Builtin → Bool
  | dot | nothing | leaveLoop | continueLoop | evaluate | execute | exit | exportNames
  | localNames | readonlyNames | returnFrom | settings | shift | times | trap | unset => true
  | _ => false

/-- Whether words that look like assignments are expanded as such. -/
def takesAssignments : Builtin → Bool
  | aliasNames | exportNames | localNames | readonlyNames => true
  | _ => false

end Builtin

end CommandShell.Machine.Script
