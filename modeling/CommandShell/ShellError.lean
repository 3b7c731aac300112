import CommandShell.Fault
import CommandShell.Pipeline.Reading

/-!
# Errors of a line

What can keep a line or one of its stages from running, with the wording and the status of each.
-/

namespace CommandShell

/-- The number of a process. -/
abbrev Pid := Int

/-- Why a line or a stage did not run to its end. -/
inductive ShellError where
  /-- The tokens of the line describe no pipeline. Nothing was started. -/
  | malformed (fault : SyntaxFault)
  /-- The target of a redirection could not be opened. -/
  | io (path : String) (fault : Fault)
  /-- A pipe or a process could not be created. -/
  | spawn (stage : Nat) (errno : Errno)
  /-- The program could not be started in its process. -/
  | exec (program reason : String)
  /-- Waiting for a process failed. -/
  | wait (pid : Pid) (errno : Errno)
  deriving DecidableEq, Repr

namespace ShellError

/-- The wording of an error. -/
def message : ShellError → String
  | malformed fault => "syntax error: " ++ fault.message
  | io path fault => path ++ ": " ++ fault.message
  | spawn stage errno => "stage " ++ toString stage ++ ": cannot spawn: " ++ errno.named
  | exec program reason => program ++ ": " ++ reason
  | wait pid errno => "wait for pid " ++ toString pid ++ " failed: " ++ errno.named

/-- The status of a line that an error ended. -/
def status : ShellError → Int
  | malformed _ => 2
  | exec _ _ => 127
  | io _ _ => 1
  | spawn _ _ => 1
  | wait _ _ => 1

end ShellError

end CommandShell
