import CommandShell.Errno

/-!
# Reasons of failed input and output

A request for input or output fails because the system refuses it, because a file name holds a NUL
byte and is never passed on, or for a reason that has only a text.
-/

namespace CommandShell

/-- Why a request for input or output failed. -/
inductive Fault where
  /-- The system refused it. -/
  | system (errno : Errno)
  /-- A file name holds a NUL byte, so that the system was not asked at all. -/
  | nulInName
  /-- A reason described by a text of its own. -/
  | described (text : String)
  deriving DecidableEq, Repr

/-- The wording of a reason. -/
def Fault.message : Fault → String
  | system errno => errno.systemText
  | nulInName => "file name contained an unexpected NUL byte"
  | described text => text

end CommandShell
