/-!
# Terminal states of a stage

How a stage ended, and the one number that stands for it: the exit code, 128 more than the signal,
or 127 for a program that could not be started.
-/

namespace CommandShell

/-- How a stage ended. -/
inductive Status where
  /-- The program ended by itself with a code. -/
  | exited (code : Int)
  /-- The program was ended by a signal. -/
  | signaled (signal : Int)
  /-- The program could not be started. -/
  | startFailed (reason : String)
  deriving DecidableEq, Repr

namespace Status

/-- The code of a stage whose program could not be started. -/
def notStarted : Int := 127

/-- The number that stands for a terminal state. -/
def code : Status → Int
  | exited code => code
  | signaled signal => 128 + signal
  | startFailed _ => notStarted

/-- Only the exit code zero is a success. -/
def success : Status → Bool
  | exited code => code == 0
  | _ => false

/-- The wording of a terminal state. -/
def describe : Status → String
  | exited code => "exited with " ++ toString code
  | signaled signal => "killed by signal " ++ toString signal
  | startFailed reason => "failed to start: " ++ reason

end Status

end CommandShell
