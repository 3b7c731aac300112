/-!
# Signals

The signals that have a name. Signals with greater numbers exist, but no name and no text is kept
for them, and a wait that reports one cannot be understood.
-/

namespace CommandShell

/-- A signal that has a name: one of the numbers 1 to 31. -/
structure Signal where
  /-- The number of the signal. -/
  number : Nat
  deriving DecidableEq, Repr, Inhabited

namespace Signal

/-- The names, in the order of the numbers, the first for number 1. -/
def names : List String := [
  "SIGHUP", "SIGINT", "SIGQUIT", "SIGILL", "SIGTRAP", "SIGABRT", "SIGBUS", "SIGFPE", "SIGKILL",
  "SIGUSR1", "SIGSEGV", "SIGUSR2", "SIGPIPE", "SIGALRM", "SIGTERM", "SIGSTKFLT", "SIGCHLD",
  "SIGCONT", "SIGSTOP", "SIGTSTP", "SIGTTIN", "SIGTTOU", "SIGURG", "SIGXCPU", "SIGXFSZ",
  "SIGVTALRM", "SIGPROF", "SIGWINCH", "SIGIO", "SIGPWR", "SIGSYS"]

/-- The signal of a number, if it has a name. -/
def ofNumber? (n : Nat) : Option Signal := if 1 ≤ n ∧ n ≤ 31 then some ⟨n⟩ else none

/-- The name of a signal. -/
def name (s : Signal) : String := names.getD (s.number - 1) "SIGRT"

end Signal

end CommandShell
