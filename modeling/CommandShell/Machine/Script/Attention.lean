import CommandShell.Machine.Script.Session

/-!
# The attention of an interpreter

What an interpreter heeds beside its script: it does something when signals come for which something
is to be done, and while it converses with a user it does not end because of the signals by which
the user would interrupt or end another program.
-/

namespace CommandShell.Machine.Script

/-- Whether the interpreter converses with a user. The processes that it makes do not. -/
def Session.converses (s : Session) : Bool := s.has .interactive && s.isOutermost

namespace Attention

/-- The signal by which a user interrupts what is done. -/
def interrupt : Nat := 2

/-- The signal by which a user quits a program. -/
def quit : Nat := 3

/-- The signal that ends a program. -/
def terminate : Nat := 15

/-- The signals to which an interpreter pays attention while it converses. -/
def signals : List Nat := [interrupt, quit, terminate]

/-- What becomes of a signal about which the script says nothing. -/
def unattended (s : Session) (signal : Nat) : Disposition :=
  if !s.converses then .standard
  else if signal = interrupt then .noted
  else if signals.contains signal then .ignored
  else .standard

/-- What becomes of a signal. -/
def dispositionOf (s : Session) (signal : Nat) : Disposition :=
  match s.traps.lookup signal with
  | none => unattended s signal
  | some [] => .ignored
  | some _ => .noted

/-- Sees to it that the right thing becomes of a signal. -/
def renew (signal : Nat) : Act Unit := do
  ask (.dispose signal (dispositionOf (← get) signal))

/-- Sees to it that the right thing becomes of the signals that depend on whether the interpreter
converses. -/
def renewAll : Act Unit := signals.forM renew

/-- Whether something is to be done when some signal comes. -/
def areAwaited (s : Session) : Bool := s.traps.any fun (_, action) => !action.isEmpty

/-- Whether some signal can come that is not ignored and does not end the interpreter. -/
def isPaid (s : Session) : Bool := areAwaited s || s.converses

/-- The number in front of those of signals in the status of a process. -/
def statusOffset : Nat := 128

/-- Breaks off what is done if the user has interrupted it and nothing else is to be done then. -/
def heedInterrupt : Act Unit := do
  let s ← get
  if s.converses && s.pending.contains interrupt && (s.traps.lookup interrupt).isNone then
    set { s with
      pending := s.pending.filter (· ≠ interrupt)
      status := statusOffset + interrupt }
    leave .interrupted

end Attention

end CommandShell.Machine.Script
