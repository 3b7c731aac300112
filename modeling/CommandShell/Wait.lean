import CommandShell.Errno
import CommandShell.Signal
import CommandShell.Status

/-!
# Waiting for a process

What the system tells a process that waits for its child, and what that means to the waiting one:
the child has ended, something happened that is not its end, or the wait itself failed. A child
ended by a signal that has no name cannot be told apart from an invalid answer. Main statement:
only an answer that settles the child ends the wait (`ChildEvent.settled_of_answer`).
-/

namespace CommandShell

/-- What the system tells about a child. -/
inductive ChildEvent where
  /-- The child ended by itself. -/
  | exited (code : Nat)
  /-- The child was ended by a signal. -/
  | killed (signal : Nat)
  /-- The child was stopped by a signal and may go on later. -/
  | stopped (signal : Nat)
  /-- A stopped child goes on. -/
  | continued
  /-- A traced child reached an event. -/
  | traced (signal event : Nat)
  /-- A traced child entered or left a request to the system. -/
  | tracedRequest
  /-- Nothing has changed yet. -/
  | unchanged
  /-- The wait itself failed. -/
  | failed (errno : Errno)
  deriving DecidableEq, Repr

/-- Something that happened to a child and is not its end. -/
inductive Notice where
  | stopped (signal : Signal)
  | continued
  | traced (signal : Signal) (event : Nat)
  | tracedRequest
  | unchanged
  deriving DecidableEq, Repr

/-- What an answer means to the process that waits. -/
inductive WaitAnswer where
  /-- The child has ended. -/
  | ended (status : Status)
  /-- The child goes on, or may go on. -/
  | notice (notice : Notice)
  /-- The wait was interrupted and has to be repeated. -/
  | interrupted
  /-- The wait failed for good. -/
  | failed (errno : Errno)
  deriving DecidableEq, Repr

namespace ChildEvent

/-- The meaning of an answer. A signal without a name makes it invalid. -/
def answer : ChildEvent → WaitAnswer
  | exited code => .ended (.exited code)
  | killed signal =>
    match Signal.ofNumber? signal with
    | some s => .ended (.signaled s.number)
    | none => .failed .invalid
  | stopped signal =>
    match Signal.ofNumber? signal with
    | some s => .notice (.stopped s)
    | none => .failed .invalid
  | continued => .notice .continued
  | traced signal event =>
    match Signal.ofNumber? signal with
    | some s => .notice (.traced s event)
    | none => .failed .invalid
  | tracedRequest => .notice .tracedRequest
  | unchanged => .notice .unchanged
  | failed errno => if errno = .interrupted then .interrupted else .failed errno

/-- Whether nothing more is to be expected of the child. -/
def settled : ChildEvent → Bool
  | exited _ => true
  | killed _ => true
  | failed errno => errno != .interrupted
  | _ => false

/-- An answer after which the wait goes on does not settle the child. -/
theorem settled_of_answer (e : ChildEvent)
    (h : (∃ n, e.answer = .notice n) ∨ e.answer = .interrupted) : e.settled = false := by
  cases e with
  | exited c => simp [answer] at h
  | killed s => cases hs : Signal.ofNumber? s <;> simp [answer, hs] at h
  | failed e =>
    by_cases he : e = .interrupted
    · simp [settled, he]
    · simp [answer, he] at h
  | _ => rfl

end ChildEvent

end CommandShell
