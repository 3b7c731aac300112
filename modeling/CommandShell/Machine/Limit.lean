import CommandShell.Errno

/-!
# Limits of processes

What a process can use up. Each thing is limited twice: the soft limit holds, and the process can
move it up to the hard one, which it can only lower. Main statements: a limit that was set is in
force (`boundOf_set`), and nothing else changes (`boundOf_set_other`).
-/

namespace CommandShell.Machine

/-- Something that is limited. -/
inductive Limited where
  /-- The time for which it computes, in seconds. -/
  | time
  /-- The size of the files that it writes, in bytes. -/
  | fileSize
  | data
  | stack
  | core
  | memory
  | lockedMemory
  | processes
  /-- The numbers of its descriptors. -/
  | descriptors
  | addresses
  | locks
  | priority
  deriving DecidableEq, Repr

/-- The limits of something; there may be none. -/
structure Bound where
  /-- The limit that holds. -/
  soft : Option Nat
  /-- The limit up to which it can be moved. -/
  hard : Option Nat
  deriving DecidableEq, Repr

namespace Bound

/-- No limit. -/
def unlimited : Bound := ⟨none, none⟩

/-- One limit for both. -/
def both (n : Nat) : Bound := ⟨some n, some n⟩

/-- Whether one limit allows no more than another one. -/
def allowsAtMost : Option Nat → Option Nat → Bool
  | _, none => true
  | none, some _ => false
  | some m, some n => m ≤ n

end Bound

/-- The limits of a process. What is not named has none. -/
abbrev Limits := List (Limited × Bound)

namespace Limits

/-- The limits that a process has from the start. -/
def usual : Limits := [(.stack, ⟨some 8388608, none⟩), (.core, ⟨some 0, none⟩),
  (.lockedMemory, .both 8388608), (.processes, .both 128620), (.descriptors, .both 20000),
  (.priority, .both 0)]

/-- The limits of something. -/
def boundOf (l : Limits) (what : Limited) : Bound := (l.lookup what).getD .unlimited

/-- Limits with other ones for something. -/
def set (l : Limits) (what : Limited) (bound : Bound) : Limits := (what, bound) :: l

/-- A limit that was set is in force. -/
theorem boundOf_set (l : Limits) (what : Limited) (bound : Bound) :
    (l.set what bound).boundOf what = bound := by
  simp only [boundOf, set, List.lookup_cons, beq_self_eq_true, Option.getD_some]

/-- Nothing else changes when a limit is set. -/
theorem boundOf_set_other (l : Limits) {what other : Limited} (h : other ≠ what) (bound : Bound) :
    (l.set what bound).boundOf other = l.boundOf other := by
  have hb : (other == what) = false := by simp [h]
  simp only [boundOf, set, List.lookup_cons, hb]

/-- Changes a limit. No soft limit is above the hard one, and no hard limit is raised. -/
def change (l : Limits) (what : Limited) (bound : Bound) : Except Errno Limits :=
  if !Bound.allowsAtMost bound.soft bound.hard then .error .invalid
  else if !Bound.allowsAtMost bound.hard (l.boundOf what).hard then .error .notPermitted
  else .ok (l.set what bound)

end Limits

end CommandShell.Machine
