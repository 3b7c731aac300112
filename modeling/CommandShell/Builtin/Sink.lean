import CommandShell.Builtin.Handler

/-!
# Sinks for the output of builtins

The output of a builtin goes to a descriptor, or to a sink in memory that takes a limited number
of bytes and then fails. Main statements: a sink without a limit takes everything
(`Sink.write_unlimited`), and one with a limit takes as many bytes as fit (`Sink.taken_write`).
-/

namespace CommandShell

/-- A place in memory to which is written. -/
structure Sink where
  /-- The bytes that were taken so far. -/
  taken : Bytes
  /-- How many more bytes are taken, if there is a limit. -/
  room : Option Nat
  deriving DecidableEq, Repr

namespace Sink

/-- A sink that takes everything. -/
def unlimited : Sink := ⟨[], none⟩

/-- A sink that takes a number of bytes. -/
def limited (room : Nat) : Sink := ⟨[], some room⟩

/-- The reason for taking no more. -/
def full : Fault := .described "broken pipe"

/-- Writes bytes to a sink. -/
def write (s : Sink) (bytes : Bytes) : Option Fault × Sink :=
  match s.room with
  | none => (none, ⟨s.taken ++ bytes, none⟩)
  | some room =>
    (if bytes.length ≤ room then none else some full,
      ⟨s.taken ++ bytes.take room, some (room - bytes.length)⟩)

theorem write_unlimited (bytes : Bytes) : unlimited.write bytes = (none, ⟨bytes, none⟩) := by
  simp [unlimited, write]

theorem taken_write (room : Nat) (bytes : Bytes) :
    ((limited room).write bytes).2.taken = bytes.take room := by
  simp [limited, write]

end Sink

open Shell

variable {σ : Type} [Kernel σ]

/-- Draws the conclusion from a verdict: tells the user and the log what they have to know. -/
def Verdict.conclude (v : Verdict) : Shell σ Outcome := do
  match v.complaint with
  | none => pure ()
  | some text => complain (text ++ "\n")
  match v.event with
  | none => pure ()
  | some event => note event
  return v.outcome

/-- Writes a text to a descriptor, without asking the system if there is nothing to write. -/
def writeText (fd : Fd) (text : String) : Shell σ (Option Fault) := do
  if text.isEmpty then return none
  match ← write fd (utf8 text) with
  | .ok () => return none
  | .error errno => return some (.system errno)

/-- Delivers a reply to a sink. -/
def Reply.deliverToSink (reply : Reply) (sink : Sink) : Shell σ (Outcome × Bytes) := do
  let (fault, sink) := sink.write (utf8 reply.output)
  let outcome ← (reply.verdict fault).conclude
  return (outcome, sink.taken)

/-- Delivers a reply to an opened file. -/
def Reply.deliverToFile (reply : Reply) (fd : Fd) : Shell σ Outcome := do
  let fault ← writeText fd reply.output
  (reply.verdict fault).conclude

/-- The lines of a text that are complete, and what follows them. -/
def completeLines (text : String) : String × String :=
  let reversed := text.toList.reverse
  (String.ofList (reversed.dropWhile (· ≠ '\n')).reverse,
    String.ofList (reversed.takeWhile (· ≠ '\n')).reverse)

/-- A closed standard output takes everything and keeps nothing. -/
def forgiveClosed : Option Fault → Option Fault
  | some (.system errno) => if errno = .badDescriptor then none else some (.system errno)
  | other => other

/-- Delivers a reply to the standard output. Complete lines are written at once; the rest is kept
back until the builtin is done, and the log is told if it gets lost. -/
def Reply.deliverToOutput (reply : Reply) : Shell σ Outcome := do
  let (lines, rest) := completeLines reply.output
  let fault := forgiveClosed (← writeText standardOutput lines)
  let outcome ← (reply.verdict fault).conclude
  match fault with
  | some _ => return outcome
  | none =>
    match forgiveClosed (← writeText standardOutput rest) with
    | none => return outcome
    | some fault =>
      note (.outputNotFlushed fault)
      return outcome

end CommandShell
