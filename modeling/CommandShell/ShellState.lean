import CommandShell.Event
import CommandShell.Kernel

/-!
# The state of a shell

A shell has descriptors, a working directory, a home directory, the status of its last line and a
log. This module holds the state and the requests from which everything else is made: opening
and closing descriptors, writing to them, and writing to the log. A shell that cannot tell the user
something comes down, while a record of the log is lost then. Main statements: what is asked of
the system directly changes none of the shell's descriptors (`descriptors_ask`), nor do the log
and the complaints (`descriptors_note`, `descriptors_complain`).
-/

namespace CommandShell

variable {σ : Type}

/-- What a shell works in: all that a builtin can see and change. -/
structure Surroundings (σ : Type) where
  /-- The working directory. -/
  directory : Directory
  /-- The home directory, if one is set. -/
  home : Option String
  /-- The state of the system. -/
  host : σ

/-- The state of a shell. -/
structure ShellState (σ : Type) where
  /-- The open descriptors of the shell. -/
  descriptors : Descriptors
  /-- A number that no pipe and no opened file of the shell has had so far. -/
  fresh : Nat
  /-- The directory and the system that the shell works in. -/
  surroundings : Surroundings σ
  /-- The status of the line that was run last. -/
  lastStatus : Int
  /-- What is written to the log. -/
  log : LogFilter
  /-- Why the shell has come down in the line that was run last, if it has: it could not write
  something that the user had to be told. -/
  downfall : Option Errno

/-- Something a shell does. -/
abbrev Shell (σ : Type) := StateM (ShellState σ)

/-- Something that is done to the surroundings of a shell. -/
abbrev Action (σ : Type) := StateM (Surroundings σ)

/-- Puts a request to the system. -/
def Action.ask {α : Type} (request : StateM σ α) : Action σ α := fun s =>
  let (answer, host) := request s.host
  (answer, { s with host := host })

namespace Shell

/-- The descriptor that programs read from. -/
def standardInput : Fd := 0

/-- The descriptor that programs write to. -/
def standardOutput : Fd := 1

/-- The descriptor for complaints and for the log. -/
def standardError : Fd := 2

/-- Does something to the surroundings. -/
def within {α : Type} (action : Action σ α) : Shell σ α := fun s =>
  let (answer, surroundings) := action s.surroundings
  (answer, { s with surroundings := surroundings })

/-- Puts a request to the system. -/
def ask {α : Type} (request : StateM σ α) : Shell σ α := within (Action.ask request)

/-- Opens a descriptor for something. -/
def hold (resource : Resource) : Shell σ Fd := fun s =>
  let (fd, descriptors) := s.descriptors.open resource
  (fd, { s with descriptors := descriptors })

/-- Closes a descriptor. -/
def close (fd : Fd) : Shell σ Unit := fun s =>
  ((), { s with descriptors := s.descriptors.close fd })

/-- Closes a descriptor, if there is one. -/
def closeOption : Option Fd → Shell σ Unit
  | none => pure ()
  | some fd => close fd

/-- Closes several descriptors. -/
def closeAll (fds : List Fd) : Shell σ Unit := fun s =>
  ((), { s with descriptors := s.descriptors.closeAll fds })

/-- A number that nothing has had so far. -/
def freshNumber : Shell σ Nat := fun s => (s.fresh, { s with fresh := s.fresh + 1 })

variable [Kernel σ]

/-- Writes bytes to a descriptor. -/
def write (fd : Fd) (bytes : Bytes) : Shell σ (Except Errno Unit) := do
  match (← get).descriptors.get? fd with
  | none => return .error .badDescriptor
  | some slot => ask (Kernel.write slot.target bytes)

/-- The error that a shell does not survive when it writes what has to be written. What is written
to a closed descriptor is lost without harm. -/
def fatal? : Except Errno Unit → Option Errno
  | .ok () => none
  | .error errno => if errno = .badDescriptor then none else some errno

/-- Writes a text to a descriptor. What cannot be written is lost. -/
def offer (fd : Fd) (text : String) : Shell σ Unit := do
  let _ ← write fd (utf8 text)

/-- Writes a text that has to be written. The shell comes down if this fails for good. -/
def print (fd : Fd) (text : String) : Shell σ Unit := do
  let answer ← write fd (utf8 text)
  modify fun s => { s with downfall := (fatal? answer).or s.downfall }

/-- Writes a text for the user to read. -/
def complain (text : String) : Shell σ Unit := print standardError text

/-- Whether the shell has come down. -/
def isDown : Shell σ Bool := do return (← get).downfall.isSome

/-- Tells the log about an event. -/
def note (event : Event) : Shell σ Unit := do
  let filter := (← get).log
  if filter.admits event.record then offer standardError (event.record.render filter.stamp)

/-- A name that the system cannot be asked for. -/
def hasNul (path : String) : Bool := path.toList.contains '\x00'

/-- Opens a file by a request to the system, which gets the working directory, the path and the
number of the opened file. -/
def openFile (request : Directory → String → Nat → StateM σ (Except Errno Unit)) (path : String) :
    Shell σ (Except ShellError Fd) := do
  if hasNul path then return .error (.io path .nulInName)
  let number ← freshNumber
  match ← ask (request (← get).surroundings.directory path number) with
  | .error errno => return .error (.io path (.system errno))
  | .ok () => return .ok (← hold (.file number))

/-- Opens a file for reading. -/
def openInput (path : String) : Shell σ (Except ShellError Fd) := openFile Kernel.openToRead path

/-- Opens a file for writing. It is made if it is missing, and emptied if it exists. -/
def openOutput (path : String) : Shell σ (Except ShellError Fd) := openFile Kernel.openToWrite path

/-- The two ends of a pipe. -/
structure PipeEnds where
  /-- The descriptor from which is read. -/
  reader : Fd
  /-- The descriptor to which is written. -/
  writer : Fd
  deriving DecidableEq, Repr

/-- Makes a pipe. -/
def makePipe : Shell σ (Except Errno PipeEnds) := do
  let number ← freshNumber
  match ← ask (Kernel.makePipe number) with
  | .error errno => return .error errno
  | .ok () =>
    let reader ← hold (.readEnd number)
    let writer ← hold (.writeEnd number)
    return .ok ⟨reader, writer⟩

/-- Closes both ends of a pipe. -/
def PipeEnds.close (ends : PipeEnds) : Shell σ Unit := do
  Shell.close ends.reader
  Shell.close ends.writer

omit [Kernel σ] in
/-- A request to the system leaves the descriptors alone. -/
@[simp] theorem descriptors_ask {α : Type} (request : StateM σ α) (s : ShellState σ) :
    (ask request s).2.descriptors = s.descriptors := rfl

@[simp] theorem descriptors_write (fd : Fd) (bytes : Bytes) (s : ShellState σ) :
    (write fd bytes s).2.descriptors = s.descriptors := by
  simp only [write, bind, StateT.bind, get, getThe, MonadStateOf.get, StateT.get, pure]
  cases s.descriptors.get? fd <;> rfl

/-- Complaints leave the descriptors alone. -/
@[simp] theorem descriptors_complain (text : String) (s : ShellState σ) :
    (complain text s).2.descriptors = s.descriptors :=
  descriptors_write standardError (utf8 text) s

/-- The log leaves the descriptors alone. -/
@[simp] theorem descriptors_note (event : Event) (s : ShellState σ) :
    (note event s).2.descriptors = s.descriptors := by
  simp only [note, bind, StateT.bind, get, getThe, MonadStateOf.get, StateT.get, pure]
  split
  · exact descriptors_write _ _ s
  · rfl

/-- Writing does not restore the system's patience. -/
theorem patience_write_le (fd : Fd) (bytes : Bytes) (s : ShellState σ) :
    Kernel.patience (write fd bytes s).2.surroundings.host ≤
      Kernel.patience s.surroundings.host := by
  simp only [write, bind, StateT.bind, get, getThe, MonadStateOf.get, StateT.get, pure]
  cases s.descriptors.get? fd with
  | none => exact Nat.le_refl _
  | some slot => exact Kernel.patience_write slot.target bytes s.surroundings.host

/-- Writing to the log does not restore the system's patience. -/
theorem patience_note (event : Event) (s : ShellState σ) :
    Kernel.patience (note event s).2.surroundings.host ≤ Kernel.patience s.surroundings.host := by
  simp only [note, bind, StateT.bind, get, getThe, MonadStateOf.get, StateT.get, pure]
  split
  · exact patience_write_le _ _ s
  · exact Nat.le_refl _

end Shell

end CommandShell
