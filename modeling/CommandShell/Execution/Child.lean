import CommandShell.Kernel

/-!
# The process of a stage

What a new process does before the program of its stage takes over: it makes the descriptors of
the stage its standard input and output and starts the program. If one of these steps fails, it
writes the error number to the pipe on which the shell listens, tells the user why, and ends.
The two streams are set one after the other, the input first.
-/

namespace CommandShell

/-- What the process of a stage is to do. -/
structure Child where
  /-- The name of the program, for the user. -/
  program : String
  /-- The arguments of the program. -/
  arguments : ArgumentVector
  /-- The descriptor that becomes the standard input, if it is another one. -/
  input : Option Fd
  /-- The descriptor that becomes the standard output, if it is another one. -/
  output : Option Fd
  /-- The descriptor on which an error number is reported. -/
  report : Fd

namespace Child

variable {σ : Type} [Kernel σ]

/-- Makes `goal` a duplicate of a descriptor, if one is given. -/
def redirectOne (pid : Pid) (source : Option Fd) (goal : Fd) (descriptors : Descriptors) :
    StateM σ (Except Errno Descriptors) := do
  match source with
  | none => return .ok descriptors
  | some fd =>
    match ← Kernel.permitDuplicate pid fd goal with
    | .error errno => return .error errno
    | .ok () =>
      match descriptors.duplicate fd goal with
      | none => return .error .badDescriptor
      | some changed => return .ok changed

/-- Makes the given descriptors the standard input and the standard output, in this order. What is
left of the descriptors comes with the answer, so that a failure can still be reported. -/
def redirect (pid : Pid) (input output : Option Fd) (descriptors : Descriptors) :
    StateM σ (Option Errno × Descriptors) := do
  match ← redirectOne pid input 0 descriptors with
  | .error errno => return (some errno, descriptors)
  | .ok fed =>
    match ← redirectOne pid output 1 fed with
    | .error errno => return (some errno, fed)
    | .ok wired => return (none, wired)

/-- Writes bytes to a descriptor of the process. What cannot be written is lost. -/
def tell (descriptors : Descriptors) (fd : Fd) (bytes : Bytes) : StateM σ Unit := do
  match descriptors.get? fd with
  | none => return ()
  | some slot =>
    let _ ← Kernel.write slot.target bytes

/-- Reports an error number to the shell and to the user, and ends the process. -/
def abandon (child : Child) (pid : Pid) (descriptors : Descriptors) (errno : Errno) :
    StateM σ Unit := do
  tell descriptors child.report errno.toBytes
  tell descriptors 2 (utf8 ("pipesh: " ++ child.program ++ ": "))
  tell descriptors 2 (utf8 errno.description)
  tell descriptors 2 (utf8 "\n")
  Kernel.exit pid 127

/-- What the process does, beginning with a copy of the shell's descriptors and in the shell's
working directory. -/
def run (child : Child) (pid : Pid) (descriptors : Descriptors) (directory : Directory) :
    StateM σ Unit := do
  match ← redirect pid child.input child.output descriptors with
  | (some errno, remaining) => child.abandon pid remaining errno
  | (none, wired) =>
    match ← Kernel.exec pid ⟨child.arguments, wired.surviving, directory⟩ with
    | .ok () => return ()
    | .error errno => child.abandon pid wired errno

end Child

end CommandShell
