import CommandShell.DescriptorTable
import CommandShell.Machine.Limit
import CommandShell.Machine.Tree
import CommandShell.Wait

/-!
# Programs of a machine

A program is a tree of requests to the machine: it has either come to a result, or it makes one
request and goes on with the answer. Programs are put together by running one after the other;
main statements: a finished program in front or behind changes nothing (`Program.done_bind`,
`Program.bind_done`), and the grouping does not matter (`Program.bind_assoc`).
-/

namespace CommandShell.Machine

/-- How a file is opened. -/
structure OpenMode where
  /-- Whether it can be read. -/
  reads : Bool
  /-- Whether it can be written. -/
  writes : Bool
  /-- Whether everything is written at its end. -/
  atEnd : Bool
  /-- Whether it is made if it is missing. -/
  makes : Bool
  /-- Whether it is emptied. -/
  empties : Bool
  deriving DecidableEq, Repr

namespace OpenMode

/-- For reading. -/
def input : OpenMode := ⟨true, false, false, false, false⟩

/-- For writing; the file is made if it is missing and emptied if it exists. -/
def output : OpenMode := ⟨false, true, false, true, true⟩

/-- For writing at the end; the file is made if it is missing. -/
def append : OpenMode := ⟨false, true, true, true, false⟩

/-- For writing; the file is made if it is missing and keeps what it holds. -/
def keep : OpenMode := ⟨false, true, false, true, false⟩

/-- For reading and writing; the file is made if it is missing and keeps what it holds. -/
def update : OpenMode := ⟨true, true, false, true, false⟩

end OpenMode

/-- What kind of file something is. -/
inductive FileKind where
  | regular
  | directory
  | link
  | pipe
  | device
  deriving DecidableEq, Repr

/-- What is known about a file. -/
structure FileFacts where
  /-- What kind of file it is. -/
  kind : FileKind
  /-- Its permission bits. -/
  mode : Nat
  /-- The number of bytes that a regular file has. -/
  size : Nat
  /-- The node, unless it is a pipe. -/
  node : Option NodeId
  /-- When it was changed last. -/
  modified : Instant

/-- From where a position in a file counts. -/
inductive SeekOrigin where
  /-- From the beginning. -/
  | beginning
  /-- From where the next byte is read or written. -/
  | position
  /-- From the end. -/
  | ending
  deriving DecidableEq, Repr

/-- What becomes of a process that gets a signal. -/
inductive Disposition where
  /-- What the signal does by itself. -/
  | standard
  /-- Nothing. -/
  | ignored
  /-- The signal is kept until the process asks for it. -/
  | noted
  deriving DecidableEq, Repr

/-- The values that a process has under names. -/
abbrev Variables := List (Bytes × Bytes)

/-- The number of a process. -/
abbrev ProcessId := Nat

/-- A request of a program to the machine. -/
inductive Call where
  /-- Reads some bytes, none at the end. -/
  | read (fd : Fd) (limit : Nat)
  /-- Writes bytes, as many as fit. -/
  | write (fd : Fd) (bytes : ByteArray)
  /-- Opens a file. -/
  | openFile (path : Name) (mode : OpenMode)
  /-- Closes a descriptor. -/
  | close (fd : Fd)
  /-- Makes `goal` a duplicate of `source`. -/
  | duplicate (source goal : Fd)
  /-- Makes a duplicate, closed on exec, at the lowest free number from `least` on. -/
  | duplicateAbove (source least : Fd)
  /-- Makes a pipe. -/
  | makePipe
  /-- Moves the position of a file, and tells where it is then. -/
  | seek (fd : Fd) (origin : SeekOrigin) (distance : Int)
  /-- Tells what a descriptor refers to. -/
  | describe (fd : Fd)
  /-- Makes a copy of the process. The copy gets no answer. -/
  | fork
  /-- Starts another program in the stead of this one. -/
  | exec (path : Name) (arguments : List Bytes) (bindings : Variables)
  /-- Ends the process. -/
  | exit (code : Nat)
  /-- Ends the process as a signal does. -/
  | crash (signal : Nat)
  /-- Waits for the end of a process that this one has made. -/
  | wait (pid : ProcessId)
  /-- Tells how a process ended that this one has made, if it has ended. -/
  | inquire (pid : ProcessId)
  /-- Tells the number of the process. -/
  | self
  /-- Tells the number of the process that made this one. -/
  | parent
  /-- Sends a signal to a process. -/
  | kill (pid : ProcessId) (signal : Nat)
  /-- Decides what becomes of a signal, unless it is ignored for good. -/
  | dispose (signal : Nat) (disposition : Disposition)
  /-- Tells the signals that have come and were to be kept, the first one first. -/
  | notedSignals
  /-- Lets a number of microseconds pass. -/
  | sleep (microseconds : Nat)
  /-- Lets the other processes go on. -/
  | pause
  /-- Changes the working directory. -/
  | enter (path : Name)
  /-- Tells the path of the working directory. -/
  | whereAmI
  /-- Tells the absolute path without links and dots of something that exists. -/
  | canonicalize (path : Name)
  /-- Removes an empty directory. -/
  | removeDirectory (path : Name)
  /-- Tells what is at a path; a link in its last part is followed if `follow` says so. -/
  | inspect (path : Name) (follow : Bool)
  /-- Tells the names in a directory. -/
  | listDirectory (path : Name)
  /-- Sets the permission bits that new files do not get, and tells what they were. -/
  | setMask (mask : Nat)
  /-- Tells the limits of something. -/
  | boundOf (what : Limited)
  /-- Changes the limits of something. -/
  | setBound (what : Limited) (bound : Bound)
  /-- Tells the present time. -/
  | now
  /-- Sets the time when what a descriptor refers to was changed. The present time is meant if none
  is given. -/
  | stamp (fd : Fd) (time : Option Instant)
  /-- Sets the time when what is at a path was changed; a link in its last part is followed if
  `follow` says so. -/
  | stampPath (path : Name) (follow : Bool) (time : Option Instant)
  /-- Tells whether nobody has the other end of the pipe that a descriptor refers to. -/
  | isForsaken (fd : Fd)

/-- The answer to a request. -/
def Call.Answer : Call → Type
  | .read _ _ => Except Errno ByteArray
  | .write _ _ => Except Errno Nat
  | .openFile _ _ => Except Errno Fd
  | .close _ => Unit
  | .duplicate _ _ => Except Errno Unit
  | .duplicateAbove _ _ => Except Errno Fd
  | .makePipe => Except Errno (Fd × Fd)
  | .seek _ _ _ => Except Errno Nat
  | .describe _ => Except Errno FileFacts
  | .fork => Option ProcessId
  | .exec _ _ _ => Errno
  | .exit _ => Empty
  | .crash _ => Empty
  | .wait _ => Except Errno ChildEvent
  | .inquire _ => Option ChildEvent
  | .self => ProcessId
  | .parent => ProcessId
  | .kill _ _ => Except Errno Unit
  | .dispose _ _ => Unit
  | .notedSignals => List Nat
  | .sleep _ => Unit
  | .pause => Unit
  | .enter _ => Except Errno Unit
  | .whereAmI => Except Errno Name
  | .canonicalize _ => Except Errno Name
  | .removeDirectory _ => Except Errno Unit
  | .inspect _ _ => Except Errno FileFacts
  | .listDirectory _ => Except Errno (List Name)
  | .setMask _ => Nat
  | .boundOf _ => Bound
  | .setBound _ _ => Except Errno Unit
  | .now => Instant
  | .stamp _ _ => Except Errno Unit
  | .stampPath _ _ _ => Except Errno Unit
  | .isForsaken _ => Bool

/-- A program that comes to an `α`. -/
inductive Program (α : Type) where
  /-- The result. -/
  | done (result : α)
  /-- A request, and how to go on with its answer. -/
  | call (request : Call) (next : request.Answer → Program α)

namespace Program

variable {α β γ : Type}

/-- Runs a program and then the one that its result leads to. -/
def bind (p : Program α) (f : α → Program β) : Program β :=
  match p with
  | done result => f result
  | call request next => call request fun answer => (next answer).bind f

instance : Monad Program where
  pure := done
  bind := bind

theorem done_bind (a : α) (f : α → Program β) : (done a).bind f = f a := rfl

theorem bind_done (p : Program α) : p.bind done = p := by
  induction p with
  | done result => rfl
  | call request next ih => exact congrArg (call request) (funext ih)

theorem bind_assoc (p : Program α) (f : α → Program β) (g : β → Program γ) :
    (p.bind f).bind g = p.bind fun a => (f a).bind g := by
  induction p with
  | done result => rfl
  | call request next ih => exact congrArg (call request) (funext ih)

/-- Makes a request. -/
def ask (request : Call) : Program request.Answer := call request done

/-- Ends the process with a code. -/
def exit (code : Nat) : Program α := call (.exit code) fun answer => nomatch (answer : Empty)

/-- Ends the process as a signal does. -/
def crash (signal : Nat) : Program α := call (.crash signal) fun answer => nomatch (answer : Empty)

end Program

/-- A program that runs as a process and comes to an exit code. -/
abbrev Task := Program Nat

end CommandShell.Machine
