import CommandShell.ArgumentVector
import CommandShell.DescriptorTable
import CommandShell.ShellError
import CommandShell.Wait

/-!
# The system under a shell

What a shell asks of the operating system. The system is a state and an answer to each request;
nothing is assumed about the answers, so that every request may fail at any time. The shell keeps
its descriptors itself and chooses a fresh number for every pipe and every opened file; the system
is told of its descriptors where they matter to it, which is when a process is made, when a program
starts, and when the shell reads or waits.

Two things are required, so that neither a wait nor a read to the end goes on for ever: every answer
that leaves a child unsettled uses up some of the system's patience, and every read after which
there is something left to be read uses up some of its supply.
-/

namespace CommandShell

/-- What a descriptor can refer to. -/
inductive Resource where
  /-- The end of a pipe from which is read. -/
  | readEnd (pipe : Nat)
  /-- The end of a pipe to which is written. -/
  | writeEnd (pipe : Nat)
  /-- A file that was opened, or a stream that was there from the start. -/
  | file (number : Nat)
  deriving DecidableEq, Repr

/-- The descriptors of a process. -/
abbrev Descriptors := DescriptorTable Resource

/-- A directory of the file system, whatever its name is at the moment. -/
abbrev Directory := Nat

/-- What a process hands over when it starts another program. -/
structure Launch where
  /-- The arguments, the first of which names the program. -/
  arguments : ArgumentVector
  /-- The descriptors that the program gets. -/
  descriptors : Descriptors
  /-- The directory in which it works. -/
  directory : Directory

/-- Whether nothing more can be read after an answer: it brought nothing, or the read failed for
good. -/
def ReadAnswer.isLast : Except Errno Bytes → Bool
  | .ok [] => true
  | .ok (_ :: _) => false
  | .error errno => errno != .interrupted

/-- An operating system with states `σ`. -/
class Kernel (σ : Type) where
  /-- Makes a pipe that is known by a number. -/
  makePipe (pipe : Nat) : StateM σ (Except Errno Unit)
  /-- Opens a file for reading, to be known by a number. The path counts from a directory. -/
  openToRead (start : Directory) (path : String) (number : Nat) : StateM σ (Except Errno Unit)
  /-- Opens a file for writing, to be known by a number. A missing file is made with the mode
  `rw-r--r--`, an existing one loses its content. -/
  openToWrite (start : Directory) (path : String) (number : Nat) : StateM σ (Except Errno Unit)
  /-- Makes a process that is a copy of the shell, with copies of its descriptors. -/
  fork (descriptors : Descriptors) : StateM σ (Except Errno Pid)
  /-- Decides whether a process may make one descriptor a duplicate of another. -/
  permitDuplicate (pid : Pid) (source goal : Fd) : StateM σ (Except Errno Unit)
  /-- Starts a program in a process, looking for it where programs are found. -/
  exec (pid : Pid) (launch : Launch) : StateM σ (Except Errno Unit)
  /-- Ends a process that did not start a program. -/
  exit (pid : Pid) (code : Nat) : StateM σ Unit
  /-- Writes bytes, all of them unless it fails. -/
  write (goal : Resource) (bytes : Bytes) : StateM σ (Except Errno Unit)
  /-- Reads some bytes for a shell with some descriptors, as many as there are but not more than
  `limit`. There are none at the end, and a pipe has no end as long as someone can write to it. -/
  read (source : Resource) (limit : Nat) (descriptors : Descriptors) :
    StateM σ (Except Errno Bytes)
  /-- Waits until there is something to tell about a process that is a child of the shell. -/
  wait (pid : Pid) (descriptors : Descriptors) : StateM σ ChildEvent
  /-- The absolute path without links and dots of something that exists. -/
  canonicalize (start : Directory) (path : String) : StateM σ (Except Errno String)
  /-- The directory at a path, if it can be made the working directory. -/
  enter (start : Directory) (path : String) : StateM σ (Except Errno Directory)
  /-- The absolute path of a directory that still exists. -/
  nameOf (directory : Directory) : StateM σ (Except Errno String)
  /-- How many unsettled answers to a wait can follow each other at most. -/
  patience : σ → Nat
  /-- How many reads can follow each other at most before the end is reached. -/
  supply : σ → Nat
  /-- An unsettled answer to a wait uses up patience. -/
  patience_wait : ∀ (pid : Pid) (descriptors : Descriptors) (host : σ),
    (wait pid descriptors host).1.settled = false →
      patience (wait pid descriptors host).2 < patience host
  /-- Writing does not restore patience. -/
  patience_write : ∀ (goal : Resource) (bytes : Bytes) (host : σ),
    patience (write goal bytes host).2 ≤ patience host
  /-- A read that was interrupted, or brought something, uses up supply. -/
  supply_read : ∀ (source : Resource) (limit : Nat) (descriptors : Descriptors) (host : σ),
    ReadAnswer.isLast (read source limit descriptors host).1 = false →
      supply (read source limit descriptors host).2 < supply host

end CommandShell
