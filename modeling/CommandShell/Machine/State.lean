import CommandShell.Machine.Pipe
import CommandShell.Machine.Program
import CommandShell.Kernel
import Std.Data.HashMap

/-!
# The state of a machine

A machine has files, opened files, pipes and processes, and a clock that stands still unless
nothing else can happen. A shell runs on it beside the processes; the machine knows the shell's
descriptors only while the shell waits, and that is the only time when the processes go on.
-/

namespace CommandShell.Machine

/-- The number of a pipe or an opened file. The shell chooses numbers of its own. -/
inductive Key where
  /-- A number that the shell has chosen. -/
  | ofShell (n : Nat)
  /-- A number that was given to a program. -/
  | ofProgram (n : Nat)
  deriving DecidableEq, Hashable, Repr

/-- What a descriptor of a process refers to. -/
inductive Handle where
  /-- The end of a pipe from which is read. -/
  | readEnd (pipe : Key)
  /-- The end of a pipe to which is written. -/
  | writeEnd (pipe : Key)
  /-- An opened file. -/
  | file (file : Key)
  deriving DecidableEq, Repr

/-- What a descriptor of the shell refers to. -/
def Handle.ofResource : Resource → Handle
  | .readEnd n => .readEnd (.ofShell n)
  | .writeEnd n => .writeEnd (.ofShell n)
  | .file n => .file (.ofShell n)

/-- An opened file. All descriptors that refer to it share its position. -/
structure OpenFile where
  /-- The file. -/
  node : NodeId
  /-- The position of the next byte. -/
  offset : Nat
  /-- How it was opened. -/
  mode : OpenMode

/-- Whether a process goes on. -/
inductive Life where
  /-- It goes on. -/
  | alive
  /-- It was stopped by a signal. -/
  | stopped (signal : Nat)
  /-- It has ended. -/
  | ended (event : ChildEvent)
  deriving DecidableEq, Repr

/-- A process. -/
structure Process where
  /-- The process that made it; the shell has the number zero. -/
  parent : ProcessId
  /-- What is left to be done. -/
  rest : Task
  /-- Its descriptors. -/
  descriptors : DescriptorTable Handle
  /-- Its working directory. -/
  directory : NodeId
  /-- Whether it goes on. -/
  life : Life
  /-- Whether its parent was told that it was stopped. -/
  reported : Bool
  /-- The time until which it sleeps. -/
  wakeAt : Option Nat
  /-- The signals that do nothing to it. -/
  ignored : List Nat
  /-- The signals that were ignored when its program started, and stay so. -/
  fixed : List Nat
  /-- The signals that are kept for it. -/
  noted : List Nat
  /-- The kept signals that have come, the last one first. -/
  arrived : List Nat
  /-- The permission bits that the files that it makes do not get. -/
  mask : Nat
  /-- What it can use up. -/
  limits : Limits
  /-- For how many microseconds it has computed. -/
  used : Nat

/-- A machine. -/
structure State where
  /-- The files. -/
  tree : Tree
  /-- The opened files. -/
  files : Std.HashMap Key OpenFile
  /-- The pipes. -/
  pipes : Std.HashMap Key Pipe
  /-- The processes. -/
  processes : Std.HashMap ProcessId Process
  /-- The processes that have not ended, in the order in which they take turns. -/
  order : List ProcessId
  /-- The descriptors of the shell while it waits. -/
  shell : DescriptorTable Handle
  /-- The number of the next process. -/
  nextPid : ProcessId
  /-- The number of the next pipe or opened file of a program. -/
  nextKey : Nat
  /-- The time, in microseconds. -/
  clock : Nat
  /-- Whether the shell can open no further descriptor. -/
  exhausted : Bool
  /-- The variables that programs get from the shell. -/
  bindings : Variables
  /-- How many more waits and reads of the shell are answered. -/
  budget : Nat

namespace State

/-- A machine with nothing but an empty root. -/
def empty : State where
  tree := .empty
  files := {}
  pipes := {}
  processes := {}
  order := []
  shell := .empty
  nextPid := 100
  nextKey := 0
  clock := 0
  exhausted := false
  bindings := []
  budget := 1 <<< 50

/-- The time when a machine is started. -/
def startTime : Instant := Calendar.instant (Calendar.Moment.seconds ⟨2026, 7, 1, 12, 0, 0⟩) 0

/-- How many microseconds it takes to make a process. -/
def launchLength : Nat := 1000

/-- The present time. Every process that was made so far has taken some. -/
def now (m : State) : Instant :=
  startTime + ((m.clock + launchLength * m.nextPid : Nat) : Int) * 1000

/-- Changes a process. -/
def modifyProcess (m : State) (pid : ProcessId) (f : Process → Process) : State :=
  { m with processes := m.processes.modify pid f }

/-- Whether some process, or the waiting shell, has a descriptor of a kind. -/
def anyoneHolds (m : State) (p : Handle → Bool) : Bool :=
  m.shell.refersTo p || m.order.any fun pid =>
    (m.processes[pid]?).any fun process => process.descriptors.refersTo p

/-- Whether someone could still write to a pipe. -/
def hasWriter (m : State) (pipe : Key) : Bool := m.anyoneHolds (· == .writeEnd pipe)

/-- Whether someone could still read from a pipe. -/
def hasReader (m : State) (pipe : Key) : Bool := m.anyoneHolds (· == .readEnd pipe)

/-- Whether nobody has the other end of a pipe. -/
def isForsaken (m : State) : Option Handle → Bool
  | some (.readEnd pipe) => !m.hasWriter pipe
  | some (.writeEnd pipe) => !m.hasReader pipe
  | _ => false

/-- The signal that tells a process that one of its children has ended. -/
def childSignal : Nat := 17

/-- A process for which a signal has come, if it is to be kept. -/
def noteSignal (p : Process) (signal : Nat) : Process :=
  if p.noted.contains signal && !p.arrived.contains signal then
    { p with arrived := signal :: p.arrived }
  else p

/-- Ends a process. Its descriptors are closed, and its parent can learn how it ended. -/
def finish (m : State) (pid : ProcessId) (event : ChildEvent) : State :=
  let m := m.modifyProcess pid fun process =>
    { process with life := .ended event, descriptors := .empty, rest := .done 0 }
  let m := match m.processes[pid]? with
    | none => m
    | some process => m.modifyProcess process.parent fun p => noteSignal p childSignal
  { m with order := m.order.filter (· ≠ pid) }

/-- An answer that may have to be waited for. -/
inductive Answer (α : Type) where
  /-- It has come. -/
  | now (answer : α) (m : State)
  /-- It has not come yet. -/
  | later

/-! ### Reading and writing -/

/-- Reads from an opened file. -/
def readFile (m : State) (key : Key) (limit : Nat) : Except Errno ByteArray × State :=
  match m.files[key]? with
  | none => (.error .badDescriptor, m)
  | some file =>
    if !file.mode.reads then (.error .badDescriptor, m)
    else match m.tree.content? file.node with
      | some (.directory _ _) => (.error .isDirectory, m)
      | some (.regular bytes) =>
        let piece := bytes.extract file.offset (file.offset + limit)
        (.ok piece, { m with
          files := m.files.insert key { file with offset := file.offset + piece.size } })
      | some (.device .full) | some (.device .zero) => (.ok ⟨Array.replicate limit 0⟩, m)
      | _ => (.ok .empty, m)

/-- Reads from something. -/
def read (m : State) (handle : Option Handle) (limit : Nat) : Answer (Except Errno ByteArray) :=
  match handle with
  | none => .now (.error .badDescriptor) m
  | some (.writeEnd _) => .now (.error .badDescriptor) m
  | some (.file key) =>
    let (answer, m) := m.readFile key limit
    .now answer m
  | some (.readEnd pipe) =>
    match m.pipes[pipe]? with
    | none => .now (.ok .empty) m
    | some held =>
      if held.bytes.isEmpty then if m.hasWriter pipe then .later else .now (.ok .empty) m
      else
        let (piece, left) := held.take limit
        .now (.ok piece) { m with pipes := m.pipes.insert pipe left }

/-- Writes to an opened file. -/
def writeFile (m : State) (key : Key) (bytes : ByteArray) : Except Errno Nat × State :=
  match m.files[key]? with
  | none => (.error .badDescriptor, m)
  | some file =>
    if !file.mode.writes then (.error .badDescriptor, m)
    else match m.tree.content? file.node with
      | some (.device .full) => (if bytes.isEmpty then .ok 0 else .error .noSpace, m)
      | some (.device _) => (.ok bytes.size, m)
      | _ =>
        let offset := if file.mode.atEnd then m.tree.sizeOf file.node else file.offset
        (.ok bytes.size, { m with
          tree := m.tree.writeAt file.node offset bytes m.now
          files := m.files.insert key { file with offset := offset + bytes.size } })

/-- Writes to something. A pipe takes as much as fits. -/
def write (m : State) (handle : Option Handle) (bytes : ByteArray) : Answer (Except Errno Nat) :=
  match handle with
  | none => .now (.error .badDescriptor) m
  | some (.readEnd _) => .now (.error .badDescriptor) m
  | some (.file key) =>
    let (answer, m) := m.writeFile key bytes
    .now answer m
  | some (.writeEnd pipe) =>
    if bytes.isEmpty then .now (.ok 0) m
    else if !m.hasReader pipe then .now (.error .brokenPipe) m
    else match ((m.pipes[pipe]?).getD .empty).put? bytes with
      | none => .later
      | some (count, held) => .now (.ok count) { m with pipes := m.pipes.insert pipe held }

/-! ### Opening -/

/-- Whether some descriptor of someone is open for writing to a node. The descriptors that are not
known to the machine are given. -/
def isWritten (m : State) (known : DescriptorTable Handle) (node : NodeId) : Bool :=
  let writes : Handle → Bool
    | .file key => (m.files[key]?).any fun file => file.node == node && file.mode.writes
    | _ => false
  known.refersTo writes || m.anyoneHolds writes

/-- Opens a node again that is already open as a descriptor. An end of a pipe is chosen by what it
is opened for. -/
def openAgain (m : State) (handle : Handle) (mode : OpenMode) (key : Key) : Handle × State :=
  match handle with
  | .readEnd pipe | .writeEnd pipe => (if mode.writes then .writeEnd pipe else .readEnd pipe, m)
  | .file other =>
    match m.files[other]? with
    | none => (handle, m)
    | some file =>
      let tree := if mode.empties then m.tree.clear file.node m.now else m.tree
      (.file key, { m with tree := tree, files := m.files.insert key ⟨file.node, 0, mode⟩ })

/-- Opens a node for one of the descriptors of a process. -/
def openNode (m : State) (descriptors : DescriptorTable Handle) (node : NodeId) (mode : OpenMode)
    (key : Key) : Except Errno (Handle × State) :=
  match m.tree.content? node with
  | some (.device .terminal) => .error .noDevice
  | some (.descriptor fd) =>
    match descriptors.get? fd with
    | none => .error .noEntry
    | some slot => .ok (m.openAgain slot.target mode key)
  | _ =>
    let tree := if mode.empties then m.tree.clear node m.now else m.tree
    .ok (.file key, { m with tree := tree, files := m.files.insert key ⟨node, 0, mode⟩ })

/-- Opens a file under a number, for a process with some descriptors. -/
def openAs (m : State) (descriptors : DescriptorTable Handle) (start : NodeId) (path : Name)
    (mode : OpenMode) (bits : Nat) (key : Key) : Except Errno (Handle × State) :=
  if mode.makes then
    match m.tree.openToMake start path bits m.now with
    | .error errno => .error errno
    | .ok (node, tree) => { m with tree := tree }.openNode descriptors node mode key
  else
    match m.tree.find start path with
    | .error errno => .error errno
    | .ok node =>
      if mode.writes && (m.tree.directory? node).isSome then .error .isDirectory
      else m.openNode descriptors node mode key

/-- The kind of a node. -/
def kindOf (t : Tree) (id : NodeId) : FileKind :=
  match t.content? id with
  | some (.directory _ _) => .directory
  | some (.device _) => .device
  | some (.link _) => .link
  | _ => .regular

/-- What is known about a node. -/
def factsOf (t : Tree) (id : NodeId) : FileFacts :=
  ⟨kindOf t id, t.modeOf id, t.sizeOf id, some id, t.modifiedAt id⟩

/-- What is known about what a handle refers to. -/
def describe (m : State) : Option Handle → Except Errno FileFacts
  | none => .error .badDescriptor
  | some (.file key) =>
    match m.files[key]? with
    | none => .error .badDescriptor
    | some file => .ok (factsOf m.tree file.node)
  | some _ => .ok ⟨.pipe, 0o600, 0, none, m.now⟩

/-- What is known about what is at a path. -/
def inspect (m : State) (descriptors : DescriptorTable Handle) (start : NodeId) (path : Name)
    (follow : Bool) : Except Errno FileFacts :=
  match m.tree.locate follow start path with
  | .error errno => .error errno
  | .ok place =>
    match place.node with
    | none => .error .noEntry
    | some id =>
      match m.tree.content? id with
      | some (.descriptor fd) =>
        match descriptors.get? fd with
        | none => .error .noEntry
        | some slot => m.describe (some slot.target)
      | _ => .ok (factsOf m.tree id)

/-- The first second that a file can hold as a time. -/
def firstSecond : Int := -2147483648

/-- The last second that a file can hold as a time. -/
def lastSecond : Int := 15032385535

/-- The time nearest to another one that a file can hold. -/
def heldTime (time : Instant) : Instant :=
  let second := time / Calendar.secondLength
  if second ≤ firstSecond then firstSecond * Calendar.secondLength
  else if lastSecond ≤ second then lastSecond * Calendar.secondLength
  else time

/-- Sets the time when the node of an opened file was changed. The present time is meant if none is
given. A pipe takes every time. -/
def stampHandle (m : State) (time : Option Instant) : Option Handle → Except Errno Unit × State
  | none => (.error .badDescriptor, m)
  | some (.file key) =>
    match m.files[key]? with
    | none => (.error .badDescriptor, m)
    | some file => (.ok (), { m with tree := m.tree.stamp file.node (heldTime (time.getD m.now)) })
  | some _ => (.ok (), m)

/-- Sets the time when what is at a path was changed. -/
def stampPath (m : State) (descriptors : DescriptorTable Handle) (start : NodeId) (path : Name)
    (follow : Bool) (time : Option Instant) : Except Errno Unit × State :=
  match m.tree.locate follow start path with
  | .error errno => (.error errno, m)
  | .ok place =>
    match place.node with
    | none => (.error .noEntry, m)
    | some id =>
      match m.tree.content? id with
      | some (.descriptor fd) =>
        match descriptors.get? fd with
        | none => (.error .noEntry, m)
        | some slot => m.stampHandle time (some slot.target)
      | _ => (.ok (), { m with tree := m.tree.stamp id (heldTime (time.getD m.now)) })

/-- The greatest position in a file. -/
def maxOffset : Nat := 17592186040320

/-- Moves the position of an opened file, and tells where it is then. A device has no position. -/
def seek (m : State) (handle : Option Handle) (origin : SeekOrigin) (distance : Int) :
    Except Errno Nat × State :=
  match handle with
  | some (.file key) =>
    match m.files[key]? with
    | none => (.error .badDescriptor, m)
    | some file =>
      if kindOf m.tree file.node = .device then (.ok 0, m)
      else
        let base := match origin with
          | .beginning => 0
          | .position => file.offset
          | .ending => m.tree.sizeOf file.node
        let goal : Int := base + distance
        if goal < 0 || maxOffset < goal then (.error .invalid, m)
        else (.ok goal.toNat, { m with
          files := m.files.insert key { file with offset := goal.toNat } })
  | some _ => (.error .illegalSeek, m)
  | none => (.error .badDescriptor, m)

/-! ### Signals -/

/-- The signals that stop a process. -/
def stopping : List Nat := [19, 20, 21, 22]

/-- The signals that do nothing by themselves. -/
def harmless : List Nat := [17, 23, 28]

/-- The signal that ends a process whatever it wants. -/
def killing : Nat := 9

/-- The signal that stops a process whatever it wants. -/
def halting : Nat := 19

/-- The signal that lets a stopped process go on. -/
def resuming : Nat := 18

/-- The greatest number of a signal. -/
def maxSignal : Nat := 64

/-- The process that is there before all others. No signal does anything to it. -/
def firstProcess : ProcessId := 1

/-- Whether nothing is left of a process that has ended, because its parent waits for its children
or has ended itself. -/
def isGone (m : State) (process : Process) : Bool :=
  match m.processes[process.parent]? with
  | none => process.parent ≠ 0
  | some parent =>
    match parent.life, parent.rest with
    | .ended _, _ => true
    | _, .call (.wait _) _ => true
    | _, _ => false

/-- Sends a signal to a process. -/
def signal (m : State) (pid : ProcessId) (signal : Nat) : Except Errno Unit × State :=
  match m.processes[pid]? with
  | none =>
    if pid ≠ firstProcess then (.error .noProcess, m)
    else if maxSignal < signal then (.error .invalid, m)
    else (.ok (), m)
  | some process =>
    if maxSignal < signal then (.error .invalid, m)
    else match process.life with
      | .ended _ => (if m.isGone process then .error .noProcess else .ok (), m)
      | _ =>
        if signal = 0 then (.ok (), m)
        else if signal = resuming then
          (.ok (), m.modifyProcess pid fun p => { p with life := .alive, reported := false })
        else if process.ignored.contains signal && signal ≠ killing && signal ≠ halting then
          (.ok (), m)
        else if process.noted.contains signal && signal ≠ killing && signal ≠ halting then
          (.ok (), m.modifyProcess pid fun p => noteSignal p signal)
        else if harmless.contains signal then (.ok (), m)
        else if stopping.contains signal then
          (.ok (), m.modifyProcess pid fun p =>
            { p with life := .stopped signal, reported := false })
        else (.ok (), m.finish pid (.killed signal))

/-- Decides what becomes of a signal. Some signals cannot be ignored, and those that were ignored
from the start stay so. -/
def dispose (p : Process) (signal : Nat) (disposition : Disposition) : Process :=
  if p.fixed.contains signal then p
  else
    let ignored := p.ignored.filter (· ≠ signal)
    let noted := p.noted.filter (· ≠ signal)
    match disposition with
    | .standard => { p with ignored := ignored, noted := noted }
    | .ignored => { p with ignored := signal :: ignored, noted := noted }
    | .noted => { p with ignored := ignored, noted := signal :: noted }

end State

end CommandShell.Machine
