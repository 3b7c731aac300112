import CommandShell.Machine.Loading
import CommandShell.Machine.State

/-!
# Taking turns

The processes of a machine take turns in the order in which they began, and each one goes on as long
as it can. A request that cannot be answered yet is made again at the next turn. When no process
can go on, the clock moves on to the time at which the next one wakes.
-/

namespace CommandShell.Machine.State

/-- Opens a descriptor of a process. -/
def openFor (m : State) (pid : ProcessId) (p : Process) (handle : Handle) : Fd × State :=
  let fd := p.descriptors.nextFd
  (fd, m.modifyProcess pid fun p => { p with descriptors := p.descriptors.set fd ⟨handle, false⟩ })

/-- Replaces the descriptors of a process. -/
def withDescriptors (m : State) (pid : ProcessId) (descriptors : DescriptorTable Handle) : State :=
  m.modifyProcess pid fun p => { p with descriptors := descriptors }

/-- The permission bits of a file that a program makes, before some of them are taken away. -/
def programMode : Nat := 0o666

/-- Permission bits without those of a mask. -/
def unmasked (bits mask : Nat) : Nat := bits &&& (0o777 - mask % 512)

/-- Whether a process can have a descriptor with a number. -/
def canHave (p : Process) (fd : Fd) : Bool :=
  match (p.limits.boundOf .descriptors).soft with
  | none => true
  | some count => fd < count

/-- Makes `goal` a duplicate of `source`. -/
def duplicateFor (m : State) (pid : ProcessId) (p : Process) (source goal : Fd) :
    Except Errno Unit × State :=
  match p.descriptors.duplicate source goal with
  | none => (.error .badDescriptor, m)
  | some descriptors =>
    if source ≠ goal && !canHave p goal then (.error .badDescriptor, m)
    else (.ok (), m.withDescriptors pid descriptors)

/-- Makes a duplicate of a descriptor at the lowest free number from `least` on. -/
def duplicateAbove (m : State) (pid : ProcessId) (p : Process) (source least : Fd) :
    Except Errno Fd × State :=
  match p.descriptors.get? source with
  | none => (.error .badDescriptor, m)
  | some slot =>
    let fd := p.descriptors.nextFdFrom least
    if !canHave p least then (.error .invalid, m)
    else if !canHave p fd then (.error .tooManyOpen, m)
    else (.ok fd, m.withDescriptors pid (p.descriptors.set fd ⟨slot.target, true⟩))

/-- Makes a pipe for a process. -/
def pipeFor (m : State) (pid : ProcessId) (p : Process) : Except Errno (Fd × Fd) × State :=
  let key := Key.ofProgram m.nextKey
  let reader := p.descriptors.nextFd
  let opened := p.descriptors.set reader ⟨.readEnd key, false⟩
  let writer := opened.nextFd
  let opened := opened.set writer ⟨.writeEnd key, false⟩
  if !canHave p writer then (.error .tooManyOpen, m)
  else (.ok (reader, writer), { m.withDescriptors pid opened with
    nextKey := m.nextKey + 1
    pipes := m.pipes.insert key .empty })

/-- Why nothing can be opened at a path, if that is known before one looks there. -/
def refusal? (p : Process) (path : Name) : Option Errno :=
  if path.isEmpty then some .noEntry
  else if maxPath ≤ path.length then some .nameTooLong
  else if !canHave p p.descriptors.nextFd then some .tooManyOpen
  else none

/-- Opens a file for a process. -/
def openPathFor (m : State) (pid : ProcessId) (p : Process) (path : Name) (mode : OpenMode) :
    Except Errno Fd × State :=
  let key := Key.ofProgram m.nextKey
  match refusal? p path with
  | some errno => (.error errno, m)
  | none =>
    match m.openAs p.descriptors p.directory path mode (unmasked programMode p.mask) key with
    | .error errno => (.error errno, m)
    | .ok (handle, m) =>
      let (fd, m) := m.openFor pid p handle
      (.ok fd, { m with nextKey := m.nextKey + 1 })

/-- The names in the directory at a path. -/
def listFor (m : State) (p : Process) (path : Name) : Except Errno (List Name) :=
  match refusal? p path with
  | some errno => .error errno
  | none =>
    match m.tree.openDirectory p.directory path with
    | .error errno => .error errno
    | .ok id => .ok (((m.tree.directory? id).map fun (_, entries) => entries.map (·.1)).getD [])

/-- Tells a process about the end of a child. -/
def reap (m : State) (parent child : ProcessId) : Answer (Except Errno ChildEvent) :=
  match m.processes[child]? with
  | none => .now (.error .noChild) m
  | some process =>
    if process.parent ≠ parent then .now (.error .noChild) m
    else match process.life with
      | .ended event => .now (.ok event) { m with processes := m.processes.erase child }
      | _ => .later

/-- The answer to a request that is answered now. -/
def immediate {α : Type} (result : α × State) : Answer α := .now result.1 result.2

/-- An answer that has to be waited for is a failure if a signal has come that was to be kept. -/
def unlessNoted {α : Type} (m : State) (p : Process) (answer : Answer (Except Errno α)) :
    Answer (Except Errno α) :=
  match answer with
  | .later => if p.arrived.isEmpty then .later else .now (.error .interrupted) m
  | answer => answer

/-- What a descriptor of a process refers to. -/
def target (p : Process) (fd : Fd) : Option Handle := (p.descriptors.get? fd).map (·.target)

/-- The size from which on a limit of the size of files allows nothing. -/
def leastSenselessSize : Nat := 9223372036854775808

/-- How many of so many bytes a process may write to a descriptor. There is no answer if the file
has the greatest size already that it may have. -/
def writable? (m : State) (p : Process) (fd : Fd) (size : Nat) : Option Nat :=
  match target p fd, (p.limits.boundOf .fileSize).soft with
  | some (.file key), some most =>
    match m.files[key]? with
    | none => some size
    | some file =>
      let offset := if file.mode.atEnd then m.tree.sizeOf file.node else file.offset
      if size = 0 || !file.mode.writes || kindOf m.tree file.node ≠ .regular then some size
      else if most ≤ offset || leastSenselessSize ≤ most then none
      else some (min size (most - offset))
  | _, _ => some size

/-- The signal for a process that writes too much to a file. -/
def fileSignal : Nat := 25

/-- Writes to a descriptor of a process as much as it may. -/
def writeFor (m : State) (pid : ProcessId) (p : Process) (fd : Fd) (bytes : ByteArray) :
    Answer (Except Errno Nat) :=
  match m.writable? p fd bytes.size with
  | none => .now (.error .fileTooLarge) (m.signal pid fileSignal).2
  | some count =>
    m.write (target p fd) (if count = bytes.size then bytes else bytes.extract 0 count)

/-- For how many microseconds a process computes between two chances for the other ones. -/
def computingLength : Nat := 20

/-- How many microseconds a second has. -/
def secondLength : Nat := 1000000

/-- The signal for a process that has computed for too long. -/
def timeSignal : Nat := 24

/-- Lets a process compute for a while. It is told every second that it has computed for too long,
and ended when it cannot be allowed to go on. -/
def compute (m : State) (pid : ProcessId) (p : Process) : State :=
  let used := p.used + computingLength
  let seconds := used / secondLength
  let m := { m with clock := m.clock + computingLength }
  let m := m.modifyProcess pid fun p => { p with used := used }
  let bound := p.limits.boundOf .time
  if bound.hard.any (· ≤ seconds) then (m.signal pid killing).2
  else if bound.soft.any (· ≤ seconds) && p.used / secondLength < seconds then
    (m.signal pid timeSignal).2
  else m

/-- Answers a request of a process that changes nothing about what the process will do. -/
def perform (m : State) (pid : ProcessId) (p : Process) : (request : Call) → Answer request.Answer
  | .read fd limit => m.unlessNoted p (m.read (target p fd) limit)
  | .write fd bytes => m.unlessNoted p (m.writeFor pid p fd bytes)
  | .openFile path mode => immediate (m.openPathFor pid p path mode)
  | .close fd => .now () (m.withDescriptors pid (p.descriptors.close fd))
  | .duplicate source goal => immediate (m.duplicateFor pid p source goal)
  | .duplicateAbove source least => immediate (m.duplicateAbove pid p source least)
  | .makePipe => immediate (m.pipeFor pid p)
  | .seek fd origin distance => immediate (m.seek (target p fd) origin distance)
  | .describe fd => .now (m.describe (target p fd)) m
  | .fork => .now none m
  | .exec _ _ _ => .now .invalid m
  | .exit _ => .later
  | .crash _ => .later
  | .wait child => m.unlessNoted p (m.reap pid child)
  | .inquire child =>
    match m.reap pid child with
    | .now (.ok event) m => .now (some event) m
    | _ => .now none m
  | .self => .now pid m
  | .parent => .now p.parent m
  | .kill target signal => immediate (m.signal target signal)
  | .dispose signal disposition =>
    .now () (m.modifyProcess pid fun p => dispose p signal disposition)
  | .sleep microseconds =>
    match p.wakeAt with
    | none =>
      .now () (m.modifyProcess pid fun p => { p with wakeAt := some (m.clock + microseconds) })
    | some _ => .later
  | .notedSignals =>
    .now p.arrived.reverse (m.modifyProcess pid fun p => { p with arrived := [] })
  | .pause => .now () (m.compute pid p)
  | .enter path =>
    match m.tree.openDirectory p.directory path with
    | .error errno => .now (.error errno) m
    | .ok directory =>
      .now (.ok ()) (m.modifyProcess pid fun p => { p with directory := directory })
  | .whereAmI => .now (m.tree.pathOf p.directory) m
  | .canonicalize path => .now (m.tree.canonicalize p.directory path) m
  | .removeDirectory path =>
    match m.tree.removeDirectory p.directory path m.now with
    | .error errno => .now (.error errno) m
    | .ok tree => .now (.ok ()) { m with tree := tree }
  | .inspect path follow => .now (m.inspect p.descriptors p.directory path follow) m
  | .listDirectory path => .now (m.listFor p path) m
  | .boundOf what => .now (p.limits.boundOf what) m
  | .setBound what bound =>
    match p.limits.change what bound with
    | .error errno => .now (.error errno) m
    | .ok limits => .now (.ok ()) (m.modifyProcess pid fun p => { p with limits := limits })
  | .now => .now m.now m
  | .stamp fd time => immediate (m.stampHandle time (target p fd))
  | .stampPath path follow time =>
    immediate (m.stampPath p.descriptors p.directory path follow time)
  | .isForsaken fd => .now (m.isForsaken (target p fd)) m
  | .setMask mask => .now p.mask (m.modifyProcess pid fun p => { p with mask := mask })

/-- Adds a process. -/
def addProcess (m : State) (pid : ProcessId) (p : Process) : State :=
  { m with processes := m.processes.insert pid p, order := m.order ++ [pid] }

/-- Lets a process make one request. There is no answer if it cannot go on now. -/
def advance (m : State) (pid : ProcessId) (p : Process) : Option State :=
  match p.rest with
  | .done code => some (m.finish pid (.exited (code % 256)))
  | .call request next =>
    match request, next with
    | .exit code, _ => some (m.finish pid (.exited (code % 256)))
    | .crash signal, _ => some (m.finish pid (.killed signal))
    | .fork, next =>
      let child := m.nextPid
      let m := { m with nextPid := child + 1 }
      let m := m.modifyProcess pid fun p => { p with rest := next (some child) }
      some (m.addProcess child { p with
        parent := pid, rest := next none, life := .alive, reported := false, wakeAt := none,
        arrived := [], used := 0 })
    | .exec path arguments bindings, next =>
      let linked := canHave p p.descriptors.surviving.nextFd
      match m.start p.descriptors p.directory ⟨path, arguments, bindings, linked⟩ with
      | .error errno => some (m.modifyProcess pid fun p => { p with rest := next errno })
      | .ok task => some (m.modifyProcess pid fun p => { p with
          rest := task, descriptors := p.descriptors.surviving, fixed := p.ignored, noted := [],
          arrived := [] })
    | request, next =>
      match m.perform pid p request with
      | .later => none
      | .now answer m => some (m.modifyProcess pid fun p =>
          match p.life with
          | .ended _ => p
          | _ => { p with rest := next answer })

/-- Gives a process its turn, if it can go on. -/
def turn (m : State) (pid : ProcessId) : Option State :=
  match m.processes[pid]? with
  | none => none
  | some p =>
    if p.life ≠ .alive then none
    else match p.wakeAt with
      | none => m.advance pid p
      | some time =>
        if m.clock < time then none
        else
          let awake := { p with wakeAt := none }
          (m.modifyProcess pid fun _ => awake).advance pid awake

/-- How many requests a process can make before the next one gets its turn. -/
def spellLength : Nat := 4096

/-- Lets a process go on as long as it can, with a number of requests at most. -/
def spell (pid : ProcessId) : Nat → State → State
  | 0, m => m
  | fuel + 1, m =>
    match m.turn pid with
    | none => m
    | some m => spell pid fuel m

/-- Gives each process its turn, and tells whether one of them has gone on. -/
def round (m : State) : State × Bool :=
  m.order.foldl (fun (m, moved) pid => match m.turn pid with
    | none => (m, moved)
    | some m => (spell pid spellLength m, true)) (m, false)

/-- The time at which a process wakes that sleeps. -/
def wakeOf? (m : State) (pid : ProcessId) : Option Nat :=
  match m.processes[pid]? with
  | none => none
  | some p => if p.life = .alive then p.wakeAt.filter (m.clock < ·) else none

/-- The time at which the next sleeping process wakes. -/
def nextWake (m : State) : Option Nat := (m.order.filterMap m.wakeOf?).min?

/-- What there is to tell about a child of the shell. -/
def news (m : State) (pid : ProcessId) : Option (ChildEvent × State) :=
  match m.processes[pid]? with
  | none => some (.failed .noChild, m)
  | some p =>
    match p.life with
    | .alive => none
    | .ended event => some (event, { m with processes := m.processes.erase pid })
    | .stopped signal =>
      if p.reported then none
      else some (.stopped signal, m.modifyProcess pid fun p => { p with reported := true })

/-- Gives the processes their turns until there is something to tell about a child of the shell. A
child about which nothing can ever be told does not count as one. -/
def runUntilNews (pid : ProcessId) : Nat → State → ChildEvent × State
  | 0, m => (.failed .noChild, m)
  | fuel + 1, m =>
    match m.news pid with
    | some answer => answer
    | none =>
      let (m, moved) := m.round
      if moved then runUntilNews pid fuel m
      else match m.nextWake with
        | none => (.failed .noChild, m)
        | some time => runUntilNews pid fuel { m with clock := time }

end CommandShell.Machine.State
