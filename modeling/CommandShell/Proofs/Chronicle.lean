import CommandShell.Proofs.StartedShell

/-!
# Chronicles

A small system on which runs can be followed by evaluation. Pipes, files and processes can always
be made, and pipes keep what is written to them; some programs are missing, some files are full, and
what the system tells of processes was written down beforehand. Main statement: a shell that is
started on it has numbers for new things (`Chronicle.numbered_shell`).
-/

namespace CommandShell

open Shell

/-- A system whose answers are simple, or were written down beforehand. -/
structure Chronicle where
  /-- The programs that cannot be started. -/
  missing : List Bytes
  /-- The files to which nothing can be written. -/
  full : List Nat
  /-- How many processes were made. -/
  made : Nat
  /-- What was written to pipes and not yet read. -/
  buffer : Bytes
  /-- What is still to be told of processes. -/
  events : List ChildEvent

namespace Chronicle

/-- Starts a program, if it is not missing. -/
def exec (c : Chronicle) (launch : Launch) : Except Errno Unit :=
  match launch.arguments.texts with
  | [] => .ok ()
  | program :: _ => if program ∈ c.missing then .error .noEntry else .ok ()

/-- Writes something to a pipe or to a file. -/
def write (c : Chronicle) (bytes : Bytes) : Resource → Except Errno Unit × Chronicle
  | .readEnd _ => (.ok (), c)
  | .writeEnd _ => (.ok (), { c with buffer := c.buffer ++ bytes })
  | .file number => (if number ∈ c.full then .error .noSpace else .ok (), c)

/-- Tells what is to be told next of a process. -/
def tell (c : Chronicle) : ChildEvent × Chronicle :=
  match c.events with
  | [] => (.failed .noChild, c)
  | event :: later => (event, { c with events := later })

theorem length_events_tell (c : Chronicle) (h : c.tell.1.settled = false) :
    c.tell.2.events.length < c.events.length := by
  obtain ⟨missing, full, made, buffer, events⟩ := c
  cases events with
  | nil => cases h
  | cons event later => exact Nat.lt_succ_self _

theorem events_write (c : Chronicle) (bytes : Bytes) (goal : Resource) :
    (c.write bytes goal).2.events = c.events := by
  cases goal <;> rfl

/-- What was read is in the buffer no longer. -/
theorem length_drop_buffer (c : Chronicle) (limit : Nat) (h : c.buffer.take limit ≠ []) :
    (c.buffer.drop limit).length < c.buffer.length := by
  rw [ne_eq, List.take_eq_nil_iff, not_or] at h
  rw [List.length_drop]
  have hlimit := Nat.pos_of_ne_zero h.1
  have hlength := List.length_pos_iff.2 h.2
  omega

instance : Kernel Chronicle where
  makePipe _ := fun c => (.ok (), c)
  openToRead _ _ _ := fun c => (.ok (), c)
  openToWrite _ _ _ := fun c => (.ok (), c)
  fork _ := fun c => (.ok (c.made + 1 : Nat), { c with made := c.made + 1 })
  permitDuplicate _ _ _ := fun c => (.ok (), c)
  exec _ launch := fun c => (c.exec launch, c)
  exit _ _ := fun c => ((), c)
  write goal bytes := fun c => c.write bytes goal
  read _ limit _ := fun c =>
    (.ok (c.buffer.take limit), { c with buffer := c.buffer.drop limit })
  wait _ _ := tell
  canonicalize _ _ := fun c => (.error .noEntry, c)
  enter _ _ := fun c => (.error .noEntry, c)
  nameOf _ := fun c => (.error .noEntry, c)
  patience c := c.events.length
  supply c := c.buffer.length
  patience_wait _ _ := length_events_tell
  patience_write goal bytes c := Nat.le_of_eq (congrArg List.length (c.events_write bytes goal))
  supply_read _ limit _ c h := c.length_drop_buffer limit fun hnone => by
    rw [hnone] at h
    cases h

/-- A shell with some of seven streams, the files that are full, the programs that are missing, and
what will be told. -/
def shellWith (streams : List Fd) (full : List Nat) (missing : List Bytes)
    (events : List ChildEvent) : ShellState (Recorded Chronicle) where
  descriptors := (Machine.streamDescriptors 7).closeAll
    ((List.range 7).filter fun fd => decide (fd ∉ streams))
  fresh := 7
  surroundings := ⟨0, none, ⟨missing, full, 0, [], events⟩, []⟩
  lastStatus := 0
  log := ⟨.error, ""⟩
  downfall := none

/-- A shell with its standard streams, the programs that are missing, and what will be told. -/
def shell (missing : List Bytes) (events : List ChildEvent) : ShellState (Recorded Chronicle) where
  descriptors := Machine.streamDescriptors 3
  fresh := 3
  surroundings := ⟨0, none, ⟨missing, [], 0, [], events⟩, []⟩
  lastStatus := 0
  log := ⟨.error, ""⟩
  downfall := none

variable (missing : List Bytes) (events : List ChildEvent)

theorem numbered_shell : Numbered (shell missing events) := by
  intro fd slot hslot
  have hget : (Machine.streamDescriptors 3).get? fd = some slot := hslot
  rw [Machine.get?_streamDescriptors] at hget
  split at hget
  · next hlt =>
    cases hget
    exact hlt
  · cases hget

end Chronicle

theorem eq_ok_of_toOption {ε α : Type} {result : Except ε α} {a : α}
    (h : result.toOption = some a) : result = .ok a := by
  cases result with
  | error e => cases h
  | ok b =>
    cases h
    rfl

end CommandShell
