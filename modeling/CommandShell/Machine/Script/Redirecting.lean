import CommandShell.Machine.Script.Expansion

/-!
# Redirecting descriptors

What redirections do to the descriptors of an interpreter, and how it is undone. The old descriptors
are kept under greater numbers until the command ends.
-/

namespace CommandShell.Machine.Script

open Ascii Tool

/-- What a redirection refers to when the words in it were expanded. -/
inductive Goal where
  /-- A file. -/
  | file (direction : Direction) (name : Bytes)
  /-- Another descriptor, or none. -/
  | descriptor (source : Option Fd)
  /-- A text. -/
  | document (number : Nat)

/-- Why a file cannot be opened. A file that is missing is named in another way. -/
def openReason (errno : Errno) (missing : String) : Bytes :=
  if errno = .noEntry || errno = .notDirectory then utf8 missing else reason errno

/-- Complains about a file that cannot be opened for reading. -/
def refuseInput {α : Type} (name : Bytes) (errno : Errno) : Act α :=
  fail (utf8 "cannot open " ++ name ++ utf8 ": " ++ openReason errno "No such file")

/-- Complains about a file that cannot be opened for writing. -/
def refuseOutput {α : Type} (name : Bytes) (errno : Errno) : Act α :=
  fail (utf8 "cannot create " ++ name ++ utf8 ": " ++ openReason errno "Directory nonexistent")

/-- Opens a file, or complains. -/
def openOr (refuse : Bytes → Errno → Act Fd) (name : Bytes) (mode : OpenMode) : Act Fd := do
  match (← ask (.openFile name mode) : Except Errno Fd) with
  | .ok fd => return fd
  | .error errno => refuse name errno

/-- Opens a file for writing that must not exist as a regular one. -/
def openProtected (name : Bytes) : Act Fd := do
  match (← ask (.inspect name true) : Except Errno FileFacts) with
  | .ok facts =>
    if facts.kind = .regular then refuseOutput name .fileExists
    else openOr refuseOutput name ⟨false, true, false, false, false⟩
  | .error _ => openOr refuseOutput name .keep

/-- Opens a file as a redirection asks for. -/
def openGoal (direction : Direction) (name : Bytes) : Act Fd := do
  match direction with
  | .input => openOr refuseInput name .input
  | .output =>
    if (← get).has .noClobber then openProtected name else openOr refuseOutput name .output
  | .overwrite => openOr refuseOutput name .output
  | .append => openOr refuseOutput name .append
  | .update => openOr refuseOutput name .update

/-- How much can be written to a pipe that nobody reads yet. -/
def pipeSize : Nat := 4096

/-- Opens a text for reading. -/
def openDocument (capture : Capture) (number : Nat) : Act Fd := do
  let text ← expandDocument capture (((← get).documents.lookup number).getD [])
  match (← ask .makePipe : Except Errno (Fd × Fd)) with
  | .error _ => fail (utf8 "Pipe call failed")
  | .ok (reader, writer) =>
    if text.length ≤ pipeSize then
      let _ ← liftM (m := Program) (writeAll writer (pack text))
      ask (.close writer)
    else
      match (← ask .fork : Option ProcessId) with
      | some _ => ask (.close writer)
      | none =>
        ask (.close reader)
        let _ ← liftM (m := Program) (writeAll writer (pack text))
        liftM (m := Program) (Program.exit 0)
    return reader

/-- Expands the words in a redirection. -/
def resolveTarget (capture : Capture) (target : Target) : Act Goal := do
  match target with
  | .file direction name => return .file direction (← expandText capture name)
  | .descriptor source => return .descriptor source
  | .document number => return .document number
  | .namedDescriptor name =>
    match ← expandText capture name with
    | [b] =>
      if isDigit b then return .descriptor (some (digitValue b))
      else if b = minus then return .descriptor none
      else
        modify fun s => { s with line := s.readLine }
        fail (utf8 "Syntax error: Bad fd number")
    | _ =>
      modify fun s => { s with line := s.readLine }
      fail (utf8 "Syntax error: Bad fd number")

/-- Expands the words in redirections. -/
def resolveTargets (capture : Capture) : List Redirection → Act (List (Fd × Goal))
  | [] => pure []
  | .mk fd target :: rest => do
    let goal ← resolveTarget capture target
    return (fd, goal) :: (← resolveTargets capture rest)

/-- Complains about a descriptor. -/
def refuseDescriptor {α : Type} (fd : Fd) (errno : Errno) : Act α :=
  fail (decimal fd ++ utf8 ": " ++ reason errno)

/-- The least number under which an old descriptor is kept. -/
def leastKept : Fd := 10

/-- Gives what a descriptor refers to a greater number, and closes a descriptor. There is no answer
if it refers to nothing. -/
def moveAway (fd closed : Fd) : Act (Option Fd) := do
  match (← ask (.duplicateAbove fd leastKept) : Except Errno Fd) with
  | .ok copy =>
    ask (.close closed)
    return some copy
  | .error errno =>
    if errno = .badDescriptor then return none
    ask (.close closed)
    refuseDescriptor fd errno

/-- Keeps the old descriptor, unless one was kept before. The new one may stand in its place. -/
def keepDescriptor (fd : Fd) (opened : Option Fd) : Act Unit := do
  match (← get).redirected with
  | [] => return
  | frame :: rest =>
    if (frame.lookup fd).isSome then return
    let kept ← if opened = some fd then pure none else moveAway fd fd
    modify fun s => { s with redirected := ((fd, kept) :: frame) :: rest }

/-- Puts an opened file in the place of a descriptor. -/
def putInPlace (fd opened : Fd) : Act Unit := do
  keepDescriptor fd (some opened)
  if opened ≠ fd then
    let _ ← ask (.duplicate opened fd)
    ask (.close opened)

/-- Redirects a descriptor. -/
def redirectOne (capture : Capture) (fd : Fd) (goal : Goal) : Act Unit := do
  match goal with
  | .descriptor source =>
    if source = some fd then return
    keepDescriptor fd none
    match source with
    | none => ask (.close fd)
    | some source =>
      match (← ask (.duplicate source fd) : Except Errno Unit) with
      | .ok () => return
      | .error errno => refuseDescriptor source errno
  | .file direction name => putInPlace fd (← openGoal direction name)
  | .document number => putInPlace fd (← openDocument capture number)

/-- Redirects descriptors. -/
def redirect (capture : Capture) : List (Fd × Goal) → Act Unit
  | [] => pure ()
  | (fd, goal) :: rest => do
    redirectOne capture fd goal
    redirect capture rest

/-- Redirects descriptors and tells the status: an error does not break off. -/
def redirectSafely (capture : Capture) (goals : List (Fd × Goal)) : Act Nat := do
  match ← outcome (redirect capture goals) with
  | .ok () => return 0
  | .error .error => return 2
  | .error reason => leave reason

/-- Begins to keep old descriptors. -/
def openRedirections : Act Unit := modify fun s => { s with redirected := [] :: s.redirected }

/-- Puts an old descriptor back, or forgets it. -/
def putBackDescriptor (forgets : Bool) (entry : Fd × Option Fd) : Act Unit := do
  match entry with
  | (fd, none) => if !forgets then ask (.close fd)
  | (fd, some kept) =>
    if !forgets then
      let _ ← ask (.duplicate kept fd)
    ask (.close kept)

/-- Puts old descriptors back, or forgets them. -/
def putBackDescriptors (forgets : Bool) : List (Fd × Option Fd) → Act Unit
  | [] => pure ()
  | entry :: rest => do
    putBackDescriptor forgets entry
    putBackDescriptors forgets rest

/-- Undoes the last redirections, or makes them last. -/
def closeRedirections (forgets : Bool) : Act Unit := do
  match (← get).redirected with
  | [] => return
  | frame :: rest =>
    modify fun s => { s with redirected := rest }
    putBackDescriptors forgets frame

end CommandShell.Machine.Script
