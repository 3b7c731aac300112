import CommandShell.Machine.Tool.Portion

/-!
# Following files

What a tool does that has written the ends of files and waits for more: it looks at the files again
and again, writes what has come, and rests in between. It ends when no file is left that could get
more, when nobody reads what it writes, or when a process has ended that is told to write the files.
-/

namespace CommandShell.Machine.Tool.Following

open Ascii

/-- How files are followed. -/
structure Manner where
  /-- Whether what a name stands for is followed, and not the file that it stood for at first. -/
  byName : Bool
  /-- Whether a file is tried again that could not be opened. -/
  insists : Bool
  /-- How often a file is found unchanged before its name is looked up again. -/
  patience : Nat
  /-- The process that writes the files, if it is known. -/
  writer : Option ProcessId
  /-- How long the rests are, in microseconds. -/
  interval : Nat

/-- How files are followed if nothing else is asked for. -/
def Manner.usual : Manner := ⟨false, false, 5, none, 1000000⟩

/-- What was wrong with a file when it was looked at last. -/
inductive Trouble where
  | nothing
  | failed (errno : Errno)
  /-- It is of a kind that cannot be followed. -/
  | unsuitable
  deriving DecidableEq

namespace Trouble

/-- Whether a file with this trouble was there. -/
def isPresence : Trouble → Bool
  | nothing => false
  | failed errno => errno ≠ .noEntry
  | unsuitable => true

end Trouble

/-- A file that is followed. -/
structure Followed where
  /-- The operand that names it. -/
  operand : Bytes
  /-- Its descriptor, if it is open. -/
  fd : Option Fd
  /-- How much of it was read. -/
  size : Nat
  /-- When it was changed, as far as that was seen. -/
  modified : Instant
  /-- The node, unless it is a pipe. -/
  node : Option NodeId
  /-- What kind of file it is. -/
  kind : FileKind
  /-- What was wrong with it. -/
  trouble : Trouble
  /-- Whether it was found at its name, unless nobody insists on that. -/
  reachable : Bool
  /-- Whether it is not looked at any more. -/
  ignored : Bool
  /-- How often it was found unchanged. -/
  unchanged : Nat

namespace Followed

/-- A file that is not open. -/
def closed (operand : Bytes) (trouble : Trouble) (reachable ignored : Bool) : Followed where
  operand := operand
  fd := none
  size := 0
  modified := 0
  node := none
  kind := .regular
  trouble := trouble
  reachable := reachable
  ignored := ignored
  unchanged := 0

/-- A file that was opened and read up to some size. -/
def opened (operand : Bytes) (fd : Fd) (size : Nat) (facts : FileFacts) : Followed where
  operand := operand
  fd := some fd
  size := size
  modified := facts.modified
  node := facts.node
  kind := facts.kind
  trouble := .nothing
  reachable := true
  ignored := false
  unchanged := 0

end Followed

/-- Whether a file of a kind can get more. -/
def canGrow : FileKind → Bool
  | .regular | .pipe | .device => true
  | .directory | .link => false

/-- Closes a file that is open. -/
def closeAt (operand : Bytes) : Option Fd → Act Unit
  | none => pure ()
  | some fd => closeOperand operand fd

/-- How far a tool has come that looks at files. -/
structure Progress where
  /-- The number of the file of which something was written last. -/
  last : Nat
  /-- Whether no heading was written. -/
  fresh : Bool
  /-- Whether something has come since the last rest. -/
  moved : Bool

/-- Opens the file again that a name stands for, and tells what is known about it. -/
def reopen (operand : Bytes) : Act (Option Fd × Except Errno FileFacts) := do
  match ← openAside operand with
  | .error errno => return (none, .error errno)
  | .ok fd => return (some fd, ← ask (.describe fd))

/-- Looks up the name of a file again. -/
def recheck (t : Invocation) (w : Manner) (f : Followed) : Act Followed := do
  let title := fileTitle f.operand
  let (fd, facts) ← reopen f.operand
  let reachable := !(w.insists && fd.isNone)
  match facts with
  | .error errno =>
    if !reachable then
      if f.reachable then
        t.complainOf (shellQuoted title ++ utf8 " has become inaccessible") errno
    else if f.trouble ≠ .failed errno then t.complainOf (shown title) errno
    closeAt f.operand fd
    closeAt f.operand f.fd
    return { f with fd := none, trouble := .failed errno, reachable := reachable }
  | .ok facts =>
    if !canGrow facts.kind then
      let ignored := !(w.insists && w.byName)
      if f.reachable || f.trouble ≠ .unsuitable then
        t.complain (shellQuoted title ++ utf8 " has been replaced with an untailable file" ++
          if ignored then utf8 "; giving up on this name" else [])
      closeAt f.operand fd
      closeAt f.operand f.fd
      return { f with fd := none, trouble := .unsuitable, reachable := false, ignored := ignored }
    else
      let news :=
        if f.trouble.isPresence then some " has become accessible"
        else if f.fd.isNone then some " has appeared;  following new file"
        else if f.node ≠ facts.node then some " has been replaced;  following new file"
        else none
      match news, fd with
      | some news, some fd =>
        t.complain (shellQuoted title ++ utf8 news)
        closeAt f.operand f.fd
        if facts.kind = .regular then
          let _ : Except Errno Nat ← ask (.seek fd .beginning 0)
        return .opened f.operand fd 0 facts
      | _, _ =>
        closeAt f.operand fd
        return { f with trouble := .nothing, reachable := reachable }

/-- Writes what has come in a file that has changed, under a heading if another file was written
last. -/
def writeNews (t : Invocation) (headed : Bool) (number : Nat) (p : Progress) (f : Followed)
    (fd : Fd) (facts : FileFacts) : Act (Progress × Followed) := do
  let isShorter := f.kind = .regular && facts.size < f.size
  if isShorter then
    t.complain (shown (fileTitle f.operand) ++ utf8 ": file truncated")
    let _ : Except Errno Nat ← ask (.seek fd .beginning 0)
  let isOther := number ≠ p.last
  if isOther && headed then putText (heading p.fresh f.operand)
  let count ← copyRest t f.operand fd 0 endless
  let size := if isShorter then 0 else f.size
  return (⟨number, p.fresh && !(isOther && headed), p.moved || 0 < count⟩,
    { f with modified := facts.modified, size := size + count })

/-- Writes what is read next from the only file. -/
def writeNext (t : Invocation) (p : Progress) (f : Followed) (fd : Fd) :
    Act (Progress × Followed) := do
  match (← ask (.read fd inputSize) : Except Errno ByteArray) with
  | .error errno => t.dieOf 1 (utf8 "error reading " ++ shellQuoted (fileTitle f.operand)) errno
  | .ok piece =>
    putOrDie t piece
    return ({ p with moved := p.moved || !piece.isEmpty }, { f with size := f.size + piece.size })

/-- Whether a file is as it was seen. -/
def isUnchanged (f : Followed) (facts : FileFacts) : Bool :=
  (facts.kind ≠ .regular || f.size = facts.size) && f.modified = facts.modified

/-- A file that was found unchanged once more. -/
def countUnchanged (t : Invocation) (w : Manner) (f : Followed) : Act Followed := do
  if w.patience ≤ f.unchanged && w.byName then
    return { ← recheck t w f with unchanged := 0 }
  else return { f with unchanged := f.unchanged + 1 }

/-- Looks at a file. It is only waited for what comes next if `blocking` is so; `alone` tells
whether it is the only file. -/
def lookAt (t : Invocation) (w : Manner) (headed blocking alone : Bool) (number : Nat)
    (p : Progress) (f : Followed) : Act (Progress × Followed) := do
  if f.ignored then return (p, f)
  match f.fd with
  | none => return (p, ← recheck t w f)
  | some fd =>
    if blocking then writeNext t p f fd
    else match (← ask (.describe fd) : Except Errno FileFacts) with
      | .error errno =>
        t.complainOf (shown (fileTitle f.operand)) errno
        return (p, { f with fd := none, trouble := .failed errno })
      | .ok facts =>
        if !isUnchanged f facts then
          writeNews t headed number p { f with unchanged := 0 } fd facts
        else
          let f ← countUnchanged t w f
          if f.fd ≠ some fd || facts.kind = .regular || !alone then return (p, f)
          else writeNews t headed number p f fd facts

/-- Looks at all files. -/
def lookAtAll (t : Invocation) (w : Manner) (headed blocking alone : Bool) (number : Nat)
    (p : Progress) : List Followed → Act (Progress × List Followed)
  | [] => pure (p, [])
  | f :: rest => do
    let (p, f) ← lookAt t w headed blocking alone number p f
    let (p, rest) ← lookAtAll t w headed blocking alone (number + 1) p rest
    return (p, f :: rest)

/-- Whether there are files that could get more. -/
def anyLeft (w : Manner) (files : List Followed) : Bool :=
  (w.insists && w.byName) || files.any fun f => f.fd.isSome || (!f.ignored && w.insists)

/-- The signal for a process that writes what nobody reads. -/
def pipeSignal : Nat := 13

/-- Ends if nobody reads what is written. -/
def requireReader (t : Invocation) : Act Unit := do
  let forsaken : Bool ← ask (.isForsaken 1)
  if forsaken then
    let pid : ProcessId ← ask .self
    let _ : Except Errno Unit ← ask (.kill pid pipeSignal)
    t.finish 1 1

/-- Whether the process has ended that writes the files. -/
def isWriterGone (w : Manner) : Act Bool := do
  match w.writer with
  | none => return false
  | some pid =>
    match (← ask (.kill pid 0) : Except Errno Unit) with
    | .ok () => return false
    | .error errno => return errno ≠ .notPermitted

/-- Rests for a while. -/
def rest (w : Manner) : Act Unit := do
  ask .pause
  ask (.sleep w.interval)

/-- Looks at files again and again. Once the process has ended that writes them, they are looked at
until nothing comes any more. -/
def loop (t : Invocation) (w : Manner) (headed blocking watched ended : Bool) (p : Progress)
    (files : List Followed) : Nat → Act Unit
  | 0 => pure ()
  | fuel + 1 => do
    let (p, files) ← lookAtAll t w headed blocking (files.length = 1) 0 p files
    if !anyLeft w files then t.complain (utf8 "no files remaining")
    else
      if !p.moved || blocking then
        if let .error errno ← flush then t.dieOf 1 writeError errno
      if watched then requireReader t
      let p' := { p with moved := false }
      if p.moved then loop t w headed blocking watched ended p' files fuel
      else if !ended then
        let ended ← isWriterGone w
        if !ended then rest w
        loop t w headed blocking watched ended p' files fuel

/-- Whether a file is the standard input and that is a pipe. -/
def isPiped (f : Followed) : Bool :=
  f.operand = hyphen && !f.ignored && f.fd.isSome && f.kind = .pipe

/-- A file as it is followed: a pipe that is the standard input is not. -/
def unlessPiped (f : Followed) : Followed :=
  if isPiped f then { f with fd := none, ignored := true } else f

/-- Follows files. `fresh` tells whether no heading was written. -/
def follow (t : Invocation) (w : Manner) (headed fresh : Bool) (files : List Followed) :
    Act Unit := do
  if files.all isPiped then return
  let files := files.map unlessPiped
  match (← ask (.describe 1) : Except Errno FileFacts) with
  | .error errno => t.dieOf 1 (utf8 "standard output") errno
  | .ok facts =>
    let blocking := w.writer.isNone && !w.byName && files.length = 1 &&
      files.all fun f => f.fd.isSome && f.kind ≠ .regular
    loop t w headed blocking (facts.kind = .pipe) false ⟨files.length - 1, fresh, false⟩ files
      endless

end CommandShell.Machine.Tool.Following
