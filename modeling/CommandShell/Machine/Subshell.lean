import CommandShell.CommandLine
import CommandShell.Machine.SearchPath
import CommandShell.Machine.Tool.Basic

/-!
# The shell as a program

A script can start the shell that runs it once more. Such a shell is a program of the machine like
any other: it gets its answers from a list, and where the list ends, it stops and its question is
put to the machine. With one more answer the shell is run again from its beginning, up to the next
question. Where the shell makes a copy of itself, the process makes a copy of itself, too: the copy
does what is asked of the copy, and the other process takes all that for granted, for it hears of
failures from the copy itself. Main statement: an answer that lets a shell go on is taken off the
list (`Dialogue.length_consult_lt`), so that waiting and reading come to an end.
-/

namespace CommandShell.Machine

open Ascii

/-- The name of the shell among the programs of the machine. -/
def shellName : String := "pipesh"

/-- The path under which a script finds the shell that runs it: the shell has the number zero. -/
def shellPath : String := "/proc/0/exe"

/-- The descriptors of a shell with a number of streams: the first three stay open for programs. -/
def streamDescriptors (count : Nat) : Descriptors :=
  (List.range count).foldl (fun t n => t.set n ⟨.file n, 2 < n⟩) .empty

/-- The text of a path. A path that is no text is not shown. -/
def textOfPath (path : Name) : String := (LineSource.textOfBytes path).getD ""

namespace Subshell

/-! ### Questions and answers -/

/-- A question of a shell to its system. -/
inductive Question where
  /-- Whether a pipe can be made. -/
  | makePipe (pipe : Nat)
  /-- Whether a file can be opened. -/
  | openFile (path : String) (mode : OpenMode) (number : Nat)
  /-- The number of a copy of the shell. -/
  | fork (descriptors : Descriptors)
  /-- Whether the copy may make one descriptor a duplicate of another. -/
  | permitDuplicate
  /-- Whether a program can be started in the copy. -/
  | exec (launch : Launch)
  /-- The end of the copy. -/
  | exit (code : Nat)
  /-- Whether bytes can be written. -/
  | write (goal : Resource) (bytes : Bytes)
  /-- Some bytes that are read. -/
  | read (source : Resource) (limit : Nat) (descriptors : Descriptors)
  /-- What there is to tell about a child. -/
  | wait (pid : Pid) (descriptors : Descriptors)
  /-- The absolute path of something. -/
  | canonicalize (path : String)
  /-- The directory at a path. -/
  | enter (path : String)
  /-- The path of the working directory. -/
  | whereAmI

/-- An answer to a question. -/
inductive Reply where
  /-- It is done, or not. -/
  | done (result : Except Errno Unit)
  /-- A number. -/
  | number (result : Except Errno Nat)
  /-- Some bytes. -/
  | bytes (result : Except Errno Bytes)
  /-- A text. -/
  | text (result : Except Errno String)
  /-- What there is to tell. -/
  | event (news : ChildEvent)

namespace Reply

/-- The reply whether something is done. -/
def done? : Reply → Option (Except Errno Unit)
  | done result => some result
  | _ => none

/-- The number in a reply. -/
def number? : Reply → Option (Except Errno Nat)
  | number result => some result
  | _ => none

/-- The bytes in a reply. -/
def bytes? : Reply → Option (Except Errno Bytes)
  | bytes result => some result
  | _ => none

/-- The text in a reply. -/
def text? : Reply → Option (Except Errno String)
  | text result => some result
  | _ => none

/-- What a reply tells. -/
def event? : Reply → Option ChildEvent
  | event news => some news
  | _ => none

end Reply

/-- A system that answers from a list. -/
structure Dialogue where
  /-- The answers that were not given yet. -/
  replies : List Reply
  /-- The first question for which there was no answer. -/
  asked : Option Question

namespace Dialogue

variable {α : Type}

/-- Puts a question. If there is no answer to it, it is kept, and the shell gets an answer with
which it comes to an end. -/
def consult (question : Question) (pick : Reply → Option α) (otherwise : α) : StateM Dialogue α :=
  fun d =>
    match d.replies with
    | [] => (otherwise, { d with asked := d.asked.or (some question) })
    | reply :: rest => ((pick reply).getD otherwise, { d with replies := rest })

variable {question : Question} {pick : Reply → Option α} {otherwise : α}

theorem length_consult_le (d : Dialogue) :
    (consult question pick otherwise d).2.replies.length ≤ d.replies.length := by
  obtain ⟨replies, asked⟩ := d
  cases replies with
  | nil => exact Nat.le_refl _
  | cons reply rest => exact Nat.le_succ _

/-- An answer that comes from the list is taken off the list. -/
theorem length_consult_lt {d : Dialogue}
    (h : (consult question pick otherwise d).1 ≠ otherwise) :
    (consult question pick otherwise d).2.replies.length < d.replies.length := by
  obtain ⟨replies, asked⟩ := d
  cases replies with
  | nil => exact absurd rfl h
  | cons reply rest => exact Nat.lt_succ_self _

instance : Kernel Dialogue where
  makePipe pipe := consult (.makePipe pipe) Reply.done? (.error .tryAgain)
  openToRead _ path number :=
    consult (.openFile path .input number) Reply.done? (.error .tryAgain)
  openToWrite _ path number :=
    consult (.openFile path .output number) Reply.done? (.error .tryAgain)
  fork descriptors := do
    return (← consult (.fork descriptors) Reply.number? (.error .tryAgain)).map Int.ofNat
  permitDuplicate _ _ _ := consult .permitDuplicate Reply.done? (.error .tryAgain)
  exec _ launch := consult (.exec launch) Reply.done? (.error .tryAgain)
  exit _ code := consult (.exit code) (fun _ => some ()) ()
  write goal bytes := consult (.write goal bytes) Reply.done? (.error .tryAgain)
  read source limit descriptors :=
    consult (.read source limit descriptors) Reply.bytes? (.ok [])
  wait pid descriptors := consult (.wait pid descriptors) Reply.event? (.failed .noChild)
  canonicalize _ path := consult (.canonicalize path) Reply.text? (.error .tryAgain)
  enter _ path := consult (.enter path) Reply.number? (.error .tryAgain)
  nameOf _ := consult .whereAmI Reply.text? (.error .tryAgain)
  patience d := d.replies.length
  supply d := d.replies.length
  patience_wait _ _ d h := length_consult_lt fun heq => by
    rw [heq] at h
    cases h
  patience_write _ _ d := d.length_consult_le
  supply_read _ _ _ d h := length_consult_lt fun heq => by
    rw [heq] at h
    cases h

end Dialogue

/-! ### Putting questions to the machine -/

/-- What the process of a shell keeps in mind. -/
structure Place where
  /-- The descriptors behind which the process has what the shell knows by numbers. -/
  held : List (Resource × Fd)
  /-- Whether the process is a copy of the one in which the shell was started. -/
  isCopy : Bool

/-- What the process of a shell does. -/
abbrev Act := StateT Place Program

/-- Makes a request. -/
def ask (request : Call) : Act request.Answer := StateT.lift (Program.ask request)

/-- Keeps a descriptor. -/
def hold (resource : Resource) (fd : Fd) : Act Unit :=
  modify fun p => { p with held := (resource, fd) :: p.held }

/-- Closes what the shell has closed. -/
def release (descriptors : Descriptors) : Act Unit := do
  let (kept, lost) := (← get).held.partition fun (resource, _) =>
    descriptors.refersTo fun other => decide (other = resource)
  modify fun p => { p with held := kept }
  lost.forM fun (_, fd) => ask (.close fd)

/-- Makes a request about something that the shell holds. -/
def askAbout {α : Type} (resource : Resource) (request : Fd → Act (Except Errno α)) :
    Act (Except Errno α) := do
  match (← get).held.lookup resource with
  | none => return .error .badDescriptor
  | some fd => request fd

/-- The permission bits that the files of a shell do not get. -/
def fileMask : Nat := 0o022

/-- Opens a file. -/
def openFile (path : String) (mode : OpenMode) (number : Nat) : Act (Except Errno Unit) := do
  let mask : Nat ← ask (.setMask fileMask)
  let opened : Except Errno Fd ← ask (.openFile (utf8 path) mode)
  let _ : Nat ← ask (.setMask mask)
  match opened with
  | .error errno => return .error errno
  | .ok fd =>
    hold (.file number) fd
    return .ok ()

/-- Makes a pipe. -/
def makePipe (number : Nat) : Act (Except Errno Unit) := do
  let made : Except Errno (Fd × Fd) ← ask .makePipe
  match made with
  | .error errno => return .error errno
  | .ok (reader, writer) =>
    hold (.readEnd number) reader
    hold (.writeEnd number) writer
    return .ok ()

/-- Makes a copy of the process. -/
def fork : Act Nat := do
  let child : Option ProcessId ← ask .fork
  match child with
  | some pid => return pid
  | none =>
    modify fun p => { p with isCopy := true }
    ask .self

/-- From where on the descriptors stand that a program does not get. -/
def leastAside : Fd := 64

/-- Gives a program its descriptors, and puts everything else where the program does not get it. -/
def arrange (descriptors : Descriptors) : Act Unit := do
  let aside ← (← get).held.mapM fun (resource, fd) => do
    let moved : Except Errno Fd ← ask (.duplicateAbove fd leastAside)
    ask (.close fd)
    return (resource, moved.toOption.getD fd)
  modify fun p => { p with held := aside }
  descriptors.slots.forM fun (fd, slot) => do
    let _ ← askAbout slot.target fun source => ask (.duplicate source fd)

/-- Starts the program at a path in the stead of the shell. -/
def startAt (t : Tool.Invocation) (arguments : List Bytes) (path : Name) : Act Errno := do
  let errno : Errno ← ask (.exec path arguments t.bindings)
  if errno ≠ .unknownFormat then return errno
  ask (.exec interpreterPath (interpreterPath :: path :: arguments.tail) t.bindings)

/-- Starts the first program that is found in some directories. -/
def startIn (t : Tool.Invocation) (arguments : List Bytes) (denied : Bool) (last : Errno) :
    List Name → Act Errno
  | [] => pure (if denied then .accessDenied else last)
  | place :: rest => do
    let name := arguments.headD []
    let errno ← startAt t arguments (if place.isEmpty then name else place ++ slash :: name)
    if searchGoesOn errno then
      startIn t arguments (denied || errno = .accessDenied) errno rest
    else return errno

/-- Starts the program that the first argument names. -/
def exec (t : Tool.Invocation) (arguments : List Bytes) : Act Errno := do
  let name := arguments.headD []
  if name.isEmpty then return .noEntry
  if name.contains slash then startAt t arguments name
  else
    let path := (t.bindings.lookup (utf8 "PATH")).getD defaultSearchPath
    startIn t arguments false .noEntry
      (searchedDirectories (searchedSize path) (splitAt colon path))

/-- Answers a question. -/
def answer (t : Tool.Invocation) : Question → Act Reply
  | .makePipe number => .done <$> makePipe number
  | .openFile path mode number => .done <$> openFile path mode number
  | .fork descriptors => do
    release descriptors
    return .number (.ok (← fork))
  | .permitDuplicate => return .done (.ok ())
  | .exec launch => do
    if !(← get).isCopy then return .done (.ok ())
    arrange launch.descriptors
    return .done (.error (← exec t launch.arguments.texts))
  | .exit code => do
    if !(← get).isCopy then return .done (.ok ())
    StateT.lift (Program.exit code)
  | .write goal bytes => .done <$> askAbout goal fun fd =>
    StateT.lift (Tool.writeAll fd (Tool.pack bytes))
  | .read source limit descriptors => do
    release descriptors
    let piece : Except Errno ByteArray ← askAbout source fun fd => ask (.read fd limit)
    return .bytes (piece.map ByteArray.toList)
  | .wait pid descriptors => do
    release descriptors
    let news : Except Errno ChildEvent ← ask (.wait pid.toNat)
    match news with
    | .error errno => return .event (.failed errno)
    | .ok event => return .event event
  | .canonicalize path => do
    let found : Except Errno Name ← ask (.canonicalize (utf8 path))
    return .text (found.map textOfPath)
  | .enter path => do
    let entered : Except Errno Unit ← ask (.enter (utf8 path))
    return .number (entered.map fun _ => 0)
  | .whereAmI => do
    let found : Except Errno Name ← ask .whereAmI
    return .text (found.map textOfPath)

/-! ### Running the shell -/

/-- Runs a shell again and again, each time with one more answer, until it has no question left. -/
def converse (t : Tool.Invocation) (run : List Reply → Nat × Dialogue) (replies : List Reply) :
    Nat → Act Nat
  | 0 => pure 0
  | fuel + 1 => do
    let (code, dialogue) := run replies
    match dialogue.asked with
    | none => return code
    | some question => converse t run (replies ++ [← answer t question]) fuel

/-- The time stamp of all records in the log. -/
def stamp : String := "1970-01-01T00:00:00.000000Z"

/-- A shell with its standard streams that gets its answers from a list. -/
def shellWith (home : Option String) (replies : List Reply) : ShellState Dialogue where
  descriptors := streamDescriptors 3
  fresh := 3
  surroundings := ⟨0, home, ⟨replies, none⟩⟩
  lastStatus := 0
  log := ⟨.warn, stamp⟩
  downfall := none

/-- Opens the standard streams that are closed, so that nothing else gets their numbers. -/
def openStreams : Act Unit :=
  [0, 1, 2].forM fun number => do
    let facts : Except Errno FileFacts ← ask (.describe number)
    match facts with
    | .ok _ => hold (.file number) number
    | .error _ => let _ ← openFile "/dev/null" .update number

/-- The shell. -/
def task (t : Tool.Invocation) : Task := do
  let binding? (name : String) : Option String := (t.bindings.lookup (utf8 name)).map textOfPath
  let environment : Environment := ⟨binding? "PIPESH_LOG", ⟨binding? "TERM"⟩⟩
  let run (replies : List Reply) : Nat × Dialogue :=
    let (code, s) := CommandLine.run (t.arguments.map textOfPath) environment
      (shellWith (binding? "HOME") replies)
    (code, s.surroundings.host)
  let whole : Act Nat := do
    openStreams
    converse t run [] Tool.endless
  let (code, _) ← whole.run ⟨[], false⟩
  return code

end Subshell

end CommandShell.Machine
