import CommandShell.Kernel
import Mathlib.Algebra.Order.BigOperators.Group.Finset
import Mathlib.Logic.Function.Basic

/-!
# Workshops

A system on which every program is a total function: all that it writes and how it ends follow from
its arguments and from all that it can read. The processes take turns in any order, in steps of any
size; which of them does what and when is written down beforehand, as a schedule. Pipes keep their
bytes in order, a write to a pipe that nobody reads is lost, and the end of a pipe is seen once
nobody can write to it any more. Pipes and processes can always be made, and a pipe takes all that
is written to it: a writer that has to wait for its reader is one whose turn comes later.
-/

namespace CommandShell

namespace Workshop

/-- A file, whatever it is called. -/
abbrev File := Nat

/-- An end of a process. -/
structure Ending where
  /-- What the system tells of it. -/
  event : ChildEvent
  /-- What that means. -/
  status : Status
  /-- The process has ended indeed. -/
  answer_eq : event.answer = .ended status

/-- The end of a process with an exit code. -/
def Ending.exited (code : Nat) : Ending := ⟨.exited code, .exited code, rfl⟩

/-- A program with its arguments, as a function of what it can read. It may write before it has read
everything, and it may leave something unread. -/
structure Program where
  /-- All that it writes. -/
  output : Bytes → Bytes
  /-- How it ends. -/
  ending : Bytes → Ending
  /-- What it may have written when it has read no more than this. -/
  early : Bytes → Bytes
  /-- Whether it may stop reading when it has read this. -/
  enough : Bytes → Bool
  /-- What is written early is written in any case. -/
  early_prefix : ∀ {read input : Bytes}, read <+: input → early read <+: output input
  /-- What is left unread does not matter for what is written. -/
  output_eq : ∀ {read input : Bytes}, enough read = true → read <+: input →
    output input = output read
  /-- What is left unread does not matter for the end. -/
  ending_eq : ∀ {read input : Bytes}, enough read = true → read <+: input →
    ending input = ending read

/-- What a process does. -/
inductive Phase where
  /-- It is still a copy of the shell. -/
  | forked
  /-- It runs a program, which still reads or has stopped reading. -/
  | running (program : Program) (reading : Bool)
  /-- It has ended. -/
  | ended (ending : Ending)

/-- A process. -/
structure Job where
  /-- Its descriptors. -/
  descriptors : Descriptors
  /-- All that its program has read. -/
  consumed : Bytes
  /-- All that its program has written, whether it was accepted or not. -/
  written : Bytes
  /-- What it does. -/
  phase : Phase

namespace Job

/-- Whether a process has not ended yet. -/
def isLive (job : Job) : Bool :=
  match job.phase with
  | .ended _ => false
  | _ => true

/-- Whether a process has something open. -/
def holds (job : Job) (resource : Resource) : Bool :=
  job.isLive && job.descriptors.refersTo fun other => decide (other = resource)

/-- What a descriptor of a process refers to. -/
def stream (job : Job) (fd : Fd) : Option Resource := (job.descriptors.get? fd).map Slot.target

end Job

/-- A step that a program can take. Without a limit it goes as far as it can. -/
inductive Deed where
  /-- It reads some bytes. -/
  | read (limit : Option Nat)
  /-- It stops reading. -/
  | stop
  /-- It writes some bytes. -/
  | write (limit : Option Nat)
  /-- It ends. -/
  | finish
  deriving DecidableEq, Repr

/-- The beginning of a sequence of bytes. -/
def upTo : Option Nat → Bytes → Bytes
  | none, bytes => bytes
  | some limit, bytes => bytes.take limit

/-- A step of a process. -/
structure Choice where
  /-- The position of the process. -/
  job : Nat
  /-- The step that is to be taken. -/
  deed : Deed
  deriving DecidableEq, Repr

/-- An opened file. -/
structure Description where
  /-- The file. -/
  file : File
  /-- Where it is read or written next. -/
  position : Nat
  deriving DecidableEq, Repr

/-- What does not change in a workshop. -/
structure Setting where
  /-- The program that is started by some arguments, or why none is. -/
  programs : List Bytes → Except Errno Program
  /-- The file that is read from under a path, or why none is. -/
  toRead : Directory → String → Except Errno File
  /-- The file that is written to under a path, or why none is. -/
  toWrite : Directory → String → Except Errno File

/-- The contents of files with some bytes written over a part of one. A gap is filled with zeros. -/
def overwrite (content : Bytes) (position : Nat) (bytes : Bytes) : Bytes :=
  content.take position ++ List.replicate (position - content.length) 0 ++ bytes ++
    content.drop (position + bytes.length)

end Workshop

open Workshop

/-- A workshop. A number of a file that has no description stands for a stream that was there from
the start. -/
structure Workshop where
  /-- What does not change. -/
  setting : Setting
  /-- The contents of the files, as far as there are any. -/
  files : File → Option Bytes
  /-- The opened files by their numbers. -/
  descriptions : Nat → Option Description
  /-- What can still be read from the streams. -/
  incoming : Nat → Bytes
  /-- What was written to the streams by programs, by the shell and by its copies. -/
  printed : Nat → Bytes
  /-- What was written to the pipes and not yet read. -/
  pipes : Nat → Bytes
  /-- A number that is greater than those of all pipes. -/
  pipeLimit : Nat
  /-- The descriptors of the shell, as far as it has told of them. -/
  shell : Descriptors
  /-- The processes in the order in which they were made. -/
  jobs : List Job
  /-- What the processes will do before each of the next requests. -/
  schedule : List (List Choice)

namespace Workshop

/-! ## Resources -/

/-- Whether the shell or some process has something open. -/
def holds (w : Workshop) (resource : Resource) : Bool :=
  w.shell.refersTo (fun other => decide (other = resource)) || w.jobs.any fun job =>
    job.holds resource

/-- What can be read from something now. -/
def pending (w : Workshop) : Resource → Bytes
  | .readEnd pipe => w.pipes pipe
  | .writeEnd _ => []
  | .file number =>
    match w.descriptions number with
    | none => w.incoming number
    | some description => ((w.files description.file).getD []).drop description.position

/-- Whether nothing can be read from something any more. -/
def exhausted (w : Workshop) (source : Resource) : Bool :=
  (w.pending source).isEmpty && match source with
    | .readEnd pipe => !w.holds (.writeEnd pipe)
    | _ => true

/-- A number of bytes was read from something. -/
def advance (w : Workshop) (source : Resource) (count : Nat) : Workshop :=
  match source with
  | .readEnd pipe =>
    { w with pipes := Function.update w.pipes pipe ((w.pipes pipe).drop count) }
  | .writeEnd _ => w
  | .file number =>
    match w.descriptions number with
    | none => { w with
      incoming := Function.update w.incoming number ((w.incoming number).drop count) }
    | some description => { w with
      descriptions := Function.update w.descriptions number
        (some { description with position := description.position + count }) }

/-- Some bytes were written to something. -/
def put (w : Workshop) (goal : Resource) (bytes : Bytes) : Workshop :=
  match goal with
  | .readEnd _ => w
  | .writeEnd pipe =>
    if w.holds (.readEnd pipe) then
      { w with pipes := Function.update w.pipes pipe (w.pipes pipe ++ bytes) }
    else w
  | .file number =>
    match w.descriptions number with
    | none => { w with
      printed := Function.update w.printed number (w.printed number ++ bytes) }
    | some description => { w with
      files := Function.update w.files description.file (some
        (overwrite ((w.files description.file).getD []) description.position bytes)),
      descriptions := Function.update w.descriptions number
        (some { description with position := description.position + bytes.length }) }

/-! ## Steps of the processes -/

/-- A process has become another one. -/
def setJob (w : Workshop) (i : Nat) (job : Job) : Workshop := { w with jobs := w.jobs.set i job }

/-- A program reads some of what it can read. -/
def read (w : Workshop) (i : Nat) (job : Job) (limit : Option Nat) : Workshop :=
  match job.stream 0 with
  | none => w
  | some source =>
    let bytes := upTo limit (w.pending source)
    (w.advance source bytes.length).setJob i { job with consumed := job.consumed ++ bytes }

/-- A program writes some bytes. -/
def write (w : Workshop) (i : Nat) (job : Job) (bytes : Bytes) : Workshop :=
  match job.stream 1 with
  | none => w.setJob i { job with written := job.written ++ bytes }
  | some goal => (w.put goal bytes).setJob i { job with written := job.written ++ bytes }

/-- A program takes a step, if it can. -/
def act (w : Workshop) (i : Nat) (job : Job) (program : Program) (reading : Bool) :
    Deed → Workshop
  | .read limit => if reading then w.read i job limit else w
  | .stop =>
    if reading && (program.enough job.consumed || (job.stream 0).all w.exhausted) then
      w.setJob i { job with phase := .running program false }
    else w
  | .write limit =>
    let text := if reading then program.early job.consumed else program.output job.consumed
    w.write i job (upTo limit (text.drop job.written.length))
  | .finish =>
    if !reading && job.written == program.output job.consumed then
      w.setJob i { job with phase := .ended (program.ending job.consumed) }
    else w

/-- A process takes a step, if it runs a program. -/
def perform (w : Workshop) (choice : Choice) : Workshop :=
  match w.jobs[choice.job]? with
  | none => w
  | some job =>
    match job.phase with
    | .running program reading => w.act choice.job job program reading choice.deed
    | _ => w

/-- The processes do what the schedule says. -/
def elapse (w : Workshop) : Workshop :=
  match w.schedule with
  | [] => w
  | now :: later => now.foldl perform { w with schedule := later }

/-- A process goes on as far as it can. -/
def complete (w : Workshop) (i : Nat) : Workshop :=
  [Deed.read none, .stop, .write none, .finish].foldl (fun w deed => w.perform ⟨i, deed⟩) w

/-- Some processes go on as far as they can, one after the other. -/
def completeAll (w : Workshop) (count : Nat) : Workshop := (List.range count).foldl complete w

/-! ## Requests -/

/-- The number that a process is known by. -/
def pidOf (i : Nat) : Pid := (i + 1 : Nat)

/-- The position of the process with a number. -/
def position (pid : Pid) : Nat := pid.toNat - 1

@[simp] theorem position_pidOf (i : Nat) : position (pidOf i) = i := rfl

/-- Opens a file for reading. -/
def openToRead (w : Workshop) (start : Directory) (path : String) (number : Nat) :
    Except Errno Unit × Workshop :=
  match w.setting.toRead start path with
  | .error errno => (.error errno, w)
  | .ok file =>
    match w.files file with
    | none => (.error .noEntry, w)
    | some _ => (.ok (), { w with
      descriptions := Function.update w.descriptions number (some ⟨file, 0⟩) })

/-- Opens a file for writing and empties it. -/
def openToWrite (w : Workshop) (start : Directory) (path : String) (number : Nat) :
    Except Errno Unit × Workshop :=
  match w.setting.toWrite start path with
  | .error errno => (.error errno, w)
  | .ok file => (.ok (), { w with
      files := Function.update w.files file (some [])
      descriptions := Function.update w.descriptions number (some ⟨file, 0⟩) })

/-- Starts a program in a process. -/
def exec (w : Workshop) (pid : Pid) (launch : Launch) : Except Errno Unit × Workshop :=
  match w.setting.programs launch.arguments.texts with
  | .error errno => (.error errno, w)
  | .ok program =>
    (.ok (), w.setJob (position pid) ⟨launch.descriptors, [], [], .running program true⟩)

/-- Ends a process that runs no program. -/
def exit (w : Workshop) (pid : Pid) (code : Nat) : Workshop :=
  match w.jobs[position pid]? with
  | none => w
  | some job => w.setJob (position pid) { job with phase := .ended (.exited code) }

/-- Writes something for the shell, or for one of its copies. -/
def tell (w : Workshop) (goal : Resource) (bytes : Bytes) : Except Errno Unit × Workshop :=
  match goal with
  | .readEnd _ => (.error .badDescriptor, w)
  | .writeEnd pipe =>
    if w.holds (.readEnd pipe) then (.ok (), w.put goal bytes) else (.error .brokenPipe, w)
  | .file _ => (.ok (), w.put goal bytes)

/-- The error number of a read that would have to wait. -/
def wouldWait : Errno := ⟨11⟩

/-- Reads something for the shell, which only reads from pipes. The end of a pipe is not seen as
long as somebody can write to it, and be it the shell itself. -/
def hear (w : Workshop) (source : Resource) (limit : Nat) : Except Errno Bytes × Workshop :=
  match source with
  | .readEnd pipe =>
    let bytes := (w.pipes pipe).take limit
    if w.pipeLimit ≤ pipe then (.error .badDescriptor, w)
    else if bytes.isEmpty && w.holds (.writeEnd pipe) then (.error wouldWait, w)
    else (.ok bytes, w.advance source bytes.length)
  | _ => (.error .badDescriptor, w)

/-- What is told of a process that is waited for. All processes up to this one go on as far as they
can, and if it still does not end, the wait fails. -/
def await (w : Workshop) (pid : Pid) : ChildEvent × Workshop :=
  let w := w.completeAll (position pid + 1)
  match w.jobs[position pid]? with
  | some ⟨_, _, _, .ended ending⟩ => (ending.event, w)
  | _ => (.failed .noChild, w)

/-- An answer to a wait settles it. -/
theorem settled_await (w : Workshop) (pid : Pid) : (w.await pid).1.settled = true := by
  have hended : ∀ ending : Ending, ending.event.settled = true := by
    rintro ⟨event, status, hanswer⟩
    cases event with
    | failed errno =>
      rw [ChildEvent.answer] at hanswer
      split at hanswer <;> cases hanswer
    | stopped signal =>
      rw [ChildEvent.answer] at hanswer
      split at hanswer <;> cases hanswer
    | traced signal event =>
      rw [ChildEvent.answer] at hanswer
      split at hanswer <;> cases hanswer
    | exited code => rfl
    | killed signal => rfl
    | continued => cases hanswer
    | tracedRequest => cases hanswer
    | unchanged => cases hanswer
  rw [await]
  split
  · next ending _ => exact hended ending
  · rfl

/-- The bytes that are in the pipes. -/
def inPipes (w : Workshop) : Nat := ∑ pipe ∈ Finset.range w.pipeLimit, (w.pipes pipe).length

/-- What is read is in the pipes no longer. -/
theorem inPipes_hear (w : Workshop) (source : Resource) (limit : Nat)
    (h : ReadAnswer.isLast (w.hear source limit).1 = false) :
    (w.hear source limit).2.inPipes < w.inPipes := by
  cases source with
  | file number => cases h
  | writeEnd pipe => cases h
  | readEnd pipe =>
    rw [hear] at h ⊢
    split at h
    · cases h
    · next hlimit =>
      split at h
      · cases h
      · next hwait =>
        rw [if_neg hlimit, if_neg hwait]
        have hread : 0 < ((w.pipes pipe).take limit).length := by
          rw [List.length_pos_iff]
          intro hnone
          rw [hnone] at h
          cases h
        refine Finset.sum_lt_sum (fun other _ => ?_)
          ⟨pipe, Finset.mem_range.2 (Nat.lt_of_not_le hlimit), ?_⟩
        · by_cases hother : other = pipe
          · subst hother
            simp [advance]
          · simp [advance, Function.update_of_ne hother]
        · simp only [advance, Function.update_self, List.length_drop]
          rw [List.length_take] at hread ⊢
          omega

instance : Kernel Workshop where
  makePipe pipe := fun w => (.ok (), { w.elapse with
    pipes := Function.update w.elapse.pipes pipe []
    pipeLimit := max w.elapse.pipeLimit (pipe + 1) })
  openToRead start path number := fun w => w.elapse.openToRead start path number
  openToWrite start path number := fun w => w.elapse.openToWrite start path number
  fork descriptors := fun w => (.ok (pidOf w.elapse.jobs.length), { w.elapse with
    shell := descriptors
    jobs := w.elapse.jobs ++ [⟨descriptors, [], [], .forked⟩] })
  permitDuplicate _ _ _ := fun w => (.ok (), w.elapse)
  exec pid launch := fun w => w.elapse.exec pid launch
  exit pid code := fun w => ((), w.elapse.exit pid code)
  write goal bytes := fun w => w.elapse.tell goal bytes
  read source limit descriptors := fun w => { w with shell := descriptors }.hear source limit
  wait pid descriptors := fun w => ({ w with shell := descriptors }.elapse).await pid
  canonicalize _ _ := fun w => (.error .noEntry, w.elapse)
  enter _ _ := fun w => (.error .noEntry, w.elapse)
  nameOf _ := fun w => (.error .noEntry, w.elapse)
  patience _ := 0
  supply w := w.inPipes
  patience_wait pid descriptors w h := by
    rw [settled_await] at h
    cases h
  patience_write _ _ _ := Nat.le_refl 0
  supply_read source limit descriptors w h :=
    { w with shell := descriptors }.inPipes_hear source limit h

end Workshop

end CommandShell
