import CommandShell.Proofs.Chronicle
import CommandShell.Proofs.RunTranscript

/-!
# Waiting through what is not the end

Whatever the system tells of a process is either something that passes, such as that the process
was stopped, or it concludes the wait (`ChildEvent.passing_or_concluding`), so that a process is
waited for once for each answer up to the first one that concludes (`Watched.awaits`). A system that
is told beforehand what it shall tell of processes, and is like another one in everything else,
makes it possible to speak about any course of a wait. Main statement: however much passes, in
whatever order, the shell waits once for each of these answers and once for the one that concludes,
which alone decides what comes of the wait (`waitTerminal_dictated`).
-/

namespace CommandShell

open Shell

variable {σ : Type}

namespace ChildEvent

/-- The number of the signal that an answer is about. -/
def signal? : ChildEvent → Option Nat
  | killed n => some n
  | stopped n => some n
  | traced n _ => some n
  | _ => none

/-- What is told of a process that has not ended, and the interruption of a wait. -/
inductive Passing : ChildEvent → Prop
  /-- The process was stopped by a signal that has a name. -/
  | stopped (n : Nat) (hn : 1 ≤ n ∧ n ≤ 31) : Passing (.stopped n)
  /-- The process goes on. -/
  | continued : Passing .continued
  /-- The process is traced and has reached an event. -/
  | traced (n event : Nat) (hn : 1 ≤ n ∧ n ≤ 31) : Passing (.traced n event)
  /-- The process is traced and asks for something. -/
  | tracedRequest : Passing .tracedRequest
  /-- The process is still alive. -/
  | unchanged : Passing .unchanged
  /-- The wait was interrupted. -/
  | interrupted : Passing (.failed .interrupted)

/-- What concludes the wait for a process, and what comes of the wait. -/
inductive Concluding (pid : Pid) : ChildEvent → Except ShellError Status → Prop
  /-- The process has ended by itself. -/
  | exited (code : Nat) : Concluding pid (.exited code) (.ok (.exited code))
  /-- The process was ended by a signal that has a name. -/
  | killed (n : Nat) (hn : 1 ≤ n ∧ n ≤ 31) : Concluding pid (.killed n) (.ok (.signaled n))
  /-- The wait has failed. -/
  | failed (errno : Errno) (h : errno ≠ .interrupted) :
      Concluding pid (.failed errno) (.error (.wait pid errno))
  /-- A signal without a name makes the answer invalid, whatever it is about. -/
  | nameless (event : ChildEvent) (n : Nat) (hn : ¬(1 ≤ n ∧ n ≤ 31))
      (hsignal : event.signal? = some n) : Concluding pid event (.error (.wait pid .invalid))

/-- What passes is not final. -/
theorem Passing.isFinal_eq {event : ChildEvent} (h : event.Passing) : event.isFinal = false := by
  cases h with
  | stopped n hn => rw [isFinal, answer, Signal.ofNumber?, if_pos hn]
  | traced n number hn => rw [isFinal, answer, Signal.ofNumber?, if_pos hn]
  | continued => rfl
  | tracedRequest => rfl
  | unchanged => rfl
  | interrupted => rfl

/-- What concludes a wait has the meaning that comes of the wait. -/
theorem Concluding.answer_cases {pid : Pid} {event : ChildEvent}
    {result : Except ShellError Status} (h : event.Concluding pid result) :
    (∃ status, event.answer = .ended status ∧ result = .ok status) ∨
      ∃ errno, event.answer = .failed errno ∧ result = .error (.wait pid errno) := by
  cases h with
  | exited code => exact Or.inl ⟨_, rfl, rfl⟩
  | killed n hn =>
    refine Or.inl ⟨_, ?_, rfl⟩
    rw [answer, Signal.ofNumber?, if_pos hn]
  | failed errno h =>
    refine Or.inr ⟨errno, ?_, rfl⟩
    rw [answer, if_neg h]
  | nameless event n hn hsignal =>
    refine Or.inr ⟨_, ?_, rfl⟩
    cases event <;> cases hsignal <;> rw [answer, Signal.ofNumber?, if_neg hn]

theorem Concluding.isFinal_eq {pid : Pid} {event : ChildEvent}
    {result : Except ShellError Status} (h : event.Concluding pid result) :
    event.isFinal = true := by
  rcases h.answer_cases with ⟨status, hanswer, -⟩ | ⟨errno, hanswer, -⟩
  · rw [isFinal, hanswer]
  · rw [isFinal, hanswer]

/-- Whatever is told of a process passes or concludes the wait. -/
theorem passing_or_concluding (pid : Pid) (event : ChildEvent) :
    event.Passing ∨ ∃ result, event.Concluding pid result := by
  -- A signal without a name concludes in every case, so that only the others are told apart.
  by_cases hnameless : ∃ n, event.signal? = some n ∧ ¬(1 ≤ n ∧ n ≤ 31)
  · obtain ⟨n, hsignal, hn⟩ := hnameless
    exact Or.inr ⟨_, .nameless event n hn hsignal⟩
  · have hnamed : ∀ n, event.signal? = some n → 1 ≤ n ∧ n ≤ 31 := fun n hsignal =>
      Decidable.byContradiction fun hn => hnameless ⟨n, hsignal, hn⟩
    cases event with
    | exited code => exact Or.inr ⟨_, .exited code⟩
    | killed n => exact Or.inr ⟨_, .killed n (hnamed n rfl)⟩
    | stopped n => exact Or.inl (.stopped n (hnamed n rfl))
    | continued => exact Or.inl .continued
    | traced n number => exact Or.inl (.traced n number (hnamed n rfl))
    | tracedRequest => exact Or.inl .tracedRequest
    | unchanged => exact Or.inl .unchanged
    | failed errno =>
      by_cases h : errno = .interrupted
      · rw [h]
        exact Or.inl .interrupted
      · exact Or.inr ⟨_, .failed errno h⟩

theorem passing_of_not_final {event : ChildEvent} (h : event.isFinal = false) : event.Passing := by
  rcases event.passing_or_concluding 0 with hpassing | ⟨result, hconcluding⟩
  · exact hpassing
  · cases h.symm.trans hconcluding.isFinal_eq

theorem concluding_of_final (pid : Pid) {event : ChildEvent} (h : event.isFinal = true) :
    ∃ result, event.Concluding pid result := by
  rcases event.passing_or_concluding pid with hpassing | hconcluding
  · cases hpassing.isFinal_eq.symm.trans h
  · exact hconcluding

/-- The end of a process concludes the wait for it with its status. -/
theorem concluding_of_ended (pid : Pid) {event : ChildEvent} {status : Status}
    (h : event.answer = .ended status) : event.Concluding pid (.ok status) := by
  obtain ⟨result, hconcluding⟩ := concluding_of_final pid (by rw [isFinal, h])
  rcases hconcluding.answer_cases with ⟨status', hanswer, rfl⟩ | ⟨errno, hanswer, rfl⟩ <;>
    cases h.symm.trans hanswer
  exact hconcluding

/-- A wait that fails for good is concluded with an error. -/
theorem concluding_of_failed (pid : Pid) {event : ChildEvent} {errno : Errno}
    (h : event.answer = .failed errno) : event.Concluding pid (.error (.wait pid errno)) := by
  obtain ⟨result, hconcluding⟩ := concluding_of_final pid (by rw [isFinal, h])
  rcases hconcluding.answer_cases with ⟨status, hanswer, rfl⟩ | ⟨errno', hanswer, rfl⟩ <;>
    cases h.symm.trans hanswer
  exact hconcluding

end ChildEvent

/-- A process is waited for once for each thing that passes and up to what concludes the wait. Apart
from this only bytes are moved. -/
inductive Awaits (table : Descriptors) (pid : Pid) (result : Except ShellError Status)
    (calls : List Call) : Prop
  /-- The last answer alone decides what comes of the wait. -/
  | intro (pending : List ChildEvent) (last : ChildEvent)
      (hpending : ∀ event ∈ pending, event.Passing) (hlast : last.Concluding pid result)
      (hwaits : (calls.filter fun call => !call.isTransfer) =
        (pending ++ [last]).map (.wait pid table))

section

variable {table : Descriptors} {stamp : String} {pid : Pid} {calls : List Call}
  {last : ChildEvent} {result : Except ShellError Status}

theorem filter_transfers_eq_nil {notes : List Call}
    (h : ∀ call ∈ notes, call.isTransfer = true) :
    (notes.filter fun call => !call.isTransfer) = [] :=
  List.filter_eq_nil_iff.2 fun call hmem => by simp [h call hmem]

/-- What is written between two waits makes no difference. -/
theorem filter_wait_append {event : ChildEvent} {notes : List Call}
    (hnotes : ∀ call ∈ notes, call.isTransfer = true) (calls : List Call) :
    ((.wait pid table event :: (notes ++ calls)).filter fun call => !call.isTransfer) =
      .wait pid table event :: calls.filter fun call => !call.isTransfer := by
  rw [List.filter_cons_of_pos rfl, List.filter_append, filter_transfers_eq_nil hnotes,
    List.nil_append]

/-- What is written behind the last wait makes no difference. -/
theorem Awaits.append (h : Awaits table pid result calls) {notes : List Call}
    (hnotes : ∀ call ∈ notes, call.isTransfer = true) :
    Awaits table pid result (calls ++ notes) := by
  obtain ⟨pending, last, hpending, hlast, hwaits⟩ := h
  refine ⟨pending, last, hpending, hlast, ?_⟩
  rw [List.filter_append, filter_transfers_eq_nil hnotes, List.append_nil, hwaits]

theorem Watched.isFinal_eq (h : Watched table stamp pid calls last) : last.isFinal = true := by
  induction h with
  | settled event final => exact final
  | again event last notes calls pending hnotes h ih => exact ih

/-- A process that is watched until it has ended is waited for once for each answer. -/
theorem Watched.awaits (h : Watched table stamp pid calls last)
    (hlast : last.Concluding pid result) : Awaits table pid result calls := by
  induction h with
  | settled event final => exact ⟨[], event, nofun, hlast, rfl⟩
  | again event last notes calls hnot hnotes h ih =>
    obtain ⟨pending, last, hpending, hlast, hwaits⟩ := ih hlast
    refine ⟨event :: pending, last, ?_, hlast, ?_⟩
    · exact List.forall_mem_cons.2 ⟨ChildEvent.passing_of_not_final hnot, hpending⟩
    · rw [filter_wait_append hnotes.isTransfer, hwaits]
      rfl

end

/-- A system that tells of processes what was dictated to it. -/
structure Dictated (σ : Type) where
  /-- The system that answers everything else. -/
  host : σ
  /-- What is still to be told of processes. -/
  events : List ChildEvent

namespace Dictated

/-- Passes a request on. -/
def pass {α : Type} (request : StateM σ α) : StateM (Dictated σ) α := fun d =>
  ((request d.host).1, { d with host := (request d.host).2 })

/-- Tells what is next. When nothing is left, there is no process any more. -/
def tell : StateM (Dictated σ) ChildEvent := fun d =>
  match d.events with
  | [] => (.failed .noChild, d)
  | event :: later => (event, { d with events := later })

instance [Kernel σ] : Kernel (Dictated σ) where
  makePipe pipe := pass (Kernel.makePipe pipe)
  openToRead start path number := pass (Kernel.openToRead start path number)
  openToWrite start path number := pass (Kernel.openToWrite start path number)
  fork descriptors := pass (Kernel.fork descriptors)
  permitDuplicate pid source goal := pass (Kernel.permitDuplicate pid source goal)
  exec pid launch := pass (Kernel.exec pid launch)
  exit pid code := pass (Kernel.exit pid code)
  write goal bytes := pass (Kernel.write goal bytes)
  read source limit table := pass (Kernel.read source limit table)
  wait _ _ := tell
  canonicalize start path := pass (Kernel.canonicalize start path)
  enter start path := pass (Kernel.enter start path)
  nameOf directory := pass (Kernel.nameOf directory)
  patience d := d.events.length
  supply d := Kernel.supply d.host
  patience_wait _ _ d h := by
    obtain ⟨host, events⟩ := d
    cases events with
    | nil => cases h
    | cons event later => exact Nat.lt_succ_self _
  patience_write _ _ _ := Nat.le_refl _
  supply_read source limit table d := Kernel.supply_read source limit table d.host

variable [Kernel σ] {d d' : Dictated σ}

/-- A wait is answered by what is next. -/
theorem of_answered_wait {pid : Pid} {table : Descriptors} {event first : ChildEvent}
    {later : List ChildEvent} (h : (Call.wait pid table event).Answered d d')
    (hevents : d.events = first :: later) : event = first ∧ d'.events = later := by
  have htell : tell d = (event, d') := h
  rw [tell, hevents] at htell
  cases htell
  exact ⟨rfl, rfl⟩

/-- While something is written, nothing is told of processes. -/
theorem events_of_replayed {calls : List Call} (h : Replayed d calls d')
    (hwrites : ∀ call ∈ calls, call.isWrite = true) : d'.events = d.events := by
  induction calls generalizing d with
  | nil => rw [show d' = d from h]
  | cons call rest ih =>
    obtain ⟨between, hcall, hrest⟩ := h
    rw [ih hrest fun call hmem => hwrites call (List.mem_cons_of_mem _ hmem)]
    have hwrite := hwrites call List.mem_cons_self
    cases call with
    | write goal bytes answer =>
      cases hcall
      rfl
    | _ => cases hwrite

end Dictated

/-- What was dictated is what the shell is told, up to the answer that concludes the wait. -/
theorem Watched.dictated [Kernel σ] {table : Descriptors} {stamp : String} {pid : Pid}
    {calls : List Call} {final last : ChildEvent} {d d' : Dictated σ}
    {pending later : List ChildEvent} (h : Watched table stamp pid calls final)
    (hreplayed : Replayed d calls d') (hevents : d.events = pending ++ last :: later)
    (hpending : ∀ event ∈ pending, event.isFinal = false) (hlast : last.isFinal = true) :
    final = last ∧ d'.events = later ∧
      (calls.filter fun call => !call.isTransfer) =
        (pending ++ [last]).map (.wait pid table) := by
  induction h generalizing d pending with
  | settled event hfinal =>
    obtain ⟨between, hcall, hrest⟩ := hreplayed
    cases hrest
    cases pending with
    | nil =>
      obtain ⟨rfl, hlater⟩ := Dictated.of_answered_wait hcall hevents
      exact ⟨rfl, hlater, rfl⟩
    | cons first rest =>
      obtain ⟨rfl, -⟩ := Dictated.of_answered_wait hcall hevents
      rw [hpending event List.mem_cons_self] at hfinal
      cases hfinal
  | again event final notes calls hnot hnotes h ih =>
    obtain ⟨between, hcall, hrest⟩ := hreplayed
    cases pending with
    | nil =>
      obtain ⟨rfl, -⟩ := Dictated.of_answered_wait hcall hevents
      rw [hnot] at hlast
      cases hlast
    | cons first rest =>
      obtain ⟨rfl, hafter⟩ := Dictated.of_answered_wait hcall hevents
      obtain ⟨noted, hwritten, hrest⟩ := hrest.split
      rw [← Dictated.events_of_replayed hwritten hnotes.isWrite] at hafter
      obtain ⟨hfinal, hlater, hwaits⟩ :=
        ih hrest hafter fun event hmem => hpending event (List.mem_cons_of_mem _ hmem)
      refine ⟨hfinal, hlater, ?_⟩
      rw [filter_wait_append hnotes.isTransfer, hwaits]
      rfl

/-- However much passes in front of the answer that concludes the wait for a process, the shell
waits once for each of them, and only the last one decides what comes of it. What would be told
afterwards is not asked for. -/
theorem waitTerminal_dictated [Kernel σ] (pid : Pid) (s : ShellState (Recorded (Dictated σ)))
    (pending later : List ChildEvent) (last : ChildEvent) (result : Except ShellError Status)
    (hevents : s.surroundings.host.host.events = pending ++ last :: later)
    (hpending : ∀ event ∈ pending, event.Passing) (hlast : last.Concluding pid result) :
    (waitTerminal pid s).1 = result ∧
      Shell.newCalls (waitTerminal pid) s = (pending ++ [last]).map (.wait pid s.descriptors) ∧
      (waitTerminal pid s).2.surroundings.host.host.events = later := by
  obtain ⟨calls, final, hbetween, hwatched, hresult⟩ := between_waitTerminal pid s
  obtain ⟨rfl, hlater, hwaits⟩ := hwatched.dictated hbetween.continued.replayed hevents
    (fun event hmem => (hpending event hmem).isFinal_eq) hlast.isFinal_eq
  refine ⟨?_, ?_, hlater⟩
  · -- The meaning of the last answer is the same on both sides.
    rcases hlast.answer_cases with ⟨status, hanswer, rfl⟩ | ⟨errno, hanswer, rfl⟩ <;>
      rcases hresult with ⟨status', hanswer', hresult⟩ | ⟨errno', hanswer', hresult⟩ <;>
      cases hanswer.symm.trans hanswer' <;> exact hresult
  · exact (hwaits ▸ hbetween.since).newCalls_eq

/-- A shell on a system to which it was dictated what to tell of processes. -/
def Dictated.shell (events : List ChildEvent) : ShellState (Recorded (Dictated Chronicle)) where
  descriptors := Machine.streamDescriptors 3
  fresh := 3
  surroundings := ⟨0, none, ⟨⟨⟨[], [], 0, [], []⟩, events⟩, []⟩⟩
  lastStatus := 0
  log := ⟨.error, ""⟩
  downfall := none

/-- A process is stopped, waits for it are interrupted, and then it is ended by the signal 9. What
was to be told later is left. -/
theorem waitTerminal_dictated_killed :
    (waitTerminal 7 (Dictated.shell [.stopped 19, .failed .interrupted, .continued,
        .failed .interrupted, .traced 5 1, .tracedRequest, .unchanged, .killed 9, .exited 0])).1 =
          .ok (.signaled 9) ∧
      (waitTerminal 7 (Dictated.shell [.stopped 19, .failed .interrupted, .continued,
        .failed .interrupted, .traced 5 1, .tracedRequest, .unchanged, .killed 9,
        .exited 0])).2.surroundings.host.host.events = [.exited 0] := by
  generalize hpending : [ChildEvent.stopped 19, .failed .interrupted, .continued,
    .failed .interrupted, .traced 5 1, .tracedRequest, .unchanged] = pending
  have hpassing : ∀ event ∈ pending, event.Passing := by
    rw [← hpending]
    simp only [List.forall_mem_cons]
    exact ⟨.stopped 19 (by decide), .interrupted, .continued, .interrupted,
      .traced 5 1 (by decide), .tracedRequest, .unchanged, nofun⟩
  obtain ⟨hresult, -, hlater⟩ := waitTerminal_dictated 7 (Dictated.shell _) pending [.exited 0]
    (.killed 9) (.ok (.signaled 9)) rfl hpassing (.killed 9 (by decide))
  rw [← hpending] at hresult hlater
  exact ⟨hresult, hlater⟩

end CommandShell
