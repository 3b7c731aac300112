import CommandShell.Proofs.Leaving
import CommandShell.Proofs.LineTranscript
import CommandShell.Proofs.Reports
import CommandShell.Proofs.ShellFiles
import CommandShell.Proofs.TextBytes

/-!
# Delivering replies

A reply is delivered by writing to descriptors. Main statements: writing to a descriptor changes
nothing but bytes, and no bytes of a file to which the descriptor does not lead
(`ShellState.Wrote.content?_eq`); and if the place for the output takes what is written to it, all
of the output arrives there, in order, and the reply comes to its own outcome
(`Interpreter.delivered_deliver`).
-/

namespace CommandShell

open Shell
open Machine (State NodeId)

/-- The machine under a shell. -/
def ShellState.machine (s : ShellState (Recorded State)) : State := s.surroundings.host.host

/-- The file to which a descriptor leads, if it leads to one. -/
def ShellState.fileBehind? (s : ShellState (Recorded State)) (fd : Fd) : Option NodeId :=
  (s.descriptors.get? fd).bind fun slot => s.machine.fileAt? slot.target

/-- Why a shell comes down if it tells the user something, if it does. -/
def ShellState.refusal? (s : ShellState (Recorded State)) : Option Errno :=
  (s.descriptors.get? standardError).bind fun slot => fatal? (s.machine.answerTo slot.target)

/-- What becomes of a shell when something is written to a descriptor. -/
structure ShellState.Wrote (fd : Fd) (s s' : ShellState (Recorded State)) : Prop where
  /-- The shell itself is the same, unless it comes down. -/
  shell : s' = { s.withHost s'.surroundings.host with downfall := s'.downfall }
  /-- The machine is the same, but for bytes in files. -/
  kept : ∀ bound, s.machine.Kept bound s'.machine
  /-- They are in the file to which the descriptor leads. -/
  content?_eq : ∀ id, s.fileBehind? fd ≠ some id →
    s'.machine.tree.content? id = s.machine.tree.content? id

namespace ShellState.Wrote

variable {fd : Fd} {s s' s'' : ShellState (Recorded State)}

theorem refl (fd : Fd) (s : ShellState (Recorded State)) : s.Wrote fd s :=
  ⟨rfl, fun bound => .refl bound _, fun _ _ => rfl⟩

theorem descriptors_eq (h : s.Wrote fd s') : s'.descriptors = s.descriptors := by rw [h.shell]; rfl

theorem fresh_eq (h : s.Wrote fd s') : s'.fresh = s.fresh := by rw [h.shell]; rfl

theorem directory_eq (h : s.Wrote fd s') :
    s'.surroundings.directory = s.surroundings.directory := by rw [h.shell]; rfl

theorem home_eq (h : s.Wrote fd s') : s'.surroundings.home = s.surroundings.home := by
  rw [h.shell]; rfl

/-- Descriptors lead where they led. -/
theorem fileBehind?_eq (h : s.Wrote fd s') (other : Fd) :
    s'.fileBehind? other = s.fileBehind? other := by
  rw [fileBehind?, fileBehind?, h.descriptors_eq]
  refine Option.bind_congr fun slot _ => ?_
  exact (h.kept (slot.target.number + 1)).fileAt?_eq (Nat.lt_succ_self _)

/-- The user is told as much as before. -/
theorem refusal?_eq (h : s.Wrote fd s') : s'.refusal? = s.refusal? := by
  rw [refusal?, refusal?, h.descriptors_eq]
  refine Option.bind_congr fun slot _ => congrArg fatal? ?_
  exact (h.kept (slot.target.number + 1)).answerTo_eq (Nat.lt_succ_self _)

/-- It does not matter whether the shell comes down then. -/
theorem fallen (h : s.Wrote fd s') (reason : Option Errno) :
    s.Wrote fd { s' with downfall := reason } :=
  ⟨by rw [h.shell]; rfl, h.kept, h.content?_eq⟩

theorem trans (h : s.Wrote fd s') (h' : s'.Wrote fd s'') : s.Wrote fd s'' := by
  refine ⟨?_, fun bound => (h.kept bound).trans (h'.kept bound), fun id hid => ?_⟩
  · rw [h'.shell, h.shell]
    rfl
  · rw [h'.content?_eq id (by rwa [h.fileBehind?_eq]), h.content?_eq id hid]

end ShellState.Wrote

/-- Bytes are written to a place, piece by piece, and all pieces are taken. -/
inductive Poured (goal : Resource) : Bytes → List Call → Prop
  /-- There is nothing to be written. -/
  | nothing : Poured goal [] []
  /-- One piece comes before the others. -/
  | piece (piece rest : Bytes) (calls : List Call) (h : Poured goal rest calls) :
      Poured goal (piece ++ rest) (.write goal piece (.ok ()) :: calls)

theorem Poured.append {goal : Resource} {bytes more : Bytes} {calls calls' : List Call}
    (h : Poured goal bytes calls) (h' : Poured goal more calls') :
    Poured goal (bytes ++ more) (calls ++ calls') := by
  induction h with
  | nothing => exact h'
  | piece piece rest calls h ih =>
    rw [List.append_assoc]
    exact .piece piece (rest ++ more) (calls ++ calls') ih

theorem Poured.exists_piece {goal : Resource} {bytes : Bytes} {calls : List Call}
    (h : Poured goal bytes calls) : ∀ call ∈ calls, ∃ piece, call = .write goal piece (.ok ()) := by
  intro call hcall
  induction h with
  | nothing => cases hcall
  | piece piece rest calls h ih =>
    rcases List.mem_cons.mp hcall with rfl | hcall
    · exact ⟨piece, rfl⟩
    · exact ih hcall

/-- All the bytes are written to the place. -/
theorem Poured.bytesWritten_eq {goal : Resource} {bytes : Bytes} {calls : List Call}
    (h : Poured goal bytes calls) : bytesWritten goal calls = bytes := by
  induction h with
  | nothing => rfl
  | piece piece rest calls h ih =>
    have hpiece : (Call.write goal piece (.ok ())).writtenTo? goal = some piece := if_pos rfl
    rw [← ih, bytesWritten, List.filterMap_cons_some hpiece, List.flatten_cons]
    rfl

/-- Something is told to a descriptor whatever the other descriptors are. -/
theorem Told.of_get?_eq {table table' : Descriptors} {fd : Fd} {bytes : Bytes} {calls : List Call}
    (h : Told table fd bytes calls) (hget : table.get? fd = table'.get? fd) :
    Told table' fd bytes calls := by
  cases h with
  | nobody h => exact .nobody (hget ▸ h)
  | somebody slot h answer => exact .somebody slot (hget ▸ h) answer

/-- A write changes what is at its own place only. -/
theorem writtenTo?_write_of_ne {goal other : Resource} (hne : other ≠ goal) (bytes : Bytes)
    (answer : Except Errno Unit) : (Call.write other bytes answer).writtenTo? goal = none := by
  cases answer with
  | error errno => rfl
  | ok => exact if_neg hne

/-- What is told to a descriptor is not written where it does not lead. -/
theorem Told.bytesWritten_eq_nil {goal : Resource} {table : Descriptors} {fd : Fd} {bytes : Bytes}
    {calls : List Call} (h : Told table fd bytes calls)
    (hgoal : ∀ slot, table.get? fd = some slot → slot.target ≠ goal) :
    bytesWritten goal calls = [] := by
  cases h with
  | nobody h => rfl
  | somebody slot h answer =>
    refine CommandShell.bytesWritten_eq_nil fun call hcall => ?_
    rw [List.mem_singleton.1 hcall]
    exact writtenTo?_write_of_ne (hgoal slot h) _ _

/-- The log is not written where complaints do not go. -/
theorem Noted.bytesWritten_eq_nil {goal : Resource} {table : Descriptors} {stamp : String}
    {calls : List Call} (h : Noted table stamp calls) {slot : Slot Resource}
    (hslot : table.get? standardError = some slot) (hgoal : slot.target ≠ goal) :
    bytesWritten goal calls = [] := by
  refine CommandShell.bytesWritten_eq_nil fun call hcall => ?_
  obtain ⟨target, record, answer, rfl, htarget⟩ := h call hcall
  rw [htarget slot hslot]
  exact writtenTo?_write_of_ne hgoal _ _

/-- The user is told something, or nothing. -/
def Complained (table : Descriptors) (calls : List Call) : Prop :=
  calls = [] ∨ ∃ text, Told table standardError (utf8 text) calls

namespace Shell

variable {s : ShellState (Recorded State)} {fd : Fd} {slot : Slot Resource}

/-- Writing is recorded with its answer. -/
theorem write_apply (hslot : s.descriptors.get? fd = some slot) (bytes : Bytes) :
    write fd bytes s = ((Kernel.write slot.target bytes s.machine).1,
      s.withHost ⟨(Kernel.write slot.target bytes s.machine).2, s.transcript ++
        [.write slot.target bytes (Kernel.write slot.target bytes s.machine).1]⟩) := by
  rw [write, bind_apply, get_apply]
  simp only [hslot]
  rfl

theorem wrote_write (fd : Fd) (bytes : Bytes) (s : ShellState (Recorded State)) :
    s.Wrote fd (write fd bytes s).2 := by
  cases hslot : s.descriptors.get? fd with
  | none =>
    rw [write, bind_apply, get_apply]
    simp only [hslot]
    exact .refl fd s
  | some slot =>
    rw [write_apply hslot]
    refine ⟨rfl, fun bound => State.kept_write bound s.machine slot.target bytes, fun id hid => ?_⟩
    refine State.content?_write_of_ne ?_ bytes
    rwa [ShellState.fileBehind?, hslot] at hid

theorem wrote_complain (text : String) (s : ShellState (Recorded State)) :
    s.Wrote standardError (complain text s).2 :=
  (wrote_write standardError (utf8 text) s).fallen _

/-- A shell comes down over a text if it cannot tell the user anything. -/
theorem downfall_complain {text : String} (htext : text ≠ "") (s : ShellState (Recorded State)) :
    (complain text s).2.downfall = s.refusal?.or s.downfall := by
  have hbytes : utf8 text ≠ [] := fun hnil => htext (utf8_eq_nil_iff.mp hnil)
  rw [complain, print, bind_apply, ShellState.refusal?]
  cases hslot : s.descriptors.get? standardError with
  | none =>
    rw [write, bind_apply, get_apply]
    simp only [hslot]
    rfl
  | some slot =>
    rw [write_apply hslot, State.fst_write_of_ne_nil hbytes]
    rfl

theorem wrote_note (event : Event) (s : ShellState (Recorded State)) :
    s.Wrote standardError (note event s).2 := by
  rw [note, bind_apply, get_apply]
  simp only
  split
  · exact wrote_write standardError _ s
  · exact .refl _ s

end Shell

theorem wrote_writeText (fd : Fd) (text : String) (s : ShellState (Recorded State)) :
    s.Wrote fd (writeText fd text s).2 := by
  rw [writeText]
  split
  · exact .refl fd s
  · rw [bind_apply]
    have h := wrote_write fd (utf8 text) s
    cases (write fd (utf8 text) s).1 <;> exact h

/-- A text arrives at a place that takes it. -/
theorem writeText_of_accepts {s : ShellState (Recorded State)} {fd : Fd} {slot : Slot Resource}
    (hslot : s.descriptors.get? fd = some slot) (haccepts : s.machine.Accepts slot.target)
    (text : String) : (writeText fd text s).1 = none ∧ ∃ calls,
      (writeText fd text s).2.transcript = s.transcript ++ calls ∧
        Poured slot.target (utf8 text) calls := by
  by_cases hempty : text = ""
  · subst hempty
    rw [utf8_empty]
    exact ⟨rfl, [], (List.append_nil _).symm, .nothing⟩
  · have hsome : text.isEmpty = false := by simpa using hempty
    have hok := haccepts (utf8 text)
    have hpoured := Poured.piece (utf8 text) [] [] (Poured.nothing : Poured slot.target [] [])
    rw [List.append_nil] at hpoured
    rw [writeText, hsome, if_neg Bool.false_ne_true, bind_apply, write_apply hslot, hok]
    exact ⟨rfl, [.write slot.target (utf8 text) (.ok ())], rfl, hpoured⟩

/-- An emptied file holds the text that is written to it. -/
theorem content?_writeText {s : ShellState (Recorded State)} {fd : Fd} {slot : Slot Resource}
    (hslot : s.descriptors.get? fd = some slot) {n : Nat} (hgoal : slot.target = .file n)
    {id : NodeId} (hfile : s.machine.files[Machine.Key.ofShell n]? = some ⟨id, 0, .output⟩)
    (hempty : s.machine.tree.content? id = some (.regular .empty)) (text : String) :
    (writeText fd text s).2.machine.tree.content? id =
      some (.regular (Machine.Tool.pack (utf8 text))) := by
  by_cases hnone : text = ""
  · subst hnone
    rw [utf8_empty]
    exact hempty
  · have hsome : text.isEmpty = false := by simpa using hnone
    have hwritten := State.content?_write hfile rfl (.inr rfl) hempty (utf8 text)
    rw [writeText, hsome, if_neg Bool.false_ne_true, bind_apply, write_apply hslot, hgoal]
    cases (Kernel.write (.file n) (utf8 text) s.machine).1 <;> exact hwritten

/-! ## Replies -/

/-- The complete lines of a text and what follows them are the whole text. -/
theorem completeLines_append (text : String) :
    (completeLines text).1 ++ (completeLines text).2 = text := by
  refine String.toList_inj.mp ?_
  rw [completeLines, String.toList_append, String.toList_ofList, String.toList_ofList,
    ← List.reverse_append, List.takeWhile_append_dropWhile, List.reverse_reverse]

/-- A reply complains, in which case it has no output, or it only has an outcome. -/
theorem Reply.written_cases (reply : Reply) :
    (∃ complaint, reply = .failed complaint) ∨
      reply.written = ⟨none, none, reply.written.outcome⟩ := by
  cases reply with
  | failed complaint => exact .inl ⟨complaint, rfl⟩
  | _ => exact .inr rfl

section

variable {s : ShellState (Recorded State)} {fd : Fd} {slot : Slot Resource}

/-- Why a shell comes down over a reply whose output was written, if it does, given what keeps the
user from being told something. -/
def Reply.refused? (reply : Reply) (refusal : Option Errno) : Option Errno :=
  reply.written.complaint.bind fun _ => refusal

/-- What follows when all output was written is a complaint at most. -/
theorem conclude_written (reply : Reply) (s : ShellState (Recorded State)) :
    (reply.written.conclude s).1 = reply.written.outcome ∧
    (reply.written.conclude s).2.downfall = (reply.refused? s.refusal?).or s.downfall ∧
    s.Wrote standardError (reply.written.conclude s).2 ∧
    ∃ calls, (reply.written.conclude s).2.transcript = s.transcript ++ calls ∧
      Complained s.descriptors calls := by
  refine ⟨Verdict.conclude_fst _ s, ?_⟩
  rcases reply.written_cases with ⟨complaint, rfl⟩ | hquiet
  · obtain ⟨calls, hbetween, htold, -⟩ := between_complain (complaint ++ "\n") s
    have htext : complaint ++ "\n" ≠ "" := by simp
    have hdown := downfall_complain htext s
    exact ⟨hdown, wrote_complain _ s, calls, hbetween.transcript_eq, .inr ⟨_, htold⟩⟩
  · rw [Reply.refused?, hquiet]
    exact ⟨rfl, .refl _ s, [], (List.append_nil _).symm, .inl rfl⟩

/-- What becomes of a shell when a reply is delivered to a place that takes what is written to
it. -/
structure Delivered (reply : Reply) (goal : Resource) (s : ShellState (Recorded State))
    (result : Outcome × ShellState (Recorded State)) : Prop where
  /-- The reply comes to its own outcome. -/
  outcome_eq : result.1 = reply.written.outcome
  /-- The shell comes down if there is a complaint that it cannot make. -/
  downfall_eq : result.2.downfall = (reply.refused? s.refusal?).or s.downfall
  /-- The working directory is the same. -/
  directory_eq : result.2.surroundings.directory = s.surroundings.directory
  /-- All of the output arrives, and then the user may be told something. -/
  calls : ∃ deliveries complaints,
    result.2.transcript = s.transcript ++ (deliveries ++ complaints) ∧
      Poured goal (utf8 reply.output) deliveries ∧ Complained s.descriptors complaints

/-- A reply is delivered to a file that takes it. -/
theorem delivered_deliverToFile (hslot : s.descriptors.get? fd = some slot)
    (haccepts : s.machine.Accepts slot.target) (reply : Reply) :
    Delivered reply slot.target s (reply.deliverToFile fd s) := by
  obtain ⟨hnone, deliveries, hdeliveries, hpoured⟩ :=
    writeText_of_accepts hslot haccepts reply.output
  have hwrote := wrote_writeText fd reply.output s
  have hconcluded := conclude_written reply (writeText fd reply.output s).2
  rw [Reply.deliverToFile, bind_apply, hnone]
  obtain ⟨houtcome, hdown, htold, complaints, hcomplaints, hcomplained⟩ := hconcluded
  rw [hwrote.refusal?_eq, downfall_writeText] at hdown
  refine ⟨houtcome, hdown, htold.directory_eq.trans hwrote.directory_eq, deliveries, complaints, ?_,
    hpoured, ?_⟩
  · rw [← List.append_assoc, ← hdeliveries]
    exact hcomplaints
  · rwa [hwrote.descriptors_eq] at hcomplained

/-- A reply is delivered to the standard output if it takes it, in two parts. -/
theorem delivered_deliverToOutput (hslot : s.descriptors.get? standardOutput = some slot)
    (haccepts : s.machine.Accepts slot.target) (reply : Reply) :
    Delivered reply slot.target s (reply.deliverToOutput s) := by
  rcases reply.written_cases with ⟨complaint, rfl⟩ | hquiet
  · -- Without output nothing is written on either occasion, and the complaint is all there is.
    have hlines : completeLines "" = ("", "") := by decide
    have hdeliver : (Reply.failed complaint).deliverToOutput s =
        (Reply.failed complaint).written.conclude s := by
      simp only [Reply.deliverToOutput, Reply.output, hlines, bind_apply, writeText_empty,
        pure_apply, forgiveClosed, Reply.verdict]
      rfl
    obtain ⟨houtcome, hdown, htold, complaints, hcomplaints, hcomplained⟩ :=
      conclude_written (.failed complaint) s
    rw [hdeliver]
    refine ⟨houtcome, hdown, htold.directory_eq, [], complaints, hcomplaints, ?_, hcomplained⟩
    rw [Reply.output, utf8_empty]
    exact .nothing
  · obtain ⟨hfirst, deliveries, hdeliveries, hpoured⟩ :=
      writeText_of_accepts hslot haccepts (completeLines reply.output).1
    have hwrote := wrote_writeText standardOutput (completeLines reply.output).1 s
    generalize hlines : writeText standardOutput (completeLines reply.output).1 s = lines at *
    have hslot' : lines.2.descriptors.get? standardOutput = some slot := by
      rw [hwrote.descriptors_eq, hslot]
    obtain ⟨hsecond, more, hmore, hpoured'⟩ := writeText_of_accepts hslot'
      ((hwrote.kept (slot.target.number + 1)).accepts (Nat.lt_succ_self _) haccepts)
      (completeLines reply.output).2
    have hrest := wrote_writeText standardOutput (completeLines reply.output).2 lines.2
    have hdeliver : reply.deliverToOutput s = (reply.written.outcome,
        (writeText standardOutput (completeLines reply.output).2 lines.2).2) := by
      have hverdict : reply.verdict none = ⟨none, none, reply.written.outcome⟩ := hquiet
      simp only [Reply.deliverToOutput, bind_apply, hlines, hfirst, forgiveClosed, hverdict,
        Verdict.conclude, pure_apply, hsecond]
    have hdown : (writeText standardOutput (completeLines reply.output).2 lines.2).2.downfall =
        (reply.refused? s.refusal?).or s.downfall := by
      rw [downfall_writeText, ← hlines, downfall_writeText, Reply.refused?, hquiet]
      rfl
    rw [hdeliver]
    generalize writeText standardOutput (completeLines reply.output).2 lines.2 = after
      at hmore hrest hdown ⊢
    refine ⟨rfl, hdown, hrest.directory_eq.trans hwrote.directory_eq, deliveries ++ more, [], ?_,
      ?_, .inl rfl⟩
    · rw [List.append_nil, ← List.append_assoc, ← hdeliveries]
      exact hmore
    · rw [← completeLines_append reply.output, utf8_append]
      exact hpoured.append hpoured'

/-- A reply is delivered where its output goes, if this place takes it. -/
theorem Interpreter.delivered_deliver {output : Option Fd}
    (hslot : s.descriptors.get? (output.getD standardOutput) = some slot)
    (haccepts : s.machine.Accepts slot.target) (reply : Reply) :
    Delivered reply slot.target s (deliver output reply s) := by
  cases output with
  | none => exact delivered_deliverToOutput hslot haccepts reply
  | some fd =>
    obtain ⟨houtcome, hdown, hdirectory, hcalls⟩ := delivered_deliverToFile hslot haccepts reply
    exact ⟨houtcome, hdown, hdirectory, hcalls⟩

/-- A file that was emptied for a reply holds its output then. A complaint is not in it, unless the
descriptor for complaints leads to it. -/
theorem Interpreter.content?_deliver (hslot : s.descriptors.get? fd = some slot) {n : Nat}
    (hgoal : slot.target = .file n) {id : NodeId}
    (hfile : s.machine.files[Machine.Key.ofShell n]? = some ⟨id, 0, .output⟩)
    (hempty : s.machine.tree.content? id = some (.regular .empty))
    (haside : s.fileBehind? standardError ≠ some id) (reply : Reply) :
    (deliver (some fd) reply s).2.machine.tree.content? id =
      some (.regular (Machine.Tool.pack (utf8 reply.output))) := by
  have haccepts : s.machine.Accepts slot.target := by
    rw [hgoal]
    exact State.accepts_file_iff.mpr ⟨_, hfile, rfl, by rw [hempty]; simp⟩
  have hwrote := wrote_writeText fd reply.output s
  have hconcluded := (conclude_written reply (writeText fd reply.output s).2).2.2.1
  have hdeliver : (deliver (some fd) reply s).2.machine =
      (reply.written.conclude (writeText fd reply.output s).2).2.machine := by
    have hnone := (writeText_of_accepts hslot haccepts reply.output).1
    simp only [deliver, Reply.deliverToFile, bind_apply, hnone]
    rfl
  rw [hdeliver, hconcluded.content?_eq id (by rwa [hwrote.fileBehind?_eq])]
  exact content?_writeText hslot hgoal hfile hempty reply.output

/-- A complaint is in an empty file if the descriptor for complaints leads to its end. -/
theorem Interpreter.content?_deliver_failed {n : Nat} {inheritable : Bool} {file : Machine.OpenFile}
    (hslot : s.descriptors.get? standardError = some ⟨.file n, inheritable⟩)
    (hfile : s.machine.files[Machine.Key.ofShell n]? = some file)
    (hwrites : file.mode.writes = true) (hend : file.mode.atEnd = true)
    (hempty : s.machine.tree.content? file.node = some (.regular .empty)) (fd : Fd)
    (complaint : String) :
    (deliver (some fd) (.failed complaint) s).2.machine.tree.content? file.node =
      some (.regular (Machine.Tool.pack (utf8 (complaint ++ "\n")))) := by
  have hnothing : writeText fd (Reply.failed complaint).output s = (none, s) := rfl
  have hdeliver : (deliver (some fd) (.failed complaint) s).2.machine =
      (complain (complaint ++ "\n") s).2.machine := by
    simp only [deliver, Reply.deliverToFile, bind_apply, hnothing]
    rfl
  have hwritten :=
    State.content?_write hfile hwrites (.inl hend) hempty (utf8 (complaint ++ "\n"))
  rw [hdeliver, complain, print, bind_apply, write_apply hslot]
  exact hwritten

end

end CommandShell
