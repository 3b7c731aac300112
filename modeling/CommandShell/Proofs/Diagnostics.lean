import CommandShell.Proofs.Leaks
import CommandShell.Proofs.TextBytes
import CommandShell.Proofs.Touching

/-!
# Messages to the user

A failure is told to the user by a message that begins with `pipesh: `. A process that cannot start
its program writes one itself; the shell writes one for every stage that was left out, once the
pipeline is done, and one for the error that ends a line. Nobody tells of a stage with an argument
that cannot be passed on, and a stage that was left out is not told of either if a pipe or a process
for a later one could not be made. Main statement: the messages of a line are these and no others
(`Interpreter.announcing_runLine`).
-/

namespace CommandShell

open Shell

variable {σ : Type}

/-! ## Texts -/

/-- What every message begins with. -/
def mark : Bytes := utf8 "pipesh: "

/-- A text that does not begin as a message does. -/
def Plain (text : String) : Prop := ∃ c rest, text = String.ofList (c :: rest) ∧ c ≠ 'p'

/-- The first byte of a character tells whether it is the one that messages begin with. -/
theorem head?_utf8EncodeChar {c : Char} (hne : c ≠ 'p') :
    ∃ b, (String.utf8EncodeChar c).head? = some b ∧ b ≠ 112 := by
  have hvalue : c.val.toNat ≠ 112 := fun heq => hne (Char.ext (UInt32.toNat_inj.1 heq))
  rw [String.utf8EncodeChar]
  split
  · refine ⟨_, rfl, fun heq => hvalue ?_⟩
    have hnat := congrArg UInt8.toNat heq
    simp only [UInt8.toNat_ofNat', UInt8.reduceToNat] at hnat
    omega
  · -- The first byte of a longer encoding is beyond the first half of the range.
    have hhigh : ∀ n, 192 ≤ n → n < 256 → UInt8.ofNat n ≠ 112 := by
      intro n hle hlt heq
      have hnat := congrArg UInt8.toNat heq
      simp only [UInt8.toNat_ofNat', UInt8.reduceToNat] at hnat
      omega
    split
    · exact ⟨_, rfl, hhigh _ (by omega) (by omega)⟩
    · split
      · exact ⟨_, rfl, hhigh _ (by omega) (by omega)⟩
      · exact ⟨_, rfl, hhigh _ (by omega) (by omega)⟩

theorem Plain.not_mark {text : String} (h : Plain text) (more : Bytes) :
    ¬ mark <+: utf8 text ++ more := by
  obtain ⟨c, rest, rfl, hne⟩ := h
  obtain ⟨b, hhead, hb⟩ := head?_utf8EncodeChar hne
  obtain ⟨bytes, hbytes⟩ := List.head?_eq_some_iff.1 hhead
  have hmark : mark = 112 :: (utf8 "ipesh: ") := by
    rw [mark, utf8_eq, utf8_eq]
    rfl
  rintro ⟨tail, htail⟩
  rw [hmark, utf8_eq (String.ofList (c :: rest)), String.toList_ofList, List.flatMap_cons,
    hbytes] at htail
  exact hb (List.cons.inj htail).1.symm

/-- What describes an error number does not begin as a message does. -/
theorem plain_description (e : Errno) : Plain e.description := by
  have hentries : ∀ entry ∈ Errno.entries, Plain entry.description := by
    simp only [Errno.entries, List.forall_mem_cons]
    and_intros
    all_goals first
      | exact ⟨_, _, rfl, by decide⟩
      | exact fun _ hmem => absurd hmem List.not_mem_nil
  rw [Errno.description]
  split
  · next entry hentry => exact hentries entry (List.mem_of_find?_eq_some hentry)
  · exact ⟨_, _, rfl, by decide⟩

/-- What begins as a message does is one, whatever follows. -/
theorem mark_prefix (text : String) : mark <+: utf8 ("pipesh: " ++ text) := by
  rw [utf8_append]
  exact List.prefix_append _ _

/-! ## Messages of a transcript -/

/-- The message that a call writes to a place, if it writes one there. -/
def Call.message? (goal : Resource) : Call → Option Bytes
  | .write other bytes _ => if other = goal ∧ mark <+: bytes then some bytes else none
  | _ => none

/-- All messages that are written to a place. -/
def messages (goal : Resource) (calls : List Call) : List Bytes :=
  calls.filterMap (Call.message? goal)

/-- Whether a process ended without a program. -/
def Call.isExit : Call → Bool
  | .exit _ _ => true
  | _ => false

theorem Call.not_isExit_of_isTransfer {call : Call} (h : call.isTransfer = true) :
    call.isExit = false := by
  cases call <;> first | rfl | cases h

theorem Call.not_isExit_of_isOpening {call : Call} (h : call.isOpening = true) :
    call.isExit = false := by
  cases call <;> first | rfl | cases h

/-- No record of the log looks like a message behind a time stamp. -/
def Discernible (stamp : String) : Prop :=
  ∀ record : LogRecord, ¬ mark <+: utf8 (LogRecord.render stamp record)

/-- A time stamp that does not begin as a message does can be told from one. -/
theorem discernible_of_plain {stamp : String} (h : Plain (stamp ++ " ")) : Discernible stamp := by
  intro record
  have hrender : LogRecord.render stamp record = stamp ++ " " ++
      (LogRecord.alignedLabel record.level ++ (" " ++ (record.component ++ (": " ++
        (record.message ++ (LogRecord.fieldText record.fields ++ "\n")))))) := by
    simp only [LogRecord.render, String.append_assoc]
  rw [hrender, utf8_append]
  exact h.not_mark _

section

variable {goal : Resource} {table : Descriptors} {stamp : String} {calls more : List Call}

theorem messages_append :
    messages goal (calls ++ more) = messages goal calls ++ messages goal more :=
  List.filterMap_append

/-- What does not write writes no message. -/
theorem messages_eq_nil (h : ∀ call ∈ calls, call.isWrite = false) : messages goal calls = [] := by
  refine List.filterMap_eq_nil_iff.2 fun call hcall => ?_
  have hwrite := h call hcall
  cases call <;> first | rfl | cases hwrite

theorem Call.not_isWrite_of_step {call : Call} (h : call.isTransfer = false) :
    call.isWrite = false := by
  cases call <;> first | rfl | cases h

/-- Records of the log are no messages. -/
theorem Noted.messages_eq_nil (h : Noted table stamp calls) (hstamp : Discernible stamp) :
    messages goal calls = [] := by
  refine List.filterMap_eq_nil_iff.2 fun call hcall => ?_
  obtain ⟨target, record, answer, rfl, -⟩ := h call hcall
  exact if_neg fun hmessage => hstamp record hmessage.2

theorem Told.messages_eq_nil {fd : Fd} {bytes : Bytes} (h : Told table fd bytes calls)
    (hplain : ¬ mark <+: bytes) : messages goal calls = [] := by
  cases h with
  | nobody h => rfl
  | somebody slot h answer =>
    refine List.filterMap_eq_nil_iff.2 fun call hcall => ?_
    rw [List.mem_singleton.1 hcall]
    exact if_neg fun hmessage => hplain hmessage.2

/-- A message that is told is written where the descriptor leads. -/
theorem Told.messages_eq {fd : Fd} {bytes : Bytes} {slot : Slot Resource}
    (h : Told table fd bytes calls) (hslot : table.get? fd = some slot) (hmark : mark <+: bytes) :
    messages slot.target calls = [bytes] := by
  cases h with
  | nobody h =>
    rw [hslot] at h
    cases h
  | somebody slot' h answer =>
    rw [hslot] at h
    cases h
    simp [messages, Call.message?, hmark]

/-- The texts of complaints are messages if they begin as messages do. All of them are told unless
the shell comes down. -/
theorem Complaints.messages_eq {texts : List String} {downfall : Option Errno}
    {slot : Slot Resource} (h : Complaints table texts downfall calls)
    (hslot : table.get? standardError = some slot) (hmark : ∀ text ∈ texts, mark <+: utf8 text) :
    ∃ reached, reached <+: texts ∧ messages slot.target calls = reached.map utf8 ∧
      (downfall = none → reached = texts) := by
  induction h with
  | nil => exact ⟨[], List.prefix_rfl, rfl, fun _ => rfl⟩
  | cons text texts downfall calls rest h hup hrest ih =>
    obtain ⟨reached, hreached, hmessages, hall⟩ :=
      ih fun text hmem => hmark text (List.mem_cons_of_mem _ hmem)
    refine ⟨text :: reached, List.prefix_cons_inj text |>.2 hreached, ?_, fun hnone => ?_⟩
    · rw [messages_append, h.messages_eq hslot (hmark text List.mem_cons_self), hmessages]
      rfl
    · rw [hall hnone]
  | fallen text texts errno calls h hdown =>
    refine ⟨[text], ⟨texts, rfl⟩, ?_, fun hnone => ?_⟩
    · rw [h.messages_eq hslot (hmark text List.mem_cons_self)]
      rfl
    · cases hnone

/-- While a process is waited for, no message is written. -/
theorem Watched.messages_eq_nil {pid : Pid} {last : ChildEvent}
    (h : Watched table stamp pid calls last) (hstamp : Discernible stamp) :
    messages goal calls = [] := by
  induction h with
  | settled event final => rfl
  | again event last notes calls pending hnotes h ih =>
    change messages goal (notes ++ calls) = []
    rw [messages_append, hnotes.messages_eq_nil hstamp, ih]
    rfl

theorem Reaped.messages_eq_nil {state : StageState} {outcome : StageOutcome}
    (h : Reaped table stamp state outcome calls) (hstamp : Discernible stamp) :
    messages goal calls = [] := by
  cases h with
  | settled outcome => rfl
  | ended pid calls last status h hlast => exact h.messages_eq_nil hstamp
  | lost pid calls notes last errno h hlast hnotes =>
    rw [messages_append, h.messages_eq_nil hstamp, hnotes.messages_eq_nil hstamp]
    rfl
  | buried pid reason calls notes last h hnotes =>
    rw [messages_append, h.messages_eq_nil hstamp, hnotes.messages_eq_nil hstamp]
    rfl

theorem ReapedAll.messages_eq_nil {states : List StageState} {outcomes : List StageOutcome}
    {segments : List (List Call)} (h : ReapedAll table stamp states outcomes segments)
    (hstamp : Discernible stamp) : messages goal segments.flatten = [] := by
  induction h with
  | nil => rfl
  | cons state outcome calls states outcomes segments h hrest ih =>
    rw [List.flatten_cons, messages_append, h.messages_eq_nil hstamp, ih]
    rfl

end

/-! ## Processes -/

namespace Child

variable {child : Child} {pid : Pid} {table : Descriptors} {directory : Directory}
  {failure : Option Errno} {calls : List Call}

/-- What a process tells the user first when it gives up. -/
def opening (program : String) : String := "pipesh: " ++ program ++ ": "

/-- An error number takes four bytes, and no message is as short. -/
theorem not_mark_toBytes (e : Errno) : ¬ mark <+: e.toBytes := by
  intro hfront
  have hlength := hfront.length_le
  have hmark : mark.length = 8 := by
    rw [mark, utf8_eq]
    rfl
  rw [hmark, Errno.toBytes, Errno.bytesOfWord] at hlength
  simp at hlength

/-- A process writes one message if it gives up, and none otherwise. It gives up exactly if it ends
without a program. -/
theorem Transcript.messages_eq (h : child.Transcript pid table directory failure calls)
    {slot : Slot Resource} (hslot : table.get? standardError = some slot) :
    calls.any Call.isExit = failure.isSome ∧
      messages slot.target calls =
        if failure.isSome then [utf8 (opening child.program)] else [] := by
  have hgranted : ∀ wires, (granted pid wires).any Call.isExit = false := by
    intro wires
    rw [List.any_eq_false]
    intro call hcall
    obtain ⟨wire, -, rfl⟩ := List.mem_map.1 hcall
    simp [Call.isExit]
  cases h with
  | started wired h =>
    refine ⟨by rw [List.any_append, hgranted]; rfl, messages_eq_nil fun call hcall => ?_⟩
    rcases List.mem_append.1 hcall with hcall | hcall
    · obtain ⟨wire, -, rfl⟩ := List.mem_map.1 hcall
      rfl
    · rw [List.mem_singleton.1 hcall]
      rfl
  | failed errno remaining tried told htried htold =>
    have hlt : 1 < standardError := by decide
    have hleft : remaining.get? standardError = some slot :=
      (htried.get?_remaining hlt).trans hslot
    cases htold with
    | intro report name reason newline hreport hname hreason hnewline =>
      have hreasonPlain : ¬ mark <+: utf8 errno.description := by
        simpa using (plain_description errno).not_mark []
      have hnewlinePlain : ¬ mark <+: utf8 "\n" := by
        have hplain : Plain "\n" := ⟨_, _, rfl, by decide⟩
        simpa using hplain.not_mark []
      refine ⟨by simp [Call.isExit], ?_⟩
      rw [messages_append, messages_eq_nil fun call hcall =>
        Call.not_isWrite_of_step (htried.isStep call hcall), messages_append, messages_append,
        messages_append, messages_append, hreport.messages_eq_nil (not_mark_toBytes errno),
        hname.messages_eq hleft (by rw [String.append_assoc]; exact mark_prefix _),
        hreason.messages_eq_nil hreasonPlain, hnewline.messages_eq_nil hnewlinePlain]
      rfl

end Child

/-! ## Turns -/

theorem Openings.messages_eq_nil {start : Directory} {stage : Stage} {calls : List Call}
    {failure : Option (String × Fault)} {goal : Resource} (h : Openings start stage calls failure) :
    messages goal calls = [] :=
  CommandShell.messages_eq_nil fun call hcall =>
    Call.not_isWrite_of_step (Call.not_isTransfer_of_isOpening (h.isOpening call hcall))

namespace Turn

variable [Kernel σ]

/-- What the process of a stage tells the user in the turn of the stage. -/
def complaints (streams : Streams) (t : Turn σ) : List String :=
  if (t.transcript streams).any Call.isExit then [Child.opening t.stage.program] else []

variable {streams : Streams} {base : ShellState (Recorded σ)} {row : List PipeEnds} {t : Turn σ}
  {result : Except ShellError StageState} {calls : List Call}

/-- In a turn there is one message if a process gives up, and none otherwise. -/
theorem Transcript.messages_eq (h : t.Transcript streams base.descriptors result calls)
    (hplaced : t.Placed base row) (hstamp : Discernible t.before.log.stamp) {slot : Slot Resource}
    (hslot : base.descriptors.get? standardError = some slot) :
    messages slot.target calls =
      if calls.any Call.isExit then [utf8 (Child.opening t.stage.program)] else [] := by
  have hno : ∀ {calls : List Call}, (∀ call ∈ calls, call.isTransfer = true) →
      calls.any Call.isExit = false := fun hcalls => List.any_eq_false.2 fun call hcall => by
    rw [Call.not_isExit_of_isTransfer (hcalls call hcall)]
    exact Bool.false_ne_true
  have hopening : ∀ {openings : List Call} {failure : Option (String × Fault)},
      Openings t.before.surroundings.directory t.stage openings failure →
        openings.any Call.isExit = false := by
    refine fun hopenings => List.any_eq_false.2 fun call hcall => ?_
    rw [Call.not_isExit_of_isOpening (hopenings.isOpening call hcall)]
    exact Bool.false_ne_true
  cases h with
  | unopened path fault openings notes hopenings hnotes =>
    rw [List.any_append, hopening hopenings, hno hnotes.isTransfer, messages_append,
      hopenings.messages_eq_nil, hnotes.messages_eq_nil hstamp]
    rfl
  | unpassable reason openings hopenings h =>
    rw [hopening hopenings, hopenings.messages_eq_nil]
    rfl
  | unheard pipe errno openings hopenings hpipe =>
    rw [List.any_append, hopening hopenings, messages_append, hopenings.messages_eq_nil]
    rfl
  | unborn pipe forking errno openings notes hopenings hpipe hnotes =>
    rw [List.any_append, hopening hopenings, messages_append, hopenings.messages_eq_nil]
    change messages _ notes = if notes.any Call.isExit then _ else _
    rw [hno hnotes.isTransfer, hnotes.messages_eq_nil hstamp]
    rfl
  | forked arguments io report equipped forking openings notes course reads later pid failure heard
      ready hopenings hnotes hreached hcourse hheard hlater =>
    have hforking := (ready.exchanged hplaced).keeps hslot
    obtain ⟨hexit, hmessages⟩ := hcourse.messages_eq hforking
    rw [List.any_append, hopening hopenings, messages_append, hopenings.messages_eq_nil]
    change messages _ (notes ++ course ++ reads ++ later) =
      if (notes ++ course ++ reads ++ later).any Call.isExit then _ else _
    have hread : messages slot.target reads = [] := messages_eq_nil fun call hcall => by
      obtain ⟨answer, rfl⟩ := hheard.isRead call hcall
      rfl
    rw [List.any_append, List.any_append, List.any_append, hno hnotes.isTransfer, hexit,
      hno hheard.isTransfer, hno hlater.isTransfer, messages_append, messages_append,
      messages_append, hnotes.messages_eq_nil hstamp, hread, hlater.messages_eq_nil hstamp,
      hmessages]
    simp [child]

/-- A stage with an argument that cannot be passed on is settled without a process. -/
theorem Transcript.of_unpassable {table : Descriptors}
    (h : t.Transcript streams table result calls) (hopen : t.stage.openFault? calls = none)
    {reason : String} (hpass : ArgumentVector.ofArguments t.stage.argv = .error reason) :
    result = .ok (.settled (.finished (.startFailed reason))) ∧ calls.any Call.isExit = false := by
  have habsurd : ∀ {arguments : ArgumentVector},
      ArgumentVector.ofArguments t.stage.argv ≠ .ok arguments := by
    intro arguments heq
    rw [hpass] at heq
    cases heq
  cases h with
  | unopened path fault openings notes hopenings hnotes =>
    rw [hopenings.openFault?_eq notes fun call hcall =>
      Call.not_isOpening_of_isTransfer (hnotes.isTransfer call hcall)] at hopen
    cases hopen
  | unpassable reason' openings hopenings h =>
    rw [hpass] at h
    cases h
    refine ⟨rfl, List.any_eq_false.2 fun call hcall => ?_⟩
    rw [Call.not_isExit_of_isOpening (hopenings.isOpening call hcall)]
    exact Bool.false_ne_true
  | unheard pipe errno openings hopenings hpipe hpass =>
    obtain ⟨arguments, hpass⟩ := hpass
    exact absurd hpass habsurd
  | unborn pipe forking errno openings notes hopenings hpipe hnotes hpass =>
    obtain ⟨arguments, hpass⟩ := hpass
    exact absurd hpass habsurd
  | forked arguments io report equipped forking openings notes course reads later pid failure heard
      ready hopenings hnotes hreached hcourse hheard hlater =>
    exact absurd ready.passable habsurd

end Turn

/-! ## Runs -/

namespace Pipeline

variable [Kernel σ] {streams : Streams} {p : Pipeline} {s : ShellState (Recorded σ)}

/-- With a report every turn has come to a state, and the outcome in its place was learned of it. -/
theorem reaped_of_report {report : Report} (hreport : (p.execute streams s).1 = .ok report)
    {i : Nat} {t : Turn σ} (hi : (p.turns streams s)[i]? = some t) :
    ∃ state outcome waits, t.result streams = .ok state ∧ report.outcomes[i]? = some outcome ∧
      Reaped s.descriptors s.log.stamp state outcome waits := by
  have htranscript := (transcribed_execute streams p s).2
  rw [hreport] at htranscript
  generalize (p.execute streams).transcript s = calls at htranscript
  cases htranscript with
  | finished states outcomes notes later segments hresults hall hnotes hreaped hlater =>
    obtain ⟨state, hstate, hok⟩ := exists_state hresults hi
    obtain ⟨outcome, waits, houtcome, -, hstage⟩ := hreaped.get hstate
    exact ⟨state, outcome, waits, hok, houtcome, hstage⟩

/-- The messages of a run are those of the processes that give up in its turns. -/
theorem messages_execute (hstamp : Discernible s.log.stamp) {slot : Slot Resource}
    (hslot : s.descriptors.get? standardError = some slot) :
    messages slot.target ((p.execute streams).transcript s) =
      ((p.turns streams s).flatMap (Turn.complaints streams)).map utf8 := by
  obtain ⟨row, -, hplaced⟩ := placed_turns streams p s
  have hmade : ∀ first count, messages slot.target (pipesMade first count) = [] := by
    refine fun first count => messages_eq_nil fun call hcall => ?_
    obtain ⟨pipe, -, rfl⟩ := List.mem_map.1 hcall
    rfl
  have hturns : messages slot.target ((p.turns streams s).flatMap (Turn.transcript streams)) =
      ((p.turns streams s).flatMap (Turn.complaints streams)).map utf8 := by
    rw [messages, List.filterMap_flatMap, List.map_flatMap, List.flatMap_def, List.flatMap_def]
    refine congrArg List.flatten (List.map_congr_left fun t ht => ?_)
    obtain ⟨-, htranscript, -, hlog⟩ := transcript_of_mem_turns ht
    have hmessages := htranscript.messages_eq (hplaced t ht) (hlog ▸ hstamp) hslot
    rw [messages] at hmessages
    rw [hmessages, Turn.complaints]
    split <;> rfl
  have htranscript := (transcribed_execute streams p s).2
  generalize (p.execute streams s).1 = result at htranscript
  generalize (p.execute streams).transcript s = calls at htranscript
  cases htranscript with
  | unpiped errno done hdone hnone =>
    rw [messages_append, hmade, hnone]
    rfl
  | finished states outcomes notes later segments hresults hall hnotes hreaped hlater =>
    rw [messages_append, messages_append, messages_append, messages_append, hmade,
      hnotes.messages_eq_nil hstamp, hturns, hreaped.messages_eq_nil hstamp,
      hlater.messages_eq_nil hstamp]
    simp
  | stopped states outcomes error notes later segments hresults hnotes hreaped hlater =>
    rw [messages_append, messages_append, messages_append, messages_append, hmade,
      hnotes.messages_eq_nil hstamp, hturns, hreaped.messages_eq_nil hstamp,
      hlater.messages_eq_nil hstamp]
    simp

/-- Whether a target of a stage could not be opened is told by the outcome of the stage. -/
theorem aborted_iff {report : Report} (hreport : (p.execute streams s).1 = .ok report) {i : Nat}
    {t : Turn σ} (hi : (p.turns streams s)[i]? = some t) (path : String) (fault : Fault) :
    report.outcomes[i]? = some (.aborted (.io path fault)) ↔
      t.stage.openFault? (t.transcript streams) = some (path, fault) := by
  obtain ⟨state, outcome, waits, hstate, houtcome, hreaped⟩ := reaped_of_report hreport hi
  obtain ⟨openings, rest, failure, hcalls, hopenings, hrest, -, hfailure⟩ :=
    (transcript_of_mem_turns (List.mem_of_getElem? hi)).2.1.opens
  rw [hcalls, hopenings.openFault?_eq rest hrest, hfailure, hstate, houtcome]
  simp only [Option.some.injEq, Except.ok.injEq]
  cases hreaped <;> simp

/-- Nothing is told of a stage with an argument that cannot be passed on. -/
theorem unpassable_of_mem_turns {i : Nat} {t : Turn σ} (hi : (p.turns streams s)[i]? = some t)
    (hopen : t.stage.openFault? (t.transcript streams) = none) {reason : String}
    (hpass : ArgumentVector.ofArguments t.stage.argv = .error reason) :
    t.complaints streams = [] ∧ ∀ report, (p.execute streams s).1 = .ok report →
      report.outcomes[i]? = some (.finished (.startFailed reason)) := by
  have htranscript := (transcript_of_mem_turns (List.mem_of_getElem? hi)).2.1
  obtain ⟨hresult, hquiet⟩ := htranscript.of_unpassable hopen hpass
  refine ⟨?_, fun report hreport => ?_⟩
  · rw [Turn.complaints, hquiet]
    rfl
  · obtain ⟨state, outcome, waits, hstate, houtcome, hreaped⟩ := reaped_of_report hreport hi
    rw [hresult] at hstate
    cases hstate
    cases hreaped
    exact houtcome

end Pipeline

/-! ## Lines -/

/-- Whether a stage never ran, or its end could not be learned. -/
def StageOutcome.isAborted : StageOutcome → Bool
  | .aborted _ => true
  | .finished _ => false

namespace Interpreter

/-- What the user is told about a line when it is settled. -/
def lineComplaints : Except ShellError Outcome → List String
  | .ok _ => []
  | .error error => [errorMessage error]

/-- What the user is told about a line of programs by the shell: the stages that never ran come
first, and then the error that ends the line. -/
def shellComplaints (result : Except ShellError Report) : List String :=
  abortComplaints result ++ lineComplaints (settlement result)

theorem mark_errorMessage (error : ShellError) : mark <+: utf8 (errorMessage error) := by
  rw [errorMessage, String.append_assoc]
  exact mark_prefix _

theorem mark_abortMessage (index : Nat) (error : ShellError) :
    mark <+: utf8 (abortMessage index error) := by
  have hstage : "pipesh: stage " = "pipesh: " ++ "stage " := by decide
  change mark <+: utf8 ("pipesh: stage " ++ toString (index + 1) ++ ": " ++ error.message ++ "\n")
  rw [hstage]
  simp only [String.append_assoc]
  exact mark_prefix _

theorem mark_of_mem_abortMessages {index : Nat} {outcomes : List StageOutcome} {text : String}
    (h : text ∈ abortMessages index outcomes) : mark <+: utf8 text := by
  induction outcomes generalizing index with
  | nil => cases h
  | cons outcome rest ih =>
    cases outcome with
    | finished status => exact ih h
    | aborted error =>
      rcases List.mem_cons.1 h with rfl | h
      · exact mark_abortMessage index error
      · exact ih h

theorem mark_of_mem_abortComplaints {result : Except ShellError Report} {text : String}
    (h : text ∈ abortComplaints result) : mark <+: utf8 text := by
  cases result with
  | error error => cases h
  | ok report => exact mark_of_mem_abortMessages h

/-- There is one text for every stage that never ran. -/
theorem length_abortMessages (index : Nat) (outcomes : List StageOutcome) :
    (abortMessages index outcomes).length = outcomes.countP StageOutcome.isAborted := by
  induction outcomes generalizing index with
  | nil => rfl
  | cons outcome rest ih =>
    cases outcome with
    | finished status =>
      rw [abortMessages, ih, List.countP_cons_of_neg (by simp [StageOutcome.isAborted])]
    | aborted error =>
      rw [abortMessages, List.length_cons, ih,
        List.countP_cons_of_pos (by simp [StageOutcome.isAborted])]

/-- With a report the shell tells the user once of every stage that never ran, the last one
included. -/
theorem length_shellComplaints {report : Report} (h : report.outcomes ≠ []) :
    (shellComplaints (.ok report)).length = report.outcomes.countP StageOutcome.isAborted := by
  obtain ⟨before, last, houtcomes⟩ : ∃ before last, report.outcomes = before ++ [last] :=
    ⟨_, _, (List.dropLast_concat_getLast h).symm⟩
  have hlast : report.outcomes.getLast? = some last := by rw [houtcomes, List.getLast?_concat]
  rw [shellComplaints, abortComplaints, List.length_append, length_abortMessages, Report.earlier,
    settlement, Report.conclusion, hlast, houtcomes, List.dropLast_concat, List.countP_append]
  cases last with
  | finished status => rfl
  | aborted error => rfl

section

variable [Kernel σ]

/-- Settling a line tells the user of its error, if there is one, unless the shell has come down
before. -/
theorem Settling.messages_eq {table : Descriptors} {stamp : String}
    {result : Except ShellError Outcome} {before after : Option Errno} {calls : List Call}
    (h : Settling table stamp result before after calls) (hstamp : Discernible stamp)
    {slot : Slot Resource} (hslot : table.get? standardError = some slot) :
    messages slot.target calls =
      (if before = none then lineComplaints result else []).map utf8 := by
  cases h with
  | fallen result errno => rfl
  | done outcome => rfl
  | failed error notes told hnotes htold =>
    rw [messages_append, hnotes.messages_eq_nil hstamp,
      htold.messages_eq hslot (mark_errorMessage error)]
    rfl

/-- How the failures in the run of a pipeline are told to the user, given what is told about its
line and why the shell comes down in it, if it does. -/
structure Announced (streams : Streams) (p : Pipeline) (s : ShellState (Recorded σ))
    (downfall : Option Errno) (told : List Bytes) : Prop where
  /-- The processes that give up tell of it in their turns, and the shell tells of the rest when the
  pipeline is done. -/
  told_eq : downfall = none → told = ((p.turns streams s).flatMap (Turn.complaints streams) ++
    shellComplaints (p.execute streams s).1).map utf8
  /-- If the shell comes down over a message, nothing else is missing than those behind it. -/
  reached : ∃ reached, reached <+: shellComplaints (p.execute streams s).1 ∧
    told = ((p.turns streams s).flatMap (Turn.complaints streams) ++ reached).map utf8
  /-- If a pipe or a process cannot be made, the shell tells of this and of nothing else. -/
  stopped : ∀ error, (p.execute streams s).1 = .error error →
    told = ((p.turns streams s).flatMap (Turn.complaints streams) ++ [errorMessage error]).map utf8
  /-- With a report there is one message for every process that gave up and one for every stage that
  was left out or got lost. -/
  reported : ∀ report, (p.execute streams s).1 = .ok report → downfall = none →
    told.length = (p.turns streams s).countP (fun t => (t.transcript streams).any Call.isExit) +
      report.outcomes.countP StageOutcome.isAborted
  /-- The stages that were left out are those with a target that could not be opened. -/
  unopened : ∀ report, (p.execute streams s).1 = .ok report →
    ∀ (i : Nat) (t : Turn σ) (path : String) (fault : Fault), (p.turns streams s)[i]? = some t →
      (report.outcomes[i]? = some (.aborted (.io path fault)) ↔
        t.stage.openFault? (t.transcript streams) = some (path, fault))
  /-- A stage with an argument that cannot be passed on is not told of. Its outcome is finished, and
  it has no process. -/
  unpassable : ∀ (i : Nat) (t : Turn σ) (reason : String), (p.turns streams s)[i]? = some t →
    t.stage.openFault? (t.transcript streams) = none →
    ArgumentVector.ofArguments t.stage.argv = .error reason →
      t.complaints streams = [] ∧ ∀ report, (p.execute streams s).1 = .ok report →
        report.outcomes[i]? = some (.finished (.startFailed reason))

/-- A report has an outcome for every stage, so that there is one at least. -/
theorem outcomes_ne_nil {streams : Streams} {p : Pipeline} {s : ShellState (Recorded σ)}
    {report : Report} (h : (p.execute streams s).1 = .ok report) : report.outcomes ≠ [] := by
  have htranscript := (Pipeline.transcribed_execute streams p s).2
  rw [h] at htranscript
  generalize (p.execute streams).transcript s = calls at htranscript
  cases htranscript with
  | finished states outcomes notes later segments hresults hall hnotes hreaped hlater =>
    have hlength := congrArg List.length hresults
    rw [List.length_map, List.length_map, hall, ← Pipeline.joints_add_one,
      ← hreaped.length_eq.1] at hlength
    intro hnil
    rw [show outcomes = [] from hnil] at hlength
    cases hlength

/-- What is told about the line of a pipeline is made up of the messages of its run and those of the
shell. -/
theorem announced_execute (streams : Streams) (p : Pipeline) (s : ShellState (Recorded σ))
    {downfall : Option Errno} {reached : List String}
    (hreached : reached <+: shellComplaints (p.execute streams s).1)
    (hall : downfall = none → reached = shellComplaints (p.execute streams s).1)
    (hstopped : ∀ error, (p.execute streams s).1 = .error error →
      reached = shellComplaints (p.execute streams s).1) :
    Announced streams p s downfall
      (((p.turns streams s).flatMap (Turn.complaints streams) ++ reached).map utf8) := by
  refine ⟨fun hnone => by rw [hall hnone], ⟨reached, hreached, rfl⟩,
    fun error herror => by rw [hstopped error herror, herror]; rfl, fun report hreport hnone => ?_,
    fun report hreport i t path fault hi => Pipeline.aborted_iff hreport hi path fault,
    fun i t reason hi hopen hpass => Pipeline.unpassable_of_mem_turns hi hopen hpass⟩
  rw [hall hnone, hreport, List.length_map, List.length_append,
    length_shellComplaints (outcomes_ne_nil hreport), List.length_flatMap]
  congr 1
  induction p.turns streams s with
  | nil => rfl
  | cons t rest ih =>
    rw [List.map_cons, List.sum_cons, List.countP_cons, ih, Turn.complaints]
    split <;> simp [*, Nat.add_comm]

/-- How the failures of a line are told to the user. -/
structure Announces (sh : Interpreter (Recorded σ)) (line : String) (s : ShellState (Recorded σ))
    (goal : Resource) : Prop where
  /-- There is nothing to tell about a blank line. -/
  blank : Token.scan line = [] → messages goal ((sh.runLine line).transcript s) = []
  /-- A malformed line is told of once. -/
  malformed : ∀ fault, Token.scan line ≠ [] → Pipeline.ofTokens (Token.scan line) = .error fault →
    messages goal ((sh.runLine line).transcript s) = [utf8 (errorMessage (.malformed fault))]
  /-- A builtin with a target that cannot be opened is told of once. -/
  builtin : ∀ p chosen error, Pipeline.ofTokens (Token.scan line) = .ok p →
    sh.route p = some chosen → (sh.execute line s).1 = .error error →
      messages goal ((sh.runLine line).transcript s) = [utf8 (errorMessage error)]
  /-- A line of programs is told of as its pipeline is, which runs once the line was noted. The
  shell does not come down as long as it can write. -/
  programs : ∀ p, Pipeline.ofTokens (Token.scan line) = .ok p → sh.route p = none →
    ∃ s₀ notes, Between s s₀ notes ∧ Noted s.descriptors s.log.stamp notes ∧
      s₀.descriptors = s.descriptors ∧
      Announced sh.streams p s₀ (sh.runLine line s).2.downfall
        (messages goal ((sh.runLine line).transcript s)) ∧
      ((∀ call ∈ (sh.runLine line).transcript s, call.fatal? = none) →
        (sh.runLine line s).2.downfall = none)

/-- What is told about a line of programs, given what is told about the stages that never ran. -/
theorem reached_shellComplaints {result : Except ShellError Report} {downfall : Option Errno}
    {reached : List String} (hreached : reached <+: abortComplaints result)
    (hall : downfall = none → reached = abortComplaints result) :
    let told := reached ++ if downfall = none then lineComplaints (settlement result) else []
    told <+: shellComplaints result ∧ (downfall = none → told = shellComplaints result) := by
  by_cases hup : downfall = none
  · rw [if_pos hup, hall hup]
    exact ⟨List.prefix_rfl, fun _ => rfl⟩
  · rw [if_neg hup, List.append_nil]
    exact ⟨hreached.trans (List.prefix_append _ _), fun hnone => absurd hnone hup⟩

/-- Whatever the line and whatever the system answers, the failures are told to the user like this,
if the descriptor for complaints is open and the log can be told from messages. -/
theorem announcing_runLine (sh : Interpreter (Recorded σ)) (line : String)
    (s : ShellState (Recorded σ)) {slot : Slot Resource}
    (hslot : s.descriptors.get? standardError = some slot) (hstamp : Discernible s.log.stamp) :
    sh.Announces line s slot.target := by
  have htranscript := sh.transcribed_execute line s
  -- Of a line that does not bring the shell down before it is settled all is told.
  have hmessages : ∀ {calls : List Call}, Between s (sh.execute line s).2 calls →
      (sh.execute line s).2.downfall = none →
      messages slot.target ((sh.runLine line).transcript s) =
        messages slot.target calls ++ (lineComplaints (sh.execute line s).1).map utf8 := by
    intro calls hbetween hup
    obtain ⟨more, hran, hmore⟩ := between_runLine sh line s hbetween
    rw [hran.transcript_action_eq, messages_append, hmore.messages_eq hstamp hslot, if_pos hup]
  refine ⟨fun hblank => ?_, fun fault hblank hfault => ?_,
    fun p chosen error hparse hroute herror => ?_, fun p hparse hroute => ?_⟩
  · obtain ⟨hresult, notes, hnotes, hbetween, hup⟩ := htranscript.of_blank hblank
    rw [hmessages hbetween hup, hnotes.messages_eq_nil hstamp, hresult]
    rfl
  · obtain ⟨hresult, notes, hnotes, hbetween, hup⟩ := htranscript.of_malformed hblank hfault
    rw [hmessages hbetween hup, hnotes.messages_eq_nil hstamp, hresult]
    rfl
  · rcases htranscript.of_builtin hparse hroute with
      ⟨path, fault, notes, openings, hresult, hnotes, hopenings, hbetween, hup⟩ |
      ⟨opened, output, outcome, notes, openings, deliveries, hresult, -⟩
    · rw [hmessages hbetween hup, messages_append, hnotes.messages_eq_nil hstamp,
        hopenings.messages_eq_nil, herror]
      rfl
    · rw [hresult] at herror
      cases herror
  · obtain ⟨s₀, notes, complaints, hresult, hnotes, hbefore, hdescriptors, -, hcomplaints,
      hbetween⟩ := htranscript.of_programs hparse hroute
    obtain ⟨more, hran, hmore⟩ := between_runLine sh line s hbetween
    have hcalls := hran.transcript_action_eq
    obtain ⟨reached, hreached, hsaid, hall⟩ :=
      hcomplaints.messages_eq hslot fun text => mark_of_mem_abortComplaints
    obtain ⟨hfront, hwhole⟩ := reached_shellComplaints hreached hall
    refine ⟨s₀, notes, hbefore, hnotes, hdescriptors, ?_, fun hnone => ?_⟩
    · rw [hcalls, messages_append, messages_append, messages_append,
        hmore.messages_eq hstamp hslot, hsaid,
        hnotes.messages_eq_nil hstamp, hresult,
        Pipeline.messages_execute (hbefore.log_eq ▸ hstamp) (hdescriptors ▸ hslot),
        List.nil_append, ← List.map_append, ← List.map_append, List.append_assoc]
      refine announced_execute sh.streams p s₀ hfront (fun hup => hwhole (runLine_of_up hup).1)
        fun error herror => hwhole ?_
      rw [herror] at hcomplaints
      generalize (sh.execute line s).2.downfall = downfall at hcomplaints
      cases hcomplaints
      rfl
    · rw [hcalls] at hnone
      rw [hmore.survives fun call hcall => hnone call (List.mem_append_right _ hcall),
        hcomplaints.downfall_eq]
      refine List.findSome?_eq_none_iff.2 fun call hcall => hnone call ?_
      exact List.mem_append_left _ (List.mem_append_right _ hcall)

end

theorem announcing_runLine_fiveStreams :
    Pipeline.fiveStreams.boot.recorded.descriptors.get? standardError = some ⟨.file 2, false⟩ ∧
      Discernible Pipeline.fiveStreams.boot.recorded.log.stamp ∧
      (Interpreter.standard (σ := Recorded Machine.State)).Announces "| cat"
        Pipeline.fiveStreams.boot.recorded (.file 2) := by
  have hslot : Pipeline.fiveStreams.boot.recorded.descriptors.get? standardError =
      some ⟨.file 2, false⟩ := by decide
  have hstamp : Discernible Pipeline.fiveStreams.boot.recorded.log.stamp :=
    discernible_of_plain ⟨' ', [], by decide, by decide⟩
  exact ⟨hslot, hstamp, announcing_runLine .standard "| cat" _ hslot hstamp⟩

/-- The only stage of this line cannot be run, since the name of its program holds a NUL byte. The
line has the status of a program that cannot be started, and the user is told nothing. -/
theorem silent_runLine_nul :
    Pipeline.ofTokens (Token.scan "a\x00b") = .ok ⟨⟨"a\x00b", [], none, none⟩, []⟩ ∧
      Pipeline.fiveStreams.boot.recorded.descriptors.get? standardError = some ⟨.file 2, false⟩ ∧
      (Interpreter.standard.runLine "a\x00b" Pipeline.fiveStreams.boot.recorded).1 =
        .proceed 127 ∧
      messages (.file 2) ((Interpreter.standard.runLine "a\x00b").transcript
        Pipeline.fiveStreams.boot.recorded) = [] :=
  ⟨eq_ok_of_toOption (by decide +kernel), by decide, by decide +kernel, by decide +kernel⟩

end Interpreter

end CommandShell
