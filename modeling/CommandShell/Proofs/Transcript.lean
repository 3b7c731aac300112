import CommandShell.Proofs.Opening

/-!
# Transcripts

All that a shell asks of a system, in order and with the answers: the reading and writing that a
history leaves aside is part of it, and the states of the system can be followed from one call to
the next. Main statements: a transcript without the reading and writing is a history
(`Between.since`), the log writes nothing but records (`between_note`), the targets of a stage are
opened one after the other until one of them cannot be opened (`between_acquire`), and a report is
read until nothing is left (`between_readReport`).
-/

namespace CommandShell

open Shell

variable {σ α β : Type}

/-- Whether a call writes. -/
def Call.isWrite : Call → Bool
  | .write _ _ _ => true
  | _ => false

/-- The error over which a shell comes down if the call was to write what has to be written. -/
def Call.fatal? : Call → Option Errno
  | .write _ _ answer => Shell.fatal? answer
  | _ => none

/-- The number that a call gives to a pipe or to an opened file. -/
def Call.number? : Call → Option Nat
  | .makePipe pipe _ => some pipe
  | .openToRead _ _ number _ => some number
  | .openToWrite _ _ number _ => some number
  | _ => none

/-- Numbers in ascending order, from one number on and below another one. -/
def Ascends (limit : Nat) : Nat → List Nat → Prop
  | least, [] => least ≤ limit
  | least, number :: rest => least ≤ number ∧ Ascends limit (number + 1) rest

/-- Numbers that ascend from one number on ascend from any smaller one on. -/
theorem Ascends.of_le {limit least least' : Nat} {numbers : List Nat}
    (h : Ascends limit least numbers) (hle : least' ≤ least) : Ascends limit least' numbers := by
  cases numbers with
  | nil => exact Nat.le_trans hle h
  | cons number rest => exact ⟨Nat.le_trans hle h.1, h.2⟩

/-- Ascending numbers begin below their limit. -/
theorem Ascends.le {limit least : Nat} {numbers : List Nat} (h : Ascends limit least numbers) :
    least ≤ limit := by
  induction numbers generalizing least with
  | nil => exact h
  | cons number rest ih => exact Nat.le_trans (Nat.le_succ_of_le h.1) (ih h.2)

/-- Numbers go on ascending where others have stopped. -/
theorem Ascends.append {least between limit : Nat} {numbers more : List Nat}
    (h : Ascends between least numbers) (h' : Ascends limit between more) :
    Ascends limit least (numbers ++ more) := by
  induction numbers generalizing least with
  | nil => exact h'.of_le h
  | cons number rest ih => exact ⟨h.1, ih h.2⟩

/-- Ascending numbers ascend in both of two parts. -/
theorem Ascends.split {least limit : Nat} {numbers more : List Nat}
    (h : Ascends limit least (numbers ++ more)) :
    ∃ between, Ascends between least numbers ∧ Ascends limit between more := by
  induction numbers generalizing least with
  | nil => exact ⟨least, Nat.le_refl least, h⟩
  | cons number rest ih =>
    obtain ⟨between, hrest, hmore⟩ := ih h.2
    exact ⟨between, ⟨h.1, hrest⟩, hmore⟩

/-- Writing moves bytes and does nothing else. -/
theorem Call.isTransfer_of_isWrite {call : Call} (h : call.isWrite = true) :
    call.isTransfer = true := by
  cases call <;> first | rfl | cases h

section

variable [Kernel σ]

/-- A system in one state gives the answer of a call, and is in another state then. -/
def Call.Answered (host host' : σ) : Call → Prop
  | makePipe pipe answer => Kernel.makePipe pipe host = (answer, host')
  | openToRead start path number answer =>
    Kernel.openToRead start path number host = (answer, host')
  | openToWrite start path number answer =>
    Kernel.openToWrite start path number host = (answer, host')
  | fork descriptors answer => Kernel.fork descriptors host = (answer, host')
  | duplicate pid source goal answer =>
    Kernel.permitDuplicate pid source goal host = (answer, host')
  | exec pid launch answer => Kernel.exec pid launch host = (answer, host')
  | exit pid code => Kernel.exit pid code host = ((), host')
  | write goal bytes answer => Kernel.write goal bytes host = (answer, host')
  | read source limit descriptors answer =>
    Kernel.read source limit descriptors host = (answer, host')
  | wait pid descriptors answer => Kernel.wait pid descriptors host = (answer, host')
  | canonicalize start path answer => Kernel.canonicalize start path host = (answer, host')
  | enter start path answer => Kernel.enter start path host = (answer, host')
  | nameOf directory answer => Kernel.nameOf directory host = (answer, host')

/-- A system gives the answers of some calls one after the other. -/
def Replayed : σ → List Call → σ → Prop
  | host, [], host' => host' = host
  | host, call :: rest, host' =>
    ∃ between, call.Answered host between ∧ Replayed between rest host'

theorem Replayed.append {host between host' : σ} {calls more : List Call}
    (h : Replayed host calls between) (h' : Replayed between more host') :
    Replayed host (calls ++ more) host' := by
  induction calls generalizing host with
  | nil =>
    cases h
    exact h'
  | cons call rest ih =>
    obtain ⟨next, hcall, hrest⟩ := h
    exact ⟨next, hcall, ih hrest⟩

/-- The states in between can be told from the calls. -/
theorem Replayed.split {host host' : σ} {calls more : List Call}
    (h : Replayed host (calls ++ more) host') :
    ∃ between, Replayed host calls between ∧ Replayed between more host' := by
  induction calls generalizing host with
  | nil => exact ⟨host, rfl, h⟩
  | cons call rest ih =>
    obtain ⟨next, hcall, hrest⟩ := h
    obtain ⟨between, hbefore, hafter⟩ := ih hrest
    exact ⟨between, ⟨next, hcall, hbefore⟩, hafter⟩

namespace Recorded

/-- A record was continued by some calls. -/
structure Continued (r r' : Recorded σ) (calls : List Call) : Prop where
  /-- The calls stand at the end. -/
  calls_eq : r'.calls = r.calls ++ calls
  /-- The system gave their answers. -/
  replayed : Replayed r.host calls r'.host

namespace Continued

variable {r r₁ r₂ : Recorded σ} {calls more : List Call}

theorem refl (r : Recorded σ) : Continued r r [] := ⟨(List.append_nil _).symm, rfl⟩

theorem trans (h : Continued r r₁ calls) (h' : Continued r₁ r₂ more) :
    Continued r r₂ (calls ++ more) := by
  refine ⟨?_, h.replayed.append h'.replayed⟩
  rw [h'.calls_eq, h.calls_eq, List.append_assoc]

/-- Without the reading and writing the calls are the new steps. -/
theorem steps_eq (h : Continued r r₁ calls) :
    r₁.steps = r.steps ++ calls.filter fun call => !call.isTransfer := by
  rw [steps, h.calls_eq, List.filter_append]
  rfl

end Continued

/-- A request that is passed on continues the record. -/
theorem continued_record {request : StateM σ α} {call : α → Call} (r : Recorded σ)
    (h : (call (request r.host).1).Answered r.host (request r.host).2) :
    Continued r (record request call r).2 [call (record request call r).1] :=
  ⟨rfl, (request r.host).2, h, rfl⟩

end Recorded

end

/-- All that a shell has asked for so far. -/
def ShellState.transcript (s : ShellState (Recorded σ)) : List Call := s.surroundings.host.calls

/-- All that an action of a shell asks for. -/
def Shell.transcript (x : Shell (Recorded σ) α) (s : ShellState (Recorded σ)) : List Call :=
  (x s).2.transcript.drop s.transcript.length

/-- The numbers that calls give to pipes and opened files. -/
def numbersGiven (calls : List Call) : List Nat := calls.filterMap Call.number?

/-- Between one state of a shell and a later one some calls were made, and neither the working
directory nor the log was changed. What is new has the next numbers. -/
structure Between [Kernel σ] (s s' : ShellState (Recorded σ)) (calls : List Call) : Prop where
  /-- The record was continued. -/
  continued : s.surroundings.host.Continued s'.surroundings.host calls
  /-- The working directory is the same. -/
  directory_eq : s'.surroundings.directory = s.surroundings.directory
  /-- The log is the same. -/
  log_eq : s'.log = s.log
  /-- No number is given twice. -/
  numbers : Ascends s'.fresh s.fresh (numbersGiven calls)

/-- What was opened for a redirection, or why it was not: a name that the system cannot be asked
for, or a refusal. -/
inductive Targeted (call : Directory → String → Nat → Except Errno Unit → Call)
    (start : Directory) : Option String → List Call → Option (String × Fault) → Prop
  /-- There is no redirection. -/
  | absent : Targeted call start none [] none
  /-- The name holds a NUL byte. -/
  | unnamed (path : String) (h : hasNul path = true) :
      Targeted call start (some path) [] (some (path, .nulInName))
  /-- The file is opened. -/
  | opened (path : String) (number : Nat) (h : hasNul path = false) :
      Targeted call start (some path) [call start path number (.ok ())] none
  /-- The system refuses. -/
  | refused (path : String) (number : Nat) (errno : Errno) (h : hasNul path = false) :
      Targeted call start (some path) [call start path number (.error errno)]
        (some (path, .system errno))

/-- The files of a stage are opened, the one for its input first. If this fails, the other one is
left alone. -/
inductive Openings (start : Directory) (stage : Stage) :
    List Call → Option (String × Fault) → Prop
  /-- The file for the input cannot be opened. -/
  | unfed (calls : List Call) (failure : String × Fault)
      (h : Targeted .openToRead start stage.input calls (some failure)) :
      Openings start stage calls (some failure)
  /-- The file for the input is opened, and it is the turn of the one for the output. -/
  | fed (calls more : List Call) (failure : Option (String × Fault))
      (h : Targeted .openToRead start stage.input calls none)
      (h' : Targeted .openToWrite start stage.output more failure) :
      Openings start stage (calls ++ more) failure

/-- What comes of opening files, given the name and the reason if one of them cannot be opened. -/
def FailsAs (answer : Except ShellError α) : Option (String × Fault) → Prop
  | none => ∃ a, answer = .ok a
  | some (path, fault) => answer = .error (.io path fault)

/-- Bytes are written to a descriptor, if it is open. -/
inductive Told (table : Descriptors) (fd : Fd) (bytes : Bytes) : List Call → Prop
  /-- The descriptor is not open. -/
  | nobody (h : table.get? fd = none) : Told table fd bytes []
  /-- The system is asked to write. -/
  | somebody (slot : Slot Resource) (h : table.get? fd = some slot) (answer : Except Errno Unit) :
      Told table fd bytes [.write slot.target bytes answer]

/-- Nothing but records of the log are written, all of them to the descriptor for complaints. -/
def Noted (table : Descriptors) (stamp : String) (calls : List Call) : Prop :=
  ∀ call ∈ calls, ∃ target record answer,
    call = .write target (utf8 (LogRecord.render stamp record)) answer ∧
      ∀ slot, table.get? standardError = some slot → target = slot.target

/-- What is written goes where a descriptor of a table leads. -/
def Reached (table : Descriptors) (calls : List Call) : Prop :=
  ∀ goal bytes answer, .write goal bytes answer ∈ calls →
    ∃ fd slot, table.get? fd = some slot ∧ slot.target = goal

/-- What is read with some descriptors until nothing is left, or until a read fails for good. -/
inductive Heard (source : Resource) (table : Descriptors) :
    List Call → Except Errno Bytes → Prop
  /-- Nothing is left. -/
  | nothing : Heard source table [.read source readSize table (.ok [])] (.ok [])
  /-- Some bytes come before the others. -/
  | bytes (bytes : Bytes) (calls : List Call) (result : Except Errno Bytes) (h : bytes ≠ [])
      (hrest : Heard source table calls result) :
      Heard source table (.read source readSize table (.ok bytes) :: calls)
        (result.map (bytes ++ ·))
  /-- An interrupted read is repeated. -/
  | again (calls : List Call) (result : Except Errno Bytes)
      (hrest : Heard source table calls result) :
      Heard source table (.read source readSize table (.error .interrupted) :: calls) result
  /-- A read fails for good. -/
  | failed (errno : Errno) (h : errno ≠ .interrupted) :
      Heard source table [.read source readSize table (.error errno)] (.error errno)

/-- The error number that was heard, if it came in full. -/
def heardErrno : Except Errno Bytes → Option Errno
  | .error _ => none
  | .ok bytes => Errno.ofBytes? bytes

section

variable {table : Descriptors} {stamp : String} {calls more : List Call}

theorem Noted.nil (table : Descriptors) (stamp : String) : Noted table stamp [] := by
  intro call hcall
  cases hcall

theorem Noted.append (h : Noted table stamp calls) (h' : Noted table stamp more) :
    Noted table stamp (calls ++ more) := by
  intro call hcall
  rcases List.mem_append.1 hcall with hcall | hcall
  · exact h call hcall
  · exact h' call hcall

/-- Records go to the same place as before if the descriptor for complaints was left alone. -/
theorem Noted.of_keeps {earlier : Descriptors} (h : Noted table stamp calls)
    (hkeeps : ∀ slot, earlier.get? standardError = some slot →
      table.get? standardError = some slot) : Noted earlier stamp calls := by
  intro call hcall
  obtain ⟨target, record, answer, heq, hslot⟩ := h call hcall
  exact ⟨target, record, answer, heq, fun slot hget => hslot slot (hkeeps slot hget)⟩

/-- A record is written. -/
theorem Noted.isWrite (h : Noted table stamp calls) : ∀ call ∈ calls, call.isWrite = true := by
  intro call hcall
  obtain ⟨target, record, answer, rfl, -⟩ := h call hcall
  rfl

theorem Noted.isTransfer (h : Noted table stamp calls) :
    ∀ call ∈ calls, call.isTransfer = true :=
  fun call hcall => Call.isTransfer_of_isWrite (h.isWrite call hcall)

theorem Told.isWrite {fd : Fd} {bytes : Bytes} (h : Told table fd bytes calls) :
    ∀ call ∈ calls, call.isWrite = true := by
  intro call hcall
  cases h with
  | nobody h => cases hcall
  | somebody slot h answer =>
    rw [List.mem_singleton.1 hcall]
    rfl

theorem Told.isTransfer {fd : Fd} {bytes : Bytes} (h : Told table fd bytes calls) :
    ∀ call ∈ calls, call.isTransfer = true :=
  fun call hcall => Call.isTransfer_of_isWrite (h.isWrite call hcall)

/-- What is told to the descriptor for complaints may be a record of the log. -/
theorem Told.noted {record : LogRecord}
    (h : Told table standardError (utf8 (LogRecord.render stamp record)) calls) :
    Noted table stamp calls := by
  intro call hcall
  cases h with
  | nobody h => cases hcall
  | somebody slot h answer =>
    refine ⟨slot.target, record, answer, List.mem_singleton.1 hcall, fun slot' hslot => ?_⟩
    rw [h] at hslot
    cases hslot
    rfl

theorem Reached.nil (table : Descriptors) : Reached table [] := by
  intro goal bytes answer hmem
  cases hmem

theorem Told.reached {fd : Fd} {bytes : Bytes} (h : Told table fd bytes calls) :
    Reached table calls := by
  intro goal bytes answer hmem
  cases h with
  | nobody h => cases hmem
  | somebody slot h answer =>
    cases List.mem_singleton.1 hmem
    exact ⟨fd, slot, h, rfl⟩

theorem Heard.isRead {source : Resource} {result : Except Errno Bytes}
    (h : Heard source table calls result) :
    ∀ call ∈ calls, ∃ answer, call = .read source readSize table answer := by
  intro call hcall
  induction h with
  | nothing => exact ⟨.ok [], List.mem_singleton.1 hcall⟩
  | bytes bytes calls result h hrest ih =>
    rcases List.mem_cons.1 hcall with rfl | hcall
    · exact ⟨.ok bytes, rfl⟩
    · exact ih hcall
  | again calls result hrest ih =>
    rcases List.mem_cons.1 hcall with rfl | hcall
    · exact ⟨.error .interrupted, rfl⟩
    · exact ih hcall
  | failed errno h => exact ⟨.error errno, List.mem_singleton.1 hcall⟩

theorem Heard.isTransfer {source : Resource} {result : Except Errno Bytes}
    (h : Heard source table calls result) : ∀ call ∈ calls, call.isTransfer = true := by
  intro call hcall
  obtain ⟨answer, rfl⟩ := h.isRead call hcall
  rfl

/-- For a target nothing is asked for but that it be opened. -/
theorem Targeted.call_cases {call : Directory → String → Nat → Except Errno Unit → Call}
    {start : Directory} {path : Option String} {failure : Option (String × Fault)}
    (h : Targeted call start path calls failure) :
    ∀ asked ∈ calls, ∃ path number answer, asked = call start path number answer := by
  intro asked hasked
  cases h with
  | absent => cases hasked
  | unnamed path h => cases hasked
  | opened path number h => exact ⟨path, number, _, List.mem_singleton.1 hasked⟩
  | refused path number errno h => exact ⟨path, number, _, List.mem_singleton.1 hasked⟩

theorem Targeted.isOpening {call : Directory → String → Nat → Except Errno Unit → Call}
    {start : Directory} {path : Option String} {failure : Option (String × Fault)}
    (h : Targeted call start path calls failure)
    (hcall : ∀ start path number answer, (call start path number answer).isOpening = true) :
    ∀ asked ∈ calls, asked.isOpening = true := by
  intro asked hasked
  obtain ⟨path, number, answer, rfl⟩ := h.call_cases asked hasked
  exact hcall _ _ _ _

theorem Openings.isOpening {start : Directory} {stage : Stage}
    {failure : Option (String × Fault)} (h : Openings start stage calls failure) :
    ∀ asked ∈ calls, asked.isOpening = true := by
  cases h with
  | unfed calls failure h => exact h.isOpening fun _ _ _ _ => rfl
  | fed calls more failure h h' =>
    intro asked hasked
    rcases List.mem_append.1 hasked with hasked | hasked
    · exact h.isOpening (fun _ _ _ _ => rfl) asked hasked
    · exact h'.isOpening (fun _ _ _ _ => rfl) asked hasked

end

section

variable [Kernel σ]

namespace Between

variable {s s₁ s₂ : ShellState (Recorded σ)} {calls more : List Call}

theorem refl (s : ShellState (Recorded σ)) : Between s s [] :=
  ⟨.refl _, rfl, rfl, Nat.le_refl s.fresh⟩

theorem trans (h : Between s s₁ calls) (h' : Between s₁ s₂ more) :
    Between s s₂ (calls ++ more) := by
  refine ⟨h.continued.trans h'.continued, h'.directory_eq.trans h.directory_eq,
    h'.log_eq.trans h.log_eq, ?_⟩
  rw [numbersGiven, List.filterMap_append]
  exact h.numbers.append h'.numbers

theorem transcript_eq (h : Between s s₁ calls) : s₁.transcript = s.transcript ++ calls :=
  h.continued.calls_eq

/-- What was asked for since the beginning of an action is the transcript of the action. -/
theorem transcript_action_eq {x : Shell (Recorded σ) α} (h : Between s (x s).2 calls) :
    x.transcript s = calls := by
  rw [Shell.transcript, h.transcript_eq, List.drop_left]

/-- Without the reading and writing a transcript is a history. -/
theorem since (h : Between s s₁ calls) :
    Since s s₁ (calls.filter fun call => !call.isTransfer) := h.continued.steps_eq

/-- Calls that move no bytes are a history. -/
theorem since_of_steps (h : Between s s₁ calls) (hsteps : ∀ call ∈ calls, call.isTransfer = false) :
    Since s s₁ calls := by
  have hsince := h.since
  rwa [List.filter_eq_self.2 fun call hcall => by rw [hsteps call hcall]; rfl] at hsince

end Between

omit [Kernel σ] in
/-- What was asked for between two states is one list of calls only. -/
theorem Since.unique {s s' : ShellState (Recorded σ)} {calls calls' : List Call}
    (h : Since s s' calls) (h' : Since s s' calls') : calls = calls' :=
  List.append_cancel_left (h.symm.trans h')

namespace Shell

/-- An action that asks for nothing. -/
def Still (x : Shell (Recorded σ) α) : Prop := ∀ s, Between s (x s).2 []

theorem Still.pure (a : α) : Still (pure a : Shell (Recorded σ) α) := Between.refl

theorem Still.bind {x : Shell (Recorded σ) α} {f : α → Shell (Recorded σ) β} (hx : Still x)
    (hf : ∀ a, Still (f a)) : Still (x >>= f) := fun s => (hx s).trans (hf (x s).1 (x s).2)

/-- An action that asks for nothing adds nothing to what was asked for. -/
theorem Still.follows {x : Shell (Recorded σ) α} (h : Still x)
    {s s' s'' : ShellState (Recorded σ)} {a : α} {calls : List Call} (hx : x s' = (a, s''))
    (hs : Between s s' calls) : Between s s'' calls := by
  have hboth := hs.trans (h s')
  rwa [List.append_nil, hx] at hboth

theorem still_closeAll (fds : List Fd) : Still (closeAll fds : Shell (Recorded σ) Unit) :=
  fun s => ⟨.refl s.surroundings.host, rfl, rfl, Nat.le_refl s.fresh⟩

theorem still_close (fd : Fd) : Still (close fd : Shell (Recorded σ) Unit) :=
  fun s => ⟨.refl s.surroundings.host, rfl, rfl, Nat.le_refl s.fresh⟩

theorem still_closeOption (fd : Option Fd) :
    Still (closeOption fd : Shell (Recorded σ) Unit) := by
  cases fd with
  | none => exact Still.pure ()
  | some fd => exact still_close fd

theorem still_stageIo_close (io : StageIo) : Still (io.close : Shell (Recorded σ) Unit) :=
  (still_closeOption io.input).bind fun _ => still_closeOption io.output

theorem still_pipeEnds_close (ends : PipeEnds) : Still (ends.close : Shell (Recorded σ) Unit) :=
  (still_close ends.reader).bind fun _ => still_close ends.writer

theorem still_prefer (redirected piped : Option Fd) :
    Still (StageIo.prefer redirected piped : Shell (Recorded σ) _) := by
  cases redirected with
  | none => exact Still.pure piped
  | some fd => exact (still_closeOption piped).bind fun _ => Still.pure (some fd)

/-- A request to the system that gives no number continues the record of the system. -/
theorem between_ask {request : StateM (Recorded σ) α} {s : ShellState (Recorded σ)}
    {calls : List Call}
    (h : s.surroundings.host.Continued (request s.surroundings.host).2 calls)
    (hnumber : ∀ call ∈ calls, call.number? = none) : Between s (ask request s).2 calls := by
  refine ⟨h, rfl, rfl, ?_⟩
  rw [numbersGiven, List.filterMap_eq_nil_iff.2 hnumber]
  exact Nat.le_refl s.fresh

/-- Bytes are written to a descriptor, if it is open. -/
theorem between_write (fd : Fd) (bytes : Bytes) (s : ShellState (Recorded σ)) :
    ∃ calls, Between s (write fd bytes s).2 calls ∧ Told s.descriptors fd bytes calls := by
  rw [write, bind_apply, get_apply]
  cases hget : s.descriptors.get? fd with
  | none => exact ⟨[], Between.refl s, .nobody hget⟩
  | some slot =>
    exact ⟨_, between_ask (Recorded.continued_record s.surroundings.host rfl)
      (by simp [Call.number?]), .somebody slot hget _⟩

/-- A complaint is written to the descriptor for complaints. The shell comes down if this fails. -/
theorem between_complain (text : String) (s : ShellState (Recorded σ)) :
    ∃ calls, Between s (complain text s).2 calls ∧
      Told s.descriptors standardError (utf8 text) calls ∧
      (complain text s).2.downfall = (calls.findSome? Call.fatal?).or s.downfall := by
  rw [complain, print, bind_apply, write, bind_apply, get_apply]
  cases hget : s.descriptors.get? standardError with
  | none => exact ⟨[], Between.refl s, .nobody hget, rfl⟩
  | some slot =>
    have hwritten : Between s (ask (Kernel.write slot.target (utf8 text)) s).2 _ :=
      between_ask (Recorded.continued_record s.surroundings.host rfl) (by simp [Call.number?])
    refine ⟨_, ⟨hwritten.continued, hwritten.directory_eq, hwritten.log_eq, hwritten.numbers⟩,
      .somebody slot hget _, ?_⟩
    have hone : ∀ call : Call, [call].findSome? Call.fatal? = call.fatal? := fun call => by
      cases h : call.fatal? <;> simp [h]
    rw [hone]
    rfl

/-- The log writes nothing but records, and where a descriptor of the shell leads. -/
theorem reached_note (event : Event) (s : ShellState (Recorded σ)) :
    ∃ calls, Between s (note event s).2 calls ∧ Noted s.descriptors s.log.stamp calls ∧
      Reached s.descriptors calls := by
  rw [note, bind_apply, get_apply]
  by_cases hadmits : s.log.admits event.record = true
  · simp only [hadmits, if_true]
    obtain ⟨calls, hbetween, htold⟩ :=
      between_write standardError (utf8 (event.record.render s.log.stamp)) s
    exact ⟨calls, hbetween, htold.noted, htold.reached⟩
  · simp only [hadmits]
    exact ⟨[], Between.refl s, Noted.nil _ _, Reached.nil _⟩

/-- The log writes nothing but records. -/
theorem between_note (event : Event) (s : ShellState (Recorded σ)) :
    ∃ calls, Between s (note event s).2 calls ∧ Noted s.descriptors s.log.stamp calls := by
  obtain ⟨calls, hbetween, hnoted, -⟩ := reached_note event s
  exact ⟨calls, hbetween, hnoted⟩

/-- A pipe is asked for once, and has the next number. -/
theorem between_makePipe {s s' : ShellState (Recorded σ)} {answer : Except Errno PipeEnds}
    (h : makePipe s = (answer, s')) :
    Between s s' [.makePipe s.fresh (answer.map fun _ => ())] := by
  have hcontinued : s.surroundings.host.Continued
      (Kernel.makePipe s.fresh s.surroundings.host).2
      [.makePipe s.fresh (Kernel.makePipe s.fresh s.surroundings.host).1] :=
    Recorded.continued_record s.surroundings.host rfl
  rw [makePipe_apply] at h
  split at h
  · next errno host hask =>
    rw [hask] at hcontinued
    cases h
    exact ⟨hcontinued, rfl, rfl, Nat.le_refl _, Nat.le_refl _⟩
  · next host hask =>
    rw [hask] at hcontinued
    cases h
    exact ⟨hcontinued, rfl, rfl, Nat.le_refl _, Nat.le_refl _⟩

/-- A file is asked for once, if its name can be asked for. -/
theorem between_openFile {request : Directory → String → Nat → StateM σ (Except Errno Unit)}
    {call : Directory → String → Nat → Except Errno Unit → Call}
    (hcall : ∀ start path number host,
      (call start path number (request start path number host).1).Answered host
        (request start path number host).2)
    (hnumber : ∀ start path number answer,
      (call start path number answer).number? = some number)
    {path : String} {s s' : ShellState (Recorded σ)} {answer : Except ShellError Fd}
    (h : recordedOpen request call path s = (answer, s')) :
    ∃ calls failure, Between s s' calls ∧
      Targeted call s.surroundings.directory (some path) calls failure ∧
      FailsAs answer failure := by
  have hcontinued : s.surroundings.host.Continued
      (Recorded.record (request s.surroundings.directory path s.fresh)
        (call s.surroundings.directory path s.fresh) s.surroundings.host).2 _ :=
    Recorded.continued_record s.surroundings.host (hcall _ _ _ _)
  have hascends : ∀ answer, Ascends (s.fresh + 1) s.fresh
      (numbersGiven [call s.surroundings.directory path s.fresh answer]) := by
    intro answer
    rw [numbersGiven, List.filterMap_cons_some (hnumber _ _ _ _)]
    exact ⟨Nat.le_refl _, Nat.le_refl _⟩
  rw [recordedOpen, openFile_apply] at h
  split at h
  · next hnul =>
    cases h
    exact ⟨[], _, Between.refl s, .unnamed path hnul, rfl⟩
  · next hnul =>
    have hnul : hasNul path = false := by simpa using hnul
    split at h
    · next errno host hask =>
      rw [hask] at hcontinued
      cases h
      exact ⟨_, _, ⟨hcontinued, rfl, rfl, hascends _⟩, .refused path s.fresh errno hnul, rfl⟩
    · next host hask =>
      rw [hask] at hcontinued
      cases h
      exact ⟨_, _, ⟨hcontinued, rfl, rfl, hascends _⟩, .opened path s.fresh hnul, _, rfl⟩

/-- The target of a redirection is asked for, if there is one. -/
theorem between_openTarget {request : Directory → String → Nat → StateM σ (Except Errno Unit)}
    {call : Directory → String → Nat → Except Errno Unit → Call}
    (hcall : ∀ start path number host,
      (call start path number (request start path number host).1).Answered host
        (request start path number host).2)
    (hnumber : ∀ start path number answer,
      (call start path number answer).number? = some number)
    {path : Option String} {s s' : ShellState (Recorded σ)} {answer : Except ShellError (Option Fd)}
    (h : StageIo.openTarget (recordedOpen request call) path s = (answer, s')) :
    ∃ calls failure, Between s s' calls ∧
      Targeted call s.surroundings.directory path calls failure ∧ FailsAs answer failure := by
  cases path with
  | none =>
    cases h
    exact ⟨[], none, Between.refl s, .absent, none, rfl⟩
  | some path =>
    obtain ⟨opened, s₁, hopen, h⟩ := of_bind_eq h
    obtain ⟨calls, failure, hbetween, htargeted, hfails⟩ := between_openFile hcall hnumber hopen
    cases failure with
    | none =>
      obtain ⟨fd, rfl⟩ := hfails
      cases h
      exact ⟨calls, none, hbetween, htargeted, _, rfl⟩
    | some failure =>
      cases hfails
      cases h
      exact ⟨calls, some failure, hbetween, htargeted, rfl⟩

/-- The file for an input is asked for, if there is a redirection. -/
theorem between_openInput {path : Option String} {s s' : ShellState (Recorded σ)}
    {answer : Except ShellError (Option Fd)}
    (h : StageIo.openTarget openInput path s = (answer, s')) :
    ∃ calls failure, Between s s' calls ∧
      Targeted .openToRead s.surroundings.directory path calls failure ∧
      FailsAs answer failure := by
  have hanswered : ∀ start path number (host : σ),
      (Call.openToRead start path number (Kernel.openToRead start path number host).1).Answered
        host (Kernel.openToRead start path number host).2 := fun _ _ _ _ => rfl
  exact between_openTarget hanswered (fun _ _ _ _ => rfl) h

/-- The file for an output is asked for, if there is a redirection. -/
theorem between_openOutput {path : Option String} {s s' : ShellState (Recorded σ)}
    {answer : Except ShellError (Option Fd)}
    (h : StageIo.openTarget openOutput path s = (answer, s')) :
    ∃ calls failure, Between s s' calls ∧
      Targeted .openToWrite s.surroundings.directory path calls failure ∧
      FailsAs answer failure := by
  have hanswered : ∀ start path number (host : σ),
      (Call.openToWrite start path number (Kernel.openToWrite start path number host).1).Answered
        host (Kernel.openToWrite start path number host).2 := fun _ _ _ _ => rfl
  exact between_openTarget hanswered (fun _ _ _ _ => rfl) h

/-- The files of a stage are opened one after the other, until one of them cannot be opened. -/
theorem between_acquire {stage : Stage} {pipedIn pipedOut : Option Fd}
    {s s' : ShellState (Recorded σ)} {answer : Except ShellError StageIo}
    (h : StageIo.acquire stage pipedIn pipedOut s = (answer, s')) :
    ∃ calls failure, Between s s' calls ∧
      Openings s.surroundings.directory stage calls failure ∧ FailsAs answer failure := by
  obtain ⟨input, s₁, hinput, h⟩ := of_bind_eq h
  obtain ⟨calls, failure, hbetween, htargeted, hfails⟩ := between_openInput hinput
  cases failure with
  | some failure =>
    cases hfails
    obtain ⟨_, s₂, hclose, h⟩ := of_bind_eq h
    cases h
    exact ⟨calls, some failure, (still_stageIo_close _).follows hclose hbetween,
      .unfed calls failure htargeted, rfl⟩
  | none =>
    obtain ⟨own, rfl⟩ := hfails
    obtain ⟨output, s₂, houtput, h⟩ := of_bind_eq h
    obtain ⟨more, failure, hbetween', htargeted', hfails'⟩ := between_openOutput houtput
    have hboth := hbetween.trans hbetween'
    rw [hbetween.directory_eq] at htargeted'
    cases failure with
    | some failure =>
      cases hfails'
      obtain ⟨_, s₃, hclose, h⟩ := of_bind_eq h
      obtain ⟨_, s₄, hclose', h⟩ := of_bind_eq h
      cases h
      exact ⟨calls ++ more, some failure, (still_stageIo_close _).follows hclose'
        ((still_closeOption _).follows hclose hboth), .fed calls more _ htargeted htargeted', rfl⟩
    | none =>
      obtain ⟨other, rfl⟩ := hfails'
      obtain ⟨_, s₃, hprefer, h⟩ := of_bind_eq h
      obtain ⟨_, s₄, hprefer', h⟩ := of_bind_eq h
      cases h
      exact ⟨calls ++ more, none, (still_prefer _ _).follows hprefer'
        ((still_prefer _ _).follows hprefer hboth), .fed calls more _ htargeted htargeted', _, rfl⟩

/-- A source is read until nothing is left. -/
theorem continued_readToEnd (source : Resource) (before : Bytes) (table : Descriptors)
    (r : Recorded σ) :
    ∃ calls result, r.Continued (readToEnd source before table r).2 calls ∧
      Heard source table calls result ∧
      (readToEnd source before table r).1 = result.map (before ++ ·) := by
  have hread : ∀ r' : Recorded σ, r'.Continued (Kernel.read source readSize table r').2
      [.read source readSize table (Kernel.read source readSize table r').1] :=
    fun r' => Recorded.continued_record r' rfl
  fun_induction readToEnd source before table r with
  | case1 before r answer h =>
    have hlast := hread r
    rw [show (Kernel.read source readSize table r).1 = _ from h] at hlast
    exact ⟨_, _, hlast, .nothing, by simp [Except.map]⟩
  | case2 before r answer b bytes h hless ih =>
    have hfirst := hread r
    rw [show (Kernel.read source readSize table r).1 = _ from h] at hfirst
    obtain ⟨calls, result, hcontinued, hheard, hresult⟩ := ih
    refine ⟨_, _, hfirst.trans hcontinued, .bytes (b :: bytes) calls result (by simp) hheard, ?_⟩
    rw [hresult]
    cases result <;> simp [Except.map]
  | case3 before r answer h hless ih =>
    have hfirst := hread r
    rw [show (Kernel.read source readSize table r).1 = _ from h] at hfirst
    obtain ⟨calls, result, hcontinued, hheard, hresult⟩ := ih
    exact ⟨_, _, hfirst.trans hcontinued, .again calls result hheard, hresult⟩
  | case4 before r answer errno h hi =>
    have hlast := hread r
    rw [show (Kernel.read source readSize table r).1 = _ from h] at hlast
    exact ⟨_, _, hlast, .failed errno hi, rfl⟩

/-- The report of a process is read until nothing is left. -/
theorem between_readReport {reader : Fd} {slot : Slot Resource} {s s' : ShellState (Recorded σ)}
    {failure : Option Errno} (hslot : s.descriptors.get? reader = some slot)
    (h : readReport reader s = (failure, s')) :
    ∃ calls result, Between s s' calls ∧ Heard slot.target s.descriptors calls result ∧
      failure = heardErrno result := by
  rw [readReport, bind_apply, get_apply] at h
  simp only [hslot] at h
  obtain ⟨answer, s₁, hask, h⟩ := of_bind_eq h
  obtain ⟨calls, result, hcontinued, hheard, hresult⟩ :=
    continued_readToEnd slot.target [] s.descriptors s.surroundings.host
  have hbetween := between_ask hcontinued fun call hcall => by
    obtain ⟨answer, rfl⟩ := hheard.isRead call hcall
    rfl
  rw [hask] at hbetween
  rw [ask_apply] at hask
  have hanswer : answer = result := by
    rw [← (Prod.mk.inj hask).1, hresult]
    cases result <;> rfl
  subst hanswer
  refine ⟨calls, answer, ?_, hheard, ?_⟩ <;> cases answer <;> cases h
  · exact hbetween
  · exact hbetween
  · rfl
  · rfl

end Shell

end

end CommandShell
