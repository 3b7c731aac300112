import CommandShell.Proofs.Downfall
import CommandShell.Proofs.RunTranscript

/-!
# Transcripts of lines

All that is asked for when a line is interpreted. A builtin is asked for its reply once its targets
are open, and what follows only writes; a pipeline is run, and then the stages that never ran are
complained about. Main statements: a builtin whose targets cannot be opened is not asked at all
(`Interpreter.runBuiltin_eq`), and a line of programs asks for what its pipeline asks for, with
records of the log in front of it and complaints behind it (`Interpreter.transcribed_execute`).
The shell comes down over the first of these complaints that cannot be written.
-/

namespace CommandShell

open Shell

variable {σ α β : Type}

/-- Some texts are told to the user one after the other, until the shell comes down over one of
them. -/
inductive Complaints (table : Descriptors) : List String → Option Errno → List Call → Prop
  /-- There is nothing to complain about. -/
  | nil : Complaints table [] none []
  /-- One text comes before the others. -/
  | cons (text : String) (texts : List String) (downfall : Option Errno) (calls rest : List Call)
      (h : Told table standardError (utf8 text) calls)
      (hup : calls.findSome? Call.fatal? = none)
      (hrest : Complaints table texts downfall rest) :
      Complaints table (text :: texts) downfall (calls ++ rest)
  /-- A text cannot be written, and no other one is told. -/
  | fallen (text : String) (texts : List String) (errno : Errno) (calls : List Call)
      (h : Told table standardError (utf8 text) calls)
      (hdown : calls.findSome? Call.fatal? = some errno) :
      Complaints table (text :: texts) (some errno) calls

section

variable {table : Descriptors} {texts : List String} {downfall : Option Errno} {calls : List Call}

theorem Complaints.isWrite (h : Complaints table texts downfall calls) :
    ∀ call ∈ calls, call.isWrite = true := by
  induction h with
  | nil => intro call hcall; cases hcall
  | cons text texts downfall calls rest h hup hrest ih =>
    intro call hcall
    rcases List.mem_append.1 hcall with hcall | hcall
    · exact h.isWrite call hcall
    · exact ih call hcall
  | fallen text texts errno calls h hdown => exact h.isWrite

/-- The shell comes down over the first complaint that cannot be written. -/
theorem Complaints.downfall_eq (h : Complaints table texts downfall calls) :
    downfall = calls.findSome? Call.fatal? := by
  induction h with
  | nil => rfl
  | cons text texts downfall calls rest h hup hrest ih =>
    rw [List.findSome?_append, hup, ih, Option.none_or]
  | fallen text texts errno calls h hdown => exact hdown.symm

end

namespace Shell

variable [Kernel σ]

/-- An action that asks for nothing but reading and writing, and over which the shell does not come
down if nothing fails that has to be written. -/
def Transferring (x : Shell (Recorded σ) α) : Prop :=
  ∀ s, ∃ calls, Between s (x s).2 calls ∧ (∀ call ∈ calls, call.isTransfer = true) ∧
    ((∀ call ∈ calls, call.fatal? = none) → (x s).2.downfall = s.downfall)

theorem transferring_pure (a : α) : Transferring (pure a : Shell (Recorded σ) α) :=
  fun s => ⟨[], Between.refl s, by simp, fun _ => rfl⟩

theorem transferring_close (fd : Fd) : Transferring (close fd : Shell (Recorded σ) Unit) :=
  fun s => ⟨[], still_close fd s, by simp, fun _ => rfl⟩

theorem Transferring.bind {x : Shell (Recorded σ) α} {f : α → Shell (Recorded σ) β}
    (hx : Transferring x) (hf : ∀ a, Transferring (f a)) : Transferring (x >>= f) := by
  intro s
  obtain ⟨calls, hbetween, hcalls, hup⟩ := hx s
  obtain ⟨more, hmore, hcalls', hup'⟩ := hf (x s).1 (x s).2
  refine ⟨calls ++ more, hbetween.trans hmore, fun call hcall => ?_, fun hnone => ?_⟩
  · rcases List.mem_append.1 hcall with hcall | hcall
    · exact hcalls call hcall
    · exact hcalls' call hcall
  · exact (hup' fun call hcall => hnone call (List.mem_append_right _ hcall)).trans
      (hup fun call hcall => hnone call (List.mem_append_left _ hcall))

theorem transferring_write (fd : Fd) (bytes : Bytes) :
    Transferring (write fd bytes : Shell (Recorded σ) _) := by
  intro s
  obtain ⟨calls, hbetween, htold⟩ := between_write fd bytes s
  exact ⟨calls, hbetween, htold.isTransfer, fun _ =>
    retains_write inward_downfall fd bytes s⟩

theorem transferring_complain (text : String) :
    Transferring (complain text : Shell (Recorded σ) Unit) := by
  intro s
  obtain ⟨calls, hbetween, htold, hdown⟩ := between_complain text s
  refine ⟨calls, hbetween, htold.isTransfer, fun hnone => ?_⟩
  rw [hdown, List.findSome?_eq_none_iff.2 hnone, Option.none_or]

theorem transferring_note (event : Event) :
    Transferring (note event : Shell (Recorded σ) Unit) := by
  intro s
  obtain ⟨calls, hbetween, hnoted⟩ := between_note event s
  exact ⟨calls, hbetween, hnoted.isTransfer, fun _ => Interpreter.downfall_note event s⟩

theorem transferring_writeText (fd : Fd) (text : String) :
    Transferring (writeText fd text : Shell (Recorded σ) _) := by
  rw [writeText]
  split
  · exact transferring_pure _
  · refine (transferring_write fd (utf8 text)).bind fun answer => ?_
    cases answer <;> exact transferring_pure _

theorem transferring_conclude (v : Verdict) :
    Transferring (v.conclude : Shell (Recorded σ) _) := by
  rw [Verdict.conclude]
  cases v.complaint with
  | none =>
    cases v.event with
    | none => exact transferring_pure _
    | some event => exact (transferring_note event).bind fun _ => transferring_pure _
  | some text =>
    refine (transferring_complain _).bind fun _ => ?_
    cases v.event with
    | none => exact transferring_pure _
    | some event => exact (transferring_note event).bind fun _ => transferring_pure _

/-- Delivering a reply to a file only writes. -/
theorem transferring_deliverToFile (reply : Reply) (fd : Fd) :
    Transferring (reply.deliverToFile fd : Shell (Recorded σ) _) :=
  (transferring_writeText fd reply.output).bind fun fault =>
    transferring_conclude (reply.verdict fault)

/-- Delivering a reply to the standard output only writes. -/
theorem transferring_deliverToOutput (reply : Reply) :
    Transferring (reply.deliverToOutput : Shell (Recorded σ) _) := by
  refine (transferring_writeText _ _).bind fun fault => ?_
  refine (transferring_conclude _).bind fun outcome => ?_
  cases forgiveClosed fault with
  | some fault => exact transferring_pure outcome
  | none =>
    refine (transferring_writeText _ _).bind fun fault => ?_
    cases forgiveClosed fault with
    | none => exact transferring_pure outcome
    | some fault => exact (transferring_note _).bind fun _ => transferring_pure outcome

end Shell

namespace Interpreter

/-- The texts about the stages that never ran, counted from `index`. -/
def abortMessages (index : Nat) : List StageOutcome → List String
  | [] => []
  | .aborted error :: rest => abortMessage index error :: abortMessages (index + 1) rest
  | .finished _ :: rest => abortMessages (index + 1) rest

/-- What a line of programs comes to. -/
def settlement : Except ShellError Report → Except ShellError Outcome
  | .error error => .error error
  | .ok report =>
    match report.conclusion with
    | .error error => .error error
    | .ok status => .ok (.proceed status.code)

/-- The text about an error that ends a line. -/
def errorMessage (error : ShellError) : String := "pipesh: " ++ error.message ++ "\n"

/-- What the user is told about the stages that never ran. There is nothing to tell without a
report. -/
def abortComplaints : Except ShellError Report → List String
  | .error _ => []
  | .ok report => abortMessages 0 report.earlier

section

variable [Kernel σ]

/-- Opens the targets of a builtin. The input is closed again at once, the output stays open. -/
def openTargets (stage : Stage) : Shell σ (Except ShellError (Option Fd)) := do
  match ← StageIo.openTarget openInput stage.input with
  | .error error => return .error error
  | .ok input =>
    closeOption input
    StageIo.openTarget openOutput stage.output

/-- Delivers a reply to a file, which is closed then, or else to the standard output. -/
def deliver : Option Fd → Reply → Shell σ Outcome
  | none, reply => reply.deliverToOutput
  | some fd, reply => do
    let outcome ← reply.deliverToFile fd
    close fd
    return outcome

/-- Asks a builtin for its reply and delivers it. -/
def respond (sh : Interpreter σ) (handler : Handler σ) (stage : Stage) (output : Option Fd) :
    Shell σ Outcome := do
  deliver output (← sh.consult handler stage)

/-- A builtin is asked once the file for its output is open. -/
theorem runToOutput_eq (sh : Interpreter σ) (handler : Handler σ) (stage : Stage) :
    sh.runToOutput handler stage = do
      match ← StageIo.openTarget openOutput stage.output with
      | .error error => return .error error
      | .ok output => return .ok (← sh.respond handler stage output) := by
  rw [runToOutput]
  cases stage.output with
  | none => simp only [StageIo.openTarget, pure_bind, respond, deliver, bind_assoc]
  | some path =>
    simp only [StageIo.openTarget, bind_assoc]
    refine bind_congr fun answer => ?_
    cases answer with
    | error error => simp only [pure_bind]
    | ok fd => simp only [pure_bind, respond, deliver, bind_assoc]

/-- A builtin is asked once its targets are open, and not at all if they cannot be opened. -/
theorem runBuiltin_eq (sh : Interpreter σ) (handler : Handler σ) (stage : Stage) :
    sh.runBuiltin handler stage = do
      match ← openTargets stage with
      | .error error => return .error error
      | .ok output => return .ok (← sh.respond handler stage output) := by
  rw [runBuiltin, openTargets]
  cases stage.input with
  | none => simp only [StageIo.openTarget, pure_bind, closeOption, runToOutput_eq]
  | some path =>
    simp only [StageIo.openTarget, bind_assoc]
    refine bind_congr fun answer => ?_
    cases answer with
    | error error => simp only [pure_bind]
    | ok fd => simp only [pure_bind, closeOption, bind_assoc, runToOutput_eq, StageIo.openTarget]

/-- A builtin is asked, and the file for its output is closed again. -/
theorem respond_apply (sh : Interpreter σ) (handler : Handler σ) (stage : Stage)
    (output : Option Fd) (s : ShellState σ) :
    sh.respond handler stage output s =
      deliver output (sh.consult handler stage s).1 (sh.consult handler stage s).2 := by
  rw [respond, bind_apply]

end

variable [Kernel σ]

/-- Delivering a reply only writes. -/
theorem transferring_deliver (output : Option Fd) (reply : Reply) :
    Transferring (deliver output reply : Shell (Recorded σ) _) := by
  cases output with
  | none => exact transferring_deliverToOutput reply
  | some fd =>
    refine (transferring_deliverToFile reply fd).bind fun outcome => ?_
    exact (transferring_close fd).bind fun _ => transferring_pure outcome

/-- What comes of a line, and what is asked for when it is interpreted. The handler of a builtin may
do what it likes, so that its line is followed up to the handler and from there on. Over a text that
the user has to be told the shell may come down. -/
inductive Transcript (sh : Interpreter (Recorded σ)) (line : String)
    (s s' : ShellState (Recorded σ)) : Except ShellError Outcome → Prop
  /-- There is nothing on the line. -/
  | blank (notes : List Call) (h : Token.scan line = [])
      (hnotes : Noted s.descriptors s.log.stamp notes) (hbetween : Between s s' notes)
      (hup : s'.downfall = none) :
      Transcript sh line s s' (.ok (.proceed 0))
  /-- The line is not well-formed. -/
  | malformed (fault : SyntaxFault) (notes : List Call)
      (h : Token.scan line ≠ []) (hparse : Pipeline.ofTokens (Token.scan line) = .error fault)
      (hnotes : Noted s.descriptors s.log.stamp notes) (hbetween : Between s s' notes)
      (hup : s'.downfall = none) :
      Transcript sh line s s' (.error (.malformed fault))
  /-- A target of a builtin cannot be opened. -/
  | unopened (p : Pipeline) (handler : Handler (Recorded σ)) (stage : Stage)
      (path : String) (fault : Fault) (notes openings : List Call)
      (h : Token.scan line ≠ []) (hparse : Pipeline.ofTokens (Token.scan line) = .ok p)
      (hroute : sh.route p = some (handler, stage))
      (hnotes : Noted s.descriptors s.log.stamp notes)
      (hopenings : Openings s.surroundings.directory stage openings (some (path, fault)))
      (hbetween : Between s s' (notes ++ openings)) (hup : s'.downfall = none) :
      Transcript sh line s s' (.error (.io path fault))
  /-- A builtin is asked for its reply. -/
  | builtin (p : Pipeline) (handler : Handler (Recorded σ)) (stage : Stage)
      (opened : ShellState (Recorded σ)) (output : Option Fd) (outcome : Outcome)
      (notes openings deliveries : List Call)
      (h : Token.scan line ≠ []) (hparse : Pipeline.ofTokens (Token.scan line) = .ok p)
      (hroute : sh.route p = some (handler, stage))
      (hnotes : Noted s.descriptors s.log.stamp notes)
      (hopenings : Openings s.surroundings.directory stage openings none)
      (hbetween : Between s opened (notes ++ openings))
      (hdeliver : deliver output (sh.consult handler stage opened).1
        (sh.consult handler stage opened).2 = (outcome, s'))
      (hdelivered : Between (sh.consult handler stage opened).2 s' deliveries)
      (htransfer : ∀ call ∈ deliveries, call.isTransfer = true)
      (hready : opened.downfall = none)
      (hup : (∀ call ∈ deliveries, call.fatal? = none) → s'.downfall = none) :
      Transcript sh line s s' (.ok outcome)
  /-- A pipeline of programs is run. -/
  | programs (p : Pipeline) (s₀ : ShellState (Recorded σ)) (notes complaints : List Call)
      (h : Token.scan line ≠ []) (hparse : Pipeline.ofTokens (Token.scan line) = .ok p)
      (hroute : sh.route p = none)
      (hnotes : Noted s.descriptors s.log.stamp notes) (hbefore : Between s s₀ notes)
      (hdescriptors : s₀.descriptors = s.descriptors) (hfresh : s₀.fresh = s.fresh)
      (hcomplaints : Complaints s.descriptors
        (abortComplaints (p.execute sh.streams s₀).1) s'.downfall complaints)
      (hbetween : Between s s' (notes ++ (p.execute sh.streams).transcript s₀ ++ complaints)) :
      Transcript sh line s s' (settlement (p.execute sh.streams s₀).1)

/-- Opening the targets of a builtin does not bring the shell down. -/
theorem downfall_openTargets (stage : Stage) (s : ShellState σ) :
    (openTargets stage s).2.downfall = s.downfall := by
  have hopened : Retains ShellState.downfall (openTargets stage : Shell σ _) := by
    refine Retains.bind (retains_openTarget (retains_openFile inward_downfall Kernel.openToRead)
      stage.input) fun answer => ?_
    cases answer with
    | error error => exact Retains.pure _
    | ok input =>
      exact (retains_closeOption inward_downfall input).bind fun _ =>
        retains_openTarget (retains_openFile inward_downfall Kernel.openToWrite) stage.output
  exact hopened s

/-- The targets of a builtin are opened one after the other, until one of them cannot be opened. -/
theorem between_openTargets {stage : Stage} {s s' : ShellState (Recorded σ)}
    {answer : Except ShellError (Option Fd)} (h : openTargets stage s = (answer, s')) :
    ∃ calls failure, Between s s' calls ∧
      Openings s.surroundings.directory stage calls failure ∧ FailsAs answer failure := by
  obtain ⟨input, s₁, hinput, h⟩ := of_bind_eq h
  obtain ⟨calls, failure, hbetween, htargeted, hfails⟩ := between_openInput hinput
  cases failure with
  | some failure =>
    cases hfails
    cases h
    exact ⟨calls, some failure, hbetween, .unfed calls failure htargeted, rfl⟩
  | none =>
    obtain ⟨own, rfl⟩ := hfails
    obtain ⟨_, s₂, hclose, houtput⟩ := of_bind_eq h
    have hclosed := (still_closeOption own).follows hclose hbetween
    obtain ⟨more, failure, hbetween', htargeted', hfails'⟩ := between_openOutput houtput
    rw [hclosed.directory_eq] at htargeted'
    exact ⟨calls ++ more, failure, hclosed.trans hbetween', .fed calls more _ htargeted htargeted',
      hfails'⟩

/-- If the shell comes down over a complaint, it is the last one. -/
theorem complainAborted_of_down (index : Nat) (error : ShellError) (rest : List StageOutcome)
    (s : ShellState (Recorded σ)) (h : (complain (abortMessage index error) s).2.downfall ≠ none) :
    complainAborted index (.aborted error :: rest) s =
      ((), (complain (abortMessage index error) s).2) := by
  have hdown := Option.isSome_iff_ne_none.2 h
  simp only [complainAborted, isDown, bind_apply, get_apply, pure_apply, hdown, if_true]

/-- Otherwise it is the turn of the other stages. -/
theorem complainAborted_of_up (index : Nat) (error : ShellError) (rest : List StageOutcome)
    (s : ShellState (Recorded σ)) (h : (complain (abortMessage index error) s).2.downfall = none) :
    complainAborted index (.aborted error :: rest) s =
      complainAborted (index + 1) rest (complain (abortMessage index error) s).2 := by
  have hup : (complain (abortMessage index error) s).2.downfall.isSome = false := by rw [h]; rfl
  simp only [complainAborted, isDown, bind_apply, get_apply, pure_apply, hup]
  rfl

/-- The stages that never ran are complained about one after the other. -/
theorem between_complainAborted (index : Nat) (outcomes : List StageOutcome)
    (s : ShellState (Recorded σ)) (hs : s.downfall = none) :
    ∃ calls, Between s (complainAborted index outcomes s).2 calls ∧
      Complaints s.descriptors (abortMessages index outcomes)
        (complainAborted index outcomes s).2.downfall calls := by
  induction outcomes generalizing index s with
  | nil => exact ⟨[], Between.refl s, hs ▸ .nil⟩
  | cons outcome rest ih =>
    cases outcome with
    | finished status => exact ih (index + 1) s hs
    | aborted error =>
      obtain ⟨calls, hbetween, htold, hdown⟩ := between_complain (abortMessage index error) s
      rw [hs, Option.or_none] at hdown
      cases hfatal : calls.findSome? Call.fatal? with
      | some errno =>
        rw [hfatal] at hdown
        rw [complainAborted_of_down index error rest s (by rw [hdown]; exact Option.some_ne_none _)]
        exact ⟨calls, hbetween, hdown ▸ .fallen _ _ errno calls htold hfatal⟩
      | none =>
        rw [hfatal] at hdown
        rw [complainAborted_of_up index error rest s hdown]
        obtain ⟨more, hmore, hrest⟩ :=
          ih (index + 1) (complain (abortMessage index error) s).2 hdown
        rw [(quiet_complain (abortMessage index error) s).1] at hrest
        exact ⟨calls ++ more, hbetween.trans hmore, .cons _ _ _ calls more htold hfatal hrest⟩

/-- A pipeline of programs is run, and then the stages that never ran are complained about. -/
theorem between_runPrograms {sh : Interpreter (Recorded σ)} {p : Pipeline}
    {s s' : ShellState (Recorded σ)} {result : Except ShellError Outcome}
    (h : sh.runPrograms p s = (result, s')) (hs : s.downfall = none) :
    result = settlement (p.execute sh.streams s).1 ∧
    ∃ complaints, Between s s' ((p.execute sh.streams).transcript s ++ complaints) ∧
      Complaints s.descriptors (abortComplaints (p.execute sh.streams s).1) s'.downfall
        complaints := by
  have hup := downfall_execute sh.streams p s
  have hran := (Pipeline.transcribed_execute sh.streams p s).1
  have hdescriptors := (trades_execute sh.streams p).descriptors_eq s
  obtain ⟨answer, s₁, hexecute, h⟩ := of_bind_eq h
  rw [hexecute] at hran hdescriptors hup ⊢
  rw [hs] at hup
  cases answer with
  | error error =>
    cases h
    exact ⟨rfl, [], by rwa [List.append_nil], hup ▸ .nil⟩
  | ok report =>
    obtain ⟨_, s₂, hcomplain, h⟩ := of_bind_eq h
    obtain ⟨complaints, hbetween, hcomplaints⟩ := between_complainAborted 0 report.earlier s₁ hup
    rw [hcomplain] at hbetween hcomplaints
    rw [hdescriptors] at hcomplaints
    rw [settlement]
    cases hconclusion : report.conclusion with
    | error error =>
      rw [hconclusion] at h
      cases h
      exact ⟨rfl, complaints, hran.trans hbetween, hcomplaints⟩
    | ok status =>
      rw [hconclusion] at h
      cases h
      exact ⟨rfl, complaints, hran.trans hbetween, hcomplaints⟩

/-- A shell is made ready without asking for anything. -/
theorem between_recovered (s : ShellState (Recorded σ)) : Between s s.recovered [] :=
  ⟨.refl s.surroundings.host, rfl, rfl, Nat.le_refl s.fresh⟩

/-- How a line is settled, given why the shell was down in front of this, and why it is down behind
it. -/
inductive Settling (table : Descriptors) (stamp : String) :
    Except ShellError Outcome → Option Errno → Option Errno → List Call → Prop
  /-- The shell has come down before. -/
  | fallen (result : Except ShellError Outcome) (errno : Errno) :
      Settling table stamp result (some errno) (some errno) []
  /-- There is no error. -/
  | done (outcome : Outcome) : Settling table stamp (.ok outcome) none none []
  /-- The user is told of the error. -/
  | failed (error : ShellError) (notes told : List Call) (hnotes : Noted table stamp notes)
      (htold : Told table standardError (utf8 (errorMessage error)) told) :
      Settling table stamp (.error error) none (told.findSome? Call.fatal?) (notes ++ told)

/-- The shell does not come down as long as it can write. -/
theorem Settling.survives {table : Descriptors} {stamp : String}
    {result : Except ShellError Outcome} {before after : Option Errno} {calls : List Call}
    (h : Settling table stamp result before after calls)
    (hnone : ∀ call ∈ calls, call.fatal? = none) : after = before := by
  cases h with
  | fallen result errno => rfl
  | done outcome => rfl
  | failed error notes told hnotes htold =>
    exact List.findSome?_eq_none_iff.2 fun call hcall =>
      hnone call (List.mem_append_right _ hcall)

/-- Settling a line only writes. -/
theorem Settling.isTransfer {table : Descriptors} {stamp : String}
    {result : Except ShellError Outcome} {before after : Option Errno} {calls : List Call}
    (h : Settling table stamp result before after calls) :
    ∀ call ∈ calls, call.isTransfer = true := by
  cases h with
  | fallen result errno => simp
  | done outcome => simp
  | failed error notes told hnotes htold =>
    intro call hcall
    rcases List.mem_append.1 hcall with hcall | hcall
    · exact hnotes.isTransfer call hcall
    · exact htold.isTransfer call hcall

/-- A line is settled by what is written, if anything is. -/
theorem between_settleLine (result : Except ShellError Outcome) (s : ShellState (Recorded σ)) :
    ∃ calls, Between s (settleLine result s).2 calls ∧
      Settling s.descriptors s.log.stamp result s.downfall (settleLine result s).2.downfall
        calls := by
  cases hup : s.downfall with
  | some errno =>
    rw [settleLine_of_down (by rw [hup]; exact Option.some_ne_none _), hup]
    exact ⟨[], Between.refl s, .fallen result errno⟩
  | none =>
    rw [settleLine_of_up hup]
    cases result with
    | ok outcome =>
      refine ⟨[], Between.refl s, ?_⟩
      change Settling _ _ _ none s.downfall []
      rw [hup]
      exact .done outcome
    | error error =>
      obtain ⟨notes, hnotes, hnoted⟩ := between_note (.lineFailed error) s
      obtain ⟨told, hbetween, htold, hdown⟩ :=
        between_complain (errorMessage error) (note (.lineFailed error) s).2
      rw [(quiet_note (.lineFailed error) s).1] at htold
      rw [downfall_note, hup, Option.or_none] at hdown
      exact ⟨notes ++ told, hnotes.trans hbetween, hdown ▸ .failed error notes told hnoted htold⟩

theorem still_keepStatus (outcome : Outcome) :
    Still (keepStatus outcome : Shell (Recorded σ) Outcome) := by
  intro s
  by_cases h : s.downfall = none
  · rw [keepStatus_of_up h]
    exact ⟨.refl s.surroundings.host, rfl, rfl, Nat.le_refl s.fresh⟩
  · rw [keepStatus_of_down h]
    exact Between.refl s

/-- Whatever the system answers, every line has one of these transcripts. -/
theorem transcribed_execute (sh : Interpreter (Recorded σ)) (line : String)
    (s : ShellState (Recorded σ)) :
    sh.Transcript line s (sh.execute line s).2 (sh.execute line s).1 := by
  have hrun : sh.execute line s = ((sh.execute line s).1, (sh.execute line s).2) := rfl
  generalize (sh.execute line s).1 = result at hrun ⊢
  generalize (sh.execute line s).2 = s' at hrun ⊢
  obtain ⟨_, recovered, hrecover, h⟩ := of_bind_eq hrun
  cases hrecover
  obtain ⟨_, s₁, hnote, h⟩ := of_bind_eq h
  obtain ⟨notes, hnotes, hnoted⟩ := between_note (.tokenized (Token.scan line)) s.recovered
  have hquiet := quiet_note (.tokenized (Token.scan line)) s.recovered
  have hup := downfall_note (.tokenized (Token.scan line)) s.recovered
  rw [show note (.tokenized (Token.scan line)) s.recovered = _ from hnote] at hnotes hquiet hup
  replace hnotes : Between s s₁ notes := (between_recovered s).trans hnotes
  split at h
  · next hblank =>
    cases h
    exact .blank notes (List.isEmpty_iff.1 hblank) hnoted hnotes hup
  · next hblank =>
    have hblank : Token.scan line ≠ [] := fun hnil => hblank (List.isEmpty_iff.2 hnil)
    cases hparse : Pipeline.ofTokens (Token.scan line) with
    | error fault =>
      rw [hparse] at h
      cases h
      exact .malformed fault notes hblank hparse hnoted hnotes hup
    | ok p =>
      rw [hparse] at h
      simp only [dispatch] at h
      cases hroute : sh.route p with
      | none =>
        rw [hroute] at h
        obtain ⟨_, s₀, hnote', h⟩ := of_bind_eq h
        obtain ⟨more, hmore, hnoted'⟩ := between_note (.runningPipeline p.length) s₁
        have hquiet' := quiet_note (.runningPipeline p.length) s₁
        have hup' := downfall_note (.runningPipeline p.length) s₁
        rw [hnote'] at hmore hquiet' hup'
        rw [hquiet.1, hnotes.log_eq] at hnoted'
        obtain ⟨rfl, complaints, hbetween, hcomplaints⟩ := between_runPrograms h (hup'.trans hup)
        have hdescriptors : s₀.descriptors = s.descriptors := hquiet'.1.trans hquiet.1
        rw [hdescriptors] at hcomplaints
        refine .programs p s₀ (notes ++ more) complaints hblank hparse hroute
          (hnoted.append hnoted') (hnotes.trans hmore) hdescriptors (hquiet'.2.trans hquiet.2)
          hcomplaints ?_
        rw [List.append_assoc _ _ complaints]
        exact (hnotes.trans hmore).trans hbetween
      | some chosen =>
        obtain ⟨handler, stage⟩ := chosen
        rw [hroute] at h
        obtain ⟨_, s₀, hnote', h⟩ := of_bind_eq h
        obtain ⟨more, hmore, hnoted'⟩ := between_note (.runningBuiltin stage.program) s₁
        have hup' := downfall_note (.runningBuiltin stage.program) s₁
        rw [hnote'] at hmore hup'
        rw [hquiet.1, hnotes.log_eq] at hnoted'
        have hbefore := hnotes.trans hmore
        rw [runBuiltin_eq] at h
        obtain ⟨answer, opened, hopen, h⟩ := of_bind_eq h
        have hopened := downfall_openTargets stage s₀
        rw [hopen, hup', hup] at hopened
        obtain ⟨openings, failure, hbetween, hopenings, hfails⟩ := between_openTargets hopen
        rw [hbefore.directory_eq] at hopenings
        cases failure with
        | some failure =>
          cases hfails
          cases h
          exact .unopened p handler stage failure.1 failure.2 (notes ++ more) openings hblank
            hparse hroute (hnoted.append hnoted') hopenings (hbefore.trans hbetween) hopened
        | none =>
          obtain ⟨output, rfl⟩ := hfails
          obtain ⟨outcome, s₂, hrespond, h⟩ := of_bind_eq h
          cases h
          rw [respond_apply] at hrespond
          obtain ⟨deliveries, hdelivered, htransfer, hdown⟩ := transferring_deliver output
            (sh.consult handler stage opened).1 (sh.consult handler stage opened).2
          rw [hrespond] at hdelivered hdown
          exact .builtin p handler stage opened output outcome (notes ++ more) openings
            deliveries hblank hparse hroute (hnoted.append hnoted') hopenings
            (hbefore.trans hbetween) hrespond hdelivered htransfer hopened
            fun hnone => (hdown hnone).trans hopened

/-- A line that is run is interpreted and then settled. -/
theorem between_runLine (sh : Interpreter (Recorded σ)) (line : String)
    (s : ShellState (Recorded σ)) {calls : List Call}
    (h : Between s (sh.execute line s).2 calls) :
    ∃ more, Between s (sh.runLine line s).2 (calls ++ more) ∧
      Settling s.descriptors s.log.stamp (sh.execute line s).1 (sh.execute line s).2.downfall
        (sh.runLine line s).2.downfall more := by
  have hdescriptors := (sh.trades_executeLine line).descriptors_eq s
  obtain ⟨more, hmore, hsettling⟩ :=
    between_settleLine (sh.execute line s).1 (sh.execute line s).2
  rw [hdescriptors, h.log_eq, ← downfall_runLine] at hsettling
  exact ⟨more, (still_keepStatus _).follows rfl (h.trans hmore), hsettling⟩

/-! ## What a line is -/

section

variable {sh : Interpreter (Recorded σ)} {line : String} {s s' : ShellState (Recorded σ)}
  {result : Except ShellError Outcome} {p : Pipeline}

/-- A line without tokens is no pipeline. -/
theorem ofTokens_ne_ok_of_blank (hblank : Token.scan line = []) :
    Pipeline.ofTokens (Token.scan line) ≠ .ok p := by
  intro h
  rw [hblank] at h
  cases h

/-- A line that is a pipeline is one pipeline only. -/
theorem pipeline_unique {p' : Pipeline} (h : Pipeline.ofTokens (Token.scan line) = .ok p)
    (h' : Pipeline.ofTokens (Token.scan line) = .ok p') : p = p' :=
  Except.ok.inj (h.symm.trans h')

theorem Transcript.of_blank (h : sh.Transcript line s s' result) (hblank : Token.scan line = []) :
    result = .ok (.proceed 0) ∧
      ∃ notes, Noted s.descriptors s.log.stamp notes ∧ Between s s' notes ∧
        s'.downfall = none := by
  cases h with
  | blank notes h hnotes hbetween hup => exact ⟨rfl, notes, hnotes, hbetween, hup⟩
  | malformed fault notes h => exact absurd hblank h
  | unopened p handler stage path fault notes openings h => exact absurd hblank h
  | builtin p handler stage opened output outcome notes openings deliveries h =>
    exact absurd hblank h
  | programs p s₀ notes complaints h => exact absurd hblank h

theorem Transcript.of_malformed (h : sh.Transcript line s s' result)
    (hblank : Token.scan line ≠ []) {fault : SyntaxFault}
    (hfault : Pipeline.ofTokens (Token.scan line) = .error fault) :
    result = .error (.malformed fault) ∧
      ∃ notes, Noted s.descriptors s.log.stamp notes ∧ Between s s' notes ∧
        s'.downfall = none := by
  cases h with
  | blank notes h => exact absurd h hblank
  | malformed fault' notes h hparse hnotes hbetween hup =>
    rw [hfault] at hparse
    cases hparse
    exact ⟨rfl, notes, hnotes, hbetween, hup⟩
  | unopened p handler stage path fault notes openings h hparse => simp [hfault] at hparse
  | builtin p handler stage opened output outcome notes openings deliveries h hparse =>
    simp [hfault] at hparse
  | programs p s₀ notes complaints h hparse => simp [hfault] at hparse

/-- A builtin line is followed up to a target that cannot be opened, or up to the handler and from
there on. -/
theorem Transcript.of_builtin (h : sh.Transcript line s s' result)
    (hparse : Pipeline.ofTokens (Token.scan line) = .ok p) {handler : Handler (Recorded σ)}
    {stage : Stage} (hroute : sh.route p = some (handler, stage)) :
    (∃ path fault notes openings, result = .error (.io path fault) ∧
      Noted s.descriptors s.log.stamp notes ∧
      Openings s.surroundings.directory stage openings (some (path, fault)) ∧
      Between s s' (notes ++ openings) ∧ s'.downfall = none) ∨
    ∃ opened output outcome notes openings deliveries, result = .ok outcome ∧
      Noted s.descriptors s.log.stamp notes ∧
      Openings s.surroundings.directory stage openings none ∧
      Between s opened (notes ++ openings) ∧
      sh.respond handler stage output opened = (outcome, s') ∧
      Between (sh.consult handler stage opened).2 s' deliveries ∧
      (∀ call ∈ deliveries, call.isTransfer = true) ∧ opened.downfall = none ∧
      ((∀ call ∈ deliveries, call.fatal? = none) → s'.downfall = none) := by
  cases h with
  | blank notes h => exact absurd hparse (ofTokens_ne_ok_of_blank h)
  | malformed fault notes h hfault => simp [hfault] at hparse
  | unopened p' handler' stage' path fault notes openings h hparse' hroute' hnotes hopenings
      hbetween hup =>
    cases pipeline_unique hparse hparse'
    cases Option.some.inj (hroute.symm.trans hroute')
    exact Or.inl ⟨path, fault, notes, openings, rfl, hnotes, hopenings, hbetween, hup⟩
  | builtin p' handler' stage' opened output outcome notes openings deliveries h hparse' hroute'
      hnotes hopenings hbetween hdeliver hdelivered htransfer hready hup =>
    cases pipeline_unique hparse hparse'
    cases Option.some.inj (hroute.symm.trans hroute')
    exact Or.inr ⟨opened, output, outcome, notes, openings, deliveries, rfl, hnotes, hopenings,
      hbetween, by rw [respond_apply, hdeliver], hdelivered, htransfer, hready, hup⟩
  | programs p' s₀ notes complaints h hparse' hroute' =>
    cases pipeline_unique hparse hparse'
    cases hroute.symm.trans hroute'

/-- A line of programs is followed through the run of its pipeline. -/
theorem Transcript.of_programs (h : sh.Transcript line s s' result)
    (hparse : Pipeline.ofTokens (Token.scan line) = .ok p) (hroute : sh.route p = none) :
    ∃ s₀ notes complaints, result = settlement (p.execute sh.streams s₀).1 ∧
      Noted s.descriptors s.log.stamp notes ∧ Between s s₀ notes ∧
      s₀.descriptors = s.descriptors ∧ s₀.fresh = s.fresh ∧
      Complaints s.descriptors (abortComplaints (p.execute sh.streams s₀).1) s'.downfall
        complaints ∧
      Between s s' (notes ++ (p.execute sh.streams).transcript s₀ ++ complaints) := by
  cases h with
  | blank notes h => exact absurd hparse (ofTokens_ne_ok_of_blank h)
  | malformed fault notes h hfault => simp [hfault] at hparse
  | unopened p' handler stage path fault notes openings h hparse' hroute' =>
    cases pipeline_unique hparse hparse'
    cases hroute.symm.trans hroute'
  | builtin p' handler stage opened output outcome notes openings deliveries h hparse' hroute' =>
    cases pipeline_unique hparse hparse'
    cases hroute.symm.trans hroute'
  | programs p' s₀ notes complaints h hparse' hroute' hnotes hbefore hdescriptors hfresh hcomplaints
      hbetween =>
    cases pipeline_unique hparse hparse'
    exact ⟨s₀, notes, complaints, rfl, hnotes, hbefore, hdescriptors, hfresh, hcomplaints, hbetween⟩

end

end Interpreter

end CommandShell
