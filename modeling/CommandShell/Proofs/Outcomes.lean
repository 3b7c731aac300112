import CommandShell.Proofs.Chronicle
import CommandShell.Proofs.Reports

/-!
# Outcomes of stages

The outcome of a stage follows from what was asked for in its own turn and while its own process was
waited for: a file that could not be opened, an argument that cannot be passed on, a process that
could not start its program, or else the last answer of the wait. Main statement: there is a report
if all pipes and processes could be made, and it has the outcome of every stage in its place, if no
process loses the descriptor for its report (`Pipeline.reporting_execute`).
-/

namespace CommandShell

open Shell

variable {σ : Type}

namespace Call

/-- The file that could not be opened for reading, and the reason. -/
def unread? : Call → Option (String × Fault)
  | .openToRead _ path _ (.error errno) => some (path, .system errno)
  | _ => none

/-- The file that could not be opened for writing, and the reason. -/
def unwritten? : Call → Option (String × Fault)
  | .openToWrite _ path _ (.error errno) => some (path, .system errno)
  | _ => none

/-- Why a process could not make a duplicate, or could not start its program. -/
def startFault? : Call → Option Errno
  | .duplicate _ _ _ (.error errno) => some errno
  | .exec _ _ (.error errno) => some errno
  | _ => none

/-- The process that was waited for, and the meaning of the answer. -/
def waited? : Call → Option (Pid × WaitAnswer)
  | .wait pid _ event => some (pid, event.answer)
  | _ => none

end Call

/-- Why the target of a redirection could not be opened, if it could not. -/
def targetFault? (refused? : Call → Option (String × Fault)) (calls : List Call) :
    Option String → Option (String × Fault)
  | none => none
  | some path => if hasNul path then some (path, .nulInName) else calls.findSome? refused?

namespace Stage

/-- The first target of a stage that could not be opened, and the reason. The input comes before
the output. -/
def openFault? (stage : Stage) (turn : List Call) : Option (String × Fault) :=
  (targetFault? Call.unread? turn stage.input).or
    (targetFault? Call.unwritten? turn stage.output)

/-- What is said of a stage whose program could not be started. -/
def startFault (stage : Stage) (errno : Errno) : String :=
  (ShellError.exec stage.program errno.systemText).message

/-- The outcome of a stage, given what was asked for in its turn and while it was waited for. There
is none as long as the wait has no final answer. -/
def outcome? (stage : Stage) (turn waits : List Call) : Option StageOutcome :=
  match stage.openFault? turn with
  | some (path, fault) => some (.aborted (.io path fault))
  | none =>
    match ArgumentVector.ofArguments stage.argv with
    | .error reason => some (.finished (.startFailed reason))
    | .ok _ =>
      match turn.findSome? Call.startFault? with
      | some errno => some (.finished (.startFailed (stage.startFault errno.reported)))
      | none =>
        match (waits.filterMap Call.waited?).getLast? with
        | some (_, .ended status) => some (.finished status)
        | some (pid, .failed errno) => some (.aborted (.wait pid errno))
        | _ => none

end Stage

/-! ## Openings -/

section

variable {start : Directory} {stage : Stage} {calls : List Call}
  {failure : Option (String × Fault)}

theorem Call.unread?_of_not_isOpening {call : Call} (h : call.isOpening = false) :
    call.unread? = none := by
  cases call <;> first | rfl | cases h

theorem Call.unwritten?_of_not_isOpening {call : Call} (h : call.isOpening = false) :
    call.unwritten? = none := by
  cases call <;> first | rfl | cases h

/-- How the target of a redirection fails is told by the calls that were made for it, whatever else
was asked for. -/
theorem Targeted.targetFault?_eq {call : Directory → String → Nat → Except Errno Unit → Call}
    {refused? : Call → Option (String × Fault)} {path : Option String}
    (h : Targeted call start path calls failure)
    (hopened : ∀ start path number, refused? (call start path number (.ok ())) = none)
    (hrefused : ∀ start path number errno,
      refused? (call start path number (.error errno)) = some (path, .system errno))
    {before rest : List Call} (hbefore : before.findSome? refused? = none)
    (hrest : rest.findSome? refused? = none) :
    targetFault? refused? (before ++ (calls ++ rest)) path = failure := by
  cases h with
  | absent => rfl
  | unnamed path h => rw [targetFault?, if_pos h]
  | opened path number h =>
    rw [targetFault?, if_neg (by simp [h]), List.findSome?_append, List.findSome?_append, hbefore,
      hrest]
    simp [hopened]
  | refused path number errno h =>
    rw [targetFault?, if_neg (by simp [h]), List.findSome?_append, List.findSome?_append, hbefore]
    simp [hrefused]

theorem Targeted.not_unwritten {path : Option String}
    (h : Targeted .openToRead start path calls failure) :
    calls.findSome? Call.unwritten? = none := by
  cases h <;> rfl

theorem Targeted.not_unread {path : Option String}
    (h : Targeted .openToWrite start path calls failure) : calls.findSome? Call.unread? = none := by
  cases h <;> rfl

/-- How the files of a stage cannot be opened is told by the calls that were made for them. -/
theorem Openings.openFault?_eq (h : Openings start stage calls failure) (rest : List Call)
    (hrest : ∀ call ∈ rest, call.isOpening = false) :
    stage.openFault? (calls ++ rest) = failure := by
  have hread : rest.findSome? Call.unread? = none :=
    List.findSome?_eq_none_iff.2 fun call hcall => Call.unread?_of_not_isOpening (hrest call hcall)
  have hwritten : rest.findSome? Call.unwritten? = none :=
    List.findSome?_eq_none_iff.2 fun call hcall =>
      Call.unwritten?_of_not_isOpening (hrest call hcall)
  have htarget : ∀ {calls : List Call} {failure : Option (String × Fault)} (more : List Call),
      Targeted .openToRead start stage.input calls failure →
      more.findSome? Call.unread? = none →
        targetFault? Call.unread? (calls ++ (more ++ rest)) stage.input = failure := by
    intro calls failure more htargeted hmore
    have hnothing : ([] : List Call).findSome? Call.unread? = none := rfl
    exact htargeted.targetFault?_eq (fun _ _ _ => rfl) (fun _ _ _ _ => rfl) hnothing
      (by rw [List.findSome?_append, hmore, hread]; rfl)
  rw [Stage.openFault?]
  cases h with
  | unfed calls failure h =>
    have hfault := htarget [] h rfl
    rw [List.nil_append] at hfault
    rw [hfault]
    rfl
  | fed calls more failure h h' =>
    rw [List.append_assoc, htarget more h h'.not_unread, Option.none_or]
    exact h'.targetFault?_eq (fun _ _ _ => rfl) (fun _ _ _ _ => rfl) h.not_unwritten hwritten

end

/-! ## Processes and waits -/

theorem Call.startFault?_of_isTransfer {call : Call} (h : call.isTransfer = true) :
    call.startFault? = none := by
  cases call <;> first | rfl | cases h

theorem Call.refusal?_of_isTransfer {call : Call} (h : call.isTransfer = true) :
    call.refusal? = none := by
  cases call <;> first | rfl | cases h

theorem Call.startFault?_of_isOpening {call : Call} (h : call.isOpening = true) :
    call.startFault? = none := by
  cases call <;> first | rfl | cases h

namespace Child

variable {child : Child} {pid : Pid} {table : Descriptors} {directory : Directory}
  {failure : Option Errno} {calls : List Call}

theorem findSome?_startFault_granted (pid : Pid) (wires : List (Fd × Fd)) :
    (granted pid wires).findSome? Call.startFault? = none := by
  rw [List.findSome?_eq_none_iff]
  intro call hcall
  obtain ⟨wire, -, rfl⟩ := List.mem_map.1 hcall
  rfl

/-- If the descriptors of a stage are open, its process fails only where the system refuses
something, and with the error number that the system gives. -/
theorem Tried.findSome?_startFault {errno : Errno} {remaining : Descriptors}
    (h : child.Tried pid table directory errno remaining calls)
    (hopen : ∀ wire ∈ child.wires, table.get? wire.1 ≠ none) :
    calls.findSome? Call.startFault? = some errno := by
  cases h with
  | unwired done rest source goal errno remaining answer hwires hdone hanswer =>
    rw [List.findSome?_append, findSome?_startFault_granted]
    rcases hanswer with rfl | ⟨rfl, rfl, hduplicate⟩
    · rfl
    · have hsource := get?_rewire_ne_none hdone (hopen (source, goal) (by simp [hwires]))
      exact absurd hduplicate (DescriptorTable.duplicate_ne_none hsource goal)
  | refused errno wired h =>
    rw [List.findSome?_append, findSome?_startFault_granted]
    rfl

/-- The process of a stage opens nothing. -/
theorem Transcript.not_isOpening (h : child.Transcript pid table directory failure calls) :
    ∀ call ∈ calls, call.isOpening = false := by
  intro call hcall
  rcases h.call_cases hcall with hasker | ⟨goal, bytes, answer, rfl⟩
  · cases call <;> first | rfl | cases hasker
  · rfl

theorem Transcript.findSome?_startFault
    (h : child.Transcript pid table directory failure calls)
    (hopen : ∀ wire ∈ child.wires, table.get? wire.1 ≠ none) :
    calls.findSome? Call.startFault? = failure := by
  cases h with
  | started wired h =>
    rw [List.findSome?_append, findSome?_startFault_granted]
    rfl
  | failed errno remaining tried told htried htold =>
    rw [List.findSome?_append, htried.findSome?_startFault hopen]
    rfl

end Child

theorem Noted.filterMap_waited {table : Descriptors} {stamp : String} {notes : List Call}
    (h : Noted table stamp notes) : notes.filterMap Call.waited? = [] := by
  rw [List.filterMap_eq_nil_iff]
  intro call hcall
  obtain ⟨target, record, answer, rfl, -⟩ := h call hcall
  rfl

/-- The last wait for a process brings the last answer. -/
theorem Watched.getLast?_eq {table : Descriptors} {stamp : String} {pid : Pid} {calls : List Call}
    {last : ChildEvent} (h : Watched table stamp pid calls last) :
    (calls.filterMap Call.waited?).getLast? = some (pid, last.answer) := by
  induction h with
  | settled event final => rfl
  | again event last notes calls pending hnotes h ih =>
    rw [List.filterMap_cons_some (by rfl : Call.waited? (.wait pid table event) = some _),
      List.filterMap_append, hnotes.filterMap_waited, List.nil_append, List.getLast?_cons, ih]
    rfl

namespace Turn

variable [Kernel σ] {streams : Streams} {base : ShellState (Recorded σ)} {row : List PipeEnds}
  {t : Turn σ}

/-- What became of a stage in its turn, as far as the calls of the turn tell. -/
inductive Fate (stage : Stage) (turn : List Call) : StageState → Prop
  /-- A target cannot be opened. -/
  | unopened (path : String) (fault : Fault)
      (hopen : stage.openFault? turn = some (path, fault))
      (hidle : ∀ pid launch, .exec pid launch (.ok ()) ∉ turn) :
      Fate stage turn (.settled (.aborted (.io path fault)))
  /-- An argument cannot be passed on. -/
  | unpassable (reason : String) (hopen : stage.openFault? turn = none)
      (hpass : ArgumentVector.ofArguments stage.argv = .error reason)
      (hidle : ∀ pid launch, .exec pid launch (.ok ()) ∉ turn) :
      Fate stage turn (.settled (.finished (.startFailed reason)))
  /-- The process fails. -/
  | failed (pid : Pid) (errno : Errno) (arguments : ArgumentVector)
      (hopen : stage.openFault? turn = none)
      (hpass : ArgumentVector.ofArguments stage.argv = .ok arguments)
      (hfault : turn.findSome? Call.startFault? = some errno)
      (hidle : ∀ pid launch, .exec pid launch (.ok ()) ∉ turn) :
      Fate stage turn (.execFailed pid (stage.startFault errno.reported))
  /-- The program is started. -/
  | running (pid : Pid) (arguments : ArgumentVector) (launch : Launch)
      (hopen : stage.openFault? turn = none)
      (hpass : ArgumentVector.ofArguments stage.argv = .ok arguments)
      (hfault : turn.findSome? Call.startFault? = none)
      (hexec : .exec pid launch (.ok ()) ∈ turn)
      (honly : ∀ asker launch, .exec asker launch (.ok ()) ∈ turn → asker = pid) :
      Fate stage turn (.running pid)

/-- What becomes of a stage with a process is told by the calls of its turn, if the shell hears how
the process has failed. -/
theorem Ready.fate {arguments : ArgumentVector} {io : StageIo} {report : PipeEnds}
    {equipped forking : ShellState (Recorded σ)} {openings notes course reads later : List Call}
    {pid : Pid} {failure : Option Errno} {heard : Except Errno Bytes} {table : Descriptors}
    {stamp : String} {directory : Directory} {source : Resource}
    (ready : t.Ready arguments io report equipped forking openings)
    (hopenings : Openings t.before.surroundings.directory t.stage openings none)
    (hnotes : Noted table stamp notes)
    (hcourse : (t.child streams arguments io report).Transcript pid forking.descriptors directory
      failure course)
    (hsources : ∀ wire ∈ (t.child streams arguments io report).wires,
      forking.descriptors.get? wire.1 ≠ none)
    (hheard : Heard source (report.listening io forking.descriptors) reads heard)
    (hlater : Noted table stamp later)
    (hfailure : heardErrno heard = failure.map Errno.reported) :
    Fate t.stage (openings ++ (.makePipe equipped.fresh (.ok ()) ::
        .fork forking.descriptors (.ok pid) :: (notes ++ course ++ reads ++ later)))
      (.heard t.stage.program pid (heardErrno heard)) := by
  have hnoted : ∀ {notes : List Call}, Noted table stamp notes →
      ∀ call ∈ notes, call.isOpening = false := by
    intro notes hnotes call hcall
    obtain ⟨target, record, answer, rfl, -⟩ := hnotes call hcall
    rfl
  have hopened := hopenings.openFault?_eq (.makePipe equipped.fresh (.ok ()) ::
    .fork forking.descriptors (.ok pid) :: (notes ++ course ++ reads ++ later)) (by
      intro call hcall
      simp only [List.mem_cons, List.mem_append] at hcall
      rcases hcall with rfl | rfl | ((hcall | hcall) | hcall) | hcall
      · rfl
      · rfl
      · exact hnoted hnotes call hcall
      · exact hcourse.not_isOpening call hcall
      · obtain ⟨answer, rfl⟩ := hheard.isRead call hcall
        rfl
      · exact hnoted hlater call hcall)
  have hnone : ∀ {calls : List Call}, (∀ call ∈ calls, call.isTransfer = true) →
      calls.findSome? Call.startFault? = none := fun hcalls =>
    List.findSome?_eq_none_iff.2 fun call hcall =>
      Call.startFault?_of_isTransfer (hcalls call hcall)
  have hfault : (openings ++ (.makePipe equipped.fresh (.ok ()) ::
      .fork forking.descriptors (.ok pid) ::
        (notes ++ course ++ reads ++ later))).findSome? Call.startFault? = failure := by
    rw [List.findSome?_append, List.findSome?_eq_none_iff.2 fun call hcall =>
      Call.startFault?_of_isOpening (hopenings.isOpening call hcall), Option.none_or]
    change (notes ++ course ++ reads ++ later).findSome? Call.startFault? = failure
    rw [List.findSome?_append, List.findSome?_append, List.findSome?_append,
      hnone hnotes.isTransfer, hcourse.findSome?_startFault hsources, hnone hlater.isTransfer,
      hnone hheard.isTransfer]
    simp
  -- A program is started by the process only.
  have hcourseExec : ∀ asker launch, .exec asker launch (.ok ()) ∈ openings ++
      (.makePipe equipped.fresh (.ok ()) :: .fork forking.descriptors (.ok pid) ::
        (notes ++ course ++ reads ++ later)) → .exec asker launch (.ok ()) ∈ course := by
    intro asker launch hexec
    rcases ready.call_cases hnotes hcourse hheard hlater hexec rfl rfl with heq | heq | ⟨hmem, -⟩
    · cases heq
    · cases heq
    · exact hmem
  rw [hfailure]
  cases failure with
  | some errno =>
    refine .failed pid errno arguments hopened ready.passable hfault ?_
    intro asker launch hexec
    cases hcourse.failure_eq_none (hcourseExec asker launch hexec)
  | none =>
    cases hcourse with
    | started wired hwired =>
      refine .running pid arguments ⟨arguments, wired.surviving, directory⟩ hopened ready.passable
        hfault (by simp [child]) ?_
      intro asker launch hexec
      rcases List.mem_append.1 (hcourseExec asker launch hexec) with hmem | hmem
      · cases Child.asker_of_mem_granted hmem
        rfl
      · cases List.mem_singleton.1 hmem
        rfl

/-- What becomes of a stage is told by the calls of its turn, if reports are passed on and no
duplicate takes the place of a descriptor for them. -/
theorem Placed.fate (h : t.Placed base row) (hindex : t.index ≤ row.length)
    (hopen : streams.Open base) (hnumbered : Numbered base) {state : StageState}
    {calls : List Call}
    (htranscript : t.Transcript streams base.descriptors (.ok state) calls)
    (hspared : Spared calls)
    (hreporting : ∀ pipe, .makePipe pipe (.ok ()) ∈ calls → Reporting calls pipe) :
    Fate t.stage calls state := by
  cases htranscript with
  | unopened path fault openings notes hopenings hnotes =>
    have hnoted : ∀ call ∈ notes, call.isOpening = false := by
      intro call hcall
      obtain ⟨target, record, answer, rfl, -⟩ := hnotes call hcall
      rfl
    refine .unopened path fault (hopenings.openFault?_eq notes hnoted) ?_
    intro pid launch hexec
    rcases List.mem_append.1 hexec with hmem | hmem
    · cases hopenings.isOpening _ hmem
    · cases hnotes.isTransfer _ hmem
  | unpassable reason openings hopenings hpass =>
    have hfault := hopenings.openFault?_eq [] (by simp)
    rw [List.append_nil] at hfault
    refine .unpassable reason hfault hpass ?_
    intro pid launch hexec
    cases hopenings.isOpening _ hexec
  | forked arguments io report equipped forking openings notes course reads later pid failure heard
      ready hopenings hnotes hreached hcourse hheard hlater =>
    have hreport := ready.canReport h hindex hopen hnumbered
    exact ready.fate hopenings hnotes hcourse hreport.sources hheard hlater
      (ready.heardErrno_eq hreport hnotes hreached hcourse hheard hspared
        (hreporting equipped.fresh (by simp)))

/-- What becomes of a stage whose program is started is told by the calls of its turn, if the pipe
for its report delivers what is written. -/
theorem Placed.fate_of_exec (h : t.Placed base row) (hindex : t.index ≤ row.length)
    (hopen : streams.Open base) (hnumbered : Numbered base) {state : StageState}
    {calls : List Call}
    (htranscript : t.Transcript streams base.descriptors (.ok state) calls) {asker : Pid}
    {launch : Launch} (hexec : .exec asker launch (.ok ()) ∈ calls)
    (hdelivers : ∀ pipe, .makePipe pipe (.ok ()) ∈ calls → Delivers pipe [] calls) :
    Fate t.stage calls state := by
  cases htranscript with
  | unopened path fault openings notes hopenings hnotes =>
    rcases List.mem_append.1 hexec with hmem | hmem
    · cases hopenings.isOpening _ hmem
    · cases hnotes.isTransfer _ hmem
  | unpassable reason openings hopenings hpass => cases hopenings.isOpening _ hexec
  | forked arguments io report equipped forking openings notes course reads later pid failure heard
      ready hopenings hnotes hreached hcourse hheard hlater =>
    have hreport := ready.canReport h hindex hopen hnumbered
    have hnone : failure = none := by
      rcases ready.call_cases hnotes hcourse hheard hlater hexec rfl rfl with
        heq | heq | ⟨hmem, -⟩
      · cases heq
      · cases heq
      · exact hcourse.failure_eq_none hmem
    have hnothing : heardErrno heard = failure.map Errno.reported := by
      rw [ready.heard_eq hreport hnotes hreached hcourse hheard (hdelivers _ (by simp))]
      subst hnone
      rw [hcourse.bytesWritten_eq_nil]
      rfl
    exact ready.fate hopenings hnotes hcourse hreport.sources hheard hlater hnothing

/-- The outcome of a stage follows from what is asked for in its turn and while it is waited
for. -/
theorem Fate.outcome?_eq {stage : Stage} {turn waits : List Call} {state : StageState}
    {outcome : StageOutcome} {table : Descriptors} {stamp : String} (h : Fate stage turn state)
    (hreaped : Reaped table stamp state outcome waits) :
    stage.outcome? turn waits = some outcome := by
  rw [Stage.outcome?]
  cases h with
  | unopened path fault hopen hidle =>
    cases hreaped
    rw [hopen]
  | unpassable reason hopen hpass hidle =>
    cases hreaped
    simp only [hopen, hpass]
  | failed pid errno arguments hopen hpass hfault hidle =>
    cases hreaped
    simp only [hopen, hpass, hfault]
  | running pid arguments launch hopen hpass hfault hexec honly =>
    simp only [hopen, hpass, hfault]
    cases hreaped with
    | ended pid waits last status hwatched hlast => simp only [hwatched.getLast?_eq, hlast]
    | lost pid waits notes last errno hwatched hlast hnotes =>
      simp only [List.filterMap_append, hnotes.filterMap_waited, List.append_nil,
        hwatched.getLast?_eq, hlast]

end Turn

/-! ## Accounts -/

/-- Some cell cannot be made exactly if an argument holds a NUL byte. -/
theorem ArgumentVector.cellsOf_error_iff (arguments : List String) :
    (∃ reason, cellsOf arguments = .error reason) ↔
      ∃ argument ∈ arguments, (0 : UInt8) ∈ utf8 argument := by
  induction arguments with
  | nil => simp [cellsOf]
  | cons argument rest ih =>
    rw [cellsOf]
    by_cases hpass : passable argument = true
    · have hzero : (0 : UInt8) ∉ utf8 argument := by simpa [passable] using hpass
      have hcons : (∃ other ∈ argument :: rest, (0 : UInt8) ∈ utf8 other) ↔
          ∃ other ∈ rest, (0 : UInt8) ∈ utf8 other := by simp [hzero]
      rw [if_pos hpass, hcons, ← ih]
      cases cellsOf rest <;> simp
    · have hzero : (0 : UInt8) ∈ utf8 argument := by simpa [passable] using hpass
      rw [if_neg hpass]
      simp [hzero]

/-- Arguments cannot be passed on exactly if one of them holds a NUL byte. -/
theorem ArgumentVector.ofArguments_error_iff (arguments : List String) :
    (∃ reason, ofArguments arguments = .error reason) ↔
      ∃ argument ∈ arguments, (0 : UInt8) ∈ utf8 argument := by
  rw [← cellsOf_error_iff, ofArguments]
  cases cellsOf arguments <;> simp [Except.map]

/-- The answer of a wait that ends it is never that the program was not started. -/
theorem ChildEvent.answer_ne_startFailed (event : ChildEvent) (reason : String) :
    event.answer ≠ .ended (.startFailed reason) := by
  cases event with
  | killed signal => cases h : Signal.ofNumber? signal <;> simp [answer, h]
  | stopped signal => cases h : Signal.ofNumber? signal <;> simp [answer, h]
  | traced signal event => cases h : Signal.ofNumber? signal <;> simp [answer, h]
  | failed errno =>
    rw [answer]
    split <;> simp
  | _ => simp [answer]

/-- What it means that the outcome of a stage follows from what was asked for in its turn and while
it was waited for. -/
structure Stage.Accounted (stage : Stage) (turn waits : List Call) (outcome : StageOutcome) :
    Prop where
  /-- Nothing else decides the outcome. -/
  entry : stage.outcome? turn waits = some outcome
  /-- The stage was left out exactly if one of its targets could not be opened. -/
  unopened : ∀ path fault, outcome = .aborted (.io path fault) ↔
    stage.openFault? turn = some (path, fault)
  /-- Its program was not started exactly if its targets were opened, and an argument holds a NUL
  byte or the process was refused a duplicate or the program. -/
  unstarted : (∃ reason, outcome = .finished (.startFailed reason)) ↔
    stage.openFault? turn = none ∧
      ((∃ argument ∈ stage.argv, (0 : UInt8) ∈ utf8 argument) ∨
        ∃ call ∈ turn, call.startFault? ≠ none)
  /-- Otherwise its program was started. -/
  started : stage.openFault? turn = none →
    (¬ ∃ argument ∈ stage.argv, (0 : UInt8) ∈ utf8 argument) →
      (∀ call ∈ turn, call.startFault? = none) → ∃ pid launch, .exec pid launch (.ok ()) ∈ turn
  /-- If its program was started, the last answer of the wait decides. -/
  ran : ∀ pid launch, .exec pid launch (.ok ()) ∈ turn →
    (∃ status, (waits.filterMap Call.waited?).getLast? = some (pid, .ended status) ∧
      outcome = .finished status) ∨
    ∃ errno, (waits.filterMap Call.waited?).getLast? = some (pid, .failed errno) ∧
      outcome = .aborted (.wait pid errno)

namespace Stage

variable {stage : Stage} {turn waits : List Call} {outcome : StageOutcome}

/-- A stage was left out exactly if one of its targets could not be opened. -/
theorem outcome?_io_iff (h : stage.outcome? turn waits = some outcome) (path : String)
    (fault : Fault) :
    outcome = .aborted (.io path fault) ↔ stage.openFault? turn = some (path, fault) := by
  rw [outcome?] at h
  cases hopen : stage.openFault? turn with
  | some failure =>
    obtain ⟨path', fault'⟩ := failure
    rw [hopen] at h
    cases h
    simp
  | none =>
    rw [hopen] at h
    simp only [reduceCtorEq, iff_false]
    rintro rfl
    simp only at h
    split at h
    · cases h
    · split at h
      · cases h
      · split at h <;> cases h

/-- The last answer of some waits is the meaning of what the system told. -/
theorem answer_of_getLast? {pid : Pid} {answer : WaitAnswer}
    (h : (waits.filterMap Call.waited?).getLast? = some (pid, answer)) :
    ∃ event : ChildEvent, event.answer = answer := by
  obtain ⟨call, -, hcall⟩ := List.mem_filterMap.1 (List.mem_of_getLast? h)
  cases call <;> cases hcall
  exact ⟨_, rfl⟩

/-- The program of a stage was not started exactly if the targets were opened, and an argument
cannot be passed on or the process was refused something. -/
theorem outcome?_startFailed_iff (h : stage.outcome? turn waits = some outcome) :
    (∃ reason, outcome = .finished (.startFailed reason)) ↔
      stage.openFault? turn = none ∧
        ((∃ argument ∈ stage.argv, (0 : UInt8) ∈ utf8 argument) ∨
          ∃ call ∈ turn, call.startFault? ≠ none) := by
  rw [← ArgumentVector.ofArguments_error_iff]
  rw [outcome?] at h
  cases hopen : stage.openFault? turn with
  | some failure =>
    rw [hopen] at h
    cases h
    simp
  | none =>
    rw [hopen] at h
    cases hpass : ArgumentVector.ofArguments stage.argv with
    | error reason =>
      simp only [hpass] at h
      cases h
      simp
    | ok arguments =>
      simp only [hpass] at h
      cases hfault : turn.findSome? Call.startFault? with
      | some errno =>
        simp only [hfault] at h
        cases h
        obtain ⟨call, hcall, hsome⟩ := List.exists_of_findSome?_eq_some hfault
        simp only [StageOutcome.finished.injEq, Status.startFailed.injEq, exists_eq', true_and,
          true_iff]
        exact Or.inr ⟨call, hcall, by rw [hsome]; exact Option.some_ne_none errno⟩
      | none =>
        simp only [hfault] at h
        have hnone := List.findSome?_eq_none_iff.1 hfault
        constructor
        · rintro ⟨reason, rfl⟩
          split at h
          · next pid status hlast =>
            cases h
            obtain ⟨event, hevent⟩ := answer_of_getLast? hlast
            exact absurd hevent (event.answer_ne_startFailed reason)
          · cases h
          · cases h
        · rintro ⟨-, ⟨reason, hreason⟩ | ⟨call, hcall, hne⟩⟩
          · cases hreason
          · exact absurd (hnone call hcall) hne

end Stage

namespace Turn

variable [Kernel σ] {streams : Streams} {base : ShellState (Recorded σ)} {row : List PipeEnds}
  {t : Turn σ}

/-- The outcome of a stage is accounted for by what is asked for in its turn and while it is waited
for. -/
theorem Fate.accounted {stage : Stage} {turn waits : List Call} {state : StageState}
    {outcome : StageOutcome} {table : Descriptors} {stamp : String} (h : Fate stage turn state)
    (hreaped : Reaped table stamp state outcome waits) :
    stage.Accounted turn waits outcome := by
  have hentry := h.outcome?_eq hreaped
  refine ⟨hentry, Stage.outcome?_io_iff hentry, Stage.outcome?_startFailed_iff hentry, ?_, ?_⟩
  · intro hopened hpassed hstarted
    cases h with
    | unopened path fault hopen hidle =>
      rw [hopen] at hopened
      cases hopened
    | unpassable reason hopen hpass hidle =>
      exact absurd ((ArgumentVector.ofArguments_error_iff _).1 ⟨reason, hpass⟩) hpassed
    | failed pid errno arguments hopen hpass hfault hidle =>
      rw [List.findSome?_eq_none_iff.2 hstarted] at hfault
      cases hfault
    | running pid arguments launch hopen hpass hfault hexec honly => exact ⟨pid, launch, hexec⟩
  · intro pid launch hexec
    cases h with
    | unopened path fault hopen hidle => exact absurd hexec (hidle pid launch)
    | unpassable reason hopen hpass hidle => exact absurd hexec (hidle pid launch)
    | failed pid' errno arguments hopen hpass hfault hidle => exact absurd hexec (hidle pid launch)
    | running pid' arguments launch' hopen hpass hfault hexec' honly =>
      cases honly pid launch hexec
      cases hreaped with
      | ended pid waits last status hwatched hlast =>
        exact Or.inl ⟨status, by rw [hwatched.getLast?_eq, hlast], rfl⟩
      | lost pid waits notes last errno hwatched hlast hnotes =>
        refine Or.inr ⟨errno, ?_, rfl⟩
        rw [List.filterMap_append, hnotes.filterMap_waited, List.append_nil,
          hwatched.getLast?_eq, hlast]

/-- A process that a stage has was made in the turn of the stage. -/
theorem Transcript.fork_mem {table : Descriptors} {state : StageState} {calls : List Call}
    {pid : Pid} (h : t.Transcript streams table (.ok state) calls)
    (hprocess : state.process? = some pid) : ∃ forked, .fork forked (.ok pid) ∈ calls := by
  cases h with
  | unopened path fault openings notes hopenings hnotes => cases hprocess
  | unpassable reason openings hopenings hpass => cases hprocess
  | forked arguments io report equipped forking openings notes course reads later pid' failure heard
      ready hopenings hnotes hreached hcourse hheard hlater =>
    rw [StageState.process?_heard] at hprocess
    cases hprocess
    exact ⟨forking.descriptors, by simp⟩

/-- In a turn a pipe or a process cannot be made exactly if the turn comes to an error. -/
theorem Transcript.refused_iff {table : Descriptors} {result : Except ShellError StageState}
    {calls : List Call} (h : t.Transcript streams table result calls) :
    (∃ call ∈ calls, call.refusal? ≠ none) ↔ ∃ error, result = .error error := by
  have hopening : ∀ {openings : List Call} {failure : Option (String × Fault)},
      Openings t.before.surroundings.directory t.stage openings failure →
        ∀ call ∈ openings, call.refusal? = none := by
    intro openings failure hopenings call hcall
    have hisOpening := hopenings.isOpening call hcall
    cases call <;> first | rfl | cases hisOpening
  have htransfer : ∀ {calls : List Call}, (∀ call ∈ calls, call.isTransfer = true) →
      ∀ call ∈ calls, call.refusal? = none := fun hcalls call hcall =>
    Call.refusal?_of_isTransfer (hcalls call hcall)
  cases h with
  | unopened path fault openings notes hopenings hnotes =>
    simp only [reduceCtorEq, exists_false, iff_false, not_exists, not_and, not_not]
    intro call hcall
    rcases List.mem_append.1 hcall with hcall | hcall
    · exact hopening hopenings call hcall
    · exact htransfer hnotes.isTransfer call hcall
  | unpassable reason openings hopenings hpass =>
    simp only [reduceCtorEq, exists_false, iff_false, not_exists, not_and, not_not]
    exact hopening hopenings
  | unheard pipe errno openings hopenings hpipe =>
    simp only [Except.error.injEq, exists_eq', iff_true]
    exact ⟨.makePipe pipe (.error errno), by simp, by simp [Call.refusal?]⟩
  | unborn pipe forking errno openings notes hopenings hpipe hnotes =>
    simp only [Except.error.injEq, exists_eq', iff_true]
    exact ⟨.fork forking (.error errno), by simp, by simp [Call.refusal?]⟩
  | forked arguments io report equipped forking openings notes course reads later pid failure heard
      ready hopenings hnotes hreached hcourse hheard hlater =>
    simp only [reduceCtorEq, exists_false, iff_false, not_exists, not_and, not_not]
    intro call hcall
    simp only [List.mem_append, List.mem_cons] at hcall
    rcases hcall with hcall | rfl | rfl | ((hcall | hcall) | hcall) | hcall
    · exact hopening hopenings call hcall
    · rfl
    · rfl
    · exact htransfer hnotes.isTransfer call hcall
    · rcases hcourse.call_cases hcall with hasker | ⟨goal, bytes, answer, rfl⟩
      · cases call <;> first | rfl | cases hasker
      · rfl
    · exact htransfer hheard.isTransfer call hcall
    · exact htransfer hlater.isTransfer call hcall

end Turn

/-- While stages are waited for, no pipe and no process can be refused. -/
theorem ReapedAll.not_refused {table : Descriptors} {stamp : String} {states : List StageState}
    {outcomes : List StageOutcome} {segments : List (List Call)}
    (h : ReapedAll table stamp states outcomes segments) :
    ∀ call ∈ segments.flatten, call.refusal? = none := by
  intro call hcall
  rcases h.call_cases call hcall with hwrite | ⟨pid, event, rfl⟩
  · exact Call.refusal?_of_isTransfer (Call.isTransfer_of_isWrite hwrite)
  · rfl

namespace Pipeline

variable [Kernel σ] {streams : Streams} {p : Pipeline} {s : ShellState (Recorded σ)}

/-- What it means that a report has the outcome of every stage in its place. -/
structure Exact (streams : Streams) (p : Pipeline) (s : ShellState (Recorded σ))
    (report : Report) : Prop where
  /-- There is one pipe less than there are stages. -/
  pipes : report.pipes + 1 = p.length
  /-- There is an outcome for every stage. -/
  length : report.outcomes.length = p.length
  /-- Every stage had its turn. -/
  attempted : (p.turns streams s).length = p.length
  /-- First all pipes are made, then the stages have their turns, and then they are waited for, a
  segment for each of them. The outcome at a position is that of the stage at this position, and
  follows from its own turn and its own segment. -/
  entries : ∃ (notes later : List Call) (segments : List (List Call)),
    (p.execute streams).transcript s = pipesMade s.fresh p.joints ++ notes ++
      (p.turns streams s).flatMap (Turn.transcript streams) ++ segments.flatten ++ later ∧
    Noted s.descriptors s.log.stamp notes ∧ Noted s.descriptors s.log.stamp later ∧
    segments.length = p.length ∧
    ∀ (i : Nat) (t : Turn σ) (waits : List Call) (outcome : StageOutcome),
      (p.turns streams s)[i]? = some t →
      segments[i]? = some waits → report.outcomes[i]? = some outcome →
        p.stages[i]? = some t.stage ∧
        (∀ pid table event, .wait pid table event ∈ waits →
          ∃ forked, .fork forked (.ok pid) ∈ t.transcript streams) ∧
        t.stage.Accounted (t.transcript streams) waits outcome
  /-- The outcome of the last stage alone decides what the pipeline comes to. -/
  conclusion : ∃ (t : Turn σ) (waits : List Call) (outcome : StageOutcome),
    (p.turns streams s)[p.joints]? = some t ∧
    t.stage.Accounted (t.transcript streams) waits outcome ∧
    report.conclusion = Report.concludeFrom (some outcome)

/-- There is a report exactly if all pipes and processes could be made. -/
theorem report_iff (streams : Streams) (p : Pipeline) (s : ShellState (Recorded σ)) :
    (∃ report, (p.execute streams s).1 = .ok report) ↔
      ∀ call ∈ (p.execute streams).transcript s, call.refusal? = none := by
  have hmade : ∀ {first count : Nat}, ∀ call ∈ pipesMade first count, call.refusal? = none := by
    intro first count call hcall
    obtain ⟨pipe, -, rfl⟩ := List.mem_map.1 hcall
    rfl
  have hnoted : ∀ {notes : List Call}, Noted s.descriptors s.log.stamp notes →
      ∀ call ∈ notes, call.refusal? = none := fun hnotes call hcall =>
    Call.refusal?_of_isTransfer (hnotes.isTransfer call hcall)
  have htranscript := (transcribed_execute streams p s).2
  generalize (p.execute streams s).1 = result at htranscript
  generalize (p.execute streams).transcript s = calls at htranscript
  cases htranscript with
  | unpiped errno done hdone hturns =>
    simp only [reduceCtorEq, exists_false, false_iff]
    intro hnone
    cases hnone _ (List.mem_append_right _ (List.mem_singleton_self _))
  | finished states outcomes notes later segments hresults hall hnotes hreaped hlater =>
    simp only [Except.ok.injEq, exists_eq', true_iff]
    intro call hcall
    simp only [List.mem_append] at hcall
    rcases hcall with (((hcall | hcall) | hcall) | hcall) | hcall
    · exact hmade call hcall
    · exact hnoted hnotes call hcall
    · obtain ⟨t, ht, hcall⟩ := List.mem_flatMap.1 hcall
      apply Classical.byContradiction
      intro hrefused
      obtain ⟨error, herror⟩ :=
        (transcript_of_mem_turns ht).2.1.refused_iff.1 ⟨call, hcall, hrefused⟩
      have hmem := List.mem_map_of_mem (f := Turn.result streams) ht
      rw [hresults, herror] at hmem
      simp at hmem
    · exact hreaped.not_refused call hcall
    · exact hnoted hlater call hcall
  | stopped states outcomes error notes later segments hresults hnotes hreaped hlater =>
    simp only [reduceCtorEq, exists_false, false_iff]
    intro hnone
    have hmem : .error error ∈ (p.turns streams s).map (Turn.result streams) := by
      rw [hresults]
      exact List.mem_append_right _ (List.mem_singleton_self _)
    obtain ⟨t, ht, herror⟩ := List.mem_map.1 hmem
    obtain ⟨call, hcall, hrefused⟩ :=
      (transcript_of_mem_turns ht).2.1.refused_iff.2 ⟨error, herror⟩
    refine hrefused (hnone call ?_)
    simp only [List.mem_append, List.mem_flatMap]
    exact Or.inl (Or.inl (Or.inr ⟨t, ht, hcall⟩))

/-- What a report is made of: every stage has its turn, and then every stage is waited for. -/
structure Resolved (streams : Streams) (p : Pipeline) (s : ShellState (Recorded σ))
    (report : Report) : Prop where
  /-- There is one pipe less than there are stages. -/
  pipes : report.pipes + 1 = p.length
  /-- There is an outcome for every stage. -/
  length : report.outcomes.length = p.length
  /-- Every stage had its turn. -/
  attempted : (p.turns streams s).length = p.length
  /-- First all pipes are made, then the stages have their turns, and then they are waited for, a
  segment for each of them. -/
  entries : ∃ (notes later : List Call) (segments : List (List Call)),
    (p.execute streams).transcript s = pipesMade s.fresh p.joints ++ notes ++
      (p.turns streams s).flatMap (Turn.transcript streams) ++ segments.flatten ++ later ∧
    Noted s.descriptors s.log.stamp notes ∧ Noted s.descriptors s.log.stamp later ∧
    segments.length = p.length ∧
    ∀ (i : Nat) (t : Turn σ), (p.turns streams s)[i]? = some t →
      ∃ state waits outcome, segments[i]? = some waits ∧ report.outcomes[i]? = some outcome ∧
        t.result streams = .ok state ∧
        Reaped s.descriptors s.log.stamp state outcome waits

theorem resolved_of_report {report : Report} (hreport : (p.execute streams s).1 = .ok report) :
    p.Resolved streams s report := by
  have htranscript := (transcribed_execute streams p s).2
  rw [hreport] at htranscript
  generalize hcalls : (p.execute streams).transcript s = calls at htranscript
  cases htranscript with
  | finished states outcomes notes later segments hresults hall hnotes hreaped hlater =>
    have hlengths : states.length = p.length := by
      have hsame := congrArg List.length hresults
      rw [List.length_map, List.length_map] at hsame
      exact hsame.symm.trans hall
    refine ⟨joints_add_one p, hreaped.length_eq.1.trans hlengths, hall, notes, later, segments,
      hcalls, hnotes, hlater, hreaped.length_eq.2.trans hlengths, ?_⟩
    intro i t hi
    obtain ⟨state, hstate, hok⟩ := exists_state hresults hi
    obtain ⟨outcome, waits, houtcome, hwaits, hstage⟩ := hreaped.get hstate
    exact ⟨state, waits, outcome, hwaits, houtcome, hok, hstage⟩

/-- If the report of its process is passed on, the outcome of a stage is accounted for by what is
asked for in its turn and while it is waited for. -/
theorem accounted_of_mem_turns (hopen : streams.Open s) (hnumbered : Numbered s) {t : Turn σ}
    (ht : t ∈ p.turns streams s) (hspared : Spared (t.transcript streams))
    (hreporting : ∀ pipe, .makePipe pipe (.ok ()) ∈ t.transcript streams →
      Reporting (t.transcript streams) pipe) {state : StageState} {outcome : StageOutcome}
    {waits : List Call} (hresult : t.result streams = .ok state)
    (hreaped : Reaped s.descriptors s.log.stamp state outcome waits) :
    t.stage.Accounted (t.transcript streams) waits outcome := by
  obtain ⟨row, hrow, hplaced⟩ := placed_turns streams p s
  have hindex : t.index ≤ row.length := hrow ▸ index_le_of_mem_turns ht
  have hturn := (transcript_of_mem_turns ht).2.1
  rw [hresult] at hturn
  exact ((hplaced t ht).fate hindex hopen hnumbered hturn hspared hreporting).accounted hreaped

/-- If reports are passed on, a report of a pipeline has the outcome of every stage in its place. -/
theorem exact_of_report (hopen : streams.Open s) (hnumbered : Numbered s)
    (hspared : ∀ t ∈ p.turns streams s, Spared (t.transcript streams))
    (hreporting : ∀ t ∈ p.turns streams s, ∀ pipe, .makePipe pipe (.ok ()) ∈ t.transcript streams →
      Reporting (t.transcript streams) pipe) {report : Report}
    (hreport : (p.execute streams s).1 = .ok report) : p.Exact streams s report := by
  obtain ⟨hpipes, hlength, hattempted, notes, later, segments, hcalls, hnotes, hlater, hsegments,
    hstages⟩ := resolved_of_report hreport
  have haccounted : ∀ (i : Nat) (t : Turn σ), (p.turns streams s)[i]? = some t →
      ∃ waits outcome, segments[i]? = some waits ∧ report.outcomes[i]? = some outcome ∧
        (∀ pid table event, .wait pid table event ∈ waits →
          ∃ forked, .fork forked (.ok pid) ∈ t.transcript streams) ∧
        t.stage.Accounted (t.transcript streams) waits outcome := by
    intro i t hi
    have ht := List.mem_of_getElem? hi
    obtain ⟨state, waits, outcome, hwaits, houtcome, hresult, hstage⟩ := hstages i t hi
    refine ⟨waits, outcome, hwaits, houtcome, fun pid table event hwait => ?_,
      accounted_of_mem_turns hopen hnumbered ht (hspared t ht) (hreporting t ht) hresult hstage⟩
    have hturn := (transcript_of_mem_turns ht).2.1
    rw [hresult] at hturn
    rcases hstage.call_cases _ hwait with hwrite | ⟨pid', event', hprocess, heq⟩
    · cases hwrite
    · cases heq
      exact hturn.fork_mem hprocess
  refine ⟨hpipes, hlength, hattempted, ?_, ?_⟩
  · refine ⟨notes, later, segments, hcalls, hnotes, hlater, hsegments, ?_⟩
    intro i t waits outcome hi hwaits houtcome
    obtain ⟨waits', outcome', hwaits', houtcome', hforked, hstage⟩ := haccounted i t hi
    rw [hwaits] at hwaits'
    rw [houtcome] at houtcome'
    cases hwaits'
    cases houtcome'
    exact ⟨(index_of_getElem?_turns hi).2, hforked, hstage⟩
  · have hlt : p.joints < (p.turns streams s).length := by
      rw [hattempted, ← joints_add_one]
      exact Nat.lt_succ_self _
    obtain ⟨waits, outcome, -, houtcome, -, hstage⟩ :=
      haccounted p.joints _ (List.getElem?_eq_getElem hlt)
    refine ⟨_, waits, outcome, List.getElem?_eq_getElem hlt, hstage, ?_⟩
    rw [Report.conclusion, List.getLast?_eq_getElem?, hlength, ← joints_add_one,
      Nat.add_sub_cancel, houtcome]

/-- If the first or the second descriptor of a shell is open, no process of a pipeline loses the
descriptor for its report. -/
theorem spared_of_mem_turns (hnumbered : Numbered s)
    (hstreams : s.descriptors.get? 0 ≠ none ∨ s.descriptors.get? 1 ≠ none) {t : Turn σ}
    (ht : t ∈ p.turns streams s) : Spared (t.transcript streams) := by
  obtain ⟨row, -, hplaced⟩ := placed_turns streams p s
  exact (transcript_of_mem_turns ht).2.1.spared (hplaced t ht) hnumbered hstreams

/-- Whatever the system answers, a pipeline has a report exactly if all pipes and processes could be
made, and the report has the outcome of every stage in its place, if no process loses the descriptor
for its report to one of its own streams. -/
theorem reporting_execute (streams : Streams) (p : Pipeline) (s : ShellState (Recorded σ)) :
    ((∃ report, (p.execute streams s).1 = .ok report) ↔
      ∀ call ∈ (p.execute streams).transcript s, call.refusal? = none) ∧
    (streams.Open s → Numbered s →
      (∀ t ∈ p.turns streams s, Spared (t.transcript streams)) →
      (∀ t ∈ p.turns streams s, ∀ pipe, .makePipe pipe (.ok ()) ∈ t.transcript streams →
        Reporting (t.transcript streams) pipe) →
      ∀ report, (p.execute streams s).1 = .ok report → p.Exact streams s report) :=
  ⟨report_iff streams p s, fun hopen hnumbered hspared hreporting _ hreport =>
    exact_of_report hopen hnumbered hspared hreporting hreport⟩

/-- A stage whose program is missing, one with an argument that cannot be passed on, and one that
ends by itself with the status of a program that could not be started. -/
def failingStages : Pipeline :=
  ⟨⟨"nope", [], none, none⟩, [⟨"a", ["b\x00"], none, none⟩, ⟨"sh", [], none, none⟩]⟩

theorem reporting_execute_chronicle :
    ∃ report, (failingStages.execute .inherited
        (Chronicle.shell [utf8 "nope"] [.exited 127, .exited 127])).1 = .ok report ∧
      report.conclusion = .ok (.exited 127) ∧
      failingStages.Exact .inherited
        (Chronicle.shell [utf8 "nope"] [.exited 127, .exited 127]) report := by
  have hnumbered := Chronicle.numbered_shell [utf8 "nope"] [.exited 127, .exited 127]
  have hreporting : ∀ t ∈ failingStages.turns .inherited
      (Chronicle.shell [utf8 "nope"] [.exited 127, .exited 127]),
      ∀ pipe ∈ (t.transcript .inherited).filterMap Call.made?,
        Reporting (t.transcript .inherited) pipe := by decide +kernel
  have hconclusion : ((failingStages.execute .inherited
      (Chronicle.shell [utf8 "nope"] [.exited 127, .exited 127])).1.toOption.bind
        fun report => report.conclusion.toOption) = some (.exited 127) := by decide +kernel
  obtain ⟨report, hreport, hlast⟩ := Option.bind_eq_some_iff.1 hconclusion
  have hexact := (reporting_execute .inherited failingStages _).2 (Streams.open_inherited _)
    hnumbered (fun t ht => spared_of_mem_turns hnumbered (Or.inl (by decide)) ht)
    fun t ht => forall_reporting_iff.2 (hreporting t ht)
  exact ⟨report, eq_ok_of_toOption hreport, eq_ok_of_toOption hlast,
    hexact report (eq_ok_of_toOption hreport)⟩

/-- A single stage whose program is missing. -/
def missingStage : Pipeline := ⟨⟨"nope", [], none, none⟩, []⟩

/-- If neither of the first two descriptors is open, the process of a stage makes a duplicate of its
output where its error number was to be reported. Its program is missing, and yet the outcome of the
stage is that of a program which ended by itself. -/
theorem misreported_of_closed :
    (missingStage.execute ⟨some 5, some 6⟩
        (Chronicle.shellWith [2, 5, 6] [] [utf8 "nope"] [.exited 127])).1 =
        .ok ⟨0, [.finished (.exited 127)]⟩ ∧
      (∀ t ∈ missingStage.turns ⟨some 5, some 6⟩
          (Chronicle.shellWith [2, 5, 6] [] [utf8 "nope"] [.exited 127]),
        ∀ pipe ∈ (t.transcript ⟨some 5, some 6⟩).filterMap Call.made?,
          Reporting (t.transcript ⟨some 5, some 6⟩) pipe) ∧
      ¬ missingStage.Exact ⟨some 5, some 6⟩
        (Chronicle.shellWith [2, 5, 6] [] [utf8 "nope"] [.exited 127])
        ⟨0, [.finished (.exited 127)]⟩ := by
  refine ⟨eq_ok_of_toOption (by decide +kernel), by decide +kernel, fun hexact => ?_⟩
  obtain ⟨t, waits, outcome, ht, haccounted, hconclusion⟩ := hexact.conclusion
  have hrefused : ∀ t ∈ missingStage.turns ⟨some 5, some 6⟩
      (Chronicle.shellWith [2, 5, 6] [] [utf8 "nope"] [.exited 127]),
      t.stage.openFault? (t.transcript ⟨some 5, some 6⟩) = none ∧
        ∃ call ∈ t.transcript ⟨some 5, some 6⟩, call.startFault? ≠ none := by decide +kernel
  obtain ⟨hopened, hfault⟩ := hrefused t (List.mem_of_getElem? ht)
  obtain ⟨reason, rfl⟩ := haccounted.unstarted.2 ⟨hopened, Or.inr hfault⟩
  cases hconclusion

end Pipeline

end CommandShell
