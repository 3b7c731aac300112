import CommandShell.Proofs.Ownership
import Mathlib.Tactic.Tauto

/-!
# Balance of descriptors

Whatever becomes of a line, the shell has the same descriptors behind it as in front of it. Every
action on the way is judged by the descriptors that it is given and those that it keeps: a stage is
given the ends of its pipes and keeps none, the pipes between the stages give up the ends that are
taken, and what remains of them is closed before the shell waits. Main statement: after any lines
the table is the one from before (`descriptors_runLines`).
-/

namespace CommandShell

open Shell

variable {σ α β : Type}

namespace StageIo

/-- The descriptors that belong to a stage. -/
def held (io : StageIo) : List Fd := io.input.toList ++ io.output.toList

theorem trades_close (io : StageIo) : Trades (io.close : Shell σ Unit) io.held fun _ => [] :=
  ((trades_closeOption io.input).frame io.output.toList).bind fun _ => trades_closeOption io.output

/-- Of a redirection and the end of a pipe one is kept. -/
theorem trades_prefer (redirected piped : Option Fd) :
    Trades (prefer redirected piped : Shell σ _) (redirected.toList ++ piped.toList)
      Option.toList := by
  cases redirected with
  | none => exact Trades.pure piped Option.toList
  | some fd =>
    have hclose := (trades_closeOption (σ := σ) piped).frame [fd]
    refine Trades.bind (hclose.congr (by simp [or_comm]) (fun _ _ => Iff.rfl)) fun _ => ?_
    exact Trades.pure (some fd) Option.toList

/-- The descriptor that opening the target of a redirection leaves, if there is one. -/
def target : Except ShellError (Option Fd) → List Fd
  | .error _ => []
  | .ok fd => fd.toList

theorem trades_openTarget {open? : String → Shell σ (Except ShellError Fd)}
    (h : ∀ path, Trades (open? path) [] opened) (path : Option String) :
    Trades (openTarget open? path) [] target := by
  cases path with
  | none => exact Trades.pure (.ok none) target
  | some path =>
    refine (h path).bind fun answer => ?_
    cases answer with
    | error error => exact Trades.pure (.error error) target
    | ok fd => exact Trades.pure (.ok (some fd)) target

/-- The descriptors that a stage has once its redirections were opened. -/
def acquired : Except ShellError StageIo → List Fd
  | .error _ => []
  | .ok io => io.held

variable [Kernel σ]

/-- Opening the redirections of a stage gives up the ends of its pipes, or makes them part of what
belongs to the stage. -/
theorem trades_acquire (stage : Stage) (pipedIn pipedOut : Option Fd) :
    Trades (acquire stage pipedIn pipedOut : Shell σ _) (pipedIn.toList ++ pipedOut.toList)
      acquired := by
  have hopenIn := (trades_openTarget (σ := σ) (trades_openFile Kernel.openToRead) stage.input).frame
    (pipedIn.toList ++ pipedOut.toList)
  refine Trades.bind hopenIn fun answer => ?_
  cases answer with
  | error error =>
    exact (trades_close ⟨pipedIn, pipedOut⟩).bind fun _ => Trades.pure (.error error) acquired
  | ok input =>
    have hopenOut := (trades_openTarget (σ := σ) (trades_openFile Kernel.openToWrite)
      stage.output).frame (input.toList ++ (pipedIn.toList ++ pipedOut.toList))
    refine Trades.bind hopenOut fun answer => ?_
    cases answer with
    | error error =>
      refine Trades.bind ((trades_closeOption input).frame _) fun _ => ?_
      exact (trades_close ⟨pipedIn, pipedOut⟩).bind fun _ => Trades.pure (.error error) acquired
    | ok output =>
      have hpreferIn := (trades_prefer (σ := σ) input pipedIn).frame
        (output.toList ++ pipedOut.toList)
      refine Trades.bind (hpreferIn.congr (fun fd => ?_) fun _ _ => Iff.rfl) fun chosenIn => ?_
      · simp only [target, List.mem_append]
        tauto
      have hpreferOut := (trades_prefer (σ := σ) output pipedOut).frame chosenIn.toList
      refine Trades.bind (hpreferOut.congr (fun fd => ?_) fun _ _ => Iff.rfl) fun chosenOut => ?_
      · simp only [List.mem_append]
        tauto
      refine (Trades.pure (.ok ⟨chosenIn, chosenOut⟩) acquired).congr (fun fd => ?_)
        fun _ _ => Iff.rfl
      simp only [acquired, held, List.mem_append]
      tauto

end StageIo

namespace PipeSet

/-- What is taken out of a place of a list, and what is left, is all that there was. -/
theorem mem_take (list : List (Option Fd)) (index : Nat) (fd : Fd) :
    fd ∈ list.filterMap id ↔
      fd ∈ list[index]?.join.toList ∨ fd ∈ (list.set index none).filterMap id := by
  induction list generalizing index with
  | nil => simp
  | cons first rest ih =>
    cases index with
    | zero => cases first <;> simp
    | succ index =>
      have hrest := ih index
      cases first with
      | none => simpa using hrest
      | some held =>
        simp only [List.filterMap_cons, id, List.mem_cons, List.getElem?_cons_succ,
          List.set_cons_succ]
        tauto

/-- The ends that are left and the one that a stage takes to read from are all that there were. -/
theorem mem_takeInput (pipes : PipeSet) (index : Nat) (fd : Fd) :
    fd ∈ pipes.ends ↔
      fd ∈ (pipes.takeInput index).1.toList ++ (pipes.takeInput index).2.ends := by
  rw [takeInput]
  split
  · have htake := mem_take pipes.readers (index - 1) fd
    simp only [takeReader, ends, List.mem_append, htake]
    tauto
  · simp

/-- The ends that are left and the one that a stage takes to write to are all that there were. -/
theorem mem_takeOutput (pipes : PipeSet) (last index : Nat) (fd : Fd) :
    fd ∈ pipes.ends ↔
      fd ∈ (pipes.takeOutput last index).1.toList ++ (pipes.takeOutput last index).2.ends := by
  rw [takeOutput]
  split
  · have htake := mem_take pipes.writers index fd
    simp only [takeWriter, ends, List.mem_append, htake]
    tauto
  · simp

/-- A new pipe adds its two ends. -/
theorem mem_push (pipes : PipeSet) (added : PipeEnds) (fd : Fd) :
    fd ∈ (pipes.push added).ends ↔ fd ∈ added.both ++ pipes.ends := by
  simp only [push, ends, PipeEnds.both, List.filterMap_append, List.mem_append]
  simp
  tauto

/-- The ends of the pipes that were made. -/
def allocated : Except Errno PipeSet → List Fd
  | .error _ => []
  | .ok pipes => pipes.ends

theorem trades_close (pipes : PipeSet) :
    Trades (pipes.close : Shell σ Unit) pipes.ends fun _ => [] :=
  trades_closeAll pipes.ends

variable [Kernel σ]

/-- Either all pipes are made, or none of those that were made before is kept. -/
theorem trades_allocate (pipes : PipeSet) (count : Nat) :
    Trades (allocate pipes count : Shell σ _) pipes.ends allocated := by
  induction count generalizing pipes with
  | zero => exact Trades.pure (.ok pipes) allocated
  | succ count ih =>
    refine Trades.bind (trades_makePipe.frame pipes.ends) fun answer => ?_
    cases answer with
    | error errno => exact (trades_close pipes).bind fun _ => Trades.pure (.error errno) allocated
    | ok added => exact (ih (pipes.push added)).congr (mem_push pipes added) fun _ _ => Iff.rfl

end PipeSet

/-! ## Stages -/

section

variable [Kernel σ]

theorem quiet_readReport (reader : Fd) : Quiet (readReport reader : Shell σ _) := by
  refine quiet_get.bind fun s => ?_
  cases s.descriptors.get? reader with
  | none => exact Quiet.pure none
  | some slot =>
    refine (quiet_ask _).bind fun answer => ?_
    cases answer <;> exact Quiet.pure _

/-- Making the process of a stage gives up what belongs to the stage and the pipe of its report. -/
theorem trades_launchStage (streams : Streams) (index : Nat) (stage : Stage)
    (arguments : ArgumentVector) (io : StageIo) (report : PipeEnds) :
    Trades (launchStage streams index stage arguments io report : Shell σ _)
      (report.both ++ io.held) fun _ => [] := by
  refine Trades.after_quiet quiet_get fun _ => Trades.after_quiet (quiet_ask _) fun answer => ?_
  cases answer with
  | error errno =>
    refine Trades.after_quiet (quiet_note _) fun _ => ?_
    refine Trades.bind ((trades_pipeEnds_close report).frame io.held) fun _ => ?_
    exact io.trades_close.bind fun _ => Trades.pure _ fun _ => []
  | ok pid =>
    refine Trades.after_quiet quiet_get fun state => ?_
    have hwriter := (trades_close (σ := σ) report.writer).frame (io.held ++ [report.reader])
    refine Trades.bind (hwriter.congr (fun fd => ?_) fun _ _ => Iff.rfl) fun _ => ?_
    · simp only [PipeEnds.both, List.mem_append, List.mem_cons]
      tauto
    refine Trades.bind (io.trades_close.frame [report.reader]) fun _ => ?_
    refine Trades.after_quiet (quiet_note _) fun _ => Trades.after_quiet (quiet_ask _) fun _ => ?_
    refine Trades.after_quiet (quiet_readReport _) fun failure => ?_
    refine Trades.bind (trades_close report.reader) fun _ => ?_
    cases failure with
    | none => exact Trades.pure _ fun _ => []
    | some errno => exact Trades.after_quiet (quiet_note _) fun _ => Trades.pure _ fun _ => []

/-- Starting a stage gives up what belongs to it, whatever comes of it. -/
theorem trades_spawnStage (streams : Streams) (index : Nat) (stage : Stage) (io : StageIo) :
    Trades (spawnStage streams index stage io : Shell σ _) io.held fun _ => [] := by
  rw [spawnStage]
  cases ArgumentVector.ofArguments stage.argv with
  | error reason => exact io.trades_close.bind fun _ => Trades.pure _ fun _ => []
  | ok arguments =>
    refine Trades.bind (trades_makePipe.frame io.held) fun answer => ?_
    cases answer with
    | error errno => exact io.trades_close.bind fun _ => Trades.pure _ fun _ => []
    | ok report => exact trades_launchStage streams index stage arguments io report

/-- The turn of a stage gives up the ends of its pipes, whatever comes of it. -/
theorem trades_startStage (streams : Streams) (index : Nat) (stage : Stage)
    (pipedIn pipedOut : Option Fd) :
    Trades (startStage streams index stage pipedIn pipedOut : Shell σ _)
      (pipedIn.toList ++ pipedOut.toList) fun _ => [] := by
  refine Trades.bind (StageIo.trades_acquire stage pipedIn pipedOut) fun answer => ?_
  cases answer with
  | error error => exact Trades.after_quiet (quiet_note _) fun _ => Trades.pure _ fun _ => []
  | ok io => exact trades_spawnStage streams index stage io

/-- The turns of all stages leave the ends of pipes that no stage has taken. -/
theorem trades_spawnAll (streams : Streams) (last index : Nat) (pipes : PipeSet)
    (stages : List Stage) :
    Trades (spawnAll streams last index pipes stages : Shell σ _) pipes.ends
      fun result => result.2.2.ends := by
  induction stages generalizing index pipes with
  | nil => exact Trades.pure ([], none, pipes) fun result => result.2.2.ends
  | cons stage rest ih =>
    rw [spawnAll]
    rcases hin : pipes.takeInput index with ⟨pipedIn, pipes₁⟩
    dsimp only
    rcases hout : pipes₁.takeOutput last index with ⟨pipedOut, pipes₂⟩
    have hmem : ∀ fd,
        fd ∈ (pipedIn.toList ++ pipedOut.toList) ++ pipes₂.ends ↔ fd ∈ pipes.ends := by
      intro fd
      have h₁ := pipes.mem_takeInput index fd
      have h₂ := pipes₁.mem_takeOutput last index fd
      simp only [hin, hout, List.mem_append] at h₁ h₂ ⊢
      rw [h₁, h₂]
      tauto
    have hstart := trades_startStage (σ := σ) streams index stage pipedIn pipedOut
    refine Trades.bind ((hstart.frame pipes₂.ends).congr hmem fun _ _ => Iff.rfl) fun answer => ?_
    cases answer with
    | error error => exact Trades.pure ([], some error, pipes₂) fun result => result.2.2.ends
    | ok state =>
      refine Trades.bind (ih (index + 1) pipes₂) fun result => ?_
      exact Trades.pure (state :: result.1, result.2) fun result => result.2.2.ends

/-! ## Pipelines -/

/-- Waiting opens and closes nothing. -/
theorem quiet_waitTerminal (pid : Pid) : Quiet (waitTerminal pid : Shell σ _) := by
  intro s
  fun_induction waitTerminal pid s with
  | case1 s answer status h => exact ⟨rfl, rfl⟩
  | case2 s answer errno h => exact ⟨rfl, rfl⟩
  | case3 s answer h hless ih => exact ih
  | case4 s answer notice h hless ih =>
    have hnote := quiet_note (.notTerminal pid notice) (s.withHost answer.2)
    exact ⟨ih.1.trans hnote.1, ih.2.trans hnote.2⟩

theorem quiet_reap (state : StageState) : Quiet (state.reap : Shell σ _) := by
  cases state with
  | settled outcome => exact Quiet.pure outcome
  | running pid =>
    refine (quiet_waitTerminal pid).bind fun answer => ?_
    cases answer with
    | error error => exact (quiet_note _).bind fun _ => Quiet.pure _
    | ok status => exact Quiet.pure _
  | execFailed pid reason =>
    refine (quiet_waitTerminal pid).bind fun answer => ?_
    cases answer with
    | error error => exact (quiet_note _).bind fun _ => Quiet.pure _
    | ok status => exact Quiet.pure _

theorem quiet_reapAll (states : List StageState) : Quiet (reapAll states : Shell σ _) := by
  induction states with
  | nil => exact Quiet.pure []
  | cons state rest ih => exact (quiet_reap state).bind fun _ => ih.bind fun _ => Quiet.pure _

theorem quiet_noteFinished (index : Nat) (outcomes : List StageOutcome) :
    Quiet (noteFinished index outcomes : Shell σ Unit) := by
  induction outcomes generalizing index with
  | nil => exact Quiet.pure ()
  | cons outcome rest ih =>
    cases outcome with
    | finished status => exact (quiet_note _).bind fun _ => ih (index + 1)
    | aborted error => exact ih (index + 1)

/-- A pipeline keeps none of the descriptors that it opens. -/
theorem trades_execute (streams : Streams) (p : Pipeline) :
    Trades (p.execute streams : Shell σ _) [] fun _ => [] := by
  refine Trades.bind (PipeSet.trades_allocate .empty p.joints) fun answer => ?_
  cases answer with
  | error errno => exact Trades.pure _ fun _ => []
  | ok pipes =>
    refine Trades.after_quiet (quiet_note _) fun _ => ?_
    refine Trades.bind (trades_spawnAll streams p.joints 0 pipes p.stages) fun result => ?_
    obtain ⟨states, fault, left⟩ := result
    refine Trades.bind left.trades_close fun _ => ?_
    refine Trades.after_quiet (quiet_reapAll states) fun outcomes =>
      Trades.after_quiet (quiet_noteFinished 0 outcomes) fun _ => ?_
    cases fault <;> exact Trades.pure _ fun _ => []

/-! ## Builtins -/

theorem quiet_conclude (verdict : Verdict) : Quiet (verdict.conclude : Shell σ Outcome) := by
  obtain ⟨complaint, event, outcome⟩ := verdict
  cases complaint with
  | none =>
    cases event with
    | none => exact Quiet.pure outcome
    | some event => exact (quiet_note event).bind fun _ => Quiet.pure outcome
  | some text =>
    refine (quiet_complain (text ++ "\n")).bind fun _ => ?_
    cases event with
    | none => exact Quiet.pure outcome
    | some event => exact (quiet_note event).bind fun _ => Quiet.pure outcome

theorem quiet_writeText (fd : Fd) (text : String) : Quiet (writeText fd text : Shell σ _) := by
  rw [writeText]
  split
  · exact Quiet.pure none
  · refine (quiet_write fd (utf8 text)).bind fun answer => ?_
    cases answer <;> exact Quiet.pure _

theorem quiet_deliverToFile (reply : Reply) (fd : Fd) :
    Quiet (reply.deliverToFile fd : Shell σ Outcome) :=
  (quiet_writeText fd reply.output).bind fun _ => quiet_conclude _

theorem quiet_deliverToOutput (reply : Reply) :
    Quiet (reply.deliverToOutput : Shell σ Outcome) := by
  rw [Reply.deliverToOutput]
  refine (quiet_writeText _ _).bind fun answer => (quiet_conclude _).bind fun outcome => ?_
  cases forgiveClosed answer with
  | some fault => exact Quiet.pure outcome
  | none =>
    refine (quiet_writeText _ _).bind fun answer => ?_
    cases hrest : forgiveClosed answer with
    | none => simpa only [hrest] using Quiet.pure outcome
    | some fault =>
      have hnoted := quiet_note (σ := σ) (.outputNotFlushed fault)
      simpa only [hrest] using hnoted.bind fun _ => Quiet.pure outcome

/-! ## Lines -/

namespace Interpreter

omit [Kernel σ] in
theorem quiet_consult (sh : Interpreter σ) (handler : Handler σ) (stage : Stage) :
    Quiet (sh.consult handler stage) := quiet_within _

theorem trades_runToOutput (sh : Interpreter σ) (handler : Handler σ) (stage : Stage) :
    Trades (sh.runToOutput handler stage) [] fun _ => [] := by
  rw [runToOutput]
  cases stage.output with
  | none =>
    refine Trades.after_quiet (sh.quiet_consult handler stage) fun reply => ?_
    exact Trades.after_quiet (quiet_deliverToOutput reply) fun _ => Trades.pure _ fun _ => []
  | some path =>
    refine Trades.bind (trades_openFile Kernel.openToWrite path) fun answer => ?_
    cases answer with
    | error error => exact Trades.pure _ fun _ => []
    | ok fd =>
      refine Trades.after_quiet (sh.quiet_consult handler stage) fun reply =>
        Trades.after_quiet (quiet_deliverToFile reply fd) fun outcome => ?_
      exact Trades.bind (trades_close fd) fun _ => Trades.pure _ fun _ => []

theorem trades_runBuiltin (sh : Interpreter σ) (handler : Handler σ) (stage : Stage) :
    Trades (sh.runBuiltin handler stage) [] fun _ => [] := by
  rw [runBuiltin]
  cases stage.input with
  | none => exact sh.trades_runToOutput handler stage
  | some path =>
    refine Trades.bind (trades_openFile Kernel.openToRead path) fun answer => ?_
    cases answer with
    | error error => exact Trades.pure _ fun _ => []
    | ok fd => exact Trades.bind (trades_close fd) fun _ => sh.trades_runToOutput handler stage

theorem quiet_complainAborted (index : Nat) (outcomes : List StageOutcome) :
    Quiet (complainAborted index outcomes : Shell σ Unit) := by
  induction outcomes generalizing index with
  | nil => exact Quiet.pure ()
  | cons outcome rest ih =>
    cases outcome with
    | finished status => exact ih (index + 1)
    | aborted error =>
      refine (quiet_complain _).bind fun _ => quiet_isDown.bind fun down => ?_
      cases down with
      | true => exact Quiet.pure ()
      | false => exact ih (index + 1)

theorem trades_runPrograms (sh : Interpreter σ) (p : Pipeline) :
    Trades (sh.runPrograms p) [] fun _ => [] := by
  refine Trades.bind (trades_execute sh.streams p) fun answer => ?_
  cases answer with
  | error error => exact Trades.pure _ fun _ => []
  | ok report =>
    refine Trades.after_quiet (quiet_complainAborted 0 report.earlier) fun _ => ?_
    cases report.conclusion <;> exact Trades.pure _ fun _ => []

theorem trades_dispatch (sh : Interpreter σ) (p : Pipeline) :
    Trades (sh.dispatch p) [] fun _ => [] := by
  rw [dispatch]
  cases sh.route p with
  | none => exact Trades.after_quiet (quiet_note _) fun _ => sh.trades_runPrograms p
  | some chosen =>
    exact Trades.after_quiet (quiet_note _) fun _ => sh.trades_runBuiltin chosen.1 chosen.2

omit [Kernel σ] in
theorem quiet_recover : Quiet (recover : Shell σ Unit) := fun _ => ⟨rfl, rfl⟩

theorem trades_executeLine (sh : Interpreter σ) (line : String) :
    Trades (sh.execute line) [] fun _ => [] := by
  refine Trades.after_quiet quiet_recover fun _ => Trades.after_quiet (quiet_note _) fun _ => ?_
  split
  · exact Trades.pure _ fun _ => []
  · cases Pipeline.ofTokens (Token.scan line) with
    | error fault => exact Trades.pure _ fun _ => []
    | ok p => exact sh.trades_dispatch p

theorem quiet_settleLine (result : Except ShellError Outcome) :
    Quiet (settleLine result : Shell σ Outcome) := by
  refine quiet_isDown.bind fun down => ?_
  cases down with
  | true => exact Quiet.pure _
  | false =>
    cases result with
    | ok outcome => exact Quiet.pure outcome
    | error error =>
      exact (quiet_note _).bind fun _ => (quiet_complain _).bind fun _ => Quiet.pure _

omit [Kernel σ] in
theorem quiet_keepStatus (outcome : Outcome) : Quiet (keepStatus outcome : Shell σ Outcome) := by
  refine quiet_isDown.bind fun down => ?_
  cases down with
  | true => exact Quiet.pure _
  | false => exact fun _ => ⟨rfl, rfl⟩

/-- A line keeps none of the descriptors that it opens. -/
theorem trades_runLine (sh : Interpreter σ) (line : String) :
    Trades (sh.runLine line) [] fun _ => [] := by
  refine Trades.bind (sh.trades_executeLine line) fun result =>
    Trades.after_quiet (quiet_settleLine result) fun outcome => ?_
  simpa using Trades.after_quiet (quiet_keepStatus outcome) fun kept => Trades.pure kept fun _ => []

/-- Lines, one after the other, keep none of the descriptors that they open. -/
theorem trades_runLines (sh : Interpreter σ) (lines : List String) :
    Trades (lines.mapM sh.runLine) [] fun _ => [] := by
  induction lines with
  | nil => exact Trades.pure _ fun _ => []
  | cons line rest ih =>
    rw [List.mapM_cons]
    exact Trades.bind (sh.trades_runLine line) fun _ => ih.bind fun _ => Trades.pure _ fun _ => []

/-- Whatever lines are run and whatever the system answers, the shell has the same descriptors
behind them as in front of them. -/
theorem descriptors_runLines (sh : Interpreter σ) (lines : List String) (s : ShellState σ) :
    (lines.mapM sh.runLine s).2.descriptors = s.descriptors :=
  (sh.trades_runLines lines).descriptors_eq s

end Interpreter

end

end CommandShell
