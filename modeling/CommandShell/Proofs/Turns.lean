import CommandShell.Proofs.ChildCourse
import CommandShell.Proofs.Opening

/-!
# Turns of the stages

Every stage of a pipeline has its turn, in which its files are opened and its process is made. What
is asked for in a turn, and what comes of it, is one of a few courses, whatever the system answers.
Main statement: every turn takes one of these courses (`Turn.course`).
-/

namespace CommandShell

open Shell

variable {σ : Type}

/-- Opening a file makes no process. -/
theorem Call.forked?_of_isOpening {call : Call} (h : call.isOpening = true) :
    call.forked? = none := by
  cases call <;> first | rfl | cases h

/-- Only the shell opens files. -/
theorem Call.asker?_of_isOpening {call : Call} (h : call.isOpening = true) :
    call.asker? = none := by
  cases call <;> first | rfl | cases h

/-- The process that has to be waited for, if there is one. -/
def StageState.process? : StageState → Option Pid
  | settled _ => none
  | running pid => some pid
  | execFailed pid _ => some pid

/-- The turn of a stage. -/
structure Turn (σ : Type) where
  /-- The position of the stage in its pipeline. -/
  index : Nat
  /-- The stage itself. -/
  stage : Stage
  /-- The end of a pipe that was taken for its input. -/
  pipedIn : Option Fd
  /-- The end of a pipe that was taken for its output. -/
  pipedOut : Option Fd
  /-- The state of the shell at the beginning. -/
  before : ShellState (Recorded σ)

namespace Turn

/-- What the process of a stage is to do, once the stage has its descriptors. -/
def child (streams : Streams) (t : Turn σ) (arguments : ArgumentVector) (io : StageIo)
    (report : PipeEnds) : Child :=
  ⟨t.stage.program, arguments, io.input <|> streams.input, io.output <|> streams.output,
    report.writer⟩

variable [Kernel σ]

/-- What the shell does in a turn. -/
def run (streams : Streams) (t : Turn σ) : Shell (Recorded σ) (Except ShellError StageState) :=
  startStage streams t.index t.stage t.pipedIn t.pipedOut

/-- What comes of a turn. -/
def result (streams : Streams) (t : Turn σ) : Except ShellError StageState :=
  (t.run streams t.before).1

/-- The state of the shell after a turn. -/
def after (streams : Streams) (t : Turn σ) : ShellState (Recorded σ) := (t.run streams t.before).2

/-- What is asked for in a turn. -/
def calls (streams : Streams) (t : Turn σ) : List Call := (t.run streams).newCalls t.before

/-- The stage has its descriptors and a pipe for the report of its process, which is made now. -/
structure Ready (t : Turn σ) (arguments : ArgumentVector) (io : StageIo) (report : PipeEnds)
    (equipped forking : ShellState (Recorded σ)) (openings : List Call) : Prop where
  /-- The arguments can be passed on. -/
  passable : ArgumentVector.ofArguments t.stage.argv = .ok arguments
  /-- The stage was given its descriptors. -/
  acquire_eq : StageIo.acquire t.stage t.pipedIn t.pipedOut t.before = (.ok io, equipped)
  /-- They are those that belong to it. -/
  acquired : Acquired t.stage t.pipedIn t.pipedOut io t.before equipped openings
  /-- The pipe of the report was made. -/
  makePipe_eq : makePipe equipped = (.ok report, forking)

/-- What a stage holds once it was given its descriptors takes the place of the ends of pipes. -/
theorem exchanged_of_acquire {t : Turn σ} {io : StageIo} {s : ShellState (Recorded σ)}
    (h : StageIo.acquire t.stage t.pipedIn t.pipedOut t.before = (.ok io, s)) :
    Exchanged t.before s (t.pipedIn.toList ++ t.pipedOut.toList) io.held := by
  have htrades := StageIo.trades_acquire t.stage t.pipedIn t.pipedOut t.before
  rwa [h] at htrades

/-- A stage is given its descriptors before the pipe for the report is made. -/
theorem Ready.acquiredExchange {t : Turn σ} {arguments : ArgumentVector} {io : StageIo}
    {report : PipeEnds} {equipped forking : ShellState (Recorded σ)} {openings : List Call}
    (h : t.Ready arguments io report equipped forking openings) :
    Exchanged t.before equipped (t.pipedIn.toList ++ t.pipedOut.toList) io.held :=
  exchanged_of_acquire h.acquire_eq

/-- The pipe for the report is a new one. -/
theorem Ready.fresh_le {t : Turn σ} {arguments : ArgumentVector} {io : StageIo}
    {report : PipeEnds} {equipped forking : ShellState (Recorded σ)} {openings : List Call}
    (h : t.Ready arguments io report equipped forking openings) :
    t.before.fresh ≤ equipped.fresh := h.acquiredExchange.fresh_le

/-- The courses that the turn of a stage can take: what comes of it and what is asked for. -/
inductive Course (streams : Streams) (t : Turn σ) :
    Except ShellError StageState → List Call → Prop
  /-- A redirection cannot be opened. -/
  | unopened (error : ShellError) (openings : List Call)
      (only : ∀ asked ∈ openings, asked.isOpening = true) :
      Course streams t (.ok (.settled (.aborted error))) openings
  /-- An argument cannot be passed on. -/
  | unpassable (reason : String) (openings : List Call)
      (only : ∀ asked ∈ openings, asked.isOpening = true)
      (h : ArgumentVector.ofArguments t.stage.argv = .error reason) :
      Course streams t (.ok (.settled (.finished (.startFailed reason)))) openings
  /-- The pipe for the report of the process cannot be made. -/
  | unheard (pipe : Nat) (errno : Errno) (openings : List Call)
      (only : ∀ asked ∈ openings, asked.isOpening = true) (hpipe : t.before.fresh ≤ pipe) :
      Course streams t (.error (.spawn t.index errno)) (openings ++ [.makePipe pipe (.error errno)])
  /-- The process cannot be made. -/
  | unborn (pipe : Nat) (table : Descriptors) (errno : Errno) (openings : List Call)
      (only : ∀ asked ∈ openings, asked.isOpening = true) (hpipe : t.before.fresh ≤ pipe) :
      Course streams t (.error (.spawn t.index errno))
        (openings ++ [.makePipe pipe (.ok ()), .fork table (.error errno)])
  /-- The process is made, and has its own course. -/
  | forked (arguments : ArgumentVector) (io : StageIo) (report : PipeEnds)
      (equipped forking : ShellState (Recorded σ)) (openings course : List Call) (pid : Pid)
      (state : StageState) (ready : t.Ready arguments io report equipped forking openings)
      (hcourse : (t.child streams arguments io report).Course pid forking.descriptors
        forking.surroundings.directory course)
      (hstate : state.process? = some pid) :
      Course streams t (.ok state) (openings ++
        (.makePipe equipped.fresh (.ok ()) :: .fork forking.descriptors (.ok pid) :: course))

/-- What is asked for in a turn: files, a new pipe, a process, and what that process asks for. -/
theorem Course.call_cases {streams : Streams} {t : Turn σ} {result : Except ShellError StageState}
    {calls : List Call} (h : t.Course streams result calls) {call : Call} (hcall : call ∈ calls) :
    call.isOpening = true ∨
      (∃ pipe answer, t.before.fresh ≤ pipe ∧ call = .makePipe pipe answer) ∨
      (∃ table answer, call = .fork table answer) ∨ ∃ pid, call.asker? = some pid := by
  cases h with
  | unopened error openings only => exact Or.inl (only call hcall)
  | unpassable reason openings only h => exact Or.inl (only call hcall)
  | unheard pipe errno openings only hpipe =>
    rcases List.mem_append.1 hcall with hmem | hmem
    · exact Or.inl (only call hmem)
    · exact Or.inr (Or.inl ⟨pipe, _, hpipe, List.mem_singleton.1 hmem⟩)
  | unborn pipe table errno openings only hpipe =>
    rcases List.mem_append.1 hcall with hmem | hmem
    · exact Or.inl (only call hmem)
    · rcases List.mem_cons.1 hmem with heq | hmem
      · exact Or.inr (Or.inl ⟨pipe, _, hpipe, heq⟩)
      · exact Or.inr (Or.inr (Or.inl ⟨table, _, List.mem_singleton.1 hmem⟩))
  | forked arguments io report equipped forking openings course pid state ready hcourse hstate =>
    rcases List.mem_append.1 hcall with hmem | hmem
    · exact Or.inl (ready.acquired.opening call hmem)
    · rcases List.mem_cons.1 hmem with heq | hmem
      · exact Or.inr (Or.inl ⟨equipped.fresh, _, ready.fresh_le, heq⟩)
      · rcases List.mem_cons.1 hmem with heq | hmem
        · exact Or.inr (Or.inr (Or.inl ⟨forking.descriptors, _, heq⟩))
        · exact Or.inr (Or.inr (Or.inr ⟨pid, hcourse.asker call hmem⟩))

/-- If a process was made, or has asked for something, the turn has the course of it. -/
theorem Course.of_process {streams : Streams} {t : Turn σ} {result : Except ShellError StageState}
    {calls : List Call} (h : t.Course streams result calls) {call : Call} (hcall : call ∈ calls)
    (hprocess : call.forked? ≠ none ∨ call.asker? ≠ none) :
    ∃ arguments io report equipped forking openings course pid,
      t.Ready arguments io report equipped forking openings ∧
      (t.child streams arguments io report).Course pid forking.descriptors
        forking.surroundings.directory course ∧
      calls = openings ++
        (.makePipe equipped.fresh (.ok ()) :: .fork forking.descriptors (.ok pid) :: course) := by
  have hopening : ∀ openings : List Call, (∀ asked ∈ openings, asked.isOpening = true) →
      call ∉ openings := by
    intro openings only hmem
    rcases hprocess with hforked | hasker
    · exact hforked (Call.forked?_of_isOpening (only call hmem))
    · exact hasker (Call.asker?_of_isOpening (only call hmem))
  cases h with
  | unopened error openings only => exact absurd hcall (hopening calls only)
  | unpassable reason openings only h => exact absurd hcall (hopening calls only)
  | unheard pipe errno openings only hpipe =>
    rcases List.mem_append.1 hcall with hmem | hmem
    · exact absurd hmem (hopening openings only)
    · rw [List.mem_singleton.1 hmem] at hprocess
      simp [Call.forked?, Call.asker?] at hprocess
  | unborn pipe table errno openings only hpipe =>
    rcases List.mem_append.1 hcall with hmem | hmem
    · exact absurd hmem (hopening openings only)
    · rcases List.mem_cons.1 hmem with rfl | hmem
      · simp [Call.forked?, Call.asker?] at hprocess
      · rw [List.mem_singleton.1 hmem] at hprocess
        simp [Call.forked?, Call.asker?] at hprocess
  | forked arguments io report equipped forking openings course pid state ready hcourse hstate =>
    exact ⟨arguments, io, report, equipped, forking, openings, course, pid, ready, hcourse, rfl⟩

/-- A process begins with the descriptors that the shell has when it is made. -/
theorem Course.of_fork {streams : Streams} {t : Turn σ} {result : Except ShellError StageState}
    {calls : List Call} (h : t.Course streams result calls) {table : Descriptors} {pid : Pid}
    (hfork : .fork table (.ok pid) ∈ calls) :
    ∃ arguments io report equipped forking openings course,
      t.Ready arguments io report equipped forking openings ∧ table = forking.descriptors ∧
      (t.child streams arguments io report).Course pid forking.descriptors
        forking.surroundings.directory course ∧
      calls = openings ++
        (.makePipe equipped.fresh (.ok ()) :: .fork forking.descriptors (.ok pid) :: course) := by
  obtain ⟨arguments, io, report, equipped, forking, openings, course, pid', hready, hcourse,
    hcalls⟩ := h.of_process hfork (Or.inl (by simp [Call.forked?]))
  rw [hcalls] at hfork
  rcases List.mem_append.1 hfork with hmem | hmem
  · cases hready.acquired.opening _ hmem
  · rcases List.mem_cons.1 hmem with heq | hmem
    · cases heq
    · rcases List.mem_cons.1 hmem with heq | hmem
      · cases heq
        exact ⟨_, _, _, _, _, _, _, hready, rfl, hcourse, hcalls⟩
      · cases hcourse.asker _ hmem

/-- A program gets what is left of the descriptors of its process. -/
theorem Course.of_exec {streams : Streams} {t : Turn σ} {result : Except ShellError StageState}
    {calls : List Call} (h : t.Course streams result calls) {asker : Pid} {launch : Launch}
    {answer : Except Errno Unit} (hexec : .exec asker launch answer ∈ calls) :
    ∃ arguments io report equipped forking openings wired,
      t.Ready arguments io report equipped forking openings ∧ (∀ asked ∈ openings, asked ∈ calls) ∧
      Child.rewire forking.descriptors (t.child streams arguments io report).wires = some wired ∧
      launch.descriptors = wired.surviving := by
  obtain ⟨arguments, io, report, equipped, forking, openings, course, pid, hready, hcourse, rfl⟩ :=
    h.of_process hexec (Or.inr (by simp [Call.asker?]))
  rcases List.mem_append.1 hexec with hmem | hmem
  · cases hready.acquired.opening _ hmem
  · obtain ⟨-, wired, hwired, rfl⟩ := hcourse.of_exec (by simpa using hmem)
    exact ⟨arguments, io, report, equipped, forking, openings, wired, hready,
      fun asked => List.mem_append_left _, hwired, rfl⟩

end Turn

section

variable [Kernel σ]

/-- The process of a stage asks for something only in its own course. -/
theorem since_child_run (child : Child) (pid : Pid) (table : Descriptors) (directory : Directory)
    (s : ShellState (Recorded σ)) :
    ∃ course, Since s (ask (child.run pid table directory) s).2 course ∧
      child.Course pid table directory course :=
  child.course_run pid table directory s.surroundings.host

/-- A request for a process tells the system of the descriptors of the shell. -/
theorem since_fork {s s' : ShellState (Recorded σ)} {answer : Except Errno Pid}
    (h : ask (Kernel.fork s.descriptors) s = (answer, s')) :
    Since s s' [.fork s.descriptors answer] ∧ s'.descriptors = s.descriptors ∧
      s'.surroundings.directory = s.surroundings.directory := by
  have hsteps : (Kernel.fork s.descriptors s.surroundings.host).2.steps =
      s.surroundings.host.steps ++
        [.fork s.descriptors (Kernel.fork s.descriptors s.surroundings.host).1] :=
    Recorded.steps_record s.surroundings.host rfl
  cases h
  exact ⟨hsteps, rfl, rfl⟩

/-- A process is made and takes its course, or it is not made. -/
theorem launchStage_cases {streams : Streams} {index : Nat} {stage : Stage}
    {arguments : ArgumentVector} {io : StageIo} {report : PipeEnds}
    {s s' : ShellState (Recorded σ)} {result : Except ShellError StageState}
    (h : launchStage streams index stage arguments io report s = (result, s')) :
    (∃ errno, result = .error (.spawn index errno) ∧
      Since s s' [.fork s.descriptors (.error errno)]) ∨
    (∃ pid state course, result = .ok state ∧ state.process? = some pid ∧
      Since s s' (.fork s.descriptors (.ok pid) :: course) ∧
      Child.Course ⟨stage.program, arguments, io.input <|> streams.input,
        io.output <|> streams.output, report.writer⟩ pid s.descriptors s.surroundings.directory
        course) := by
  obtain ⟨_, _, hget, h⟩ := of_bind_eq h
  cases hget
  obtain ⟨answer, s₁, hask, h⟩ := of_bind_eq h
  obtain ⟨hfork, hdescriptors, hdirectory⟩ := since_fork hask
  cases answer with
  | error errno =>
    cases h
    refine Or.inl ⟨errno, rfl, ?_⟩
    exact (silent_stageIo_close io).since_right ((silent_pipeEnds_close report).since_right
      ((silent_note (.forkFailed index errno)).since_right hfork))
  | ok pid =>
    obtain ⟨_, _, hget, h⟩ := of_bind_eq h
    cases hget
    obtain ⟨_, s₂, hwriter, h⟩ := of_bind_eq h
    obtain ⟨_, s₃, hio, h⟩ := of_bind_eq h
    obtain ⟨_, s₄, hnote, h⟩ := of_bind_eq h
    obtain ⟨_, s₅, hrun, h⟩ := of_bind_eq h
    obtain ⟨failure, s₆, hread, h⟩ := of_bind_eq h
    obtain ⟨_, s₇, hreader, h⟩ := of_bind_eq h
    obtain ⟨course, hran, hcourse⟩ := since_child_run ⟨stage.program, arguments,
      io.input <|> streams.input, io.output <|> streams.output, report.writer⟩ pid s₁.descriptors
      s₁.surroundings.directory s₄
    rw [hrun] at hran
    rw [hdescriptors, hdirectory] at hcourse
    have hclosed := (silent_stageIo_close io).follows hio ((silent_close _).follows hwriter hfork)
    have hborn := ((silent_note _).follows hnote hclosed).trans hran
    have hheard := (silent_close _).follows hreader ((silent_readReport _).follows hread hborn)
    right
    cases failure with
    | none =>
      cases h
      exact ⟨pid, .running pid, course, rfl, rfl, hheard, hcourse⟩
    | some errno =>
      cases h
      exact ⟨pid, _, course, rfl, rfl, (silent_note _).since_right hheard, hcourse⟩

/-- A stage that has its descriptors takes one of the courses. -/
theorem spawnStage_course {streams : Streams} {t : Turn σ} {io : StageIo}
    {s s' : ShellState (Recorded σ)} {openings : List Call} {result : Except ShellError StageState}
    (hacquire : StageIo.acquire t.stage t.pipedIn t.pipedOut t.before = (.ok io, s))
    (hacquired : Acquired t.stage t.pipedIn t.pipedOut io t.before s openings)
    (h : spawnStage streams t.index t.stage io s = (result, s')) :
    ∃ calls, Since t.before s' calls ∧ t.Course streams result calls := by
  have hsince := hacquired.since
  have hclose := silent_stageIo_close (σ := σ) io
  have hfresh := (Turn.exchanged_of_acquire hacquire).fresh_le
  rw [spawnStage] at h
  cases hpass : ArgumentVector.ofArguments t.stage.argv with
  | error reason =>
    rw [hpass] at h
    cases h
    exact ⟨openings, hclose.since_right hsince, .unpassable reason openings hacquired.opening hpass⟩
  | ok arguments =>
    rw [hpass] at h
    obtain ⟨answer, s₁, hpipe, h⟩ := of_bind_eq h
    cases answer with
    | error errno =>
      cases h
      have hasked := hsince.trans (makePipe_error hpipe)
      exact ⟨_, hclose.since_right hasked, .unheard s.fresh errno openings hacquired.opening hfresh⟩
    | ok report =>
      have hmade := hsince.trans (makePipe_ok hpipe).since
      rcases launchStage_cases h with
        ⟨errno, rfl, hfork⟩ | ⟨pid, state, course, rfl, hstate, hfork, hcourse⟩
      · refine ⟨_, hmade.trans hfork, ?_⟩
        rw [List.append_assoc]
        exact .unborn s.fresh s₁.descriptors errno openings hacquired.opening hfresh
      · refine ⟨_, hmade.trans hfork, ?_⟩
        rw [List.append_assoc]
        exact .forked arguments io report s s₁ openings course pid state
          ⟨hpass, hacquire, hacquired, hpipe⟩ hcourse hstate

/-- Every turn takes one of the courses, if the ends of pipes that were taken for it are open. -/
theorem Turn.course (streams : Streams) (t : Turn σ)
    (hin : ∀ fd, t.pipedIn = some fd → t.before.descriptors.get? fd ≠ none)
    (hout : ∀ fd, t.pipedOut = some fd → t.before.descriptors.get? fd ≠ none) :
    Since t.before (t.after streams) (t.calls streams) ∧
      t.Course streams (t.result streams) (t.calls streams) := by
  suffices hcourse : ∃ calls, Since t.before (t.after streams) calls ∧
      t.Course streams (t.result streams) calls by
    obtain ⟨calls, hsince, hcourse⟩ := hcourse
    rw [show t.calls streams = calls from hsince.newCalls_eq]
    exact ⟨hsince, hcourse⟩
  have hrun : startStage streams t.index t.stage t.pipedIn t.pipedOut t.before =
      (t.result streams, t.after streams) := rfl
  obtain ⟨answer, s, hacquire, h⟩ := of_bind_eq hrun
  cases answer with
  | error error =>
    obtain ⟨openings, hsince, hopening⟩ := acquire_error hacquire
    obtain ⟨_, s₁, hnote, h⟩ := of_bind_eq h
    have hnoted := (silent_note _).follows hnote hsince
    rw [pure_apply] at h
    obtain ⟨hresult, hafter⟩ := Prod.mk.inj h
    rw [← hresult, ← hafter]
    exact ⟨openings, hnoted, .unopened error openings hopening⟩
  | ok io =>
    obtain ⟨openings, hacquired⟩ := acquired_of_ok hin hout hacquire
    exact spawnStage_course hacquire hacquired h

end

end CommandShell
