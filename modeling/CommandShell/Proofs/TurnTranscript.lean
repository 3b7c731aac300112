import CommandShell.Proofs.ChildTranscript
import CommandShell.Proofs.ForkedStreams
import Mathlib.Tactic.Tauto

/-!
# Transcripts of turns

All that is asked for in the turn of a stage: the targets of its redirections, the pipe for the
report of its process, the process, what that process asks for, and the reading of the report. Main
statement: every turn has one of these transcripts (`Turn.transcribed`).
-/

namespace CommandShell

open Shell

variable {σ : Type}

/-- The state of a stage with a process, given the error number that was heard of it. -/
def StageState.heard (program : String) (pid : Pid) : Option Errno → StageState
  | none => .running pid
  | some errno => .execFailed pid (ShellError.exec program errno.systemText).message

theorem StageState.process?_heard (program : String) (pid : Pid) (failure : Option Errno) :
    (StageState.heard program pid failure).process? = some pid := by
  cases failure <;> rfl

/-- What a shell had open before stays open when what is new to it is closed. -/
theorem Shell.Exchanged.keeps_closeAll {τ : Type} {s s' : ShellState τ} {kept fds : List Fd}
    (h : Exchanged s s' [] kept) (hsub : ∀ fd ∈ fds, fd ∈ kept) {fd : Fd} {slot : Slot Resource}
    (hslot : s.descriptors.get? fd = some slot) :
    (s'.descriptors.closeAll fds).get? fd = some slot := by
  have hout : fd ∉ fds := by
    intro hmem
    have hfree := h.get?_of_mem (hsub fd hmem)
    rw [hslot] at hfree
    cases hfree
  rw [DescriptorTable.get?_closeAll, if_neg hout]
  exact h.keeps hslot

theorem StageIo.descriptors_close {τ : Type} (io : StageIo) (s : ShellState τ) :
    (io.close s).2.descriptors = s.descriptors.closeAll io.held := by
  simpa using (io.trades_close s).balance []

/-- What a shell still has when it has made a process of its table: the pipe for the report is left
to the process for writing, and so is what belongs to its stage. -/
def Shell.PipeEnds.listening (report : PipeEnds) (io : StageIo) (table : Descriptors) :
    Descriptors :=
  table.closeAll ([report.writer] ++ io.held)

namespace Turn

variable [Kernel σ]

/-- All that is asked for in a turn. -/
def transcript (streams : Streams) (t : Turn σ) : List Call := (t.run streams).transcript t.before

/-- What comes of a turn and all that is asked for in it. Records of the log go to the descriptor
for complaints of a table. -/
inductive Transcript (streams : Streams) (t : Turn σ) (table : Descriptors) :
    Except ShellError StageState → List Call → Prop
  /-- A redirection cannot be opened. -/
  | unopened (path : String) (fault : Fault) (openings notes : List Call)
      (hopenings : Openings t.before.surroundings.directory t.stage openings (some (path, fault)))
      (hnotes : Noted table t.before.log.stamp notes) :
      Transcript streams t table (.ok (.settled (.aborted (.io path fault)))) (openings ++ notes)
  /-- An argument cannot be passed on. -/
  | unpassable (reason : String) (openings : List Call)
      (hopenings : Openings t.before.surroundings.directory t.stage openings none)
      (h : ArgumentVector.ofArguments t.stage.argv = .error reason) :
      Transcript streams t table (.ok (.settled (.finished (.startFailed reason)))) openings
  /-- The pipe for the report of the process cannot be made. -/
  | unheard (pipe : Nat) (errno : Errno) (openings : List Call)
      (hopenings : Openings t.before.surroundings.directory t.stage openings none)
      (hpipe : t.before.fresh ≤ pipe)
      (hpass : ∃ arguments, ArgumentVector.ofArguments t.stage.argv = .ok arguments) :
      Transcript streams t table (.error (.spawn t.index errno))
        (openings ++ [.makePipe pipe (.error errno)])
  /-- The process cannot be made. -/
  | unborn (pipe : Nat) (forking : Descriptors) (errno : Errno) (openings notes : List Call)
      (hopenings : Openings t.before.surroundings.directory t.stage openings none)
      (hpipe : t.before.fresh ≤ pipe) (hnotes : Noted table t.before.log.stamp notes)
      (hpass : ∃ arguments, ArgumentVector.ofArguments t.stage.argv = .ok arguments) :
      Transcript streams t table (.error (.spawn t.index errno))
        (openings ++ (.makePipe pipe (.ok ()) :: .fork forking (.error errno) :: notes))
  /-- The process is made, and its report is read by a shell that cannot write to it any more. -/
  | forked (arguments : ArgumentVector) (io : StageIo) (report : PipeEnds)
      (equipped forking : ShellState (Recorded σ)) (openings notes course reads later : List Call)
      (pid : Pid) (failure : Option Errno) (heard : Except Errno Bytes)
      (ready : t.Ready arguments io report equipped forking openings)
      (hopenings : Openings t.before.surroundings.directory t.stage openings none)
      (hnotes : Noted table t.before.log.stamp notes)
      (hreached : Reached (report.listening io forking.descriptors) notes)
      (hcourse : (t.child streams arguments io report).Transcript pid forking.descriptors
        t.before.surroundings.directory failure course)
      (hheard : Heard (.readEnd equipped.fresh) (report.listening io forking.descriptors) reads
        heard)
      (hlater : Noted table t.before.log.stamp later) :
      Transcript streams t table (.ok (.heard t.stage.program pid (heardErrno heard)))
        (openings ++ (.makePipe equipped.fresh (.ok ()) :: .fork forking.descriptors (.ok pid) ::
          (notes ++ course ++ reads ++ later)))

end Turn

section

variable [Kernel σ]

/-- A request for a process tells the system of the descriptors of the shell. -/
theorem between_fork {s s' : ShellState (Recorded σ)} {answer : Except Errno Pid}
    (h : ask (Kernel.fork s.descriptors) s = (answer, s')) :
    Between s s' [.fork s.descriptors answer] ∧ s'.descriptors = s.descriptors := by
  have hcontinued : s.surroundings.host.Continued
      (Kernel.fork s.descriptors s.surroundings.host).2
      [.fork s.descriptors (Kernel.fork s.descriptors s.surroundings.host).1] :=
    Recorded.continued_record s.surroundings.host rfl
  cases h
  exact ⟨⟨hcontinued, rfl, rfl, Nat.le_refl _⟩, rfl⟩

/-- A note is written to the descriptor for complaints, if it is still what it was. -/
theorem noted_of_keeps {table : Descriptors} {stamp : String} {s s' s'' : ShellState (Recorded σ)}
    {event : Event} {calls : List Call} (hbetween : Between s s' calls)
    (hstamp : s.log.stamp = stamp)
    (hkeeps : ∀ slot, table.get? standardError = some slot →
      s'.descriptors.get? standardError = some slot)
    (hnote : note event s' = ((), s'')) :
    ∃ notes, Between s s'' (calls ++ notes) ∧ Noted table stamp notes ∧
      Reached s'.descriptors notes := by
  obtain ⟨notes, hnotes, hnoted, hreached⟩ := reached_note event s'
  rw [hnote] at hnotes
  rw [hbetween.log_eq, hstamp] at hnoted
  exact ⟨notes, hbetween.trans hnotes, hnoted.of_keeps hkeeps, hreached⟩

/-- A process is made and its report is read, or it is not made. -/
theorem between_launchStage {streams : Streams} {index : Nat} {stage : Stage}
    {arguments : ArgumentVector} {io : StageIo} {report : PipeEnds} {pipe : Nat}
    {s s' : ShellState (Recorded σ)} {result : Except ShellError StageState} {table : Descriptors}
    (hreader : s.descriptors.get? report.reader = some ⟨.readEnd pipe, true⟩)
    (hwriter : report.writer ≠ report.reader) (hheld : report.reader ∉ io.held)
    (htable : ∀ fds, (∀ fd ∈ fds, fd ∈ report.both ++ io.held) → ∀ slot,
      table.get? standardError = some slot →
        (s.descriptors.closeAll fds).get? standardError = some slot)
    (h : launchStage streams index stage arguments io report s = (result, s')) :
    (∃ errno notes, result = .error (.spawn index errno) ∧
      Between s s' (.fork s.descriptors (.error errno) :: notes) ∧
      Noted table s.log.stamp notes) ∨
    (∃ pid failure heard notes course reads later,
      result = .ok (.heard stage.program pid (heardErrno heard)) ∧
      Between s s' (.fork s.descriptors (.ok pid) :: (notes ++ course ++ reads ++ later)) ∧
      Noted table s.log.stamp notes ∧ Reached (report.listening io s.descriptors) notes ∧
      Noted table s.log.stamp later ∧
      Heard (.readEnd pipe) (report.listening io s.descriptors) reads heard ∧
      Child.Transcript ⟨stage.program, arguments, io.input <|> streams.input,
        io.output <|> streams.output, report.writer⟩ pid s.descriptors s.surroundings.directory
        failure course) := by
  obtain ⟨_, _, hget, h⟩ := of_bind_eq h
  cases hget
  obtain ⟨answer, s₁, hask, h⟩ := of_bind_eq h
  obtain ⟨hfork, hdescriptors⟩ := between_fork hask
  cases answer with
  | error errno =>
    obtain ⟨_, s₂, hnote, h⟩ := of_bind_eq h
    obtain ⟨_, s₃, hreport, h⟩ := of_bind_eq h
    obtain ⟨_, s₄, hio, h⟩ := of_bind_eq h
    cases h
    obtain ⟨notes, hnotes, hnoted, -⟩ := noted_of_keeps hfork rfl
      (fun slot hslot => by simpa [hdescriptors] using htable [] (by simp) slot hslot) hnote
    exact Or.inl ⟨errno, notes, rfl, (still_stageIo_close io).follows hio
      ((still_pipeEnds_close report).follows hreport hnotes), hnoted⟩
  | ok pid =>
    obtain ⟨_, _, hget, h⟩ := of_bind_eq h
    cases hget
    obtain ⟨_, s₂, hclose, h⟩ := of_bind_eq h
    obtain ⟨_, s₃, hio, h⟩ := of_bind_eq h
    obtain ⟨_, s₄, hnote, h⟩ := of_bind_eq h
    obtain ⟨_, s₅, hrun, h⟩ := of_bind_eq h
    obtain ⟨failure, s₆, hread, h⟩ := of_bind_eq h
    obtain ⟨_, s₇, hdone, h⟩ := of_bind_eq h
    have hclosed : s₃.descriptors = report.listening io s.descriptors := by
      have htable := io.descriptors_close s₂
      rw [hio] at htable
      cases hclose
      rw [PipeEnds.listening, ← hdescriptors, DescriptorTable.closeAll_append]
      exact htable
    have hgiven := (still_stageIo_close io).follows hio ((still_close _).follows hclose hfork)
    have hsub : ∀ fd ∈ [report.writer] ++ io.held, fd ∈ report.both ++ io.held := by
      intro fd hfd
      simp only [PipeEnds.both, List.mem_append, List.mem_cons] at hfd ⊢
      tauto
    obtain ⟨notes, hnotes, hnoted, hreached⟩ := noted_of_keeps hgiven rfl
      (fun slot hslot => hclosed ▸ htable _ hsub slot hslot) hnote
    rw [hclosed] at hreached
    obtain ⟨tried, course, hcontinued, hcourse⟩ := Child.continued_run ⟨stage.program, arguments,
      io.input <|> streams.input, io.output <|> streams.output, report.writer⟩ pid s₁.descriptors
      s₁.surroundings.directory s₄.surroundings.host
    have hran := between_ask hcontinued fun call hcall => by
      rcases hcourse.call_cases hcall with hasker | ⟨goal, bytes, answer, rfl⟩
      · cases call <;> first | rfl | cases hasker
      · rfl
    rw [hrun] at hran
    rw [hdescriptors, hfork.directory_eq] at hcourse
    have hkept : s₅.descriptors = report.listening io s.descriptors := by
      have hnoting := quiet_note (.spawned index pid stage.program) s₃
      have hrunning := quiet_ask (Child.run (σ := Recorded σ) ⟨stage.program, arguments,
        io.input <|> streams.input, io.output <|> streams.output, report.writer⟩ pid
        s₁.descriptors s₁.surroundings.directory) s₄
      rw [hnote] at hnoting
      rw [hrun] at hrunning
      exact hrunning.1.trans (hnoting.1.trans hclosed)
    -- What the shell hears is the end of the pipe that it still holds.
    have hlistening : s₅.descriptors.get? report.reader = some ⟨.readEnd pipe, true⟩ := by
      rw [hkept, PipeEnds.listening, DescriptorTable.get?_closeAll, if_neg ?_, hreader]
      simp [hwriter.symm, hheld]
    obtain ⟨reads, heard, hheard, hreads, rfl⟩ := between_readReport hlistening hread
    rw [hkept] at hreads
    have hall := (still_close _).follows hdone ((hnotes.trans hran).trans hheard)
    right
    cases hfailure : heardErrno heard with
    | none =>
      rw [hfailure] at h
      cases h
      refine ⟨pid, tried, heard, notes, course, reads, [], by rw [hfailure]; rfl, ?_, hnoted,
        hreached, Noted.nil _ _, hreads, hcourse⟩
      simpa using hall
    | some errno =>
      rw [hfailure] at h
      obtain ⟨_, s₈, hfailed, h⟩ := of_bind_eq h
      cases h
      have hdeaf : s₇.descriptors =
          s.descriptors.closeAll ([report.writer] ++ io.held ++ [report.reader]) := by
        have hreading := (quiet_readReport report.reader s₅).1
        rw [hread, hkept] at hreading
        cases hdone
        rw [DescriptorTable.closeAll_append, ← PipeEnds.listening, ← hreading]
        rfl
      have hsub' : ∀ fd ∈ [report.writer] ++ io.held ++ [report.reader],
          fd ∈ report.both ++ io.held := by
        intro fd hfd
        simp only [PipeEnds.both, List.mem_append, List.mem_cons] at hfd ⊢
        tauto
      obtain ⟨later, hlater, hnotedLater, -⟩ := noted_of_keeps hall rfl
        (fun slot hslot => hdeaf ▸ htable _ hsub' slot hslot) hfailed
      refine ⟨pid, tried, heard, notes, course, reads, later, by rw [hfailure]; rfl, ?_, hnoted,
        hreached, hnotedLater, hreads, hcourse⟩
      simpa using hlater

end

namespace Turn

variable [Kernel σ] {streams : Streams} {base : ShellState (Recorded σ)} {row : List PipeEnds}
  {t : Turn σ}

/-- What the shell holds in a turn when the files were opened, or when they could not be. -/
theorem Placed.exchanged_acquire (h : t.Placed base row) {answer : Except ShellError StageIo}
    {s : ShellState (Recorded σ)}
    (hacquire : StageIo.acquire t.stage t.pipedIn t.pipedOut t.before = (answer, s)) :
    Exchanged base s []
      (StageIo.acquired answer ++ (PipeSet.untaken row t.index (t.index + 1)).ends) := by
  have htrades := StageIo.trades_acquire t.stage t.pipedIn t.pipedOut t.before
  rw [hacquire] at htrades
  exact h.standing.exchanged.trans ((htrades.frame _).congr h.mem_untaken fun _ => Iff.rfl)

omit [Kernel σ] in
/-- What a stage holds is open. -/
theorem Placed.get?_held (h : t.Placed base row) {io : StageIo}
    {equipped : ShellState (Recorded σ)} {openings : List Call}
    (hacquired : Acquired t.stage t.pipedIn t.pipedOut io t.before equipped openings) {fd : Fd}
    (hfd : fd ∈ io.held) : equipped.descriptors.get? fd ≠ none := by
  have hpiped : ∀ slot, t.before.descriptors.get? fd = some slot →
      fd ∉ displaced t.stage.input t.pipedIn ++ displaced t.stage.output t.pipedOut →
        equipped.descriptors.get? fd ≠ none := by
    intro slot hslot hkept
    rw [hacquired.keeps fd slot hslot hkept]
    exact Option.some_ne_none slot
  rcases List.mem_append.1 hfd with hin | hout
  · have hin := Option.mem_toList.1 hin
    have hinput := hacquired.input
    rw [hin] at hinput
    generalize hredirection : t.stage.input = redirection at hinput
    generalize hpipe : t.pipedIn = piped at hinput
    cases hinput with
    | piped =>
      refine hpiped _ (h.get?_pipedIn hpipe).2 ?_
      rw [hredirection]
      intro hmem
      exact h.pipedIn_ne_pipedOut hpipe (mem_displaced hmem)
    | file path fd number asked hslot =>
      rw [hslot]
      exact Option.some_ne_none _
  · have hout := Option.mem_toList.1 hout
    have houtput := hacquired.output
    rw [hout] at houtput
    generalize hredirection : t.stage.output = redirection at houtput
    generalize hpipe : t.pipedOut = piped at houtput
    cases houtput with
    | piped =>
      refine hpiped _ (h.get?_pipedOut hpipe).2 ?_
      rw [hredirection]
      intro hmem
      rcases List.mem_append.1 hmem with hmem | hmem
      · exact h.pipedIn_ne_pipedOut (mem_displaced hmem) hpipe
      · cases hmem
    | file path fd number asked hslot =>
      rw [hslot]
      exact Option.some_ne_none _

/-- A stage that has its descriptors has one of the transcripts. -/
theorem Placed.between_spawnStage (h : t.Placed base row) {io : StageIo}
    {s s' : ShellState (Recorded σ)} {openings : List Call}
    {result : Except ShellError StageState}
    (hacquire : StageIo.acquire t.stage t.pipedIn t.pipedOut t.before = (.ok io, s))
    (hbetween : Between t.before s openings)
    (hopenings : Openings t.before.surroundings.directory t.stage openings none)
    (hspawn : spawnStage streams t.index t.stage io s = (result, s')) :
    ∃ calls, Between t.before s' calls ∧ t.Transcript streams base.descriptors result calls := by
  have hfresh := (exchanged_of_acquire hacquire).fresh_le
  have hheld := h.exchanged_acquire hacquire
  rw [spawnStage] at hspawn
  cases hpass : ArgumentVector.ofArguments t.stage.argv with
  | error reason =>
    rw [hpass] at hspawn
    obtain ⟨_, s₁, hclose, hspawn⟩ := of_bind_eq hspawn
    cases hspawn
    exact ⟨openings, (still_stageIo_close io).follows hclose hbetween,
      .unpassable reason openings hopenings hpass⟩
  | ok arguments =>
    rw [hpass] at hspawn
    obtain ⟨answer, s₁, hpipe, hspawn⟩ := of_bind_eq hspawn
    have hmade := hbetween.trans (between_makePipe hpipe)
    cases answer with
    | error errno =>
      obtain ⟨_, s₂, hclose, hspawn⟩ := of_bind_eq hspawn
      cases hspawn
      exact ⟨_, (still_stageIo_close io).follows hclose hmade,
        .unheard s.fresh errno openings hopenings hfresh ⟨arguments, hpass⟩⟩
    | ok report =>
      obtain ⟨calls, hacquired⟩ := acquired_of_ok
        (fun fd hfd => by simp [(h.get?_pipedIn hfd).2])
        (fun fd hfd => by simp [(h.get?_pipedOut hfd).2]) hacquire
      have hsame : calls = openings := hacquired.since.unique (hbetween.since_of_steps
        fun call hcall => Call.not_isTransfer_of_isOpening (hopenings.isOpening call hcall))
      rw [hsame] at hacquired
      have hready : t.Ready arguments io report s s₁ openings :=
        ⟨hpass, hacquire, hacquired, hpipe⟩
      have hends := makePipe_ok hpipe
      have hwriter : report.writer ≠ report.reader := by
        intro heq
        have hget := hends.writer
        rw [heq, hends.reader] at hget
        cases hget
      have hreader : report.reader ∉ io.held := by
        intro hmem
        have hnew : Exchanged s s₁ [] report.both := by
          have htrades := trades_makePipe s
          rwa [hpipe] at htrades
        exact h.get?_held hacquired hmem (hnew.get?_of_mem List.mem_cons_self)
      have hkeeps : ∀ fds, (∀ fd ∈ fds, fd ∈ report.both ++ io.held) → ∀ slot,
          base.descriptors.get? standardError = some slot →
            (s₁.descriptors.closeAll fds).get? standardError = some slot := by
        intro fds hfds slot hslot
        refine (hready.exchanged h).keeps_closeAll (fun fd hfd => ?_) hslot
        rcases List.mem_append.1 (hfds fd hfd) with hmem | hmem
        · exact List.mem_append_left _ hmem
        · exact List.mem_append_right _ (List.mem_append_left _ hmem)
      rcases between_launchStage hends.reader hwriter hreader hkeeps hspawn with
        ⟨errno, notes, rfl, hfork, hnotes⟩ |
        ⟨pid, failure, heard, notes, course, reads, later, rfl, hfork, hnotes, hreached, hlater,
          hheard, hcourse⟩
      · rw [hmade.log_eq] at hnotes
        refine ⟨_, hmade.trans hfork, ?_⟩
        rw [List.append_assoc]
        exact .unborn s.fresh s₁.descriptors errno openings notes hopenings hfresh hnotes
          ⟨arguments, hpass⟩
      · rw [hmade.log_eq] at hnotes hlater
        rw [hmade.directory_eq] at hcourse
        refine ⟨_, hmade.trans hfork, ?_⟩
        rw [List.append_assoc]
        exact .forked arguments io report s s₁ openings notes course reads later pid failure heard
          hready hopenings hnotes hreached hcourse hheard hlater

/-- Every turn at its place has one of the transcripts. -/
theorem transcribed (streams : Streams) (h : t.Placed base row) :
    Between t.before (t.after streams) (t.transcript streams) ∧
      t.Transcript streams base.descriptors (t.result streams) (t.transcript streams) := by
  suffices hspoken : ∃ calls, Between t.before (t.after streams) calls ∧
      t.Transcript streams base.descriptors (t.result streams) calls by
    obtain ⟨calls, hbetween, htranscript⟩ := hspoken
    rw [show t.transcript streams = calls from hbetween.transcript_action_eq]
    exact ⟨hbetween, htranscript⟩
  have hrun : startStage streams t.index t.stage t.pipedIn t.pipedOut t.before =
      (t.result streams, t.after streams) := rfl
  obtain ⟨answer, s, hacquire, hstart⟩ := of_bind_eq hrun
  obtain ⟨openings, failure, hbetween, hopenings, hfails⟩ := between_acquire hacquire
  cases failure with
  | none =>
    obtain ⟨io, rfl⟩ := hfails
    exact h.between_spawnStage hacquire hbetween hopenings hstart
  | some failure =>
    cases hfails
    obtain ⟨_, s₁, hnote, hstart⟩ := of_bind_eq hstart
    rw [pure_apply] at hstart
    obtain ⟨hresult, hafter⟩ := Prod.mk.inj hstart
    obtain ⟨notes, hnotes, hnoted, -⟩ := noted_of_keeps hbetween rfl
      (fun slot hslot => (h.exchanged_acquire hacquire).keeps hslot) hnote
    rw [← hresult, ← hafter]
    exact ⟨_, hnotes, .unopened failure.1 failure.2 openings notes hopenings hnoted⟩

end Turn

end CommandShell
