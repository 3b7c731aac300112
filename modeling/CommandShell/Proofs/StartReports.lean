import CommandShell.Proofs.Awaiting
import CommandShell.Proofs.Outcomes

/-!
# Programs that cannot be started

An error number crosses from the process of a stage to the shell as four bytes in a pipe, however
many reads these take. Fewer bytes are no report, and then only the wait tells what became of the
process, even if it ends with the status of a program that could not be started. Main statements:
in every turn with a process the shell hears how the process fails, if it does and still has the
descriptor for its report (`Turn.Transcript.conversation`), and the outcome of the stage is the
reason that was heard, whatever comes of the wait, or else what comes of the wait alone
(`Pipeline.crossing_execute`).
-/

namespace CommandShell

open Shell

variable {σ : Type}

namespace Errno

/-- An error number that four bytes can hold. -/
def IsWord (e : Errno) : Prop := -2147483648 ≤ e.number ∧ e.number < 2147483648

/-- Every error number of the platform can be held by four bytes. -/
theorem isWord_of_entry {e : Errno} {entry : Entry} (h : e.entry? = some entry) : e.IsWord := by
  have hentries : ∀ entry ∈ entries, 1 ≤ entry.number ∧ entry.number ≤ 133 := by
    decide +kernel
  have hnumber : entry.number = e.number := by simpa using List.find?_some h
  have hbounds := hentries entry (List.mem_of_find?_eq_some h)
  rw [IsWord]
  omega

/-- Fewer than four bytes are no error number. -/
theorem ofBytes?_of_length_lt {bytes : Bytes} (h : bytes.length < 4) : ofBytes? bytes = none := by
  rcases bytes with _ | ⟨a, _ | ⟨b, _ | ⟨c, _ | ⟨d, rest⟩⟩⟩⟩
  · rfl
  · rfl
  · rfl
  · rfl
  · simp only [List.length_cons] at h
    omega

end Errno

/-- What is heard is no error if no read fails for good. -/
theorem Heard.exists_ok {source : Resource} {table : Descriptors} {calls : List Call}
    {result : Except Errno Bytes} (h : Heard source table calls result)
    (hreads : ∀ limit table errno, .read source limit table (.error errno) ∈ calls →
      errno = .interrupted) : ∃ bytes, result = .ok bytes := by
  induction h with
  | nothing => exact ⟨[], rfl⟩
  | bytes bytes calls result hne hrest ih =>
    obtain ⟨rest, rfl⟩ := ih fun limit table errno hmem =>
      hreads limit table errno (List.mem_cons_of_mem _ hmem)
    exact ⟨bytes ++ rest, rfl⟩
  | again calls result hrest ih =>
    exact ih fun limit table errno hmem => hreads limit table errno (List.mem_cons_of_mem _ hmem)
  | failed errno hne => exact absurd (hreads readSize table errno (List.mem_singleton_self _)) hne

/-- A process that is refused a duplicate or its program fails with the error number that it is
given. -/
theorem Child.Transcript.failure_eq_some {child : Child} {pid : Pid} {table : Descriptors}
    {directory : Directory} {failure : Option Errno} {calls : List Call}
    (h : child.Transcript pid table directory failure calls) {call : Call} (hcall : call ∈ calls)
    {errno : Errno} (hfault : call.startFault? = some errno) : failure = some errno := by
  have hgranted : ∀ wires, call ∉ granted pid wires := by
    intro wires hmem
    have hnone := List.findSome?_eq_none_iff.1 (findSome?_startFault_granted pid wires) call hmem
    cases hnone.symm.trans hfault
  cases h with
  | started wired h =>
    rcases List.mem_append.1 hcall with hmem | hmem
    · exact absurd hmem (hgranted _)
    · rw [List.mem_singleton.1 hmem] at hfault
      cases hfault
  | failed errno' remaining tried told htried htold =>
    rcases List.mem_append.1 hcall with hmem | hmem
    · cases htried with
      | unwired done rest source goal errno' remaining answer hwires hdone hanswer =>
        rcases List.mem_append.1 hmem with hmem | hmem
        · exact absurd hmem (hgranted _)
        · rw [List.mem_singleton.1 hmem] at hfault
          rcases hanswer with rfl | ⟨rfl, -, -⟩ <;> cases hfault
          rfl
      | refused errno' wired h =>
        rcases List.mem_append.1 hmem with hmem | hmem
        · exact absurd hmem (hgranted _)
        · rw [List.mem_singleton.1 hmem] at hfault
          cases hfault
          rfl
    · rcases htold.call_cases hmem with ⟨goal, bytes, answer, rfl⟩ | rfl <;> cases hfault

/-- A process that gives up was refused something, if everything that it was to duplicate is
open. -/
theorem Child.Transcript.exists_startFault {child : Child} {pid : Pid}
    {table : Descriptors} {directory : Directory} {failure : Option Errno} {calls : List Call}
    (h : child.Transcript pid table directory failure calls)
    (hopen : ∀ wire ∈ child.wires, table.get? wire.1 ≠ none) {asker : Pid} {code : Nat}
    (hexit : .exit asker code ∈ calls) :
    ∃ call ∈ calls, ∃ errno, call.startFault? = some errno := by
  cases h with
  | started wired h =>
    rcases List.mem_append.1 hexit with hmem | hmem
    · obtain ⟨wire, -, heq⟩ := List.mem_map.1 hmem
      cases heq
    · cases List.mem_singleton.1 hmem
  | failed errno remaining tried told htried htold =>
    obtain ⟨call, hcall, hfault⟩ :=
      List.exists_of_findSome?_eq_some (htried.findSome?_startFault hopen)
    exact ⟨call, List.mem_append_left _ hcall, errno, hfault⟩

/-! ## Turns -/

namespace Turn

/-- What the shell hears in a turn of a process, and what it makes of it. -/
structure Crossing (program : String) (pipe : Nat) (pid : Pid) (calls : List Call)
    (result : Except ShellError StageState) : Prop where
  /-- If the process is refused a duplicate or its program, this error number is read first, and its
  text is the reason. -/
  refused : ∀ errno : Errno, errno.IsWord → (∃ call ∈ calls, call.startFault? = some errno) →
    Spared calls → Reporting calls pipe → errno.toBytes <+: bytesRead (.readEnd pipe) calls ∧
      result = .ok (.execFailed pid (program ++ ": " ++ errno.systemText))
  /-- A process that gives up was refused a duplicate or its program. -/
  abandoned : ∀ asker code, .exit asker code ∈ calls →
    ∃ call ∈ calls, ∃ errno, call.startFault? = some errno
  /-- In how many reads the bytes come makes no difference, and neither does what follows them. -/
  whole : ∀ (errno : Errno) (rest : Bytes), errno.IsWord →
    (∀ limit table failure, .read (.readEnd pipe) limit table (.error failure) ∈ calls →
      failure = .interrupted) →
    bytesRead (.readEnd pipe) calls = errno.toBytes ++ rest →
      result = .ok (.execFailed pid (program ++ ": " ++ errno.systemText))
  /-- If the program is started, there is nothing to read. -/
  started : ∀ asker launch, .exec asker launch (.ok ()) ∈ calls → Delivers pipe [] calls →
    bytesRead (.readEnd pipe) calls = [] ∧ result = .ok (.running pid)
  /-- If the process ends before anything is written, there is nothing to read either. -/
  silent : (∀ bytes, .write (.writeEnd pipe) bytes (.ok ()) ∉ calls) → Delivers pipe [] calls →
    bytesRead (.readEnd pipe) calls = [] ∧ result = .ok (.running pid)
  /-- Less than four bytes count as nothing. -/
  cut : (bytesRead (.readEnd pipe) calls).length < 4 → result = .ok (.running pid)
  /-- If a duplicate takes the place of the descriptor for the report, there is nothing to read,
  however the process ends. -/
  overwritten : ¬ Spared calls → Delivers pipe [] calls →
    bytesRead (.readEnd pipe) calls = [] ∧ result = .ok (.running pid)

/-- How the process of a turn fails, if it does, and what the shell hears of it. -/
structure Conversation (program : String) (pipe : Nat) (pid : Pid) (calls : List Call)
    (result : Except ShellError StageState) (failure : Option Errno)
    (heard : Except Errno Bytes) : Prop where
  /-- What is heard decides what comes of the turn. -/
  result_eq : result = .ok (.heard program pid (heardErrno heard))
  /-- The process fails if it is refused something. -/
  failed : ∀ call ∈ calls, ∀ errno, call.startFault? = some errno → failure = some errno
  /-- It is refused something if it gives up. -/
  abandoned : ∀ asker code, .exit asker code ∈ calls →
    ∃ call ∈ calls, ∃ errno, call.startFault? = some errno
  /-- It does not fail if its program is started. -/
  started : ∀ asker launch, .exec asker launch (.ok ()) ∈ calls → failure = none
  /-- If reports are passed on, the failure is heard first. -/
  reported : ∀ errno, failure = some errno → Spared calls → Reporting calls pipe →
    ∃ rest, heard = .ok (errno.toBytes ++ rest)
  /-- If there is no report, the end is heard at once. -/
  silent : Delivers pipe [] calls → (failure = none ∨ ¬ Spared calls ∨
    ∀ bytes, .write (.writeEnd pipe) bytes (.ok ()) ∉ calls) → heard = .ok []
  /-- If no read fails, something is heard. -/
  exists_ok : (∀ limit table errno, .read (.readEnd pipe) limit table (.error errno) ∈ calls →
    errno = .interrupted) → ∃ bytes, heard = .ok bytes
  /-- What is heard is all that is read. -/
  bytesRead_eq : ∀ bytes, heard = .ok bytes → bytesRead (.readEnd pipe) calls = bytes

theorem Conversation.crossing {program : String} {pipe : Nat} {pid : Pid} {calls : List Call}
    {result : Except ShellError StageState} {failure : Option Errno} {heard : Except Errno Bytes}
    (h : Conversation program pipe pid calls result failure heard) :
    Crossing program pipe pid calls result := by
  have hrefused : ∀ (errno : Errno) (rest : Bytes), errno.IsWord →
      heard = .ok (errno.toBytes ++ rest) →
        result = .ok (.execFailed pid (program ++ ": " ++ errno.systemText)) := by
    intro errno rest hword hheard
    rw [h.result_eq, hheard, heardErrno, errno.ofBytes?_reported rest,
      errno.reported_eq hword.1 hword.2]
    rfl
  have hnothing : heard = .ok [] →
      bytesRead (.readEnd pipe) calls = [] ∧ result = .ok (.running pid) := by
    intro hheard
    refine ⟨h.bytesRead_eq [] hheard, ?_⟩
    rw [h.result_eq, hheard]
    rfl
  refine ⟨?_, h.abandoned, ?_, ?_, ?_, ?_, ?_⟩
  · rintro errno hword ⟨call, hcall, hfault⟩ hspared hreporting
    obtain ⟨rest, hheard⟩ := h.reported errno (h.failed call hcall errno hfault) hspared hreporting
    exact ⟨⟨rest, (h.bytesRead_eq _ hheard).symm⟩, hrefused errno rest hword hheard⟩
  · intro errno rest hword hreads hbytes
    obtain ⟨bytes, hheard⟩ := h.exists_ok hreads
    rw [h.bytesRead_eq bytes hheard] at hbytes
    exact hrefused errno rest hword (hbytes ▸ hheard)
  · intro asker launch hexec hdelivers
    exact hnothing (h.silent hdelivers (Or.inl (h.started asker launch hexec)))
  · intro hwrites hdelivers
    exact hnothing (h.silent hdelivers (Or.inr (Or.inr hwrites)))
  · intro hshort
    rw [h.result_eq]
    cases heard with
    | error errno => rfl
    | ok bytes =>
      rw [h.bytesRead_eq bytes rfl] at hshort
      rw [heardErrno, Errno.ofBytes?_of_length_lt hshort]
      rfl
  · intro hoverwritten hdelivers
    exact hnothing (h.silent hdelivers (Or.inr (Or.inl hoverwritten)))

variable [Kernel σ] {streams : Streams} {base : ShellState (Recorded σ)}
  {row : List PipeEnds} {t : Turn σ} {table : Descriptors} {result : Except ShellError StageState}
  {calls : List Call}

/-- In a turn in which a process is made the shell hears of this process. -/
theorem Transcript.conversation (h : t.Transcript streams base.descriptors result calls)
    (hplaced : t.Placed base row) (hindex : t.index ≤ row.length) (hopen : streams.Open base)
    (hnumbered : Numbered base) {pipe : Nat} {pid : Pid}
    (hpipe : .makePipe pipe (.ok ()) ∈ calls) (hfork : .fork table (.ok pid) ∈ calls) :
    ∃ failure heard, Conversation t.stage.program pipe pid calls result failure heard := by
  cases h with
  | unopened path fault openings notes hopenings hnotes =>
    rcases List.mem_append.1 hfork with hmem | hmem
    · cases hopenings.isOpening _ hmem
    · cases hnotes.isTransfer _ hmem
  | unpassable reason openings hopenings hpass => cases hopenings.isOpening _ hfork
  | unheard pipe' errno openings hopenings hpipe' hpass =>
    rcases List.mem_append.1 hfork with hmem | hmem
    · cases hopenings.isOpening _ hmem
    · cases List.mem_singleton.1 hmem
  | unborn pipe' forking errno openings notes hopenings hpipe' hnotes hpass =>
    simp only [List.mem_append, List.mem_cons, reduceCtorEq, Call.fork.injEq, and_false,
      false_or] at hfork
    rcases hfork with hmem | hmem
    · cases hopenings.isOpening _ hmem
    · cases hnotes.isTransfer _ hmem
  | forked arguments io report equipped forking openings notes course reads later pid' failure heard
      ready hopenings hnotes hreached hcourse hheard hlater =>
    have hreport := ready.canReport hplaced hindex hopen hnumbered
    have hcases : ∀ {call : Call}, call ∈ openings ++ (.makePipe equipped.fresh (.ok ()) ::
        .fork forking.descriptors (.ok pid') :: (notes ++ course ++ reads ++ later)) →
        call.isOpening = false → call.isTransfer = false →
          call = .makePipe equipped.fresh (.ok ()) ∨ call = .fork forking.descriptors (.ok pid') ∨
            call ∈ course ∧ call.asker? = some pid' :=
      ready.call_cases hnotes hcourse hheard hlater
    have hpipe' : pipe = equipped.fresh := by
      rcases hcases hpipe rfl rfl with heq | heq | ⟨-, hasker⟩
      · cases heq
        rfl
      · cases heq
      · cases hasker
    have hpid : pid = pid' := by
      rcases hcases hfork rfl rfl with heq | heq | ⟨-, hasker⟩
      · cases heq
      · cases heq
        rfl
      · cases hasker
    subst hpipe' hpid
    refine ⟨failure, heard, rfl, ?_, ?_, ?_, ?_, ?_, ?_, ?_⟩
    · intro call hcall errno hfault
      have hopening : call.isOpening = false := by cases call <;> first | rfl | cases hfault
      have htransfer : call.isTransfer = false := by cases call <;> first | rfl | cases hfault
      rcases hcases hcall hopening htransfer with rfl | rfl | ⟨hmem, -⟩
      · cases hfault
      · cases hfault
      · exact hcourse.failure_eq_some hmem hfault
    · intro asker code hexit
      rcases hcases hexit rfl rfl with heq | heq | ⟨hmem, -⟩
      · cases heq
      · cases heq
      · obtain ⟨call, hcall, hfault⟩ := hcourse.exists_startFault hreport.sources hmem
        exact ⟨call, by simp [hcall], hfault⟩
    · intro asker launch hexec
      rcases hcases hexec rfl rfl with heq | heq | ⟨hmem, -⟩
      · cases heq
      · cases heq
      · exact hcourse.failure_eq_none hmem
    · rintro errno rfl hspared hreporting
      obtain ⟨rest, hrest⟩ := prefix_written hreport hcourse hspared hreporting
      exact ⟨rest, by
        rw [ready.heard_eq hreport hnotes hreached hcourse hheard hreporting.delivers, hrest]⟩
    · intro hdelivers hsilent
      rcases hsilent with rfl | hoverwritten | hwrites
      · rw [ready.heard_eq hreport hnotes hreached hcourse hheard hdelivers,
          hcourse.bytesWritten_eq_nil]
      · exact ready.heard_eq_nil hreport hnotes hreached hcourse hheard hlater hoverwritten
          hdelivers
      · rw [ready.heard_eq hreport hnotes hreached hcourse hheard hdelivers,
          bytesWritten_eq_nil_of_not_mem fun bytes hmem => hwrites bytes (by simp [hmem])]
    · intro hreads
      exact hheard.exists_ok fun limit table errno hmem =>
        hreads limit table errno (by simp [hmem])
    · rintro bytes rfl
      rw [ready.bytesRead_eq hnotes hcourse hlater]
      exact hheard.bytesRead_eq rfl

end Turn

/-! ## Runs -/

/-- The outcome of a stage that the wait for its process alone decides. -/
def StageOutcome.ofWait : Except ShellError Status → StageOutcome
  | .ok status => .finished status
  | .error error => .aborted error

section

variable {table : Descriptors} {stamp : String} {pid : Pid} {outcome : StageOutcome}
  {calls : List Call}

/-- What comes of a stage whose program was started is what comes of the wait for its process. -/
theorem Reaped.of_running (h : Reaped table stamp (.running pid) outcome calls) :
    ∃ result, Awaits table pid result calls ∧ outcome = .ofWait result := by
  cases h with
  | ended pid calls last status h hlast =>
    exact ⟨.ok status, h.awaits (ChildEvent.concluding_of_ended pid hlast), rfl⟩
  | lost pid calls notes last errno h hlast hnotes =>
    have hawaits := h.awaits (ChildEvent.concluding_of_failed pid hlast)
    exact ⟨.error (.wait pid errno), hawaits.append hnotes.isTransfer, rfl⟩

/-- A process whose program was not started is waited for, whatever comes of it. -/
theorem Reaped.of_execFailed {reason : String}
    (h : Reaped table stamp (.execFailed pid reason) outcome calls) :
    (∃ result, Awaits table pid result calls) ∧ outcome = .finished (.startFailed reason) := by
  cases h with
  | buried pid reason calls notes last h hnotes =>
    obtain ⟨result, hlast⟩ := ChildEvent.concluding_of_final pid h.isFinal_eq
    exact ⟨⟨result, (h.awaits hlast).append hnotes.isTransfer⟩, rfl⟩

end

namespace Pipeline

variable [Kernel σ] {streams : Streams} {p : Pipeline} {s : ShellState (Recorded σ)}

/-- Whether there is a report or not, the processes of all stages are waited for in the end. -/
theorem exists_reapedAll (streams : Streams) (p : Pipeline) (s : ShellState (Recorded σ)) :
    ∃ (front later : List Call) (states : List StageState) (outcomes : List StageOutcome)
      (segments : List (List Call)),
      (p.execute streams).transcript s = front ++ segments.flatten ++ later ∧
      ReapedAll s.descriptors s.log.stamp states outcomes segments ∧
      (∀ (i : Nat) (t : Turn σ) (state : StageState), (p.turns streams s)[i]? = some t →
        t.result streams = .ok state → states[i]? = some state) ∧
      ∀ report : Report, (p.execute streams s).1 = .ok report → report.outcomes = outcomes := by
  have htranscript := (transcribed_execute streams p s).2
  generalize (p.execute streams s).1 = result at htranscript
  generalize (p.execute streams).transcript s = calls at htranscript
  cases htranscript with
  | unpiped errno done hdone hturns =>
    refine ⟨_, [], [], [], [], (List.append_nil _).symm.trans (List.append_nil _).symm, .nil,
      fun i t state hi => ?_, fun report hreport => ?_⟩
    · rw [hturns] at hi
      cases hi
    · cases hreport
  | finished states outcomes notes later segments hresults hall hnotes hreaped hlater =>
    refine ⟨_, later, states, outcomes, segments, rfl, hreaped, fun i t state hi hstate => ?_,
      fun report hreport => ?_⟩
    · obtain ⟨state', hstate', hok⟩ := exists_state hresults hi
      cases hstate.symm.trans hok
      exact hstate'
    · cases hreport
      rfl
  | stopped states outcomes error notes later segments hresults hnotes hreaped hlater =>
    refine ⟨_, later, states, outcomes, segments, rfl, hreaped, fun i t state hi hstate => ?_,
      fun report hreport => ?_⟩
    · have hall : (p.turns streams s).map (Turn.result streams) =
          states.map .ok ++ [error].map .error := hresults
      rcases state_or_fault hall hi with ⟨state', hstate', hok⟩ | ⟨fault, -, hfault⟩
      · cases hstate.symm.trans hok
        exact hstate'
      · cases hstate.symm.trans hfault
    · cases hreport

/-- What is heard of the processes of a pipeline, and what comes of its stages, given the calls by
which each of them is waited for. -/
structure Crossing (streams : Streams) (p : Pipeline) (s : ShellState (Recorded σ))
    (segments : List (List Call)) : Prop where
  /-- Every error number that has a name can be held by four bytes, and so can zero. -/
  known : ∀ errno : Errno, errno.number = 0 ∨ errno.entry? ≠ none → errno.IsWord
  /-- If the shell has one of the first two descriptors, no process loses the descriptor for its
  report. -/
  spared : s.descriptors.get? 0 ≠ none ∨ s.descriptors.get? 1 ≠ none →
    ∀ t ∈ p.turns streams s, Spared (t.transcript streams)
  /-- In a turn in which a process is made the shell hears of it. -/
  turns : ∀ t ∈ p.turns streams s, ∀ (pipe : Nat) (table : Descriptors) (pid : Pid),
    .makePipe pipe (.ok ()) ∈ t.transcript streams →
    .fork table (.ok pid) ∈ t.transcript streams →
      Turn.Crossing t.stage.program pipe pid (t.transcript streams) (t.result streams)
  /-- A process whose program could not be started is waited for, and whatever comes of this, the
  reason is the outcome of the stage. -/
  failed : ∀ (i : Nat) (t : Turn σ) (pid : Pid) (reason : String),
    (p.turns streams s)[i]? = some t → t.result streams = .ok (.execFailed pid reason) →
      (∃ waits result, segments[i]? = some waits ∧ Awaits s.descriptors pid result waits) ∧
        (Status.startFailed reason).code = 127 ∧
        ∀ report : Report, (p.execute streams s).1 = .ok report →
          report.outcomes[i]? = some (.finished (.startFailed reason))
  /-- A process whose program was started is waited for, and what comes of this alone is the outcome
  of the stage. -/
  ran : ∀ (i : Nat) (t : Turn σ) (pid : Pid),
    (p.turns streams s)[i]? = some t → t.result streams = .ok (.running pid) →
      ∃ waits result, segments[i]? = some waits ∧ Awaits s.descriptors pid result waits ∧
        ∀ report : Report, (p.execute streams s).1 = .ok report →
          report.outcomes[i]? = some (.ofWait result)

/-- Whatever the system answers, the error number with which the process of a stage fails reaches
the shell and decides the outcome of the stage, and if none is reported, the wait decides. Only a
process whose output takes the place of the descriptor for its report is not heard. -/
theorem crossing_execute (streams : Streams) (p : Pipeline) (s : ShellState (Recorded σ))
    (hopen : streams.Open s) (hnumbered : Numbered s) :
    ∃ (front later : List Call) (segments : List (List Call)),
      (p.execute streams).transcript s = front ++ segments.flatten ++ later ∧
      p.Crossing streams s segments := by
  obtain ⟨row, hrow, hplaced⟩ := placed_turns streams p s
  obtain ⟨front, later, states, outcomes, segments, hcalls, hreaped, hstates, houtcomes⟩ :=
    exists_reapedAll streams p s
  refine ⟨front, later, segments, hcalls, ?_, ?_, ?_, ?_, ?_⟩
  · rintro errno (hzero | hentry)
    · rw [Errno.IsWord, hzero]
      decide
    · obtain ⟨entry, hentry⟩ := Option.ne_none_iff_exists'.1 hentry
      exact Errno.isWord_of_entry hentry
  · intro hstreams t ht
    exact spared_of_mem_turns hnumbered hstreams ht
  · intro t ht pipe table pid hpipe hfork
    have hindex : t.index ≤ row.length := hrow ▸ index_le_of_mem_turns ht
    obtain ⟨failure, heard, hconversation⟩ := (transcript_of_mem_turns ht).2.1.conversation
      (hplaced t ht) hindex hopen hnumbered hpipe hfork
    exact hconversation.crossing
  · intro i t pid reason hi hresult
    obtain ⟨outcome, waits, houtcome, hwaits, hstage⟩ := hreaped.get (hstates i t _ hi hresult)
    obtain ⟨⟨result, hawaits⟩, rfl⟩ := hstage.of_execFailed
    refine ⟨⟨waits, result, hwaits, hawaits⟩, rfl, fun report hreport => ?_⟩
    rw [houtcomes report hreport, houtcome]
  · intro i t pid hi hresult
    obtain ⟨outcome, waits, houtcome, hwaits, hstage⟩ := hreaped.get (hstates i t _ hi hresult)
    obtain ⟨result, hawaits, rfl⟩ := hstage.of_running
    refine ⟨waits, result, hwaits, hawaits, fun report hreport => ?_⟩
    rw [houtcomes report hreport, houtcome]

/-- A stage whose program is missing, and one that ends by itself with the status of a program that
could not be started. -/
def missingStages : Pipeline :=
  ⟨⟨"nope", [], none, none⟩, [⟨"sh", [], none, none⟩]⟩

theorem crossing_execute_missing :
    Streams.inherited.Open
        (Chronicle.shell [utf8 "nope"] [.stopped 19, .exited 127, .exited 127]) ∧
      Numbered (Chronicle.shell [utf8 "nope"] [.stopped 19, .exited 127, .exited 127]) ∧
      (missingStages.execute .inherited
        (Chronicle.shell [utf8 "nope"] [.stopped 19, .exited 127, .exited 127])).1 =
          .ok ⟨1, [.finished (.startFailed "nope: No such file or directory (os error 2)"),
            .finished (.exited 127)]⟩ ∧
      ∃ (front later : List Call) (segments : List (List Call)),
        (missingStages.execute .inherited).transcript
            (Chronicle.shell [utf8 "nope"] [.stopped 19, .exited 127, .exited 127]) =
          front ++ segments.flatten ++ later ∧
        missingStages.Crossing .inherited
          (Chronicle.shell [utf8 "nope"] [.stopped 19, .exited 127, .exited 127]) segments :=
  ⟨Streams.open_inherited _, Chronicle.numbered_shell _ _,
    eq_ok_of_toOption (by decide +kernel),
    crossing_execute .inherited missingStages _ (Streams.open_inherited _)
      (Chronicle.numbered_shell _ _)⟩

/-- If neither of the first two descriptors is open, the error number of a missing program does not
reach the shell, although the pipe delivers all that is written to it: the four bytes are written to
the output of the stage. -/
theorem unheard_of_closed :
    (missingStage.turns ⟨some 5, some 6⟩
        (Chronicle.shellWith [2, 5, 6] [] [utf8 "nope"] [.exited 127])).length = 1 ∧
    ∀ t ∈ missingStage.turns ⟨some 5, some 6⟩
        (Chronicle.shellWith [2, 5, 6] [] [utf8 "nope"] [.exited 127]),
      (t.transcript ⟨some 5, some 6⟩).findSome? Call.startFault? = some .noEntry ∧
      (∀ pipe ∈ (t.transcript ⟨some 5, some 6⟩).filterMap Call.made?,
        Reporting (t.transcript ⟨some 5, some 6⟩) pipe ∧
          bytesRead (.readEnd pipe) (t.transcript ⟨some 5, some 6⟩) = []) ∧
      Errno.noEntry.toBytes <+: bytesWritten (.file 6) (t.transcript ⟨some 5, some 6⟩) ∧
      (t.result ⟨some 5, some 6⟩).toOption = some (.running 1) := by
  decide +kernel

end Pipeline

end CommandShell
