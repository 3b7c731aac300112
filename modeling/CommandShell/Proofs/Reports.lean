import CommandShell.Proofs.PipeTraffic
import CommandShell.Proofs.RunTranscript

/-!
# Reports of processes

Of all descriptors that lead to the pipe on which a process reports, only one can be written to, and
no program gets it. The shell closes its copy before it listens, and the process closes its own when
it ends or starts its program: then the pipe comes to its end, and the shell hears all that was
written. This is the error number with which the process fails, unless a duplicate has taken the
place of the descriptor on which it was to be reported. Main statements: without such a duplicate
the shell hears how the process has failed (`Turn.Ready.heardErrno_eq`), and after one it hears
nothing (`Turn.Ready.heard_eq_nil`). There is none if one of the first two descriptors of the shell
is open (`Turn.Transcript.spared`).
-/

namespace CommandShell

open Shell

variable {σ : Type}

/-- The error number that is read back when an error number was written. -/
def Errno.reported (e : Errno) : Errno := .ofWord (e.number % wordSize).toNat

/-- Whatever error number is written, one is read back, whatever else is written behind it. -/
theorem Errno.ofBytes?_reported (e : Errno) (rest : Bytes) :
    ofBytes? (e.toBytes ++ rest) = some e.reported := by
  have hword : (e.number % wordSize).toNat < 4294967296 := by
    simp only [wordSize]
    omega
  exact ofBytes?_bytesOfWord (e.number % wordSize).toNat rest hword

/-- An error number of the system is read back as it was written. -/
theorem Errno.reported_eq (e : Errno) (h : -2147483648 ≤ e.number) (h' : e.number < 2147483648) :
    e.reported = e := by
  have hread := ofBytes?_toBytes e [] h h'
  rw [ofBytes?_reported] at hread
  exact Option.some.inj hread

/-- No duplicate takes the place of a descriptor on which a process can report. -/
def Spared (calls : List Call) : Prop :=
  ∀ table pid pipe asker source goal, .fork table (.ok pid) ∈ calls →
    .makePipe pipe (.ok ()) ∈ calls → .duplicate asker source goal (.ok ()) ∈ calls →
      table.get? goal ≠ some ⟨.writeEnd pipe, true⟩

/-! ## Reserved descriptors -/

/-- Nothing but one descriptor refers to something, and no program gets this descriptor. -/
def Reserved (table : Descriptors) (resource : Resource) (holder : Fd) : Prop :=
  ∀ fd slot, table.get? fd = some slot → slot.target = resource →
    fd = holder ∧ slot.closeOnExec = true

namespace Reserved

variable {table changed : Descriptors} {resource : Resource} {holder source goal : Fd}

/-- Nobody refers to something if the only descriptor for it refers to it no more. -/
theorem refersTo_eq_false (h : Reserved table resource holder)
    (hlost : table.get? holder ≠ some ⟨resource, true⟩) :
    table.refersTo (fun other => decide (other = resource)) = false := by
  rw [← Bool.not_eq_true, DescriptorTable.refersTo_iff]
  rintro ⟨fd, ⟨target, marked⟩, hslot, htarget⟩
  have htarget : target = resource := of_decide_eq_true htarget
  obtain ⟨rfl, hmarked⟩ := h fd _ hslot htarget
  rw [htarget, show marked = true from hmarked] at hslot
  exact hlost hslot

theorem closeAll (h : Reserved table resource holder) (fds : List Fd) :
    Reserved (table.closeAll fds) resource holder := by
  intro fd slot hslot
  rw [DescriptorTable.get?_closeAll] at hslot
  split at hslot
  · cases hslot
  · exact h fd slot hslot

theorem surviving (h : Reserved table resource holder) :
    Reserved table.surviving resource holder := by
  intro fd slot hslot
  rw [DescriptorTable.get?_surviving, Option.filter_eq_some_iff] at hslot
  exact h fd slot hslot.1

/-- A duplicate of another descriptor refers to something else. -/
theorem duplicate (h : Reserved table resource holder) (hsource : source ≠ holder)
    (hduplicate : table.duplicate source goal = some changed) :
    Reserved changed resource holder := by
  by_cases hsame : source = goal
  · subst hsame
    rwa [DescriptorTable.eq_of_duplicate_same hduplicate]
  · intro fd slot hslot htarget
    rw [DescriptorTable.get?_duplicate hsame hduplicate] at hslot
    split at hslot
    · obtain ⟨old, hold, rfl⟩ := Option.map_eq_some_iff.1 hslot
      exact absurd (h source old hold htarget).1 hsource
    · exact h fd slot hslot htarget

/-- What is lost by a descriptor does not come back by a duplicate. -/
theorem lost_duplicate (hlost : table.get? holder ≠ some ⟨resource, true⟩)
    (hduplicate : table.duplicate source goal = some changed) :
    changed.get? holder ≠ some ⟨resource, true⟩ := by
  by_cases hsame : source = goal
  · subst hsame
    rwa [DescriptorTable.eq_of_duplicate_same hduplicate]
  · rw [DescriptorTable.get?_duplicate hsame hduplicate]
    split
    · cases table.get? source <;> simp
    · exact hlost

end Reserved

namespace Child

variable {table wired : Descriptors} {wires : List (Fd × Fd)} {resource : Resource} {holder : Fd}

theorem reserved_rewire (h : Reserved table resource holder)
    (hwired : rewire table wires = some wired) (hsources : ∀ wire ∈ wires, wire.1 ≠ holder) :
    Reserved wired resource holder := by
  induction wires generalizing table with
  | nil =>
    cases hwired
    exact h
  | cons wire rest ih =>
    rw [rewire, Option.bind_eq_some_iff] at hwired
    obtain ⟨changed, hchanged, hwired⟩ := hwired
    exact ih (h.duplicate (hsources wire List.mem_cons_self) hchanged) hwired
      fun wire hwire => hsources wire (List.mem_cons_of_mem _ hwire)

theorem lost_rewire (hlost : table.get? holder ≠ some ⟨resource, true⟩)
    (hwired : rewire table wires = some wired) : wired.get? holder ≠ some ⟨resource, true⟩ := by
  induction wires generalizing table with
  | nil =>
    cases hwired
    exact hlost
  | cons wire rest ih =>
    rw [rewire, Option.bind_eq_some_iff] at hwired
    obtain ⟨changed, hchanged, hwired⟩ := hwired
    exact ih (Reserved.lost_duplicate hlost hchanged) hwired

/-- A descriptor whose place is taken by a duplicate of another one is lost. -/
theorem lost_of_goal_mem {source : Fd} (hmem : (source, holder) ∈ wires)
    (hwired : rewire table wires = some wired) (hsources : ∀ wire ∈ wires, wire.1 ≠ holder) :
    wired.get? holder ≠ some ⟨resource, true⟩ := by
  induction wires generalizing table with
  | nil => cases hmem
  | cons wire rest ih =>
    rw [rewire, Option.bind_eq_some_iff] at hwired
    obtain ⟨changed, hchanged, hwired⟩ := hwired
    rcases List.mem_cons.1 hmem with rfl | hmem
    · refine lost_rewire ?_ hwired
      have hne : source ≠ holder := hsources (source, holder) List.mem_cons_self
      rw [DescriptorTable.get?_duplicate_self hne hchanged]
      cases table.get? source <;> simp
    · exact ih hmem hwired fun wire hwire => hsources wire (List.mem_cons_of_mem _ hwire)

/-- Duplicates close nothing. -/
theorem get?_rewire_ne_none (hwired : rewire table wires = some wired) {fd : Fd}
    (hfd : table.get? fd ≠ none) : wired.get? fd ≠ none := by
  induction wires generalizing table with
  | nil =>
    cases hwired
    exact hfd
  | cons wire rest ih =>
    rw [rewire, Option.bind_eq_some_iff] at hwired
    obtain ⟨changed, hchanged, hwired⟩ := hwired
    exact ih hwired (DescriptorTable.get?_duplicate_ne_none hchanged hfd)

/-! ## Processes -/

/-- A process that can report on a pipe: nobody else can, its own streams have nothing to do with
it, and they are open. -/
structure CanReport (child : Child) (table : Descriptors) (pipe : Nat) : Prop where
  /-- Only the descriptor for the report leads to the pipe. -/
  reserved : Reserved table (.writeEnd pipe) child.report
  /-- This descriptor leads to the pipe. -/
  writer : table.get? child.report = some ⟨.writeEnd pipe, true⟩
  /-- What is to be duplicated is another one. -/
  apart : ∀ wire ∈ child.wires, wire.1 ≠ child.report
  /-- What is to be duplicated is open. -/
  sources : ∀ wire ∈ child.wires, table.get? wire.1 ≠ none

variable {child : Child} {pid : Pid} {remaining : Descriptors} {directory : Directory}
  {failure : Option Errno} {errno : Errno} {calls : List Call} {pipe : Nat}

/-- What a process tries moves no bytes. -/
theorem Tried.isStep (h : child.Tried pid table directory errno remaining calls) :
    ∀ call ∈ calls, call.isTransfer = false := by
  intro call hcall
  have hasker := h.asker call hcall
  cases call <;> first | rfl | cases hasker

/-- What was granted are the duplicates that were asked for. -/
theorem mem_of_granted {asker : Pid} {source goal : Fd} {answer : Except Errno Unit}
    (h : .duplicate asker source goal answer ∈ granted pid wires) : (source, goal) ∈ wires := by
  obtain ⟨⟨source', goal'⟩, hwire, heq⟩ := List.mem_map.1 h
  cases heq
  exact hwire

/-- A process that gives up is left with the duplicates that were made, and these are all that the
system has granted, unless something was to be duplicated that is not open. -/
theorem Tried.rewired (h : child.Tried pid table directory errno remaining calls) :
    ∃ done, (∀ wire ∈ done, wire ∈ child.wires) ∧ rewire table done = some remaining ∧
      (∀ wire ∈ done, .duplicate pid wire.1 wire.2 (.ok ()) ∈ calls) ∧
      ∀ asker source goal, .duplicate asker source goal (.ok ()) ∈ calls → (source, goal) ∈ done ∨
        (source, goal) ∈ child.wires ∧ remaining.duplicate source goal = none := by
  have hgranted : ∀ {done : List (Fd × Fd)} {rest : List Call}, ∀ wire ∈ done,
      .duplicate pid wire.1 wire.2 (.ok ()) ∈ granted pid done ++ rest := fun wire hwire =>
    List.mem_append_left _ (List.mem_map_of_mem (f := fun wire : Fd × Fd =>
      Call.duplicate pid wire.1 wire.2 (.ok ())) hwire)
  cases h with
  | unwired done rest source goal errno remaining answer hwires hdone hanswer =>
    refine ⟨done, ?_, hdone, hgranted, ?_⟩
    · intro wire hwire
      rw [hwires]
      exact List.mem_append_left _ hwire
    · intro asker source' goal' hmem
      rcases List.mem_append.1 hmem with hmem | hmem
      · exact Or.inl (mem_of_granted hmem)
      · cases List.mem_singleton.1 hmem
        rcases hanswer with hanswer | ⟨-, -, hnone⟩
        · cases hanswer
        · exact Or.inr ⟨by simp [hwires], hnone⟩
  | refused errno wired h =>
    refine ⟨child.wires, fun wire hwire => hwire, h, hgranted, ?_⟩
    intro asker source goal hmem
    rcases List.mem_append.1 hmem with hmem | hmem
    · exact Or.inl (mem_of_granted hmem)
    · cases List.mem_singleton.1 hmem

/-- What a process tries leaves it with its duplicates. -/
theorem Tried.after_eq (h : child.Tried pid table directory errno remaining calls)
    (rest : List Process) :
    Process.after (⟨pid, table⟩ :: rest) calls = ⟨pid, remaining⟩ :: rest := by
  cases h with
  | unwired done rest' source goal errno remaining answer hwires hdone hanswer =>
    rw [Process.after_append, Process.after_granted hdone]
    rcases hanswer with rfl | ⟨rfl, -, hnone⟩
    · rfl
    · rw [Process.after_cons, Process.step, Process.revise_head, hnone]
      rfl
  | refused errno wired h =>
    rw [Process.after_append, Process.after_granted h]
    rfl

/-- What a process writes that gives up changes nothing of the processes, and then it ends. -/
theorem Abandoned.after_eq (h : child.Abandoned pid remaining errno calls) (rest : List Process) :
    Process.after (⟨pid, remaining⟩ :: rest) calls = rest := by
  cases h with
  | intro report name reason newline hreport hname hreason hnewline =>
    have hwrites : ∀ call ∈ report ++ name ++ reason ++ newline,
        call.asker? = none ∧ call.forked? = none := by
      intro call hcall
      have hwrite : call.isWrite = true := by
        simp only [List.mem_append] at hcall
        rcases hcall with ((hcall | hcall) | hcall) | hcall
        · exact hreport.isWrite call hcall
        · exact hname.isWrite call hcall
        · exact hreason.isWrite call hcall
        · exact hnewline.isWrite call hcall
      cases call <;> first | exact ⟨rfl, rfl⟩ | cases hwrite
    rw [Process.after_append, Process.after_of_idle hwrites]
    exact Process.revise_head pid remaining rest fun _ => none

/-- At the end of its transcript no process can write to the pipe any more. -/
theorem Transcript.not_holds (h : child.Transcript pid table directory failure calls)
    (hreport : child.CanReport table pipe) :
    ∀ process ∈ Process.after [⟨pid, table⟩] calls, process.holds (.writeEnd pipe) = false := by
  cases h with
  | started wired hwired =>
    have hleft : Process.after [⟨pid, table⟩] (granted pid child.wires ++
        [.exec pid ⟨child.arguments, wired.surviving, directory⟩ (.ok ())]) =
          [⟨pid, wired.surviving⟩] := by
      rw [Process.after_append, Process.after_granted hwired]
      exact Process.revise_head pid wired [] fun table => some table.surviving
    intro process hprocess
    rw [hleft] at hprocess
    rw [List.mem_singleton.1 hprocess]
    have hreserved := reserved_rewire hreport.reserved hwired hreport.apart
    refine hreserved.surviving.refersTo_eq_false ?_
    rw [DescriptorTable.get?_surviving, ne_eq, Option.filter_eq_some_iff]
    rintro ⟨-, hkept⟩
    cases hkept
  | failed errno remaining tried told htried htold =>
    intro process hprocess
    rw [Process.after_append, htried.after_eq, htold.after_eq] at hprocess
    cases hprocess

/-- The process of a stage reads nothing before its program takes over. -/
theorem Transcript.bytesRead_eq (h : child.Transcript pid table directory failure calls)
    (source : Resource) : bytesRead source calls = [] := by
  apply bytesRead_eq_nil
  intro call hcall
  rcases h.call_cases hcall with hasker | ⟨goal, bytes, answer, rfl⟩
  · cases call <;> first | rfl | cases hasker
  · rfl

/-- A process whose program is started writes nothing before. -/
theorem Transcript.bytesWritten_eq_nil (h : child.Transcript pid table directory none calls)
    (goal : Resource) : bytesWritten goal calls = [] := by
  cases h with
  | started wired h =>
    apply CommandShell.bytesWritten_eq_nil
    intro call hcall
    rcases List.mem_append.1 hcall with hcall | hcall
    · obtain ⟨wire, -, rfl⟩ := List.mem_map.1 hcall
      rfl
    · rw [List.mem_singleton.1 hcall]
      rfl

/-- A process that fails reports the error number first, if no duplicate has taken the place of the
descriptor for its report. -/
theorem Transcript.prefix_bytesWritten
    (h : child.Transcript pid table directory (some errno) calls)
    (hreport : child.CanReport table pipe)
    (hspared : ∀ asker source goal, .duplicate asker source goal (.ok ()) ∈ calls →
      goal ≠ child.report)
    (hwrites : ∀ bytes answer, .write (.writeEnd pipe) bytes answer ∈ calls → answer = .ok ()) :
    errno.toBytes <+: bytesWritten (.writeEnd pipe) calls := by
  cases h with
  | failed errno remaining tried told htried htold =>
    obtain ⟨done, -, hdone, hgranted, -⟩ := htried.rewired
    have hleft : remaining.get? child.report = some ⟨.writeEnd pipe, true⟩ := by
      rw [get?_rewire hdone fun wire hwire => ?_, hreport.writer]
      exact hspared pid _ _ (List.mem_append_left _ (hgranted wire hwire))
    rw [bytesWritten_append, CommandShell.bytesWritten_eq_nil fun call hcall =>
      Call.writtenTo?_of_step (htried.isStep call hcall) _, List.nil_append]
    cases htold with
    | intro report name reason newline hreported hname hreason hnewline =>
      have hbytes := hreported.bytesWritten_eq hleft fun bytes answer hmem =>
        hwrites bytes answer (by simp [hmem])
      rw [List.append_assoc, List.append_assoc, List.append_assoc, bytesWritten_append, hbytes]
      exact List.prefix_append _ _

/-- A process writes nothing to the pipe if a duplicate has taken the place of the descriptor for
its report. -/
theorem Transcript.bytesWritten_overwritten
    (h : child.Transcript pid table directory failure calls)
    (hreport : child.CanReport table pipe) {asker : Pid} {source : Fd}
    (htaken : .duplicate asker source child.report (.ok ()) ∈ calls) :
    bytesWritten (.writeEnd pipe) calls = [] := by
  cases failure with
  | none => exact h.bytesWritten_eq_nil _
  | some errno =>
    cases h with
    | failed errno remaining tried told htried htold =>
      obtain ⟨done, hsub, hdone, -, hmade⟩ := htried.rewired
      have hapart : ∀ wire ∈ done, wire.1 ≠ child.report := fun wire hwire =>
        hreport.apart wire (hsub wire hwire)
      have hmem : .duplicate asker source child.report (.ok ()) ∈ tried := by
        rcases List.mem_append.1 htaken with hmem | hmem
        · exact hmem
        · rcases htold.call_cases hmem with ⟨goal, bytes, answer, heq⟩ | heq <;> cases heq
      have hwired : (source, child.report) ∈ done := by
        rcases hmade _ _ _ hmem with hwired | ⟨hwire, hnone⟩
        · exact hwired
        · exact absurd hnone (DescriptorTable.duplicate_ne_none
            (get?_rewire_ne_none hdone (hreport.sources _ hwire)) _)
      have hdeaf := (reserved_rewire hreport.reserved hdone hapart).refersTo_eq_false
        (lost_of_goal_mem hwired hdone hapart)
      rw [bytesWritten_append, CommandShell.bytesWritten_eq_nil fun call hcall =>
        Call.writtenTo?_of_step (htried.isStep call hcall) _, List.nil_append]
      cases htold with
      | intro report name reason newline hreported hname hreason hnewline =>
        rw [bytesWritten_append, bytesWritten_append, bytesWritten_append, bytesWritten_append,
          hreported.reached.bytesWritten_eq_nil hdeaf, hname.reached.bytesWritten_eq_nil hdeaf,
          hreason.reached.bytesWritten_eq_nil hdeaf, hnewline.reached.bytesWritten_eq_nil hdeaf]
        rfl

/-- The duplicates that a process asks for are those that it needs. -/
theorem Transcript.mem_wires (h : child.Transcript pid table directory failure calls)
    {asker : Pid} {source goal : Fd} (hmem : .duplicate asker source goal (.ok ()) ∈ calls) :
    (source, goal) ∈ child.wires := by
  cases h with
  | started wired h =>
    rcases List.mem_append.1 hmem with hmem | hmem
    · exact mem_of_granted hmem
    · cases List.mem_singleton.1 hmem
  | failed errno remaining tried told htried htold =>
    rcases List.mem_append.1 hmem with hmem | hmem
    · obtain ⟨done, hsub, -, -, hmade⟩ := htried.rewired
      rcases hmade _ _ _ hmem with hdone | ⟨hwire, -⟩
      · exact hsub _ hdone
      · exact hwire
    · rcases htold.call_cases hmem with ⟨goal, bytes, answer, heq⟩ | heq <;> cases heq

end Child

/-- What is chosen for a stream is open, if what the run was given is. -/
theorem Chosen.get?_ne_none {call : Directory → String → Nat → Except Errno Unit → Call}
    {start : Directory} {calls : List Call} {table : Descriptors} {redirection : Option String}
    {piped : Option Resource} {given own : Option Fd}
    (h : Chosen call start calls table redirection piped given own)
    (hgiven : ∀ fd, given = some fd → table.get? fd ≠ none) :
    ∀ fd, own = some fd → table.get? fd ≠ none := by
  intro fd hfd
  cases h with
  | file path fd' number h asked hslot =>
    cases hfd
    rw [hslot]
    exact Option.some_ne_none _
  | pipe fd' resource h hpiped hslot =>
    cases hfd
    rw [hslot]
    exact Option.some_ne_none _
  | given h hpiped => exact hgiven fd hfd

/-! ## Turns -/

namespace Turn

variable [Kernel σ] {streams : Streams} {base : ShellState (Recorded σ)} {row : List PipeEnds}
  {t : Turn σ} {arguments : ArgumentVector} {io : StageIo} {report : PipeEnds}
  {equipped forking : ShellState (Recorded σ)} {openings notes course reads later : List Call}
  {pid : Pid} {failure : Option Errno} {heard : Except Errno Bytes}

/-- Of the calls of a turn with a process those that neither open files nor move bytes are the first
two, or the process asks for them. -/
theorem Ready.call_cases (h : t.Ready arguments io report equipped forking openings)
    {table : Descriptors} {stamp : String} {directory : Directory} {source : Resource}
    (hnotes : Noted table stamp notes)
    (hcourse : (t.child streams arguments io report).Transcript pid forking.descriptors directory
      failure course)
    (hheard : Heard source (report.listening io forking.descriptors) reads heard)
    (hlater : Noted table stamp later) {call : Call}
    (hcall : call ∈ openings ++ (.makePipe equipped.fresh (.ok ()) ::
      .fork forking.descriptors (.ok pid) :: (notes ++ course ++ reads ++ later)))
    (hopening : call.isOpening = false) (htransfer : call.isTransfer = false) :
    call = .makePipe equipped.fresh (.ok ()) ∨ call = .fork forking.descriptors (.ok pid) ∨
      call ∈ course ∧ call.asker? = some pid := by
  simp only [List.mem_append, List.mem_cons] at hcall
  rcases hcall with hmem | hcall | hcall | ((hmem | hmem) | hmem) | hmem
  · cases hopening.symm.trans (h.acquired.opening call hmem)
  · exact Or.inl hcall
  · exact Or.inr (Or.inl hcall)
  · cases htransfer.symm.trans (hnotes.isTransfer call hmem)
  · rcases hcourse.call_cases hmem with hasker | ⟨goal, bytes, answer, rfl⟩
    · exact Or.inr (Or.inr ⟨hmem, hasker⟩)
    · cases htransfer
  · cases htransfer.symm.trans (hheard.isTransfer call hmem)
  · cases htransfer.symm.trans (hlater.isTransfer call hmem)

/-- Whatever becomes a standard stream of a process is open when the process is made. -/
theorem Ready.source_open (h : t.Ready arguments io report equipped forking openings)
    (hplaced : t.Placed base row) (hindex : t.index ≤ row.length) (hopen : streams.Open base) :
    ∀ wire ∈ (t.child streams arguments io report).wires,
      forking.descriptors.get? wire.1 ≠ none := by
  have hkeeps : ∀ fd, base.descriptors.get? fd ≠ none → forking.descriptors.get? fd ≠ none := by
    intro fd hfd
    obtain ⟨slot, hslot⟩ := Option.ne_none_iff_exists'.1 hfd
    rw [(h.exchanged hplaced).keeps hslot]
    exact Option.some_ne_none slot
  have hin := (h.chosenInput hplaced hindex streams (fun _ hasked => hasked)).get?_ne_none
    fun fd hfd => hkeeps fd (hopen.input fd hfd)
  have hout := (h.chosenOutput hplaced streams (fun _ hasked => hasked)).get?_ne_none
    fun fd hfd => hkeeps fd (hopen.output fd hfd)
  intro wire hwire
  rw [Child.wires, Child.wiring] at hwire
  rcases List.mem_append.1 hwire with hwire | hwire
  · obtain ⟨fd, hfd, rfl⟩ := List.mem_map.1 hwire
    exact hin fd (Option.mem_toList.1 hfd)
  · obtain ⟨fd, hfd, rfl⟩ := List.mem_map.1 hwire
    exact hout fd (Option.mem_toList.1 hfd)

/-- What becomes a standard stream of a process was open before the pipe for its report was made. -/
theorem Ready.source_ne (h : t.Ready arguments io report equipped forking openings)
    (hplaced : t.Placed base row) (hopen : streams.Open base) :
    ∀ wire ∈ (t.child streams arguments io report).wires, wire.1 ≠ report.writer := by
  have hnew : Exchanged equipped forking [] report.both := by
    have htrades := trades_makePipe equipped
    rwa [h.makePipe_eq] at htrades
  have hfree : equipped.descriptors.get? report.writer = none :=
    hnew.get?_of_mem (by simp [PipeEnds.both])
  have hheld : ∀ own given : Option Fd, (∀ fd, own = some fd → fd ∈ io.held) →
      (∀ fd, given = some fd → base.descriptors.get? fd ≠ none) →
        ∀ fd, (own <|> given) = some fd → fd ≠ report.writer := by
    rintro own given hown hgiven fd hfd rfl
    cases own with
    | some fd' =>
      cases hfd
      exact hplaced.get?_held h.acquired (hown _ rfl) hfree
    | none =>
      refine hgiven report.writer hfd ?_
      exact (h.exchanged hplaced).get?_of_mem (by simp [PipeEnds.both])
  intro wire hwire
  rw [Child.wires, Child.wiring] at hwire
  rcases List.mem_append.1 hwire with hwire | hwire
  · obtain ⟨fd, hfd, rfl⟩ := List.mem_map.1 hwire
    exact hheld io.input streams.input (fun fd hfd => by simp [StageIo.held, hfd]) hopen.input fd
      (Option.mem_toList.1 hfd)
  · obtain ⟨fd, hfd, rfl⟩ := List.mem_map.1 hwire
    exact hheld io.output streams.output (fun fd hfd => by simp [StageIo.held, hfd]) hopen.output fd
      (Option.mem_toList.1 hfd)

/-- Only one of the descriptors with which a process begins leads to the pipe for its report. -/
theorem Ready.reserved (h : t.Ready arguments io report equipped forking openings)
    (hplaced : t.Placed base row) (hnumbered : Numbered base) :
    Reserved forking.descriptors (.writeEnd equipped.fresh) report.writer := by
  have hequipped : Numbered equipped :=
    (hplaced.exchanged_acquire h.acquire_eq).numbered hnumbered
  intro fd slot hslot htarget
  rcases (makePipe_ok h.makePipe_eq).only fd slot hslot with hold | ⟨-, rfl⟩ | ⟨rfl, rfl⟩
  · have hlt := hequipped fd slot hold
    rw [htarget, Resource.number] at hlt
    exact absurd hlt (Nat.lt_irrefl _)
  · cases htarget
  · exact ⟨rfl, rfl⟩

/-- The process of a turn can report, and nobody else. -/
theorem Ready.canReport (h : t.Ready arguments io report equipped forking openings)
    (hplaced : t.Placed base row) (hindex : t.index ≤ row.length) (hopen : streams.Open base)
    (hnumbered : Numbered base) :
    (t.child streams arguments io report).CanReport forking.descriptors equipped.fresh :=
  ⟨h.reserved hplaced hnumbered, (makePipe_ok h.makePipe_eq).writer, h.source_ne hplaced hopen,
    h.source_open hplaced hindex hopen⟩

omit [Kernel σ] in
/-- When the shell listens, it has given up its own end of the pipe for the report. -/
theorem refersTo_listening {table : Descriptors} {resource : Resource}
    (h : Reserved table resource report.writer) :
    (report.listening io table).refersTo (fun other => decide (other = resource)) = false := by
  refine (h.closeAll _).refersTo_eq_false ?_
  rw [DescriptorTable.get?_closeAll, if_pos (by simp)]
  exact (Option.some_ne_none _).symm

/-- When the shell listens, nobody can write to the pipe for the report any more. -/
theorem Ready.forsaken (h : t.Ready arguments io report equipped forking openings)
    (hreport : (t.child streams arguments io report).CanReport forking.descriptors equipped.fresh)
    (hnotes : Noted base.descriptors t.before.log.stamp notes)
    (hcourse : (t.child streams arguments io report).Transcript pid forking.descriptors
      t.before.surroundings.directory failure course) :
    Forsaken (report.listening io forking.descriptors) (.writeEnd equipped.fresh)
      (openings ++ (.makePipe equipped.fresh (.ok ()) :: .fork forking.descriptors (.ok pid) ::
        (notes ++ course))) := by
  refine ⟨refersTo_listening hreport.reserved, ?_⟩
  have hidle : ∀ call ∈ openings, call.asker? = none ∧ call.forked? = none := fun call hcall =>
    ⟨Call.asker?_of_isOpening (h.acquired.opening call hcall),
      Call.forked?_of_isOpening (h.acquired.opening call hcall)⟩
  have hnoted : ∀ call ∈ notes, call.asker? = none ∧ call.forked? = none := by
    intro call hcall
    obtain ⟨target, record, answer, rfl, -⟩ := hnotes call hcall
    exact ⟨rfl, rfl⟩
  have hprocesses : Process.after [] (openings ++ (.makePipe equipped.fresh (.ok ()) ::
      .fork forking.descriptors (.ok pid) :: (notes ++ course))) =
        Process.after [⟨pid, forking.descriptors⟩] course := by
    rw [Process.after_append, Process.after_of_idle hidle, Process.after_cons,
      Process.after_cons, Process.after_append]
    exact congrArg (Process.after · course) (Process.after_of_idle hnoted _)
  rw [hprocesses]
  exact hcourse.not_holds hreport

/-- What reaches the pipe for the report in a turn until the shell listens is written by the
process. -/
theorem Ready.bytesWritten_eq (h : t.Ready arguments io report equipped forking openings)
    (hreport : (t.child streams arguments io report).CanReport forking.descriptors equipped.fresh)
    (hreached : Reached (report.listening io forking.descriptors) notes) :
    bytesWritten (.writeEnd equipped.fresh) (openings ++ (.makePipe equipped.fresh (.ok ()) ::
      .fork forking.descriptors (.ok pid) :: (notes ++ course))) =
        bytesWritten (.writeEnd equipped.fresh) course := by
  have hdeaf : (report.listening io forking.descriptors).refersTo
      (fun other => decide (other = .writeEnd equipped.fresh)) = false :=
    refersTo_listening hreport.reserved
  rw [bytesWritten_append, bytesWritten_eq_nil fun call hcall => Call.writtenTo?_of_step
    (Call.not_isTransfer_of_isOpening (h.acquired.opening call hcall)) _]
  change bytesWritten _ (notes ++ course) = _
  rw [bytesWritten_append, hreached.bytesWritten_eq_nil hdeaf, List.nil_append]

/-- Of all that is asked for in a turn only the shell reads, and only the report. -/
theorem Ready.bytesRead_eq (h : t.Ready arguments io report equipped forking openings)
    (hnotes : Noted base.descriptors t.before.log.stamp notes)
    (hcourse : (t.child streams arguments io report).Transcript pid forking.descriptors
      t.before.surroundings.directory failure course)
    (hlater : Noted base.descriptors t.before.log.stamp later) :
    bytesRead (.readEnd equipped.fresh) (openings ++
      (.makePipe equipped.fresh (.ok ()) :: .fork forking.descriptors (.ok pid) ::
        (notes ++ course ++ reads ++ later))) = bytesRead (.readEnd equipped.fresh) reads := by
  have hnoted : ∀ {calls : List Call}, Noted base.descriptors t.before.log.stamp calls →
      bytesRead (.readEnd equipped.fresh) calls = [] := fun hcalls =>
    bytesRead_eq_nil fun call hcall => Call.readFrom?_of_isWrite (hcalls.isWrite call hcall) _
  rw [bytesRead_append, bytesRead_eq_nil fun call hcall => Call.readFrom?_of_step
    (Call.not_isTransfer_of_isOpening (h.acquired.opening call hcall)) _]
  change bytesRead _ (notes ++ course ++ reads ++ later) = _
  rw [bytesRead_append, bytesRead_append, bytesRead_append, hnoted hnotes, hnoted hlater,
    hcourse.bytesRead_eq, List.append_nil]
  rfl

/-- The shell hears all that the process has written to the pipe, if the pipe delivers it. -/
theorem Ready.heard_eq (h : t.Ready arguments io report equipped forking openings)
    (hreport : (t.child streams arguments io report).CanReport forking.descriptors equipped.fresh)
    (hnotes : Noted base.descriptors t.before.log.stamp notes)
    (hreached : Reached (report.listening io forking.descriptors) notes)
    (hcourse : (t.child streams arguments io report).Transcript pid forking.descriptors
      t.before.surroundings.directory failure course)
    (hheard : Heard (.readEnd equipped.fresh) (report.listening io forking.descriptors) reads
      heard)
    (hdelivers : Delivers equipped.fresh [] (openings ++ (.makePipe equipped.fresh (.ok ()) ::
      .fork forking.descriptors (.ok pid) :: (notes ++ course ++ reads ++ later)))) :
    heard = .ok (bytesWritten (.writeEnd equipped.fresh) course) := by
  have hsplit : openings ++ (.makePipe equipped.fresh (.ok ()) ::
      .fork forking.descriptors (.ok pid) :: (notes ++ course ++ reads ++ later)) =
      (openings ++ (.makePipe equipped.fresh (.ok ()) :: .fork forking.descriptors (.ok pid) ::
        (notes ++ course))) ++ (reads ++ later) := by simp
  rw [hsplit] at hdelivers
  have hreads := hdelivers.of_append.left
  rw [List.nil_append] at hreads
  obtain ⟨rest, hresult, hrest⟩ := hheard.eq_ok hreads (h.forsaken hreport hnotes hcourse)
  have hbefore : bytesRead (.readEnd equipped.fresh) (openings ++
      (.makePipe equipped.fresh (.ok ()) :: .fork forking.descriptors (.ok pid) ::
        (notes ++ course ++ [] ++ []))) = [] := h.bytesRead_eq hnotes hcourse (.nil _ _)
  rw [List.append_nil, List.append_nil] at hbefore
  rw [hbefore, h.bytesWritten_eq hreport hreached] at hrest
  rw [hresult, ← hrest]
  rfl

omit [Kernel σ] in
/-- What a process writes to the pipe for its report begins with the error number with which it
fails. -/
theorem prefix_written {errno : Errno}
    (hreport : (t.child streams arguments io report).CanReport forking.descriptors equipped.fresh)
    (hcourse : (t.child streams arguments io report).Transcript pid forking.descriptors
      t.before.surroundings.directory (some errno) course)
    (hspared : Spared (openings ++ (.makePipe equipped.fresh (.ok ()) ::
      .fork forking.descriptors (.ok pid) :: (notes ++ course ++ reads ++ later))))
    (hreporting : Reporting (openings ++ (.makePipe equipped.fresh (.ok ()) ::
      .fork forking.descriptors (.ok pid) :: (notes ++ course ++ reads ++ later)))
      equipped.fresh) :
    ∃ rest, bytesWritten (.writeEnd equipped.fresh) course = errno.toBytes ++ rest := by
  obtain ⟨rest, hrest⟩ := hcourse.prefix_bytesWritten hreport
    (fun asker source goal hmem hgoal =>
      hspared forking.descriptors pid equipped.fresh asker source goal (by simp) (by simp)
        (by simp [hmem]) (hgoal ▸ hreport.writer))
    fun bytes answer hmem => hreporting.writes bytes answer (by simp [hmem])
  exact ⟨rest, hrest.symm⟩

/-- What the shell hears of a process is how it has failed, if the report is passed on. -/
theorem Ready.heardErrno_eq (h : t.Ready arguments io report equipped forking openings)
    (hreport : (t.child streams arguments io report).CanReport forking.descriptors equipped.fresh)
    (hnotes : Noted base.descriptors t.before.log.stamp notes)
    (hreached : Reached (report.listening io forking.descriptors) notes)
    (hcourse : (t.child streams arguments io report).Transcript pid forking.descriptors
      t.before.surroundings.directory failure course)
    (hheard : Heard (.readEnd equipped.fresh) (report.listening io forking.descriptors) reads
      heard)
    (hspared : Spared (openings ++ (.makePipe equipped.fresh (.ok ()) ::
      .fork forking.descriptors (.ok pid) :: (notes ++ course ++ reads ++ later))))
    (hreporting : Reporting (openings ++ (.makePipe equipped.fresh (.ok ()) ::
      .fork forking.descriptors (.ok pid) :: (notes ++ course ++ reads ++ later)))
      equipped.fresh) :
    heardErrno heard = failure.map Errno.reported := by
  rw [h.heard_eq hreport hnotes hreached hcourse hheard hreporting.delivers]
  cases failure with
  | none =>
    rw [hcourse.bytesWritten_eq_nil]
    rfl
  | some errno =>
    obtain ⟨rest, hrest⟩ := prefix_written hreport hcourse hspared hreporting
    rw [hrest]
    exact errno.ofBytes?_reported rest

/-- A duplicate that takes the place of a descriptor on which a process can report is made by the
process of the turn, and it is the place of its own descriptor. -/
theorem Ready.taken (h : t.Ready arguments io report equipped forking openings)
    (hreserved : Reserved forking.descriptors (.writeEnd equipped.fresh) report.writer)
    (hnotes : Noted base.descriptors t.before.log.stamp notes)
    (hcourse : (t.child streams arguments io report).Transcript pid forking.descriptors
      t.before.surroundings.directory failure course)
    (hheard : Heard (.readEnd equipped.fresh) (report.listening io forking.descriptors) reads
      heard)
    (hlater : Noted base.descriptors t.before.log.stamp later)
    (hoverwritten : ¬ Spared (openings ++ (.makePipe equipped.fresh (.ok ()) ::
      .fork forking.descriptors (.ok pid) :: (notes ++ course ++ reads ++ later)))) :
    ∃ asker source, .duplicate asker source report.writer (.ok ()) ∈ course := by
  simp only [Spared, not_forall, not_not] at hoverwritten
  obtain ⟨table, pid', pipe, asker, source, goal, hfork, hpipe, htaken, hgoal⟩ := hoverwritten
  have htable : table = forking.descriptors := by
    rcases h.call_cases hnotes hcourse hheard hlater hfork rfl rfl with heq | heq | ⟨-, hasker⟩
    · cases heq
    · cases heq
      rfl
    · cases hasker
  have hnumber : pipe = equipped.fresh := by
    rcases h.call_cases hnotes hcourse hheard hlater hpipe rfl rfl with heq | heq | ⟨-, hasker⟩
    · cases heq
      rfl
    · cases heq
    · cases hasker
  have hmem : .duplicate asker source goal (.ok ()) ∈ course := by
    rcases h.call_cases hnotes hcourse hheard hlater htaken rfl rfl with heq | heq | ⟨hmem, -⟩
    · cases heq
    · cases heq
    · exact hmem
  subst htable hnumber
  obtain ⟨rfl, -⟩ := hreserved goal _ hgoal rfl
  exact ⟨asker, source, hmem⟩

/-- The shell hears nothing of a process if a duplicate has taken the place of the descriptor for
its report. -/
theorem Ready.heard_eq_nil (h : t.Ready arguments io report equipped forking openings)
    (hreport : (t.child streams arguments io report).CanReport forking.descriptors equipped.fresh)
    (hnotes : Noted base.descriptors t.before.log.stamp notes)
    (hreached : Reached (report.listening io forking.descriptors) notes)
    (hcourse : (t.child streams arguments io report).Transcript pid forking.descriptors
      t.before.surroundings.directory failure course)
    (hheard : Heard (.readEnd equipped.fresh) (report.listening io forking.descriptors) reads
      heard)
    (hlater : Noted base.descriptors t.before.log.stamp later)
    (hoverwritten : ¬ Spared (openings ++ (.makePipe equipped.fresh (.ok ()) ::
      .fork forking.descriptors (.ok pid) :: (notes ++ course ++ reads ++ later))))
    (hdelivers : Delivers equipped.fresh [] (openings ++ (.makePipe equipped.fresh (.ok ()) ::
      .fork forking.descriptors (.ok pid) :: (notes ++ course ++ reads ++ later)))) :
    heard = .ok [] := by
  obtain ⟨asker, source, htaken⟩ :=
    h.taken hreport.reserved hnotes hcourse hheard hlater hoverwritten
  rw [h.heard_eq hreport hnotes hreached hcourse hheard hdelivers,
    hcourse.bytesWritten_overwritten hreport htaken]

/-- No duplicate takes the place of the descriptor for a report if the shell has one of the first
two descriptors: the pipe for the report then begins behind it. -/
theorem Transcript.spared {result : Except ShellError StageState} {calls : List Call}
    (h : t.Transcript streams base.descriptors result calls) (hplaced : t.Placed base row)
    (hnumbered : Numbered base)
    (hstreams : base.descriptors.get? 0 ≠ none ∨ base.descriptors.get? 1 ≠ none) :
    Spared calls := by
  have hunforked : (∀ table pid, .fork table (.ok pid) ∉ calls) → Spared calls :=
    fun hnone table pid _ _ _ _ hfork => absurd hfork (hnone table pid)
  cases h with
  | unopened path fault openings notes hopenings hnotes =>
    refine hunforked fun table pid hfork => ?_
    rcases List.mem_append.1 hfork with hmem | hmem
    · cases hopenings.isOpening _ hmem
    · cases hnotes.isTransfer _ hmem
  | unpassable reason openings hopenings hpass =>
    exact hunforked fun table pid hfork => by cases hopenings.isOpening _ hfork
  | unheard pipe' errno openings hopenings hpipe' hpass =>
    refine hunforked fun table pid hfork => ?_
    rcases List.mem_append.1 hfork with hmem | hmem
    · cases hopenings.isOpening _ hmem
    · cases List.mem_singleton.1 hmem
  | unborn pipe' forking errno openings notes hopenings hpipe' hnotes hpass =>
    refine hunforked fun table pid hfork => ?_
    simp only [List.mem_append, List.mem_cons, reduceCtorEq, Call.fork.injEq, and_false,
      false_or] at hfork
    rcases hfork with hmem | hmem
    · cases hopenings.isOpening _ hmem
    · cases hnotes.isTransfer _ hmem
  | forked arguments io report equipped forking openings notes course reads later pid' failure heard
      ready hopenings hnotes hreached hcourse hheard hlater =>
    refine Classical.byContradiction fun hoverwritten => ?_
    obtain ⟨asker, source, htaken⟩ := ready.taken (ready.reserved hplaced hnumbered) hnotes hcourse
      hheard hlater hoverwritten
    have hle : report.writer ≤ 1 := Child.goal_le_one (hcourse.mem_wires htaken)
    have hlt : report.reader < report.writer := (makePipe_ok ready.makePipe_eq).reader_lt
    have hfree : ∀ fd ∈ report.both, base.descriptors.get? fd = none := fun fd hfd =>
      (ready.exchanged hplaced).get?_of_mem (List.mem_append_left _ hfd)
    have hreader := hfree report.reader (by simp [PipeEnds.both])
    have hwriter := hfree report.writer (by simp [PipeEnds.both])
    rw [Nat.le_antisymm hle (Nat.zero_lt_of_lt hlt)] at hwriter
    rw [Nat.lt_one_iff.1 (Nat.lt_of_lt_of_le hlt hle)] at hreader
    exact hstreams.elim (fun hzero => hzero hreader) fun hone => hone hwriter

end Turn

end CommandShell
