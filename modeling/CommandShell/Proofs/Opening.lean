import CommandShell.Proofs.Balance
import CommandShell.Proofs.Recording

/-!
# Opening files and pipes

What a shell asks for when it makes a pipe or opens the redirections of a stage, and what the stage
then has: its own files where it has redirections, and the ends of its pipes elsewhere. Main
statements: a pipe has two new descriptors (`makePipe_ok`), the descriptors of a stage refer to its
files or are the ends of its pipes (`acquired_of_ok`), and if a file cannot be opened, nothing but
files was asked for (`acquire_error`).
-/

namespace CommandShell

open Shell

variable {σ : Type}

/-- Whether a call opens a file, or was to open one. -/
def Call.isOpening : Call → Bool
  | .openToRead _ _ _ _ => true
  | .openToWrite _ _ _ _ => true
  | _ => false

/-- What opens a file moves no bytes. -/
theorem Call.not_isTransfer_of_isOpening {call : Call} (h : call.isOpening = true) :
    call.isTransfer = false := by
  cases call <;> first | rfl | cases h

/-- What a shell does when a file is opened: one call, a new number and the lowest descriptor. -/
structure Opened (s s' : ShellState (Recorded σ)) (fd : Fd) (call : Call) : Prop where
  /-- The system was asked once. -/
  since : Since s s' [call]
  /-- The descriptor is the lowest free one. -/
  fd_eq : fd = s.descriptors.nextFd
  /-- It refers to the file. -/
  descriptors : s'.descriptors = (s.descriptors.open (.file s.fresh)).2
  /-- The number of the file is used up. -/
  fresh : s'.fresh = s.fresh + 1
  /-- The working directory is the same. -/
  directory : s'.surroundings.directory = s.surroundings.directory

/-- The new descriptor refers to the file. -/
theorem Opened.get?_self {s s' : ShellState (Recorded σ)} {fd : Fd} {call : Call}
    (h : Opened s s' fd call) : s'.descriptors.get? fd = some ⟨.file s.fresh, true⟩ := by
  rw [h.descriptors, h.fd_eq, DescriptorTable.get?_open, if_pos rfl]

/-- What was open before stays open. -/
theorem Opened.get?_of_some {s s' : ShellState (Recorded σ)} {fd other : Fd} {call : Call}
    {slot : Slot Resource} (h : Opened s s' fd call) (ho : s.descriptors.get? other = some slot) :
    s'.descriptors.get? other = some slot := by
  rw [h.descriptors]
  exact DescriptorTable.get?_open_of_some _ ho

/-- What a shell does when a pipe is made: one call, a new number and two descriptors. -/
structure PipeMade (s s' : ShellState (Recorded σ)) (ends : PipeEnds) : Prop where
  /-- The system was asked once. -/
  since : Since s s' [.makePipe s.fresh (.ok ())]
  /-- One descriptor is the end from which is read. -/
  reader : s'.descriptors.get? ends.reader = some ⟨.readEnd s.fresh, true⟩
  /-- The other one is the end to which is written. -/
  writer : s'.descriptors.get? ends.writer = some ⟨.writeEnd s.fresh, true⟩
  /-- What was open before stays open. -/
  keeps : ∀ fd slot, s.descriptors.get? fd = some slot → s'.descriptors.get? fd = some slot
  /-- Nothing else is open now. -/
  only : ∀ fd slot, s'.descriptors.get? fd = some slot → s.descriptors.get? fd = some slot ∨
    fd = ends.reader ∧ slot = ⟨.readEnd s.fresh, true⟩ ∨
    fd = ends.writer ∧ slot = ⟨.writeEnd s.fresh, true⟩
  /-- The end from which is read comes first. -/
  reader_lt : ends.reader < ends.writer
  /-- The number of the pipe is used up. -/
  fresh : s'.fresh = s.fresh + 1
  /-- The working directory is the same. -/
  directory : s'.surroundings.directory = s.surroundings.directory

section

variable [Kernel σ]

/-- The request for a pipe is the latest step, whatever it was answered. -/
theorem steps_makePipe (pipe : Nat) (r : Recorded σ) :
    (Kernel.makePipe pipe r).2.steps = r.steps ++ [.makePipe pipe (Kernel.makePipe pipe r).1] :=
  Recorded.steps_record r rfl

/-- If a pipe is made, the system was asked for it once. -/
theorem makePipe_ok {s s' : ShellState (Recorded σ)} {ends : PipeEnds}
    (h : makePipe s = (.ok ends, s')) : PipeMade s s' ends := by
  rw [makePipe_apply] at h
  split at h
  · cases h
  · next host hask =>
    have hsteps := steps_makePipe s.fresh s.surroundings.host
    rw [hask] at hsteps
    cases h
    have hreader := DescriptorTable.get?_open s.descriptors (.readEnd s.fresh) s.descriptors.nextFd
    rw [if_pos rfl] at hreader
    refine ⟨hsteps, ?_, ?_, fun fd slot hslot => ?_, fun fd slot hslot => ?_, ?_, rfl, rfl⟩
    · exact DescriptorTable.get?_open_of_some (.writeEnd s.fresh) hreader
    · exact (DescriptorTable.get?_open _ (Resource.writeEnd s.fresh) _).trans (if_pos rfl)
    · exact DescriptorTable.get?_open_of_some (.writeEnd s.fresh)
        (DescriptorTable.get?_open_of_some (.readEnd s.fresh) hslot)
    · have hboth := (DescriptorTable.get?_open (s.descriptors.open (.readEnd s.fresh)).2
        (Resource.writeEnd s.fresh) fd).symm.trans hslot
      split at hboth
      · next heq => exact Or.inr (Or.inr ⟨heq, (Option.some.inj hboth).symm⟩)
      · rw [DescriptorTable.get?_open] at hboth
        split at hboth
        · next heq => exact Or.inr (Or.inl ⟨heq, (Option.some.inj hboth).symm⟩)
        · exact Or.inl hboth
    · exact DescriptorTable.nextFd_lt_nextFd_open s.descriptors (.readEnd s.fresh)

/-- If a pipe cannot be made, the system was asked for it once all the same. -/
theorem makePipe_error {s s' : ShellState (Recorded σ)} {errno : Errno}
    (h : makePipe s = (.error errno, s')) :
    Since s s' [.makePipe s.fresh (.error errno)] := by
  rw [makePipe_apply] at h
  split at h
  · next errno' host hask =>
    have hsteps := steps_makePipe s.fresh s.surroundings.host
    rw [hask] at hsteps
    cases h
    exact hsteps
  · cases h

end

/-- A file that is opened through a record. -/
def recordedOpen (request : Directory → String → Nat → StateM σ (Except Errno Unit))
    (call : Directory → String → Nat → Except Errno Unit → Call) (path : String) :
    Shell (Recorded σ) (Except ShellError Fd) :=
  openFile (fun start path number => Recorded.record (request start path number)
    (call start path number)) path

section

variable {request : Directory → String → Nat → StateM σ (Except Errno Unit)}
  {call : Directory → String → Nat → Except Errno Unit → Call}

/-- The request for a file is the latest step, whatever it was answered. -/
theorem steps_opening (request : Directory → String → Nat → StateM σ (Except Errno Unit))
    (hcall : ∀ start path number answer, (call start path number answer).isOpening = true)
    (start : Directory) (path : String) (number : Nat) (r : Recorded σ) :
    (Recorded.record (request start path number) (call start path number) r).2.steps =
      r.steps ++ [call start path number
        (Recorded.record (request start path number) (call start path number) r).1] :=
  Recorded.steps_record r (Call.not_isTransfer_of_isOpening (hcall _ _ _ _))

/-- If a file is opened, the system was asked for it once. -/
theorem recordedOpen_ok
    (hcall : ∀ start path number answer, (call start path number answer).isOpening = true)
    {path : String} {s s' : ShellState (Recorded σ)} {fd : Fd}
    (h : recordedOpen request call path s = (.ok fd, s')) :
    Opened s s' fd (call s.surroundings.directory path s.fresh (.ok ())) := by
  rw [recordedOpen, openFile_apply] at h
  split at h
  · cases h
  · split at h
    · cases h
    · next host hask =>
      have hsteps :=
        steps_opening request hcall s.surroundings.directory path s.fresh s.surroundings.host
      rw [hask] at hsteps
      cases h
      exact ⟨hsteps, rfl, rfl, rfl, rfl⟩

/-- If a file is not opened, the system was asked for it once or not at all. -/
theorem recordedOpen_error
    (hcall : ∀ start path number answer, (call start path number answer).isOpening = true)
    {path : String} {s s' : ShellState (Recorded σ)} {error : ShellError}
    (h : recordedOpen request call path s = (.error error, s')) :
    ∃ calls, Since s s' calls ∧ ∀ call ∈ calls, call.isOpening = true := by
  rw [recordedOpen, openFile_apply] at h
  split at h
  · cases h
    exact ⟨[], Since.refl s, by simp⟩
  · split at h
    · next errno host hask =>
      have hsteps :=
        steps_opening request hcall s.surroundings.directory path s.fresh s.surroundings.host
      rw [hask] at hsteps
      cases h
      refine ⟨_, hsteps, ?_⟩
      intro call hmem
      rw [List.mem_singleton.1 hmem]
      exact hcall _ _ _ _
    · cases h

end

/-- What opening the target of a redirection does, if there is one. -/
inductive TargetOpened (call : Directory → String → Nat → Except Errno Unit → Call)
    (s : ShellState (Recorded σ)) :
    Option String → Option Fd → List Call → ShellState (Recorded σ) → Prop
  /-- Without a redirection nothing is opened. -/
  | absent : TargetOpened call s none none [] s
  /-- The file of a redirection is opened. -/
  | present (path : String) (fd : Fd) (s' : ShellState (Recorded σ))
      (h : Opened s s' fd (call s.surroundings.directory path s.fresh (.ok ()))) :
      TargetOpened call s (some path) (some fd)
        [call s.surroundings.directory path s.fresh (.ok ())] s'

/-- The end of a pipe that a stage has no use for, as it has a redirection. -/
def displaced {α : Type} (redirection : Option α) (piped : Option Fd) : List Fd :=
  if redirection.isSome then piped.toList else []

namespace TargetOpened

variable {call : Directory → String → Nat → Except Errno Unit → Call}
  {s s' : ShellState (Recorded σ)} {path : Option String} {fd : Option Fd} {calls : List Call}

theorem since (h : TargetOpened call s path fd calls s') : Since s s' calls := by
  cases h with
  | absent => exact Since.refl s
  | present path fd s' h => exact h.since

theorem directory_eq (h : TargetOpened call s path fd calls s') :
    s'.surroundings.directory = s.surroundings.directory := by
  cases h with
  | absent => rfl
  | present path fd s' h => exact h.directory

theorem opening (h : TargetOpened call s path fd calls s')
    (hcall : ∀ start path number answer, (call start path number answer).isOpening = true) :
    ∀ asked ∈ calls, asked.isOpening = true := by
  cases h with
  | absent => simp
  | present path fd s' h =>
    intro asked hmem
    rw [List.mem_singleton.1 hmem]
    exact hcall _ _ _ _

/-- What was open before stays open. -/
theorem get?_of_some (h : TargetOpened call s path fd calls s') {other : Fd}
    {slot : Slot Resource} (ho : s.descriptors.get? other = some slot) :
    s'.descriptors.get? other = some slot := by
  cases h with
  | absent => exact ho
  | present path fd s' h => exact h.get?_of_some ho

/-- The new descriptor was free before. -/
theorem get?_new (h : TargetOpened call s path fd calls s') {new : Fd} (hnew : fd = some new) :
    s.descriptors.get? new = none := by
  cases h with
  | absent => cases hnew
  | present path fd s' h =>
    cases hnew
    rw [h.fd_eq, DescriptorTable.get?_nextFd]

/-- A stage has a descriptor of its own where it has a redirection. -/
theorem displaced_eq (h : TargetOpened call s path fd calls s') (piped : Option Fd) :
    displaced fd piped = displaced path piped := by
  cases h <;> rfl

end TargetOpened

/-- If the target of a redirection is not in the way, it was opened or there is none. -/
theorem openTarget_ok {request : Directory → String → Nat → StateM σ (Except Errno Unit)}
    {call : Directory → String → Nat → Except Errno Unit → Call}
    (hcall : ∀ start path number answer, (call start path number answer).isOpening = true)
    {path : Option String} {s s' : ShellState (Recorded σ)} {fd : Option Fd}
    (h : StageIo.openTarget (recordedOpen request call) path s = (.ok fd, s')) :
    ∃ calls, TargetOpened call s path fd calls s' := by
  cases path with
  | none =>
    cases h
    exact ⟨[], TargetOpened.absent⟩
  | some path =>
    rw [StageIo.openTarget, bind_apply] at h
    rcases hopen : recordedOpen request call path s with ⟨error | fd, s₁⟩
    · rw [hopen] at h
      cases h
    · rw [hopen] at h
      cases h
      exact ⟨_, TargetOpened.present path fd s₁ (recordedOpen_ok hcall hopen)⟩

/-- If the target of a redirection cannot be opened, nothing else was asked for. -/
theorem openTarget_error {request : Directory → String → Nat → StateM σ (Except Errno Unit)}
    (call : Directory → String → Nat → Except Errno Unit → Call)
    (hcall : ∀ start path number answer, (call start path number answer).isOpening = true)
    {path : Option String} {s s' : ShellState (Recorded σ)} {error : ShellError}
    (h : StageIo.openTarget (recordedOpen request call) path s = (.error error, s')) :
    ∃ calls, Since s s' calls ∧ ∀ asked ∈ calls, asked.isOpening = true := by
  cases path with
  | none => cases h
  | some path =>
    rw [StageIo.openTarget, bind_apply] at h
    rcases hopen : recordedOpen request call path s with ⟨error | fd, s₁⟩
    · rw [hopen] at h
      cases h
      exact recordedOpen_error hcall hopen
    · rw [hopen] at h
      cases h

/-- Of a redirection and the end of a pipe the redirection counts, and the other one is closed. -/
theorem prefer_apply {τ : Type} (redirected piped : Option Fd) (s : ShellState τ) :
    StageIo.prefer redirected piped s = (redirected <|> piped,
      { s with descriptors := s.descriptors.closeAll (displaced redirected piped) }) := by
  cases redirected with
  | none => rfl
  | some fd => cases piped <;> rfl

/-- What a stage has for one of its streams: its own file where it has a redirection, and otherwise
the end of a pipe, if there is one. -/
inductive Redirected (call : Directory → String → Nat → Except Errno Unit → Call)
    (start : Directory) (calls : List Call) (table : Descriptors) (piped : Option Fd) :
    Option String → Option Fd → Prop
  /-- Without a redirection the pipe is used. -/
  | piped : Redirected call start calls table piped none piped
  /-- With a redirection the descriptor refers to the file that was opened for it. -/
  | file (path : String) (fd number : Nat) (asked : call start path number (.ok ()) ∈ calls)
      (h : table.get? fd = some ⟨.file number, true⟩) :
      Redirected call start calls table piped (some path) (some fd)

/-- What was opened for a redirection is what the stage has, if it stays open. -/
theorem TargetOpened.redirected {call : Directory → String → Nat → Except Errno Unit → Call}
    {s s' : ShellState (Recorded σ)} {path : Option String} {fd : Option Fd}
    {calls more : List Call} {table : Descriptors} (h : TargetOpened call s path fd calls s')
    (hsub : ∀ asked ∈ calls, asked ∈ more)
    (hstays : ∀ new slot, fd = some new → s'.descriptors.get? new = some slot →
      table.get? new = some slot) (piped : Option Fd) :
    Redirected call s.surroundings.directory more table piped path (fd <|> piped) := by
  cases h with
  | absent => exact Redirected.piped
  | present path fd s' h =>
    exact Redirected.file path fd s.fresh (hsub _ (List.mem_singleton_self _))
      (hstays fd _ rfl h.get?_self)

/-- What a stage has once its redirections were opened. -/
structure Acquired (stage : Stage) (pipedIn pipedOut : Option Fd) (io : StageIo)
    (s s' : ShellState (Recorded σ)) (calls : List Call) : Prop where
  /-- The files of the redirections were asked for. -/
  since : Since s s' calls
  /-- Nothing else was asked for. -/
  opening : ∀ asked ∈ calls, asked.isOpening = true
  /-- The stage has something to read from. -/
  input : Redirected .openToRead s.surroundings.directory calls s'.descriptors pipedIn
    stage.input io.input
  /-- The stage has something to write to. -/
  output : Redirected .openToWrite s.surroundings.directory calls s'.descriptors pipedOut
    stage.output io.output
  /-- Nothing is closed but the ends of pipes that the stage has no use for. -/
  keeps : ∀ fd slot, s.descriptors.get? fd = some slot →
    fd ∉ displaced stage.input pipedIn ++ displaced stage.output pipedOut →
      s'.descriptors.get? fd = some slot

theorem mem_displaced {α : Type} {redirection : Option α} {piped : Option Fd} {fd : Fd}
    (h : fd ∈ displaced redirection piped) : piped = some fd := by
  rw [displaced] at h
  split at h
  · exact Option.mem_toList.1 h
  · cases h

variable [Kernel σ]

/-- If the redirections of a stage are opened, they were opened one after the other, and the ends of
pipes that they displace are closed. -/
theorem targets_of_acquire {stage : Stage} {pipedIn pipedOut : Option Fd} {io : StageIo}
    {s s' : ShellState (Recorded σ)}
    (h : StageIo.acquire stage pipedIn pipedOut s = (.ok io, s')) :
    ∃ input output s₁ s₂ callsIn callsOut,
      TargetOpened .openToRead s stage.input input callsIn s₁ ∧
      TargetOpened .openToWrite s₁ stage.output output callsOut s₂ ∧
      io = ⟨input <|> pipedIn, output <|> pipedOut⟩ ∧
      s' = { s₂ with
        descriptors := (s₂.descriptors.closeAll (displaced stage.input pipedIn)).closeAll
          (displaced stage.output pipedOut) } := by
  rw [StageIo.acquire, bind_apply] at h
  rcases hfirst : StageIo.openTarget openInput stage.input s with ⟨error | input, s₁⟩
  · rw [hfirst] at h
    cases h
  rw [hfirst] at h
  simp only [bind_apply] at h
  rcases hsecond : StageIo.openTarget openOutput stage.output s₁ with ⟨error | output, s₂⟩
  · rw [hsecond] at h
    cases h
  rw [hsecond] at h
  simp only [bind_apply, prefer_apply] at h
  cases h
  have hopenIn : ∃ calls, TargetOpened .openToRead s stage.input input calls s₁ :=
    openTarget_ok (fun _ _ _ _ => rfl) hfirst
  have hopenOut : ∃ calls, TargetOpened .openToWrite s₁ stage.output output calls s₂ :=
    openTarget_ok (fun _ _ _ _ => rfl) hsecond
  obtain ⟨callsIn, hopenIn⟩ := hopenIn
  obtain ⟨callsOut, hopenOut⟩ := hopenOut
  refine ⟨input, output, s₁, s₂, callsIn, callsOut, hopenIn, hopenOut, rfl, ?_⟩
  rw [← hopenIn.displaced_eq, ← hopenOut.displaced_eq]

/-- If the redirections of a stage are opened, it has its files, and the ends of its pipes for the
other streams. -/
theorem acquired_of_ok {stage : Stage} {pipedIn pipedOut : Option Fd} {io : StageIo}
    {s s' : ShellState (Recorded σ)}
    (hin : ∀ fd, pipedIn = some fd → s.descriptors.get? fd ≠ none)
    (hout : ∀ fd, pipedOut = some fd → s.descriptors.get? fd ≠ none)
    (h : StageIo.acquire stage pipedIn pipedOut s = (.ok io, s')) :
    ∃ calls, Acquired stage pipedIn pipedOut io s s' calls := by
  obtain ⟨input, output, s₁, s₂, callsIn, callsOut, hopenIn, hopenOut, rfl, rfl⟩ :=
    targets_of_acquire h
  have hlookup : ∀ fd slot, s₂.descriptors.get? fd = some slot →
      fd ∉ displaced stage.input pipedIn ++ displaced stage.output pipedOut →
        ((s₂.descriptors.closeAll (displaced stage.input pipedIn)).closeAll
          (displaced stage.output pipedOut)).get? fd = some slot := by
    intro fd slot hslot hkept
    rw [List.mem_append, not_or] at hkept
    rw [DescriptorTable.get?_closeAll, if_neg hkept.2, DescriptorTable.get?_closeAll,
      if_neg hkept.1, hslot]
  -- An end that is closed was open before the files were, so that it is none of their descriptors.
  have hfree : ∀ new, s.descriptors.get? new = none →
      new ∉ displaced stage.input pipedIn ++ displaced stage.output pipedOut := by
    intro new hnone hmem
    rcases List.mem_append.1 hmem with hmem | hmem
    · exact hin new (mem_displaced hmem) hnone
    · exact hout new (mem_displaced hmem) hnone
  refine ⟨callsIn ++ callsOut, hopenIn.since.trans hopenOut.since, ?_, ?_, ?_, ?_⟩
  · intro asked hmem
    rcases List.mem_append.1 hmem with hmem | hmem
    · exact hopenIn.opening (fun _ _ _ _ => rfl) asked hmem
    · exact hopenOut.opening (fun _ _ _ _ => rfl) asked hmem
  · refine hopenIn.redirected (fun asked => List.mem_append_left _) ?_ pipedIn
    intro new slot hnew hslot
    exact hlookup new slot (hopenOut.get?_of_some hslot) (hfree new (hopenIn.get?_new hnew))
  · rw [← hopenIn.directory_eq]
    refine hopenOut.redirected (fun asked => List.mem_append_right _) ?_ pipedOut
    intro new slot hnew hslot
    refine hlookup new slot hslot (hfree new ?_)
    cases hs : s.descriptors.get? new with
    | none => rfl
    | some old =>
      have hsome := hopenIn.get?_of_some hs
      rw [hopenOut.get?_new hnew] at hsome
      cases hsome
  · intro fd slot hslot hkept
    exact hlookup fd slot (hopenOut.get?_of_some (hopenIn.get?_of_some hslot)) hkept

/-- If a redirection of a stage cannot be opened, nothing else was asked for. -/
theorem acquire_error {stage : Stage} {pipedIn pipedOut : Option Fd} {error : ShellError}
    {s s' : ShellState (Recorded σ)}
    (h : StageIo.acquire stage pipedIn pipedOut s = (.error error, s')) :
    ∃ calls, Since s s' calls ∧ ∀ asked ∈ calls, asked.isOpening = true := by
  rw [StageIo.acquire, bind_apply] at h
  rcases hfirst : StageIo.openTarget openInput stage.input s with ⟨error | input, s₁⟩
  · have hasked : ∃ calls, Since s s₁ calls ∧ ∀ asked ∈ calls, asked.isOpening = true :=
      openTarget_error .openToRead (fun _ _ _ _ => rfl) hfirst
    rw [hfirst] at h
    cases h
    obtain ⟨calls, hsince, hopening⟩ := hasked
    exact ⟨calls, (silent_stageIo_close ⟨pipedIn, pipedOut⟩).since_right hsince, hopening⟩
  · have hopenIn : ∃ calls, TargetOpened .openToRead s stage.input input calls s₁ :=
      openTarget_ok (fun _ _ _ _ => rfl) hfirst
    obtain ⟨callsIn, hopenIn⟩ := hopenIn
    rw [hfirst] at h
    simp only [bind_apply] at h
    rcases hsecond : StageIo.openTarget openOutput stage.output s₁ with ⟨error | output, s₂⟩
    · have hasked : ∃ calls, Since s₁ s₂ calls ∧ ∀ asked ∈ calls, asked.isOpening = true :=
        openTarget_error .openToWrite (fun _ _ _ _ => rfl) hsecond
      rw [hsecond] at h
      cases h
      obtain ⟨callsOut, hsince, hopening⟩ := hasked
      have hsilent := (silent_closeOption (σ := σ) input).bind fun _ =>
        silent_stageIo_close ⟨pipedIn, pipedOut⟩
      refine ⟨callsIn ++ callsOut, hsilent.since_right (hopenIn.since.trans hsince), ?_⟩
      intro asked hmem
      rcases List.mem_append.1 hmem with hmem | hmem
      · exact hopenIn.opening (fun _ _ _ _ => rfl) asked hmem
      · exact hopening asked hmem
    · rw [hsecond] at h
      cases h

end CommandShell
