import CommandShell.Interpreter
import CommandShell.Proofs.TableLaws

/-!
# Ownership of descriptors

What an action of the shell does to the descriptors is said by what it is given and what it keeps:
closing what it keeps leaves the same table as closing what it was given would have left at the
beginning. Judgements of this form can be put together one after the other, whatever else is open,
and only a new pipe and a newly opened file add something. Main statements: exchanges follow each
other (`Exchanged.trans`), so that there is a rule of sequences (`Trades.bind`), and the judgements
of the actions from which everything else is made (`trades_openFile`, `trades_makePipe`,
`trades_close`).
-/

namespace CommandShell

variable {σ α β : Type}

/-- The number by which a resource is known. -/
def Resource.number : Resource → Nat
  | readEnd pipe => pipe
  | writeEnd pipe => pipe
  | file number => number

namespace Shell

/-- A sequence runs its second part where the first one has ended. -/
theorem bind_apply {τ : Type} (x : StateM τ α) (f : α → StateM τ β) (s : τ) :
    (x >>= f) s = f (x s).1 (x s).2 := rfl

/-- What a sequence leaves, its second part leaves where the first one has ended. -/
theorem of_bind_eq {τ : Type} {x : StateM τ α} {f : α → StateM τ β} {s s' : τ} {b : β}
    (h : (x >>= f) s = (b, s')) : ∃ a between, x s = (a, between) ∧ f a between = (b, s') :=
  ⟨(x s).1, (x s).2, rfl, h⟩

theorem pure_apply {τ : Type} (a : α) (s : τ) : (pure a : StateM τ α) s = (a, s) := rfl

theorem get_apply (s : ShellState σ) : (get : Shell σ (ShellState σ)) s = (s, s) := rfl

/-- An action that neither opens nor closes anything. -/
def Quiet (x : Shell σ α) : Prop :=
  ∀ s, (x s).2.descriptors = s.descriptors ∧ (x s).2.fresh = s.fresh

theorem Quiet.pure (a : α) : Quiet (pure a : Shell σ α) := fun _ => ⟨rfl, rfl⟩

theorem Quiet.bind {x : Shell σ α} {f : α → Shell σ β} (hx : Quiet x) (hf : ∀ a, Quiet (f a)) :
    Quiet (x >>= f) := by
  intro s
  obtain ⟨hd, hn⟩ := hx s
  obtain ⟨hd', hn'⟩ := hf (x s).1 (x s).2
  exact ⟨hd'.trans hd, hn'.trans hn⟩

/-- Whatever a shell has open got its number before now. -/
def Numbered (s : ShellState σ) : Prop :=
  ∀ fd slot, s.descriptors.get? fd = some slot → slot.target.number < s.fresh

/-- Between a state and a later one some descriptors were given up and others are held instead. -/
structure Exchanged (s s' : ShellState σ) (given kept : List Fd) : Prop where
  /-- Closing what is held leaves what closing the given descriptors would have left. -/
  balance : ∀ fds, s'.descriptors.closeAll (kept ++ fds) = s.descriptors.closeAll (given ++ fds)
  /-- What is new has a new number and is not passed on to another program. -/
  novel : ∀ fd slot, s'.descriptors.get? fd = some slot → s.descriptors.get? fd = some slot ∨
    slot.closeOnExec = true ∧ s.fresh ≤ slot.target.number ∧ slot.target.number < s'.fresh
  /-- No number is given a second time. -/
  fresh_le : s.fresh ≤ s'.fresh

namespace Exchanged

variable {s s' s'' : ShellState σ} {given given' between kept kept' : List Fd}

theorem refl (s : ShellState σ) (fds : List Fd) : Exchanged s s fds fds :=
  ⟨fun _ => rfl, fun _ _ hs => Or.inl hs, Nat.le_refl _⟩

/-- What is held in between is given up again. -/
theorem trans (h : Exchanged s s' given between) (h' : Exchanged s' s'' between kept) :
    Exchanged s s'' given kept := by
  have hle := h.fresh_le
  have hle' := h'.fresh_le
  refine ⟨fun fds => ?_, fun fd slot hs => ?_, Nat.le_trans hle hle'⟩
  · rw [h'.balance, h.balance]
  · rcases h'.novel fd slot hs with hold | ⟨hc, hlow, hhigh⟩
    · rcases h.novel fd slot hold with hold | ⟨hc, hlow, hhigh⟩
      · exact Or.inl hold
      · exact Or.inr ⟨hc, hlow, by omega⟩
    · exact Or.inr ⟨hc, by omega, hhigh⟩

/-- Which descriptors are given and kept matters, their order does not. -/
theorem congr (h : Exchanged s s' given kept) (hg : ∀ fd, fd ∈ given ↔ fd ∈ given')
    (hk : ∀ fd, fd ∈ kept ↔ fd ∈ kept') : Exchanged s s' given' kept' := by
  refine ⟨fun fds => ?_, h.novel, h.fresh_le⟩
  rw [DescriptorTable.closeAll_congr _ (kept' ++ fds) (kept ++ fds) (by simp [hk]),
    DescriptorTable.closeAll_congr _ (given' ++ fds) (given ++ fds) (by simp [hg])]
  exact h.balance fds

/-- Descriptors that do not take part are left alone. -/
theorem frame (h : Exchanged s s' given kept) (rest : List Fd) :
    Exchanged s s' (given ++ rest) (kept ++ rest) := by
  refine ⟨fun fds => ?_, h.novel, h.fresh_le⟩
  rw [List.append_assoc, List.append_assoc]
  exact h.balance (rest ++ fds)

/-- A number that is neither given nor kept refers to what it referred to before. -/
theorem get?_eq (h : Exchanged s s' given kept) {fd : Fd} (hg : fd ∉ given) (hk : fd ∉ kept) :
    s'.descriptors.get? fd = s.descriptors.get? fd := by
  have hget := congrArg (fun table => table.get? fd) (h.balance [])
  simpa [DescriptorTable.get?_closeAll, hg, hk] using hget

/-- If nothing was given up, everything that was open is still open. -/
theorem keeps (h : Exchanged s s' [] kept) {fd : Fd} {slot : Slot Resource}
    (hslot : s.descriptors.get? fd = some slot) : s'.descriptors.get? fd = some slot := by
  have hget := congrArg (fun table => table.get? fd) (h.balance [])
  simp only [List.append_nil, DescriptorTable.closeAll_nil, DescriptorTable.get?_closeAll,
    hslot] at hget
  split at hget
  · cases hget
  · exact hget

/-- What is held in addition was not open before. -/
theorem get?_of_mem (h : Exchanged s s' [] kept) {fd : Fd} (hfd : fd ∈ kept) :
    s.descriptors.get? fd = none := by
  have hget := congrArg (fun table => table.get? fd) (h.balance [])
  simpa [DescriptorTable.get?_closeAll, hfd] using hget.symm

/-- What is new is not passed on to another program. -/
theorem surviving_eq (h : Exchanged s s' [] kept) :
    s'.descriptors.surviving = s.descriptors.surviving := by
  apply DescriptorTable.eq_of_get?_eq
  intro fd
  rw [DescriptorTable.get?_surviving, DescriptorTable.get?_surviving]
  cases hold : s.descriptors.get? fd with
  | some slot => rw [h.keeps hold]
  | none =>
    cases hnew : s'.descriptors.get? fd with
    | none => rfl
    | some slot =>
      rcases h.novel fd slot hnew with hslot | ⟨hc, -, -⟩
      · rw [hold] at hslot
        cases hslot
      · simp [hc]

/-- What is new gets its number in between. -/
theorem numbered (h : Exchanged s s' given kept) (hs : Numbered s) : Numbered s' := by
  intro fd slot hslot
  rcases h.novel fd slot hslot with hold | ⟨-, -, hlt⟩
  · exact Nat.lt_of_lt_of_le (hs fd slot hold) h.fresh_le
  · exact hlt

end Exchanged

/-- An action that is given some descriptors and keeps others, according to its answer. -/
def Trades (x : Shell σ α) (given : List Fd) (kept : α → List Fd) : Prop :=
  ∀ s, Exchanged s (x s).2 given (kept (x s).1)

/-- A quiet action keeps what it is given. -/
theorem Quiet.trades {x : Shell σ α} (h : Quiet x) (fds : List Fd) :
    Trades x fds fun _ => fds := by
  intro s
  refine ⟨fun more => ?_, fun fd slot hs => Or.inl ?_, ?_⟩
  · rw [(h s).1]
  · rwa [(h s).1] at hs
  · exact Nat.le_of_eq (h s).2.symm

theorem Trades.congr {x : Shell σ α} {given given' : List Fd} {kept kept' : α → List Fd}
    (h : Trades x given kept) (hg : ∀ fd, fd ∈ given ↔ fd ∈ given')
    (hk : ∀ a fd, fd ∈ kept a ↔ fd ∈ kept' a) : Trades x given' kept' :=
  fun s => (h s).congr hg (hk (x s).1)

/-- An action leaves alone what it does not know of. -/
theorem Trades.frame {x : Shell σ α} {given : List Fd} {kept : α → List Fd}
    (h : Trades x given kept) (rest : List Fd) :
    Trades x (given ++ rest) fun a => kept a ++ rest := fun s => (h s).frame rest

/-- Of two actions in a row the second one is given what the first one keeps. -/
theorem Trades.bind {x : Shell σ α} {f : α → Shell σ β} {given : List Fd} {between : α → List Fd}
    {kept : β → List Fd} (hx : Trades x given between)
    (hf : ∀ a, Trades (f a) (between a) kept) : Trades (x >>= f) given kept :=
  fun s => (hx s).trans (hf (x s).1 (x s).2)

/-- A quiet action in front changes nothing. -/
theorem Trades.after_quiet {x : Shell σ α} {f : α → Shell σ β} {given : List Fd}
    {kept : β → List Fd} (hx : Quiet x) (hf : ∀ a, Trades (f a) given kept) :
    Trades (x >>= f) given kept :=
  (hx.trades given).bind hf

theorem Trades.pure (a : α) (kept : α → List Fd) : Trades (pure a : Shell σ α) (kept a) kept :=
  fun s => Exchanged.refl s (kept a)

/-- An action that is given nothing and keeps nothing leaves the table as it was. -/
theorem Trades.descriptors_eq {x : Shell σ α} (h : Trades x [] fun _ => []) (s : ShellState σ) :
    (x s).2.descriptors = s.descriptors := by
  simpa using (h s).balance []

/-- Closing several descriptors gives them up. -/
theorem trades_closeAll (fds : List Fd) :
    Trades (closeAll fds : Shell σ Unit) fds fun _ => [] := by
  intro s
  refine ⟨fun more => ?_, fun fd slot hs => Or.inl ?_, Nat.le_refl _⟩
  · exact (DescriptorTable.closeAll_append _ _ _).symm
  · have hs' : (s.descriptors.closeAll fds).get? fd = some slot := hs
    rw [DescriptorTable.get?_closeAll] at hs'
    split at hs'
    · cases hs'
    · exact hs'

/-- Closing a descriptor gives it up. -/
theorem trades_close (fd : Fd) : Trades (close fd : Shell σ Unit) [fd] fun _ => [] :=
  trades_closeAll [fd]

theorem trades_closeOption (fd : Option Fd) :
    Trades (closeOption fd : Shell σ Unit) fd.toList fun _ => [] := by
  cases fd with
  | none => exact Trades.pure () fun _ => []
  | some fd => exact trades_close fd

/-- The two descriptors of a pipe. -/
def PipeEnds.both (ends : PipeEnds) : List Fd := [ends.reader, ends.writer]

theorem trades_pipeEnds_close (ends : PipeEnds) :
    Trades (ends.close : Shell σ Unit) ends.both fun _ => [] :=
  ((trades_close ends.reader).frame [ends.writer]).bind fun _ => trades_close ends.writer

theorem quiet_ask (request : StateM σ α) : Quiet (ask request) := fun _ => ⟨rfl, rfl⟩

theorem quiet_within (action : Action σ α) : Quiet (within action) := fun _ => ⟨rfl, rfl⟩

theorem quiet_get : Quiet (get : Shell σ (ShellState σ)) := fun _ => ⟨rfl, rfl⟩

variable [Kernel σ]

theorem quiet_write (fd : Fd) (bytes : Bytes) : Quiet (write fd bytes : Shell σ _) := by
  refine quiet_get.bind fun s => ?_
  cases s.descriptors.get? fd with
  | none => exact Quiet.pure _
  | some slot => exact quiet_ask _

theorem quiet_complain (text : String) : Quiet (complain text : Shell σ Unit) :=
  (quiet_write _ _).bind fun _ _ => ⟨rfl, rfl⟩

omit [Kernel σ] in
theorem quiet_isDown : Quiet (isDown : Shell σ Bool) := quiet_get.bind fun _ => Quiet.pure _

theorem quiet_note (event : Event) : Quiet (note event : Shell σ Unit) := by
  refine quiet_get.bind fun s => ?_
  by_cases h : s.log.admits event.record = true
  · simp only [h, if_true]
    exact (quiet_write _ _).bind fun _ => Quiet.pure ()
  · simp only [h]
    exact Quiet.pure ()

/-- The descriptors that opening a file leaves in the hands of the caller. -/
def opened : Except ShellError Fd → List Fd
  | .error _ => []
  | .ok fd => [fd]

/-- The descriptors that making a pipe leaves in the hands of the caller. -/
def made : Except Errno PipeEnds → List Fd
  | .error _ => []
  | .ok ends => ends.both

/-- The state after a request to the system for which a number was chosen. -/
def numbered (s : ShellState σ) (host : σ) : ShellState σ :=
  { s with fresh := s.fresh + 1, surroundings := { s.surroundings with host := host } }

/-- The state with a new descriptor. -/
def holding (s : ShellState σ) (resource : Resource) : ShellState σ :=
  { s with descriptors := (s.descriptors.open resource).2 }

omit [Kernel σ] in
theorem ask_apply (request : StateM σ α) (s : ShellState σ) :
    ask request s =
      ((request s.surroundings.host).1, s.withHost (request s.surroundings.host).2) := rfl

omit [Kernel σ] in
/-- The three ways in which opening a file can go. -/
theorem openFile_apply (request : Directory → String → Nat → StateM σ (Except Errno Unit))
    (path : String) (s : ShellState σ) :
    openFile request path s =
      if hasNul path then (.error (.io path .nulInName), s)
      else match request s.surroundings.directory path s.fresh s.surroundings.host with
        | (.error errno, host) => (.error (.io path (.system errno)), numbered s host)
        | (.ok (), host) =>
          (.ok s.descriptors.nextFd, holding (numbered s host) (.file s.fresh)) := by
  by_cases hn : hasNul path = true
  · simp only [openFile, hn, if_true]
    rfl
  · simp only [openFile, hn, if_false, Bool.false_eq_true, bind_apply, get_apply, ask_apply]
    rcases h : request s.surroundings.directory path s.fresh s.surroundings.host with
      ⟨errno | _, host⟩ <;> simp only [freshNumber, h] <;> rfl

/-- The two ways in which making a pipe can go. -/
theorem makePipe_apply (s : ShellState σ) :
    makePipe s =
      match Kernel.makePipe s.fresh s.surroundings.host with
      | (.error errno, host) => (.error errno, numbered s host)
      | (.ok (), host) =>
        (.ok ⟨s.descriptors.nextFd, (s.descriptors.open (.readEnd s.fresh)).2.nextFd⟩,
          holding (holding (numbered s host) (.readEnd s.fresh)) (.writeEnd s.fresh)) := by
  simp only [makePipe, bind_apply, ask_apply]
  rcases h : Kernel.makePipe s.fresh s.surroundings.host with ⟨errno | _, host⟩ <;>
    simp only [freshNumber, h] <;> rfl

omit [Kernel σ] in
/-- A number that was chosen for a new descriptor is a new one. -/
theorem novel_holding {s : ShellState σ} {resource : Resource} {fd : Fd} {slot : Slot Resource}
    (h : (holding s resource).descriptors.get? fd = some slot) :
    s.descriptors.get? fd = some slot ∨ slot = ⟨resource, true⟩ := by
  have hopen := DescriptorTable.get?_open s.descriptors resource fd
  rw [show (holding s resource).descriptors = (s.descriptors.open resource).2 from rfl, hopen] at h
  split at h
  · exact Or.inr (Option.some.inj h).symm
  · exact Or.inl h

omit [Kernel σ] in
/-- Opening a file adds its descriptor. -/
theorem trades_openFile
    (request : Directory → String → Nat → StateM σ (Except Errno Unit)) (path : String) :
    Trades (openFile request path) [] opened := by
  intro s
  refine ⟨fun fds => ?_, fun fd slot hs => ?_, ?_⟩
  · rw [openFile_apply]
    split
    · rfl
    · split
      · rfl
      · exact DescriptorTable.closeAll_open s.descriptors (.file s.fresh) fds
  · rw [openFile_apply] at hs ⊢
    split at hs
    · exact Or.inl hs
    · split at hs
      · exact Or.inl hs
      · rcases novel_holding hs with hold | rfl
        · exact Or.inl hold
        · simp [*, holding, numbered, Resource.number]
  · rw [openFile_apply]
    split
    · exact Nat.le_refl _
    · split <;> exact Nat.le_succ _

/-- Making a pipe adds both of its descriptors. -/
theorem trades_makePipe : Trades (makePipe : Shell σ _) [] made := by
  intro s
  refine ⟨fun fds => ?_, fun fd slot hs => ?_, ?_⟩
  · rw [makePipe_apply]
    split
    · rfl
    · -- The ends are closed in the reverse order of their opening.
      simp only [made, PipeEnds.both]
      rw [DescriptorTable.closeAll_congr _ _ ((s.descriptors.open (.readEnd s.fresh)).2.nextFd ::
        s.descriptors.nextFd :: fds) (by simp [or_left_comm])]
      exact (DescriptorTable.closeAll_open _ (.writeEnd s.fresh) _).trans
        (DescriptorTable.closeAll_open s.descriptors (.readEnd s.fresh) fds)
  · rw [makePipe_apply] at hs ⊢
    split at hs
    · exact Or.inl hs
    · rcases novel_holding hs with hold | rfl
      · rcases novel_holding hold with hold | rfl
        · exact Or.inl hold
        · simp [*, holding, numbered, Resource.number]
      · simp [*, holding, numbered, Resource.number]
  · rw [makePipe_apply]
    split <;> exact Nat.le_succ _

end Shell

end CommandShell
