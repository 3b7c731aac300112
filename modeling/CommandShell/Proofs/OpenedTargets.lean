import CommandShell.Proofs.BuiltinLines
import CommandShell.Proofs.Delivering
import CommandShell.Proofs.StartedShell

/-!
# Opened targets

The files of a builtin are opened before it is asked. Main statements: the file for its input is
opened and closed again, and nothing has changed then but bytes that the log has written
(`Interpreter.exists_prepare`); a regular file for its output is empty when the builtin is asked,
and takes what is written to it (`ShellState.Unmoved.exists_openOutput`).
-/

namespace CommandShell

open Shell
open Machine (State NodeId)

/-- A shell in order: the files of its machine are in order, numbers of what is open were given
before now, and complaints have a place to go to. -/
structure ShellState.Standing (s : ShellState (Recorded State)) : Prop where
  /-- The directories of the machine have paths of their own. -/
  sound : s.machine.tree.Sound
  /-- Descriptors lead to numbers that were given. -/
  numbered : Numbered s
  /-- Nothing is open under a number that was not given. -/
  given : ∀ key, (s.machine.files[key]?).isSome → Machine.Key.IsOld s.fresh key
  /-- The descriptor for complaints is open. -/
  complains : (s.descriptors.get? standardError).isSome

/-- A file can be opened for reading. -/
structure ShellState.Readable (s : ShellState (Recorded State)) (path : String) : Prop where
  named : hasNul path = false
  opened : (Kernel.openToRead s.surroundings.directory path s.fresh s.machine).1 = .ok ()

/-- What is opened for writing at a path is a certain regular file. -/
structure ShellState.Writable (s : ShellState (Recorded State)) (path : String) (id : NodeId) :
    Prop where
  named : hasNul path = false
  opens : s.machine.OpensRegular s.surroundings.directory path s.fresh id

namespace ShellState

variable {s : ShellState (Recorded State)} {path : String} {node id : NodeId}

/-- A name of something keeps nothing from being opened. -/
theorem obstacle?_of_holds (hs : s.machine.tree.Sound) (hroom : s.machine.exhausted = false)
    (hholds : s.machine.tree.Holds s.surroundings.directory (utf8 path) node) :
    s.machine.obstacle? path = none := by
  have hname := hs.isEntryName_of_holds hholds
  have hempty : (utf8 path).isEmpty = false := by simpa using hname.ne_nil
  have hshort : ¬ Machine.maxPath ≤ (utf8 path).length :=
    Nat.not_le.mpr (Machine.Tree.length_lt_maxPath_of_isEntryName hname)
  rw [State.obstacle?, hempty, if_neg Bool.false_ne_true, if_neg hshort, hroom,
    if_neg Bool.false_ne_true]

/-- A file in the working directory can be read. -/
theorem readable_of_holds (hs : s.machine.tree.Sound) (hroom : s.machine.exhausted = false)
    (hnamed : hasNul path = false)
    (hholds : s.machine.tree.Holds s.surroundings.directory (utf8 path) node)
    (hlink : s.machine.tree.IsNoLink node) (hleads : s.machine.LeadsTo node id) :
    s.Readable path :=
  ⟨hnamed, congrArg Prod.fst (State.openToRead_eq_ok_iff.mpr ⟨obstacle?_of_holds hs hroom hholds,
    node, _, hs.find_of_holds hholds hlink, hleads.openNode_eq .input _⟩)⟩

/-- A file in the working directory can be written. -/
theorem writable_of_holds (hs : s.machine.tree.Sound) (hroom : s.machine.exhausted = false)
    (hnamed : hasNul path = false)
    (hholds : s.machine.tree.Holds s.surroundings.directory (utf8 path) node)
    (hlink : s.machine.tree.IsNoLink node) (hdirectory : s.machine.tree.directory? node = none)
    (hleads : s.machine.LeadsTo node id) {bytes : ByteArray}
    (hregular : s.machine.tree.content? id = some (.regular bytes)) : s.Writable path id :=
  ⟨hnamed, hleads.opensRegular (obstacle?_of_holds hs hroom hholds)
    (hs.openToMake_of_holds hholds hlink hdirectory _ _) hregular _⟩

end ShellState

/-- A shell as it was, except that bytes were written and numbers given. -/
structure ShellState.Unmoved (s t : ShellState (Recorded State)) : Prop where
  descriptors_eq : t.descriptors = s.descriptors
  directory_eq : t.surroundings.directory = s.surroundings.directory
  home_eq : t.surroundings.home = s.surroundings.home
  fresh_le : s.fresh ≤ t.fresh
  kept : s.machine.Kept s.fresh t.machine

namespace ShellState

variable {s t : ShellState (Recorded State)} {path : String} {id : NodeId}

theorem Unmoved.wrote (h : s.Unmoved t) {fd : Fd} {t' : ShellState (Recorded State)}
    (hwrote : t.Wrote fd t') : s.Unmoved t' :=
  ⟨hwrote.descriptors_eq.trans h.descriptors_eq, hwrote.directory_eq.trans h.directory_eq,
    hwrote.home_eq.trans h.home_eq, hwrote.fresh_eq ▸ h.fresh_le,
    h.kept.trans (hwrote.kept s.fresh)⟩

theorem Unmoved.refl (s : ShellState (Recorded State)) : s.Unmoved s :=
  ⟨rfl, rfl, rfl, Nat.le_refl _, .refl _ _⟩

/-- A shell that is ready for another line has not moved. -/
theorem Unmoved.recovered (h : s.Unmoved t) : s.Unmoved t.recovered :=
  ⟨h.descriptors_eq, h.directory_eq, h.home_eq, h.fresh_le, h.kept⟩

/-- Descriptors lead where they led. -/
theorem Unmoved.fileBehind?_eq (h : s.Unmoved t) (hs : Numbered s) (fd : Fd) :
    t.fileBehind? fd = s.fileBehind? fd := by
  rw [fileBehind?, fileBehind?, h.descriptors_eq]
  refine Option.bind_congr fun slot hslot => ?_
  exact h.kept.fileAt?_eq (hs fd slot hslot)

/-- The user is told as much as before. -/
theorem Unmoved.refusal?_eq (h : s.Unmoved t) (hs : Numbered s) : t.refusal? = s.refusal? := by
  rw [refusal?, refusal?, h.descriptors_eq]
  exact Option.bind_congr fun slot hslot =>
    congrArg fatal? (h.kept.answerTo_eq (hs standardError slot hslot))

/-- A file that the machine opens gets the next descriptor and the next number. -/
theorem exists_recordedOpen (request : Directory → String → Nat → StateM State (Except Errno Unit))
    (call : Directory → String → Nat → Except Errno Unit → Call) (hnamed : hasNul path = false)
    {m : State} (hopen : request t.surroundings.directory path t.fresh t.machine = (.ok (), m)) :
    ∃ calls, recordedOpen request call path t =
      (.ok t.descriptors.nextFd, holding (numbered t ⟨m, calls⟩) (.file t.fresh)) := by
  have hopen' : request t.surroundings.directory path t.fresh t.surroundings.host.host =
    (.ok (), m) := hopen
  refine ⟨t.surroundings.host.calls ++
    [call t.surroundings.directory path t.fresh (.ok ())], ?_⟩
  rw [recordedOpen, openFile_apply, hnamed, if_neg Bool.false_ne_true, Recorded.record, hopen']

/-- A file that can be opened for reading is opened, and then it is closed. -/
theorem Unmoved.exists_openInput (h : s.Unmoved t) (hpath : s.Readable path) :
    ∃ fd opened, openInput path t = (.ok fd, opened) ∧ s.Unmoved (close fd opened).2 := by
  obtain ⟨m, hopen, hkept⟩ := h.kept.openToRead h.fresh_le hpath.opened
  rw [← h.directory_eq] at hopen
  obtain ⟨calls, hopened⟩ := exists_recordedOpen Kernel.openToRead .openToRead hpath.named hopen
  refine ⟨t.descriptors.nextFd, _, hopened, ?_, h.directory_eq, h.home_eq,
    Nat.le_succ_of_le h.fresh_le, h.kept.trans hkept⟩
  exact (DescriptorTable.close_open _ _).trans h.descriptors_eq

/-- What becomes of a shell when the file for the output of a builtin is opened. -/
structure Redirected (s opened : ShellState (Recorded State)) (fd : Fd) (number : Nat)
    (id : NodeId) : Prop where
  directory_eq : opened.surroundings.directory = s.surroundings.directory
  home_eq : opened.surroundings.home = s.surroundings.home
  /-- The number is a new one. -/
  fresh_le : s.fresh ≤ number
  /-- Other descriptors are still open. -/
  get?_eq : ∀ other slot, s.descriptors.get? other = some slot →
    opened.descriptors.get? other = some slot
  /-- There is a descriptor for the file. -/
  opens : opened.descriptors.get? fd = some ⟨.file number, true⟩
  /-- The file is empty. -/
  emptied : ∃ t, s.Unmoved t ∧ t.machine.Emptied opened.machine number id

/-- A regular file that can be opened for writing is opened, and it is empty. -/
theorem Unmoved.exists_openOutput (h : s.Unmoved t) (hs : s.Standing) (hpath : s.Writable path id) :
    ∃ fd opened, openOutput path t = (.ok fd, opened) ∧ s.Redirected opened fd t.fresh id := by
  obtain ⟨m, hopen, hemptied⟩ :=
    h.kept.openToWrite (Nat.le_refl _) hs.given hpath.opens t.fresh
  rw [← h.directory_eq] at hopen
  obtain ⟨calls, hopened⟩ := exists_recordedOpen Kernel.openToWrite .openToWrite hpath.named hopen
  refine ⟨t.descriptors.nextFd, _, hopened, h.directory_eq, h.home_eq, h.fresh_le,
    fun other slot hslot => ?_, ?_, t, h, hemptied⟩
  · rw [← h.descriptors_eq] at hslot
    exact DescriptorTable.get?_open_of_some _ hslot
  · exact (DescriptorTable.get?_open _ _ _).trans (if_pos rfl)

/-- Complaints go where they went. -/
theorem Redirected.get?_standardError {fd : Fd} {number : Nat} {id : NodeId}
    (h : s.Redirected t fd number id) (hs : s.Standing) :
    t.descriptors.get? standardError = s.descriptors.get? standardError := by
  obtain ⟨slot, hslot⟩ := Option.isSome_iff_exists.mp hs.complains
  rw [hslot, h.get?_eq standardError slot hslot]

theorem Redirected.fileBehind?_eq {fd : Fd} {number : Nat} {id : NodeId}
    (h : s.Redirected t fd number id) (hs : s.Standing) :
    t.fileBehind? standardError = s.fileBehind? standardError := by
  obtain ⟨between, hunmoved, hemptied⟩ := h.emptied
  rw [fileBehind?, fileBehind?, h.get?_standardError hs]
  refine Option.bind_congr fun slot hslot => ?_
  have hnumber := hs.numbered _ slot hslot
  rw [hemptied.fileAt?_eq (Nat.lt_of_lt_of_le hnumber h.fresh_le), hunmoved.kept.fileAt?_eq hnumber]

theorem Redirected.refusal?_eq {fd : Fd} {number : Nat} {id : NodeId}
    (h : s.Redirected t fd number id) (hs : s.Standing) : t.refusal? = s.refusal? := by
  obtain ⟨between, hunmoved, hemptied⟩ := h.emptied
  rw [refusal?, refusal?, h.get?_standardError hs]
  refine Option.bind_congr fun slot hslot => congrArg fatal? ?_
  have hnumber := hs.numbered _ slot hslot
  rw [hemptied.answerTo_eq (Nat.lt_of_lt_of_le hnumber h.fresh_le),
    hunmoved.kept.answerTo_eq hnumber]

end ShellState

namespace Interpreter

variable {s : ShellState (Recorded State)} (line : String) (stage : Stage)

/-- A line is prepared: the file for its input, if there is one, is opened and closed again, and it
is the turn of the file for its output. -/
theorem exists_prepare (hinput : ∀ path, stage.input = some path → s.Readable path) :
    ∃ t, s.Unmoved t ∧ prepare line stage s = StageIo.openTarget openOutput stage.output t := by
  have hscanned := (ShellState.Unmoved.refl s).recovered.wrote
    (wrote_note (.tokenized (Token.scan line)) s.recovered)
  have hnoted := hscanned.wrote (wrote_note (.runningBuiltin stage.program) _)
  have hrecover : (recover s).2 = s.recovered := rfl
  simp only [prepare, openTargets, bind_apply, hrecover]
  generalize (note (.runningBuiltin stage.program)
    (note (.tokenized (Token.scan line)) s.recovered).2).2 = t at hnoted ⊢
  cases hstage : stage.input with
  | none => exact ⟨t, hnoted, rfl⟩
  | some path =>
    obtain ⟨fd, opened, hopen, hclosed⟩ := hnoted.exists_openInput (hinput path hstage)
    refine ⟨_, hclosed, ?_⟩
    simp only [StageIo.openTarget, bind_apply, hopen]
    rfl

/-- Without a file for the output the shell is as it was when the builtin is asked. -/
theorem exists_prepare_plain (hinput : ∀ path, stage.input = some path → s.Readable path)
    (houtput : stage.output = none) :
    ∃ opened, prepare line stage s = (.ok none, opened) ∧ s.Unmoved opened := by
  obtain ⟨t, hunmoved, hprepare⟩ := exists_prepare line stage hinput
  rw [houtput] at hprepare
  exact ⟨t, hprepare, hunmoved⟩

/-- A file for the output is open when the builtin is asked. -/
theorem exists_prepare_redirected (hs : s.Standing)
    (hinput : ∀ path, stage.input = some path → s.Readable path) {path : String} {id : NodeId}
    (houtput : stage.output = some path) (hpath : s.Writable path id) :
    ∃ fd opened number, prepare line stage s = (.ok (some fd), opened) ∧
      s.Redirected opened fd number id := by
  obtain ⟨t, hunmoved, hprepare⟩ := exists_prepare line stage hinput
  obtain ⟨fd, opened, hopen, hredirected⟩ := hunmoved.exists_openOutput hs hpath
  refine ⟨fd, opened, t.fresh, ?_, hredirected⟩
  rw [hprepare, houtput]
  simp only [StageIo.openTarget, bind_apply, hopen]
  rfl

end Interpreter

/-! ## Started shells -/

namespace Machine

/-- A stream is no directory, so that it changes nothing of those that there are. -/
theorem State.sound_addStreams {m : State} (h : m.tree.Sound) (number : Nat)
    (streams : List Stream) : (m.addStreams number streams).tree.Sound := by
  induction streams generalizing m number with
  | nil => exact h
  | cons stream rest ih =>
    refine ih (h.of_directory?_eq (fun id => ?_) ?_) (number + 1)
    · refine (Tree.directory?_push m.tree ⟨.regular stream.content, 0o600, startTime⟩ id).trans ?_
      split
      · next heq => exact (Tree.directory?_eq_none (Nat.le_of_eq heq.symm)).symm
      · rfl
    · change m.tree.nodes.size ≤ (m.tree.nodes.push _).size
      rw [Array.size_push]
      exact Nat.le_succ _

/-- Streams are opened under the numbers that were chosen for them. -/
theorem State.isOld_addStreams {m : State} {number : Nat} {streams : List Stream}
    (h : ∀ key, (m.files[key]?).isSome → Key.IsOld number key) :
    ∀ key, ((m.addStreams number streams).files[key]?).isSome →
      Key.IsOld (number + streams.length) key := by
  induction streams generalizing m number with
  | nil => exact h
  | cons stream rest ih =>
    rw [List.length_cons, Nat.add_comm rest.length 1, ← Nat.add_assoc]
    refine ih fun key hkey n hn => ?_
    subst hn
    by_cases hnew : n = number
    · exact Nat.lt_succ_of_le (Nat.le_of_eq hnew)
    · refine Nat.lt_succ_of_lt (h (.ofShell n) ?_ n rfl)
      have hget : (m.addStream number stream).files[Key.ofShell n]? = m.files[Key.ofShell n]? := by
        rw [addStream, Std.HashMap.getElem?_insert, if_neg]
        simpa using Ne.symm hnew
      rwa [hget] at hkey

/-- A shell that was started with the standard streams is in order. -/
theorem standing_boot (setup : Setup) (hsound : setup.tree.Sound)
    (hlength : 3 ≤ setup.streams.length) : setup.boot.recorded.Standing where
  sound := State.sound_addStreams hsound 0 setup.streams
  numbered := (numbered_boot setup).recorded
  given := by
    intro key hkey
    have hold : Key.IsOld (0 + setup.streams.length) key :=
      State.isOld_addStreams (by simp [State.empty]) key hkey
    rwa [Nat.zero_add] at hold
  complains := by
    have hget : setup.boot.recorded.descriptors.get? standardError =
        (streamDescriptors setup.streams.length).get? standardError := rfl
    rw [hget, get?_streamDescriptors, if_pos (Nat.lt_of_lt_of_le (by decide) hlength)]
    rfl

end Machine

end CommandShell
