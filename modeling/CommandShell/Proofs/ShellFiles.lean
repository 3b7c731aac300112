import CommandShell.Proofs.FileMaking

/-!
# Files of a shell on a machine

What a machine does with the files that a shell opens and writes. Main statements: writing leaves
everything as it is but bytes (`State.kept_write`), so that a place that takes what is written to it
goes on doing so (`State.Kept.accepts`) and files are opened as before (`State.Kept.openToRead`,
`State.Kept.openToWrite`); a file that was opened for writing is empty at first and then holds what
is written to it (`State.content?_write`), and nothing else changes it
(`State.content?_write_of_ne`).
-/

namespace CommandShell.Machine

/-- A number that the shell has chosen is below a bound. -/
def Key.IsOld (bound : Nat) (key : Key) : Prop := ∀ n, key = .ofShell n → n < bound

theorem Key.isOld_ofShell {bound n : Nat} (h : n < bound) : (Key.ofShell n).IsOld bound := by
  rintro _ ⟨⟩
  exact h

/-- What an opened file is, wherever its position is. -/
def OpenFile.identity (file : OpenFile) : NodeId × OpenMode := (file.node, file.mode)

namespace State

variable {m m' m'' : State} {bound n : Nat} {goal : Resource} {bytes : Bytes} {key : Key}

/-- A machine on which nothing has happened but that bytes were written, and that files were opened
for reading under numbers from a bound on. -/
structure Kept (bound : Nat) (m m' : State) : Prop where
  /-- The files hold other bytes at most. -/
  tree : m.tree.Alike m'.tree
  /-- The opened files are the same. -/
  files : ∀ key : Key, key.IsOld bound →
    (m'.files[key]?).map OpenFile.identity = (m.files[key]?).map OpenFile.identity
  shell : m'.shell = m.shell
  exhausted : m'.exhausted = m.exhausted
  bindings : m'.bindings = m.bindings

namespace Kept

theorem refl (bound : Nat) (m : State) : m.Kept bound m :=
  ⟨.refl _, fun _ _ => rfl, rfl, rfl, rfl⟩

theorem trans (h : m.Kept bound m') (h' : m'.Kept bound m'') : m.Kept bound m'' :=
  ⟨h.tree.trans h'.tree, fun key hold => (h'.files key hold).trans (h.files key hold),
    h'.shell.trans h.shell, h'.exhausted.trans h.exhausted, h'.bindings.trans h.bindings⟩

/-- An opened file is still open. -/
theorem exists_file (h : m.Kept bound m') (hold : key.IsOld bound) {file : OpenFile}
    (hfile : m.files[key]? = some file) :
    ∃ file', m'.files[key]? = some file' ∧ file'.node = file.node ∧ file'.mode = file.mode := by
  have hidentity := h.files key hold
  rw [hfile] at hidentity
  obtain ⟨file', hfile', heq⟩ := Option.map_eq_some_iff.mp hidentity
  exact ⟨file', hfile', congrArg Prod.fst heq, congrArg Prod.snd heq⟩

end Kept

/-- The file that a place is, if it is one. -/
def fileAt? (m : State) : Resource → Option NodeId
  | .file n => (m.files[Key.ofShell n]?).map OpenFile.node
  | _ => none

theorem Kept.fileAt?_eq (h : m.Kept bound m') (hgoal : goal.number < bound) :
    m'.fileAt? goal = m.fileAt? goal := by
  cases goal with
  | file n =>
    have hidentity :=
      congrArg (Option.map Prod.fst) (h.files (.ofShell n) (Key.isOld_ofShell hgoal))
    simpa [fileAt?, OpenFile.identity, Function.comp_def] using hidentity
  | _ => rfl

/-! ## Writing -/

/-- Changing the position in an opened file does not make it another file. -/
theorem identity_insert {file file' : OpenFile} (hfile : m.files[key]? = some file)
    (hsame : file'.identity = file.identity) (other : Key) :
    ((m.files.insert key file')[other]?).map OpenFile.identity =
      (m.files[other]?).map OpenFile.identity := by
  rw [Std.HashMap.getElem?_insert]
  split
  · next heq =>
    rw [← eq_of_beq heq, hfile]
    exact congrArg some hsame
  · rfl

/-- Whether a file takes no bytes. -/
def isFull (m : State) (node : NodeId) : Bool :=
  match m.tree.content? node with
  | some (.device .full) => true
  | _ => false

theorem isFull_iff {node : NodeId} :
    m.isFull node = true ↔ m.tree.content? node = some (.device .full) := by
  rw [isFull]
  split
  · next hfull => simp [hfull]
  · next hother => simpa using hother

/-- What an opened file answers depends on how it was opened and on whether it is always full. -/
theorem fst_writeFile (m : State) (key : Key) (bytes : ByteArray) : (m.writeFile key bytes).1 =
    match m.files[key]? with
    | none => .error .badDescriptor
    | some file =>
      if file.mode.writes then
        (if m.isFull file.node && !bytes.isEmpty then .error .noSpace else .ok bytes.size)
      else .error .badDescriptor := by
  rw [writeFile]
  cases m.files[key]? with
  | none => rfl
  | some file =>
    cases hwrites : file.mode.writes with
    | false => simp [hwrites]
    | true =>
      simp only [hwrites, Bool.not_true, Bool.false_eq_true, if_false, if_true]
      by_cases hfull : m.tree.content? file.node = some (.device .full)
      · have hsize : bytes.isEmpty = true → bytes.size = 0 := by simp [ByteArray.isEmpty]
        simp only [hfull, isFull_iff.mpr hfull, Bool.true_and]
        cases hempty : bytes.isEmpty with
        | false => rfl
        | true => rw [hsize hempty]; rfl
      · have hroom : m.isFull file.node = false := by rwa [← Bool.not_eq_true, isFull_iff]
        rw [hroom]
        split
        · next hcontent => exact absurd hcontent hfull
        · rfl
        · rfl

/-- If writing to an opened file does anything, the file gets other bytes and another position. -/
theorem snd_writeFile_cases (m : State) (key : Key) (bytes : ByteArray) :
    (m.writeFile key bytes).2 = m ∨ ∃ file offset, m.files[key]? = some file ∧
      (m.writeFile key bytes).2 = { m with
        tree := m.tree.writeAt file.node offset bytes m.now
        files := m.files.insert key { file with offset := offset + bytes.size } } := by
  rw [writeFile]
  split
  · exact .inl rfl
  · next file hfile =>
    split
    · exact .inl rfl
    · split
      · exact .inl rfl
      · exact .inl rfl
      · exact .inr ⟨file, _, hfile, rfl⟩

theorem kept_writeFile (bound : Nat) (m : State) (key : Key) (bytes : ByteArray) :
    m.Kept bound (m.writeFile key bytes).2 := by
  rcases m.snd_writeFile_cases key bytes with heq | ⟨file, offset, hfile, heq⟩
  · rw [heq]
    exact .refl bound m
  · rw [heq]
    exact ⟨Tree.alike_writeAt _ _ _ _ _, fun other _ => identity_insert hfile (by rfl) other, rfl,
      rfl, rfl⟩

/-- A pipe takes what is written to it. -/
theorem writeForShell_writeEnd (m : State) (n : Nat) (bytes : Bytes) :
    ∃ pipes, m.writeForShell (.writeEnd n) bytes = (.ok (), { m with pipes := pipes }) := by
  rw [writeForShell]
  split
  · exact ⟨m.pipes, rfl⟩
  · exact ⟨_, rfl⟩

/-- A file is written under its key. -/
theorem writeForShell_file (m : State) (n : Nat) (bytes : Bytes) :
    m.writeForShell (.file n) bytes =
      ((m.writeFile (.ofShell n) (Tool.pack bytes)).1.map fun _ => (),
        (m.writeFile (.ofShell n) (Tool.pack bytes)).2) := by
  rw [writeForShell]
  generalize m.writeFile (.ofShell n) (Tool.pack bytes) = written
  obtain ⟨_ | _, _⟩ := written <;> rfl

theorem fst_write (goal : Resource) (bytes : Bytes) (m : State) :
    (Kernel.write goal bytes m).1 = (m.writeForShell goal bytes).1 := rfl

theorem tree_write (goal : Resource) (bytes : Bytes) (m : State) :
    (Kernel.write goal bytes m).2.tree = (m.writeForShell goal bytes).2.tree := rfl

/-- Writing changes nothing but bytes. -/
theorem kept_write (bound : Nat) (m : State) (goal : Resource) (bytes : Bytes) :
    m.Kept bound (Kernel.write goal bytes m).2 := by
  suffices h : m.Kept bound (m.writeForShell goal bytes).2 from
    ⟨h.tree, h.files, h.shell, h.exhausted, h.bindings⟩
  cases goal with
  | readEnd n => exact .refl bound m
  | writeEnd n =>
    obtain ⟨pipes, heq⟩ := m.writeForShell_writeEnd n bytes
    rw [heq]
    exact ⟨.refl _, fun _ _ => rfl, rfl, rfl, rfl⟩
  | file n =>
    rw [writeForShell_file]
    exact kept_writeFile bound m (.ofShell n) (Tool.pack bytes)

/-- What a place answers when something is written to it. -/
def answerTo (m : State) (goal : Resource) : Except Errno Unit := (Kernel.write goal [0] m).1

theorem isEmpty_pack (hbytes : bytes ≠ []) : (Tool.pack bytes).isEmpty = false := by
  obtain ⟨byte, rest, rfl⟩ := List.exists_cons_of_ne_nil hbytes
  simp [Tool.pack, ByteArray.isEmpty, ByteArray.size]

/-- An opened file refuses all bytes or none. -/
theorem fst_write_file (n : Nat) (hbytes : bytes ≠ []) : (Kernel.write (.file n) bytes m).1 =
    match m.files[Key.ofShell n]? with
    | none => .error .badDescriptor
    | some file =>
      if file.mode.writes then (if m.isFull file.node then .error .noSpace else .ok ())
      else .error .badDescriptor := by
  rw [fst_write, writeForShell_file, fst_writeFile, isEmpty_pack hbytes]
  cases m.files[Key.ofShell n]? with
  | none => rfl
  | some file =>
    cases hwrites : file.mode.writes with
    | false => simp [hwrites, Except.map]
    | true => cases hfull : m.isFull file.node <;> simp [hwrites, hfull, Except.map]

/-- A place answers the same to any bytes. -/
theorem fst_write_of_ne_nil (hbytes : bytes ≠ []) (m : State) (goal : Resource) :
    (Kernel.write goal bytes m).1 = m.answerTo goal := by
  rw [answerTo]
  cases goal with
  | readEnd n => rfl
  | writeEnd n =>
    obtain ⟨_, heq⟩ := m.writeForShell_writeEnd n bytes
    obtain ⟨_, heq'⟩ := m.writeForShell_writeEnd n [0]
    rw [fst_write, fst_write, heq, heq']
  | file n => rw [fst_write_file n hbytes, fst_write_file n (List.cons_ne_nil _ _)]

/-- It answers the same once other files were opened or written. -/
theorem answerTo_congr
    (hfiles : ∀ n, goal = .file n → (m'.files[Key.ofShell n]?).map OpenFile.identity =
      (m.files[Key.ofShell n]?).map OpenFile.identity)
    (hfull : ∀ id, m'.tree.content? id = some (.device .full) ↔
      m.tree.content? id = some (.device .full)) : m'.answerTo goal = m.answerTo goal := by
  cases goal with
  | readEnd n => rfl
  | writeEnd n =>
    obtain ⟨_, heq⟩ := m.writeForShell_writeEnd n [0]
    obtain ⟨_, heq'⟩ := m'.writeForShell_writeEnd n [0]
    rw [answerTo, answerTo, fst_write, fst_write, heq, heq']
  | file n =>
    have hidentity := hfiles n rfl
    rw [answerTo, answerTo, fst_write_file n (List.cons_ne_nil _ _),
      fst_write_file n (List.cons_ne_nil _ _)]
    cases hfile : m.files[Key.ofShell n]? with
    | none =>
      rw [hfile, Option.map_none, Option.map_eq_none_iff] at hidentity
      rw [hidentity]
    | some file =>
      rw [hfile] at hidentity
      obtain ⟨file', hfile', heq⟩ := Option.map_eq_some_iff.mp hidentity
      obtain ⟨hnode, hmode⟩ := Prod.mk.inj heq
      have hfull' : m'.isFull file.node = m.isFull file.node :=
        Bool.eq_iff_iff.mpr (isFull_iff.trans ((hfull _).trans isFull_iff.symm))
      simp only [hfile', hnode, hmode, hfull']

/-- Whatever is written to a place, it is taken. -/
def Accepts (m : State) (goal : Resource) : Prop :=
  ∀ bytes, (Kernel.write goal bytes m).1 = .ok ()

theorem accepts_writeEnd (m : State) (n : Nat) : m.Accepts (.writeEnd n) := by
  intro bytes
  obtain ⟨_, heq⟩ := m.writeForShell_writeEnd n bytes
  rw [fst_write, heq]

/-- An opened file takes what is written to it if it was opened for that and is not always full. -/
theorem accepts_file_iff : m.Accepts (.file n) ↔ ∃ file, m.files[Key.ofShell n]? = some file ∧
    file.mode.writes = true ∧ m.tree.content? file.node ≠ some (.device .full) := by
  constructor
  · intro h
    have hone := h [0]
    rw [fst_write_file n (List.cons_ne_nil _ _)] at hone
    cases hfile : m.files[Key.ofShell n]? with
    | none => simp [hfile] at hone
    | some file =>
      cases hwrites : file.mode.writes with
      | false => simp [hfile, hwrites] at hone
      | true =>
        refine ⟨file, rfl, hwrites, fun hfull => ?_⟩
        simp [hfile, hwrites, isFull_iff.mpr hfull] at hone
  · rintro ⟨file, hfile, hwrites, hfull⟩ bytes
    have hroom : m.isFull file.node = false := by rwa [← Bool.not_eq_true, isFull_iff]
    rw [fst_write, writeForShell_file, fst_writeFile]
    simp only [hfile, hwrites, hroom, Bool.false_and, Bool.false_eq_true, if_false, if_true]
    rfl

/-- A place that takes what is written to it goes on doing so. -/
theorem Kept.accepts (h : m.Kept bound m') (hgoal : goal.number < bound)
    (haccepts : m.Accepts goal) : m'.Accepts goal := by
  cases goal with
  | readEnd n => cases haccepts []
  | writeEnd n => exact accepts_writeEnd m' n
  | file n =>
    obtain ⟨file, hfile, hwrites, hfull⟩ := accepts_file_iff.mp haccepts
    obtain ⟨file', hfile', hnode, hmode⟩ := h.exists_file (Key.isOld_ofShell hgoal) hfile
    refine accepts_file_iff.mpr ⟨file', hfile', by rw [hmode, hwrites], fun hcontent => hfull ?_⟩
    rw [hnode] at hcontent
    exact h.tree.symm.content?_eq hcontent (by simp)

/-- A place answers as before once bytes were written. -/
theorem Kept.answerTo_eq (h : m.Kept bound m') (hgoal : goal.number < bound) :
    m'.answerTo goal = m.answerTo goal := by
  refine answerTo_congr ?_ fun id => h.tree.device_iff
  rintro n rfl
  exact h.files _ (Key.isOld_ofShell hgoal)

/-- What is in the environment makes no difference to that. -/
theorem Accepts.withBindings (h : m.Accepts goal) (bindings : Variables) :
    { m with bindings := bindings }.Accepts goal := by
  cases goal with
  | readEnd n => cases h []
  | writeEnd n => exact accepts_writeEnd _ n
  | file n =>
    have hfile := accepts_file_iff.mp h
    exact accepts_file_iff.mpr hfile

/-- A file to which nothing is written keeps its bytes. -/
theorem content?_write_of_ne {id : NodeId} (hfile : m.fileAt? goal ≠ some id) (bytes : Bytes) :
    (Kernel.write goal bytes m).2.tree.content? id = m.tree.content? id := by
  rw [tree_write]
  cases goal with
  | readEnd n => rfl
  | writeEnd n =>
    obtain ⟨pipes, heq⟩ := m.writeForShell_writeEnd n bytes
    rw [heq]
  | file n =>
    rw [writeForShell_file]
    rcases m.snd_writeFile_cases (.ofShell n) (Tool.pack bytes) with
      heq | ⟨file, offset, hopen, heq⟩
    · rw [heq]
    · have hne : id ≠ file.node := by
        rintro rfl
        exact hfile (by rw [fileAt?, hopen]; rfl)
      rw [heq]
      exact Tree.content?_writeAt_of_ne hne _ _ _

/-- An empty file holds what is written at its start, which is also its end. -/
theorem content?_write {file : OpenFile} (hfile : m.files[Key.ofShell n]? = some file)
    (hwrites : file.mode.writes = true) (hstart : file.mode.atEnd = true ∨ file.offset = 0)
    (hempty : m.tree.content? file.node = some (.regular .empty)) (bytes : Bytes) :
    (Kernel.write (.file n) bytes m).2.tree.content? file.node =
      some (.regular (Tool.pack bytes)) := by
  have hsize : m.tree.sizeOf file.node = 0 := by rw [Tree.sizeOf, Tree.bytesOf, hempty]; rfl
  have hoffset : (if file.mode.atEnd then m.tree.sizeOf file.node else file.offset) = 0 := by
    split
    · exact hsize
    · next hend => exact hstart.resolve_left hend
  have htree : (m.writeForShell (.file n) bytes).2.tree =
      m.tree.writeAt file.node 0 (Tool.pack bytes) m.now := by
    rw [writeForShell_file]
    simp only [writeFile, hfile, hwrites, hempty, hoffset, Bool.not_true, Bool.false_eq_true,
      if_false]
  rw [tree_write, htree]
  exact Tree.content?_writeAt_of_empty hempty _ _

/-! ## Opening -/

/-- A node leads to a file: to itself or, if it stands for a descriptor, to what is open there. -/
inductive LeadsTo (m : State) (node : NodeId) : NodeId → Prop
  /-- It stands for itself. -/
  | itself (hterminal : m.tree.content? node ≠ some (.device .terminal))
      (hdescriptor : ∀ fd, m.tree.content? node ≠ some (.descriptor fd)) : LeadsTo m node node
  /-- It stands for a descriptor. -/
  | again (fd : Fd) (slot : Slot Handle) (other : Key) (file : OpenFile)
      (hdescriptor : m.tree.content? node = some (.descriptor fd))
      (hslot : m.shell.get? fd = some slot) (htarget : slot.target = .file other)
      (hfile : m.files[other]? = some file) : LeadsTo m node file.node

variable {node id : NodeId} {mode : OpenMode} {start : Directory} {path : String} {n' : Nat}

/-- The file to which a node leads is opened. -/
theorem LeadsTo.openNode_eq (h : m.LeadsTo node id) (mode : OpenMode) (key : Key) :
    m.openNode m.shell node mode key = .ok (.file key,
      { m with
        tree := if mode.empties then m.tree.clear id m.now else m.tree
        files := m.files.insert key ⟨id, 0, mode⟩ }) := by
  cases h with
  | itself hterminal hdescriptor =>
    rw [openNode]
    split
    · next hcontent => exact absurd hcontent hterminal
    · next fd hcontent => exact absurd hcontent (hdescriptor fd)
    · rfl
  | again fd slot other file hdescriptor hslot htarget hfile =>
    simp only [openNode, hdescriptor, hslot, htarget, openAgain, hfile]

/-- A file that was opened under a new number is the one to which the node leads. -/
theorem leadsTo_of_openNode {handle : Handle} (hnew : m.files[key]? = none)
    (hopen : m.openNode m.shell node mode key = .ok (handle, m')) {file : OpenFile}
    (hfile : m'.files[key]? = some file) : m.LeadsTo node file.node := by
  rw [openNode] at hopen
  split at hopen
  · cases hopen
  · next fd hdescriptor =>
    split at hopen
    · cases hopen
    · next slot hslot =>
      rw [openAgain.eq_def] at hopen
      split at hopen
      · cases hopen
        rw [hnew] at hfile
        cases hfile
      · cases hopen
        rw [hnew] at hfile
        cases hfile
      · next other htarget =>
        split at hopen
        · cases hopen
          rw [hnew] at hfile
          cases hfile
        · next old hold =>
          cases hopen
          rw [Std.HashMap.getElem?_insert_self] at hfile
          cases hfile
          exact .again fd slot other old hdescriptor hslot htarget hold
  · next hterminal hdescriptor =>
    cases hopen
    rw [Std.HashMap.getElem?_insert_self] at hfile
    cases hfile
    exact .itself hterminal hdescriptor

/-- An opened file under a number from the bound on is none of the old ones. -/
theorem getElem?_insert_of_isOld (hold : key.IsOld bound) (hn : bound ≤ n) (m : State)
    (file : OpenFile) : (m.files.insert (.ofShell n) file)[key]? = m.files[key]? := by
  rw [Std.HashMap.getElem?_insert, if_neg]
  intro heq
  exact Nat.not_lt.mpr hn (hold n (eq_of_beq heq).symm)

/-- A node that is open already is opened again without another change. -/
theorem kept_openAgain (hn : bound ≤ n) (m : State) (handle : Handle) :
    m.Kept bound (m.openAgain handle .input (.ofShell n)).2 := by
  rw [openAgain.eq_def]
  split
  · exact .refl bound m
  · exact .refl bound m
  · split
    · exact .refl bound m
    · exact ⟨.refl _, fun key hold => by rw [getElem?_insert_of_isOld hold hn], rfl, rfl, rfl⟩

/-- If a node can be opened for reading, it can be opened after bytes were written. -/
theorem Kept.openNode (h : m.Kept bound m') (hn : bound ≤ n') {result : Handle × State}
    (hopen : m.openNode m.shell node .input key = .ok result) :
    ∃ handle m₁, m'.openNode m'.shell node .input (.ofShell n') = .ok (handle, m₁) ∧
      m'.Kept bound m₁ := by
  rw [State.openNode] at hopen
  split at hopen
  · cases hopen
  · next fd hdescriptor =>
    split at hopen
    · cases hopen
    · next slot hslot =>
      refine ⟨(m'.openAgain slot.target .input (.ofShell n')).1, _, ?_,
        kept_openAgain hn m' slot.target⟩
      simp only [State.openNode, h.tree.content?_eq hdescriptor (by simp), h.shell, hslot]
  · next hterminal hdescriptor =>
    refine ⟨.file (.ofShell n'),
      { m' with files := m'.files.insert (.ofShell n') ⟨node, 0, .input⟩ }, ?_, .refl _,
      fun key hold => ?_, rfl, rfl, rfl⟩
    · rw [State.openNode]
      split
      · next hcontent => exact absurd (h.tree.symm.content?_eq hcontent (by simp)) hterminal
      · next fd hcontent =>
        exact absurd (h.tree.symm.content?_eq hcontent (by simp)) (hdescriptor fd)
      · rfl
    · rw [getElem?_insert_of_isOld hold hn]

/-- Why a file is not opened for the shell, whatever is at its path. -/
def obstacle? (m : State) (path : String) : Option Errno :=
  if (utf8 path).isEmpty then some .noEntry
  else if maxPath ≤ (utf8 path).length then some .nameTooLong
  else if m.exhausted then some .tooManyOpen
  else none

theorem openForShell_eq_ok_iff : m.openForShell start path mode n = (.ok (), m') ↔
    m.obstacle? path = none ∧ ∃ handle,
      m.openAs m.shell start (utf8 path) mode shellMode (.ofShell n) = .ok (handle, m') := by
  rw [openForShell, obstacle?]
  split
  · simp
  · split
    · simp
    · split
      · simp
      · cases m.openAs m.shell start (utf8 path) mode shellMode (.ofShell n) with
        | error errno => simp
        | ok result => simp [Prod.ext_iff]

/-- To open a file for reading is to find its node and to open it. -/
theorem openToRead_eq_ok_iff : Kernel.openToRead start path n m = (.ok (), m') ↔
    m.obstacle? path = none ∧ ∃ node handle, m.tree.find start (utf8 path) = .ok node ∧
      m.openNode m.shell node .input (.ofShell n) = .ok (handle, m') := by
  refine openForShell_eq_ok_iff.trans (and_congr_right fun _ => ?_)
  have hmode : OpenMode.input.makes = false ∧ OpenMode.input.writes = false := ⟨rfl, rfl⟩
  simp only [openAs, hmode, Bool.false_eq_true, if_false, Bool.false_and]
  cases m.tree.find start (utf8 path) with
  | error errno => simp
  | ok node => simp

/-- To open a file for writing is to find or to make its node and to open it. -/
theorem openToWrite_eq_ok_iff : Kernel.openToWrite start path n m = (.ok (), m') ↔
    m.obstacle? path = none ∧ ∃ node u handle,
      m.tree.openToMake start (utf8 path) shellMode m.now = .ok (node, u) ∧
      { m with tree := u }.openNode m.shell node .output (.ofShell n) = .ok (handle, m') := by
  refine openForShell_eq_ok_iff.trans (and_congr_right fun _ => ?_)
  have hmode : OpenMode.output.makes = true := rfl
  simp only [openAs, hmode, if_true]
  cases m.tree.openToMake start (utf8 path) shellMode m.now with
  | error errno => simp
  | ok made => simp [Prod.ext_iff]

theorem Kept.obstacle?_eq (h : m.Kept bound m') (path : String) :
    m'.obstacle? path = m.obstacle? path := by
  rw [obstacle?, obstacle?, h.exhausted]

/-- A file that can be opened for reading can be opened after bytes were written. -/
theorem Kept.openToRead (h : m.Kept bound m') (hn : bound ≤ n')
    (hopen : (Kernel.openToRead start path n m).1 = .ok ()) :
    ∃ m₁, Kernel.openToRead start path n' m' = (.ok (), m₁) ∧ m'.Kept bound m₁ := by
  obtain ⟨hallowed, node, handle, hfind, hnode⟩ := openToRead_eq_ok_iff.mp (Prod.ext hopen rfl)
  obtain ⟨handle', m₁, hnode', hkept⟩ := h.openNode hn hnode
  exact ⟨m₁, openToRead_eq_ok_iff.mpr ⟨(h.obstacle?_eq path).trans hallowed, node, handle',
    h.tree.grown.find_of_ok hfind, hnode'⟩, hkept⟩

/-- What is opened for writing at a path is a regular file. -/
structure OpensRegular (m : State) (start : Directory) (path : String) (n : Nat) (id : NodeId) :
    Prop where
  /-- The path can be opened. -/
  opened : (Kernel.openToWrite start path n m).1 = .ok ()
  /-- This is the file. -/
  file : (Kernel.openToWrite start path n m).2.fileAt? (.file n) = some id
  /-- It is a regular one. -/
  regular : ∃ bytes, (Kernel.openToWrite start path n m).2.tree.content? id = some (.regular bytes)

/-- A path is opened as the regular file to which its node leads. -/
theorem LeadsTo.opensRegular {u : Tree} (hleads : { m with tree := u }.LeadsTo node id)
    (hallowed : m.obstacle? path = none)
    (hmake : m.tree.openToMake start (utf8 path) shellMode m.now = .ok (node, u))
    {bytes : ByteArray} (hregular : u.content? id = some (.regular bytes)) (n : Nat) :
    m.OpensRegular start path n id := by
  have hopen := openToWrite_eq_ok_iff.mpr
    ⟨hallowed, node, u, _, hmake, hleads.openNode_eq .output (.ofShell n)⟩
  refine ⟨by rw [hopen], ?_, .empty, ?_⟩
  · rw [hopen, fileAt?, Std.HashMap.getElem?_insert_self]
    rfl
  · rw [hopen]
    exact Tree.content?_clear hregular _

/-- What becomes of a machine when a regular file is opened for writing. -/
structure Emptied (m m' : State) (n : Nat) (id : NodeId) : Prop where
  /-- It is empty. -/
  empty : m'.tree.content? id = some (.regular .empty)
  /-- The opened file is the only new one. -/
  files : m'.files = m.files.insert (.ofShell n) ⟨id, 0, .output⟩
  /-- It was made if it was missing. -/
  tree : m.tree.Grown m'.tree
  /-- The tree is as much in order as before. -/
  sound : m.tree.Sound → m'.tree.Sound
  bindings : m'.bindings = m.bindings

/-- Where a node leads it leads after bytes were written. -/
theorem Kept.leadsTo (h : m.Kept bound m')
    (hold : ∀ key, (m.files[key]?).isSome → Key.IsOld bound key) (hleads : m.LeadsTo node id) :
    m'.LeadsTo node id := by
  cases hleads with
  | itself hterminal hdescriptor =>
    exact .itself (fun hcontent => hterminal (h.tree.symm.content?_eq hcontent (by simp)))
      fun fd hcontent => hdescriptor fd (h.tree.symm.content?_eq hcontent (by simp))
  | again fd slot other file hdescriptor hslot htarget hfile =>
    obtain ⟨file', hfile', hnode, -⟩ := h.exists_file (hold other (by rw [hfile]; rfl)) hfile
    rw [← hnode]
    exact .again fd slot other file' (h.tree.content?_eq hdescriptor (by simp))
      (by rw [h.shell, hslot]) htarget hfile'

/-- A regular file that can be opened for writing can be opened after bytes were written, and it is
the same file. -/
theorem Kept.openToWrite (h : m.Kept bound m') (hn : bound ≤ n)
    (hold : ∀ key, (m.files[key]?).isSome → Key.IsOld bound key)
    (hopens : m.OpensRegular start path n id) (n' : Nat) :
    ∃ m₁, Kernel.openToWrite start path n' m' = (.ok (), m₁) ∧ m'.Emptied m₁ n' id := by
  rcases hopen : Kernel.openToWrite start path n m with ⟨answer, m₀⟩
  obtain ⟨hok, hfile, bytes, hregular⟩ := hopens
  rw [hopen] at hok hfile hregular
  cases hok
  obtain ⟨hallowed, node, u, handle, hmake, hnode⟩ := openToWrite_eq_ok_iff.mp hopen
  obtain ⟨u', hmake', halike, hgrown, hsound⟩ := h.tree.openToMake hmake m'.now
  have hmade : { m with tree := u }.Kept bound { m' with tree := u' } :=
    ⟨halike, h.files, h.shell, h.exhausted, h.bindings⟩
  -- Before, the number was not in use, so that what is open under it is what was opened.
  have hnew : m.files[Key.ofShell n]? = none := by
    rw [← Option.not_isSome_iff_eq_none]
    exact fun hsome => Nat.not_lt.mpr hn (hold _ hsome n rfl)
  obtain ⟨file, hopened, rfl⟩ := Option.map_eq_some_iff.mp hfile
  have hleads : { m with tree := u }.LeadsTo node file.node :=
    leadsTo_of_openNode (m := { m with tree := u }) hnew hnode hopened
  have htree : u.Alike m₀.tree := by
    rw [hleads.openNode_eq] at hnode
    cases hnode
    exact Tree.alike_clear _ _ _
  obtain ⟨before, hbefore⟩ := htree.symm.exists_regular hregular
  obtain ⟨bytes', hregular'⟩ := halike.exists_regular hbefore
  have hnode' := (hmade.leadsTo hold hleads).openNode_eq .output (.ofShell n')
  refine ⟨_, openToWrite_eq_ok_iff.mpr ⟨(h.obstacle?_eq path).trans hallowed, node, u', _, hmake',
    hnode'⟩, Tree.content?_clear hregular' _, rfl, hgrown.trans (Tree.alike_clear _ _ _).grown,
    fun hs => (Tree.alike_clear _ _ _).sound (hsound hs), rfl⟩

namespace Emptied

variable {id : NodeId} (h : m.Emptied m' n id)
include h

theorem getElem?_files : m'.files[Key.ofShell n]? = some ⟨id, 0, .output⟩ := by
  rw [h.files, Std.HashMap.getElem?_insert_self]

/-- What was open is still open. -/
theorem fileAt?_eq (hgoal : goal.number < n) : m'.fileAt? goal = m.fileAt? goal := by
  cases goal with
  | file other =>
    have hold : (Key.ofShell other).IsOld n := Key.isOld_ofShell hgoal
    rw [fileAt?, fileAt?, h.files, getElem?_insert_of_isOld hold (Nat.le_refl n)]
  | _ => rfl

/-- It answers as before. -/
theorem answerTo_eq (hgoal : goal.number < n) : m'.answerTo goal = m.answerTo goal := by
  refine answerTo_congr ?_ fun id => h.tree.device_iff
  rintro other rfl
  have hold : (Key.ofShell other).IsOld n := Key.isOld_ofShell hgoal
  rw [h.files, getElem?_insert_of_isOld hold (Nat.le_refl n)]

/-- The file takes what is written to it. -/
theorem accepts : m'.Accepts (.file n) :=
  accepts_file_iff.mpr ⟨_, h.getElem?_files, rfl, by rw [h.empty]; simp⟩

end Emptied

end State

end CommandShell.Machine
