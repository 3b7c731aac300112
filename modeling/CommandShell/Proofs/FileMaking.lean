import CommandShell.Proofs.GrownTrees

/-!
# Making files

Where a file is found or made that is opened for writing. Main statements: in trees that differ in
bytes only it is the same place (`Tree.Alike.placeToMake`), so that the same node is opened, whether
it was there before or is made (`Tree.Alike.openToMake`), and the tree grows at most.
-/

namespace CommandShell.Machine

open Ascii

theorem slash_notMem_of_mem_splitAt {separator : UInt8} {text part : Bytes}
    (h : part ∈ splitAt separator text) : separator ∉ part := by
  induction text generalizing part with
  | nil =>
    rw [List.mem_singleton.mp h]
    exact List.not_mem_nil
  | cons b rest ih =>
    rw [splitAt] at h
    split at h
    · rcases List.mem_cons.mp h with rfl | h
      · exact List.not_mem_nil
      · exact ih h
    · next hne =>
      split at h
      · rw [List.mem_singleton.mp h, List.mem_singleton]
        exact fun heq => hne heq.symm
      · next first parts hsplit =>
        rcases List.mem_cons.mp h with rfl | h
        · rw [List.mem_cons, not_or]
          exact ⟨fun heq => hne heq.symm, ih (by rw [hsplit]; exact List.mem_cons_self)⟩
        · exact ih (by rw [hsplit]; exact List.mem_cons_of_mem _ h)

/-- A part of a path is a proper name, unless it stands for a directory or is too long. -/
theorem isEntryName_of_mem_namesIn {path : Bytes} {name : Name} (h : name ∈ namesIn path)
    (hdot : name ≠ dot) (hdots : name ≠ dotDot) (hlong : ¬ maxName < name.length) :
    IsEntryName name := by
  obtain ⟨hmem, hne⟩ := List.mem_filter.mp h
  exact ⟨by simpa using hne, slash_notMem_of_mem_splitAt hmem, hdot, hdots, Nat.not_lt.mp hlong⟩

/-- What a node holds once a name was entered in it, if it is a directory. -/
def Content.withEntry (name : Name) (id : NodeId) : Content → Content
  | .directory above entries => .directory above (insertEntry name id entries)
  | other => other

theorem Content.hollow_withEntry (name : Name) (id : NodeId) (content : Content) :
    (content.withEntry name id).hollow = content.hollow.withEntry name id := by
  cases content <;> rfl

namespace Tree

variable {t t' : Tree} {d id start : NodeId} {name : Name} {links : Nat} {place : Place}

/-- A path is followed to the same place in trees that differ in bytes only. -/
theorem Alike.walk (h : t.Alike t') {follow : Bool} {parts : List Name}
    (hwalk : t.walk follow links start parts = .ok place) :
    t'.walk follow links start parts = .ok place := by
  have hfollows := h.grown.walk follow links start parts
  rw [hwalk] at hfollows
  obtain ⟨directory, name, node, left⟩ := place
  cases node with
  | some id => exact hfollows
  | none =>
    obtain ⟨node, heq, -⟩ := hfollows
    cases node with
    | none => exact heq
    | some id =>
      have hback := h.symm.grown.walk_of_some heq rfl
      rw [hwalk] at hback
      cases hback

/-- A file is made in the same place in trees that differ in bytes only. -/
theorem Alike.placeToMake (h : t.Alike t') {path : Name}
    (hplace : t.placeToMake links start path = .ok place) :
    t'.placeToMake links start path = .ok place := by
  fun_induction Tree.placeToMake t links start path
  case case7 links start path name hlast above hwalk directory hnode up entries hd hproper hlong
      hlookup =>
    rw [Tree.placeToMake, hlast]
    simp only [h.walk hwalk, hnode, h.directory?_eq, hd, if_neg hproper, if_neg hlong, hlookup]
    exact hplace
  case case10 start path name hlast above directory hnode up entries hd hproper hlong id hlookup
      target links hlink hlinks hwalk ih =>
    rw [Tree.placeToMake, hlast]
    simp only [h.walk hwalk, hnode, h.directory?_eq, hd, if_neg hproper, if_neg hlong, hlookup,
      h.link_iff.mpr hlink, if_neg hlinks]
    exact ih hplace
  case case11 links start path name hlast above hwalk directory hnode up entries hd hproper hlong id
      hlookup hnone hsome =>
    rw [Tree.placeToMake, hlast]
    simp only [h.walk hwalk, hnode, h.directory?_eq, hd, if_neg hproper, if_neg hlong, hlookup]
    split
    · next target hlink => exact (hnone target (h.link_iff.mp hlink) rfl).elim
    · next target links hlink => exact (hsome target links (h.link_iff.mp hlink) rfl).elim
    · exact hplace
  all_goals cases hplace

/-- A name that is free in a directory and can be entered there. -/
structure Vacant (t : Tree) (d : NodeId) (name : Name) : Prop where
  /-- The name is a proper one. -/
  named : IsEntryName name
  /-- There is a directory without it. -/
  free : ∃ above entries, t.directory? d = some (above, entries) ∧ entries.lookup name = none

/-- A file that is missing is made under a free name. -/
theorem vacant_of_placeToMake {path : Name} (hplace : t.placeToMake links start path = .ok place)
    (hnode : place.node = none) : t.Vacant place.directory place.name := by
  fun_induction Tree.placeToMake t links start path
  case case7 links start path name hlast above hwalk directory _ up entries hd hproper hlong
      hlookup =>
    cases hplace
    obtain ⟨⟨hdot, hdots⟩, -⟩ : (name ≠ dot ∧ name ≠ dotDot) ∧ endsInSlash path = false := by
      simpa using hproper
    exact ⟨isEntryName_of_mem_namesIn (List.mem_of_getLast? hlast) hdot hdots hlong,
      up, entries, hd, hlookup⟩
  case case10 ih => exact ih hplace
  all_goals cases hplace
  cases hnode

theorem Vacant.grown_create (h : t.Vacant d name) {mode : Nat} {time : Instant} :
    t.Grown (t.create d name ⟨.regular .empty, mode, time⟩).2 := by
  obtain ⟨-, above, entries, hd, hlookup⟩ := h
  exact Tree.grown_create hd hlookup rfl (fun target => by simp) fun device => by simp

theorem Vacant.sound_create (h : t.Vacant d name) (hsound : t.Sound) {mode : Nat} {time : Instant} :
    (t.create d name ⟨.regular .empty, mode, time⟩).2.Sound := by
  obtain ⟨hname, above, entries, hd, -⟩ := h
  refine hsound.create (lt_size_of_directory? (by rw [hd]; rfl)) hname fun up inside hinside => ?_
  cases hinside

/-- What the nodes hold after one was made: the new one is entered in its directory. -/
theorem content?_create (t : Tree) (d : NodeId) (name : Name) (node : Node) (id : NodeId) :
    (t.create d name node).2.content? id =
      if id = d then
        (if id = t.nodes.size then some node.content else t.content? id).map
          (Content.withEntry name t.nodes.size)
      else if id = t.nodes.size then some node.content else t.content? id := by
  rw [create]
  simp only [content?_stamp, enter, content?_change, content?_push]
  rfl

/-- Trees that differ in bytes only differ in bytes only when a file is made in both. -/
theorem Alike.create (h : t.Alike t') (d : NodeId) (name : Name) {node node' : Node}
    (hnode : node'.content.hollow = node.content.hollow) :
    (t.create d name node).2.Alike (t'.create d name node').2 := by
  intro id
  have hpushed : (if id = t.nodes.size then some node'.content else t'.content? id).map
      Content.hollow = (if id = t.nodes.size then some node.content else t.content? id).map
      Content.hollow := by
    split
    · exact congrArg some hnode
    · exact h id
  have hentered (content : Option Content) :
      (content.map (Content.withEntry name t.nodes.size)).map Content.hollow =
        (content.map Content.hollow).map (Content.withEntry name t.nodes.size) := by
    cases content <;> simp [Content.hollow_withEntry]
  rw [content?_create, content?_create, h.size_eq]
  by_cases hid : id = d
  · rw [if_pos hid, if_pos hid, hentered, hentered, hpushed]
  · rw [if_neg hid, if_neg hid]
    exact hpushed

theorem Alike.isNamed_eq (h : t.Alike t') (id : NodeId) : t'.isNamed id = t.isNamed id := by
  simp only [isNamed, h.directory?_eq]

/-- The same node is opened for writing, or a new node is made in the same place. -/
theorem Alike.openToMake (h : t.Alike t') {path : Name} {mode : Nat} {time : Instant} {u : Tree}
    (hopen : t.openToMake start path mode time = .ok (id, u)) (time' : Instant) :
    ∃ u', t'.openToMake start path mode time' = .ok (id, u') ∧ u.Alike u' ∧ t'.Grown u' ∧
      (t'.Sound → u'.Sound) := by
  rw [Tree.openToMake] at hopen
  split at hopen
  · cases hopen
  · next hempty =>
    split at hopen
    · cases hopen
    · next hlong =>
      cases hplace : t.placeToMake maxLinks start path with
      | error errno => simp [hplace] at hopen
      | ok place =>
        have hplace' := h.placeToMake hplace
        rw [Tree.openToMake, if_neg hempty, if_neg hlong]
        simp only [hplace, hplace'] at hopen ⊢
        cases hnode : place.node with
        | none =>
          simp only [hnode, h.isNamed_eq] at hopen ⊢
          split at hopen
          · next hnamed =>
            have hvacant := vacant_of_placeToMake hplace' hnode
            have hcreated := Except.ok.inj hopen
            have hid : t.nodes.size = id := congrArg Prod.fst hcreated
            have hu : (t.create place.directory place.name ⟨.regular .empty, mode, time⟩).2 = u :=
              congrArg Prod.snd hcreated
            refine ⟨(t'.create place.directory place.name ⟨.regular .empty, mode, time'⟩).2, ?_, ?_,
              hvacant.grown_create, fun hsound => hvacant.sound_create hsound⟩
            · rw [if_pos hnamed, ← hid, ← h.size_eq]
              rfl
            · rw [← hu]
              exact h.create _ _ rfl
          · cases hopen
        | some other =>
          simp only [hnode] at hopen ⊢
          split at hopen
          · cases hopen
          · next hother =>
            cases hopen
            refine ⟨t', ?_, h, .refl t', fun hsound => hsound⟩
            split
            · next above entries hcontent =>
              exact absurd (h.symm.content?_eq hcontent (by simp)) (hother above entries)
            · rfl

/-! ## The bytes of files -/

theorem content?_writeAt_of_ne (h : id ≠ d) (offset : Nat) (bytes : ByteArray) (time : Instant) :
    (t.writeAt d offset bytes time).content? id = t.content? id := by
  rw [writeAt]
  split
  · rfl
  · rw [content?_stamp, content?_change, if_neg h]

/-- What is written to an empty file is all that is in it then. -/
theorem content?_writeAt_of_empty (hempty : t.content? id = some (.regular .empty))
    (bytes : ByteArray) (time : Instant) :
    (t.writeAt id 0 bytes time).content? id = some (.regular bytes) := by
  rw [writeAt]
  split
  · next hbytes =>
    rw [hempty, ByteArray.size_eq_zero_iff.mp (eq_of_beq hbytes)]
  · rw [content?_stamp, content?_change, if_pos rfl, hempty]
    simp [overwrite]

theorem content?_clear {bytes : ByteArray} (h : t.content? id = some (.regular bytes))
    (time : Instant) : (t.clear id time).content? id = some (.regular .empty) := by
  rw [clear, h, content?_stamp, content?_change, if_pos rfl, h]
  rfl

end Tree

end CommandShell.Machine
