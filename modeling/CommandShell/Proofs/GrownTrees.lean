import CommandShell.Proofs.Arriving

/-!
# Trees that have grown

A tree has grown if files were added to it, or if other bytes are in its files: no directory was
made or moved, and no link. Main statements: where a path leads in a tree it leads in the grown one,
and it leads to a directory in both or in none (`Tree.Grown.leads_iff`); directories keep their
paths (`Tree.Grown.pathOf_eq_ok_iff`); and a tree grows when a regular file is written or emptied
(`Tree.Alike.grown`), or made (`Tree.grown_create`).
-/

namespace CommandShell.Machine

/-- What a node holds, the bytes of a regular file left aside. -/
def Content.hollow : Content → Content
  | .regular _ => .regular .empty
  | other => other

theorem Content.eq_of_hollow_eq {content content' : Content}
    (h : content'.hollow = content.hollow) (hother : ∀ bytes, content ≠ .regular bytes) :
    content' = content := by
  have hself : content.hollow = content := by
    cases content with
    | regular bytes => exact absurd rfl (hother bytes)
    | _ => rfl
  rw [hself] at h
  cases content' with
  | regular bytes => exact absurd h.symm (hother .empty)
  | _ => exact h

theorem lookup_cons_eq_ite (name other : Name) (id : NodeId) (entries : List (Name × NodeId)) :
    ((name, id) :: entries).lookup other =
      if other = name then some id else entries.lookup other := by
  rw [List.lookup_cons]
  by_cases h : other = name
  · simp [h]
  · rw [beq_eq_false_iff_ne.mpr h, if_neg h]

/-- What is put at its place is found there, and nothing else is covered by it. -/
theorem lookup_insertEntry (name other : Name) (id : NodeId) (entries : List (Name × NodeId)) :
    (insertEntry name id entries).lookup other =
      if other = name then some id else entries.lookup other := by
  induction entries with
  | nil => exact lookup_cons_eq_ite name other id []
  | cons first rest ih =>
    obtain ⟨held, old⟩ := first
    rw [insertEntry]
    split
    · exact lookup_cons_eq_ite name other id _
    · split
      · next heq =>
        subst heq
        rw [lookup_cons_eq_ite, lookup_cons_eq_ite]
        split <;> rfl
      · next hne =>
        rw [lookup_cons_eq_ite, lookup_cons_eq_ite, ih]
        by_cases h : other = held
        · subst h
          rw [if_pos rfl, if_neg (Ne.symm hne), if_pos rfl]
        · rw [if_neg h, if_neg h]

namespace Tree

variable {t t' t'' : Tree} {d id start : NodeId} {name : Name}

theorem content?_change (t : Tree) (changed id : NodeId) (f : Content → Content) :
    (t.change changed f).content? id =
      if id = changed then (t.content? id).map f else t.content? id := by
  rw [content?, change, Array.getElem?_modify]
  by_cases h : changed = id
  · subst h
    simp [content?, Function.comp_def]
  · simp [content?, h, Ne.symm h]

theorem content?_stamp (t : Tree) (stamped id : NodeId) (time : Instant) :
    (t.stamp stamped time).content? id = t.content? id := by
  rw [content?, stamp, Array.getElem?_modify]
  by_cases h : stamped = id
  · subst h
    simp [content?, Function.comp_def]
  · simp [content?, h]

theorem content?_push (t : Tree) (node : Node) (id : NodeId) :
    (Tree.mk (t.nodes.push node)).content? id =
      if id = t.nodes.size then some node.content else t.content? id := by
  rw [content?, Array.getElem?_push]
  split <;> rfl

theorem content?_eq_none (h : t.nodes.size ≤ id) : t.content? id = none := by
  rw [content?, Array.getElem?_eq_none h]
  rfl

theorem directory?_eq_none (h : t.nodes.size ≤ id) : t.directory? id = none := by
  rw [directory?, content?_eq_none h]

theorem directory?_eq_some_iff {above : NodeId} {entries : List (Name × NodeId)} :
    t.directory? id = some (above, entries) ↔
      t.content? id = some (.directory above entries) := by
  rw [directory?]
  split
  · next hcontent => simp [hcontent]
  · next hnone => simpa using hnone above entries

/-- A tree is as much in order as one with the same directories. -/
theorem Sound.of_directory?_eq (hsound : t.Sound)
    (hdirectory : ∀ id, t'.directory? id = t.directory? id)
    (hsize : t.nodes.size ≤ t'.nodes.size) : t'.Sound := by
  refine ⟨?_, fun {d above entries} hd => ?_⟩
  · rw [hdirectory]
    exact hsound.top
  · rw [hdirectory] at hd
    obtain ⟨hnamed, hascending, hknown, hsingle, habove, hroot⟩ := hsound.tidy hd
    refine ⟨hnamed, hascending, fun entry h => Nat.lt_of_lt_of_le (hknown entry h) hsize, ?_, ?_,
      hroot⟩
    · intro name other id hname hother hsome
      rw [hdirectory] at hsome
      exact hsingle hname hother hsome
    · intro name id up inside hname hinside
      rw [hdirectory] at hinside
      exact habove hname hinside

/-! ## Trees that differ in bytes at most -/

/-- The nodes of two trees hold the same, apart from the bytes of regular files. -/
def Alike (t t' : Tree) : Prop :=
  ∀ id, (t'.content? id).map Content.hollow = (t.content? id).map Content.hollow

namespace Alike

theorem refl (t : Tree) : t.Alike t := fun _ => rfl

theorem trans (h : t.Alike t') (h' : t'.Alike t'') : t.Alike t'' :=
  fun id => (h' id).trans (h id)

/-- What is no regular file holds the same. -/
theorem content?_eq (h : t.Alike t') {content : Content} (hcontent : t.content? id = some content)
    (hother : ∀ bytes, content ≠ .regular bytes) : t'.content? id = some content := by
  have hid := h id
  rw [hcontent] at hid
  obtain ⟨content', hcontent', hhollow⟩ := Option.map_eq_some_iff.mp hid
  rw [hcontent', Content.eq_of_hollow_eq hhollow hother]

/-- What is a regular file stays one. -/
theorem exists_regular (h : t.Alike t') {bytes : ByteArray}
    (hcontent : t.content? id = some (.regular bytes)) :
    ∃ bytes', t'.content? id = some (.regular bytes') := by
  have hid := h id
  rw [hcontent] at hid
  obtain ⟨content', hcontent', hhollow⟩ := Option.map_eq_some_iff.mp hid
  cases content' with
  | regular bytes' => exact ⟨bytes', hcontent'⟩
  | _ => cases hhollow

theorem symm (h : t.Alike t') : t'.Alike t := fun id => (h id).symm

theorem link_iff (h : t.Alike t') {target : Name} :
    t'.content? id = some (.link target) ↔ t.content? id = some (.link target) :=
  ⟨fun hlink => h.symm.content?_eq hlink (by simp), fun hlink => h.content?_eq hlink (by simp)⟩

theorem device_iff (h : t.Alike t') {device : Device} :
    t'.content? id = some (.device device) ↔ t.content? id = some (.device device) :=
  ⟨fun hdevice => h.symm.content?_eq hdevice (by simp),
    fun hdevice => h.content?_eq hdevice (by simp)⟩

theorem directory?_eq (h : t.Alike t') (id : NodeId) : t'.directory? id = t.directory? id := by
  have heq (above : NodeId) (entries : List (Name × NodeId)) :
      t'.directory? id = some (above, entries) ↔ t.directory? id = some (above, entries) := by
    rw [directory?_eq_some_iff, directory?_eq_some_iff]
    exact ⟨fun hd => h.symm.content?_eq hd (by simp), fun hd => h.content?_eq hd (by simp)⟩
  exact Option.ext fun held => heq held.1 held.2

theorem size_eq (h : t.Alike t') : t'.nodes.size = t.nodes.size := by
  have hbound {t t' : Tree} (h : t.Alike t') : t.nodes.size ≤ t'.nodes.size := by
    by_contra hlt
    have hnone := h t'.nodes.size
    rw [content?_eq_none (Nat.le_refl _)] at hnone
    have hsome : t.nodes[t'.nodes.size]? = none := by
      simpa [content?] using hnone.symm
    rw [Array.getElem?_eq_none_iff] at hsome
    exact hlt hsome
  exact Nat.le_antisymm (hbound h.symm) (hbound h)

/-- A tree is as much in order as one that differs in bytes only. -/
theorem sound (h : t.Alike t') (hsound : t.Sound) : t'.Sound :=
  hsound.of_directory?_eq h.directory?_eq (Nat.le_of_eq h.size_eq.symm)

end Alike

/-- A change of bytes leaves a tree alike. -/
theorem alike_change (t : Tree) (changed : NodeId) {f : Content → Content}
    (hf : ∀ content, (f content).hollow = content.hollow) : t.Alike (t.change changed f) := by
  intro id
  rw [content?_change]
  split
  · cases t.content? id <;> simp [hf]
  · rfl

theorem alike_stamp (t : Tree) (stamped : NodeId) (time : Instant) :
    t.Alike (t.stamp stamped time) := fun id => by rw [content?_stamp]

theorem alike_writeAt (t : Tree) (id : NodeId) (offset : Nat) (bytes : ByteArray)
    (time : Instant) : t.Alike (t.writeAt id offset bytes time) := by
  rw [writeAt]
  split
  · exact .refl t
  · refine (t.alike_change id fun content => ?_).trans (alike_stamp _ _ _)
    cases content <;> rfl

theorem alike_clear (t : Tree) (id : NodeId) (time : Instant) : t.Alike (t.clear id time) := by
  rw [clear]
  split
  · next bytes hregular =>
    have hchange : t.Alike (t.change id fun _ => .regular .empty) := by
      intro other
      rw [content?_change]
      by_cases h : other = id
      · subst h
        simp [hregular, Content.hollow]
      · rw [if_neg h]
    exact hchange.trans (alike_stamp _ _ _)
  · exact .refl t

/-! ## Trees with more files -/

/-- All directories, links and devices are still there, and nothing has become one of them. A
directory may have further entries, which name new nodes. -/
structure Grown (t t' : Tree) : Prop where
  size_le : t.nodes.size ≤ t'.nodes.size
  link_iff : ∀ {id : NodeId} {target : Name},
    t'.content? id = some (.link target) ↔ t.content? id = some (.link target)
  device_iff : ∀ {id : NodeId} {device : Device},
    t'.content? id = some (.device device) ↔ t.content? id = some (.device device)
  closed : ∀ {id : NodeId}, t.directory? id = none → t'.directory? id = none
  kept : ∀ {id above : NodeId} {entries : List (Name × NodeId)},
    t.directory? id = some (above, entries) →
      ∃ entries', t'.directory? id = some (above, entries') ∧
        ∀ name, entries'.lookup name = entries.lookup name ∨ entries.lookup name = none ∧
          ∃ node, entries'.lookup name = some node ∧ t.nodes.size ≤ node

theorem Alike.grown (h : t.Alike t') : t.Grown t' := by
  have hdirectory := h.directory?_eq
  refine ⟨Nat.le_of_eq h.size_eq.symm, h.link_iff, h.device_iff, fun hnone => ?_,
    fun {id above entries} hd => ?_⟩
  · rw [hdirectory, hnone]
  · exact ⟨entries, by rw [hdirectory, hd], fun name => .inl rfl⟩

theorem walk_of_closed {follow : Bool} {links : Nat} {parts : List Name} (hparts : parts ≠ [])
    (hd : t.directory? d = none) : t.walk follow links d parts = .error .notDirectory := by
  obtain ⟨part, rest, rfl⟩ := List.exists_cons_of_ne_nil hparts
  rw [walk, hd]

/-- What a walk in a grown tree comes to, given what it came to before: the same node, or a new one
where there was none. -/
def Follows (t : Tree) : Except Errno Place → Except Errno Place → Prop
  | .error _, result => ∃ errno, result = .error errno
  | .ok ⟨d, name, some id, links⟩, result => result = .ok ⟨d, name, some id, links⟩
  | .ok ⟨d, name, none, links⟩, result =>
    ∃ node, result = .ok ⟨d, name, node, links⟩ ∧ ∀ id, node = some id → t.nodes.size ≤ id

namespace Grown

theorem refl (t : Tree) : t.Grown t := (Alike.refl t).grown

theorem trans (h : t.Grown t') (h' : t'.Grown t'') : t.Grown t'' := by
  refine ⟨Nat.le_trans h.size_le h'.size_le, h'.link_iff.trans h.link_iff,
    h'.device_iff.trans h.device_iff, fun hnone => h'.closed (h.closed hnone),
    fun {id above entries} hd => ?_⟩
  obtain ⟨between, hd', hbetween⟩ := h.kept hd
  obtain ⟨entries', hd'', hentries⟩ := h'.kept hd'
  refine ⟨entries', hd'', fun name => ?_⟩
  rcases hentries name with heq | ⟨hnone, node, hnew, hsize⟩
  · rw [heq]
    exact hbetween name
  · refine .inr ⟨?_, node, hnew, Nat.le_trans h.size_le hsize⟩
    rcases hbetween name with heq | ⟨hold, -⟩
    · rw [← heq, hnone]
    · exact hold

variable (h : t.Grown t')
include h

theorem isNoLink_iff : t'.IsNoLink id ↔ t.IsNoLink id :=
  forall_congr' fun _ => not_congr h.link_iff

/-- A new node is no link. -/
theorem isNoLink_of_size_le (hid : t.nodes.size ≤ id) : t'.IsNoLink id := by
  refine h.isNoLink_iff.mpr fun target hcontent => ?_
  rw [content?_eq_none hid] at hcontent
  cases hcontent

/-- A new node is no directory. -/
theorem closed_of_size_le (hid : t.nodes.size ≤ id) : t'.directory? id = none :=
  h.closed (directory?_eq_none hid)

/-- An entry keeps its node. -/
theorem exists_lookup {above : NodeId} {entries : List (Name × NodeId)}
    (hd : t.directory? d = some (above, entries)) (hlookup : entries.lookup name = some id) :
    ∃ entries', t'.directory? d = some (above, entries') ∧ entries'.lookup name = some id := by
  obtain ⟨entries', hd', hentries⟩ := h.kept hd
  rcases hentries name with heq | ⟨hnone, -⟩
  · exact ⟨entries', hd', heq.trans hlookup⟩
  · rw [hlookup] at hnone
    cases hnone

theorem isSome_directory?_iff : (t'.directory? id).isSome ↔ (t.directory? id).isSome := by
  cases hd : t.directory? id with
  | none => simp [h.closed hd]
  | some held =>
    obtain ⟨entries', hd', -⟩ := h.kept hd
    simp [hd']

/-- A path is followed as before, or ends at a new node where it ended at none. -/
theorem walk (follow : Bool) (links : Nat) (current : NodeId) (parts : List Name) :
    t.Follows (t.walk follow links current parts) (t'.walk follow links current parts) := by
  fun_induction Tree.walk t follow links current parts
  case case1 =>
    rw [Tree.walk]
    rfl
  case case2 current part rest hd =>
    rw [walk_of_closed (List.cons_ne_nil _ _) (h.closed hd)]
    exact ⟨_, rfl⟩
  case case3 current rest above entries hd ih =>
    obtain ⟨entries', hd', -⟩ := h.kept hd
    rw [Tree.walk, hd']
    simpa using ih
  case case4 current rest above entries hd hdot ih =>
    obtain ⟨entries', hd', -⟩ := h.kept hd
    rw [Tree.walk, hd']
    simpa [hdot] using ih
  case case5 current part rest above entries hd hdot hdots hlong =>
    obtain ⟨entries', hd', -⟩ := h.kept hd
    rw [Tree.walk, hd']
    simp only [if_neg hdot, if_neg hdots, if_pos hlong]
    exact ⟨_, rfl⟩
  case case6 current part rest above entries hd hdot hdots hlong hlookup hempty =>
    -- The last name was missing. If it was entered since, it names a new node.
    obtain ⟨entries', hd', hentries⟩ := h.kept hd
    rcases hentries part with heq | ⟨-, node, hnew, hsize⟩
    · rw [Tree.walk, hd']
      simp only [if_neg hdot, if_neg hdots, if_neg hlong, heq, hlookup, if_pos hempty]
      exact ⟨none, rfl, fun id hid => by cases hid⟩
    · rw [walk_of_isNoLink hd' hdot hdots hlong hnew (h.isNoLink_of_size_le hsize), if_pos hempty]
      refine ⟨some node, rfl, fun id hid => ?_⟩
      cases hid
      exact hsize
  case case7 current part rest above entries hd hdot hdots hlong hlookup hempty =>
    -- A name on the way was missing. A new node is no way to anything.
    obtain ⟨entries', hd', hentries⟩ := h.kept hd
    rcases hentries part with heq | ⟨-, node, hnew, hsize⟩
    · rw [Tree.walk, hd']
      simp only [if_neg hdot, if_neg hdots, if_neg hlong, heq, hlookup, if_neg hempty]
      exact ⟨_, rfl⟩
    · rw [walk_of_isNoLink hd' hdot hdots hlong hnew (h.isNoLink_of_size_le hsize), if_neg hempty,
        walk_of_closed (by simpa using hempty) (h.closed_of_size_le hsize)]
      exact ⟨_, rfl⟩
  case case8 current part rest above entries hd hdot hdots hlong id hlookup target hlink hend =>
    obtain ⟨entries', hd', hlookup'⟩ := h.exists_lookup hd hlookup
    rw [Tree.walk, hd']
    simp only [if_neg hdot, if_neg hdots, if_neg hlong, hlookup', h.link_iff.mpr hlink, if_pos hend]
    rfl
  case case9 current part rest above entries hd hdot hdots hlong id hlookup target hlink hend =>
    obtain ⟨entries', hd', hlookup'⟩ := h.exists_lookup hd hlookup
    rw [Tree.walk, hd']
    simp only [if_neg hdot, if_neg hdots, if_neg hlong, hlookup', h.link_iff.mpr hlink, if_neg hend]
    exact ⟨_, rfl⟩
  case case10 current part rest above entries hd hdot hdots hlong id hlookup target hlink hend links
      ih =>
    obtain ⟨entries', hd', hlookup'⟩ := h.exists_lookup hd hlookup
    rw [Tree.walk, hd']
    simp only [if_neg hdot, if_neg hdots, if_neg hlong, hlookup', h.link_iff.mpr hlink, if_neg hend]
    exact ih
  case case11 current part rest above entries hd hdot hdots hlong id hlookup hempty hlink =>
    obtain ⟨entries', hd', hlookup'⟩ := h.exists_lookup hd hlookup
    rw [walk_of_isNoLink hd' hdot hdots hlong hlookup' (h.isNoLink_iff.mpr hlink), if_pos hempty]
    rfl
  case case12 current part rest above entries hd hdot hdots hlong id hlookup hempty hlink ih =>
    obtain ⟨entries', hd', hlookup'⟩ := h.exists_lookup hd hlookup
    rw [walk_of_isNoLink hd' hdot hdots hlong hlookup' (h.isNoLink_iff.mpr hlink), if_neg hempty]
    exact ih

variable {follow : Bool} {links : Nat} {parts : List Name} {place : Place}

/-- What was reached is still reached. -/
theorem walk_of_some (hwalk : t.walk follow links start parts = .ok place)
    (hnode : place.node = some id) : t'.walk follow links start parts = .ok place := by
  have hfollows := h.walk follow links start parts
  obtain ⟨directory, name, node, left⟩ := place
  cases hnode
  rwa [hwalk] at hfollows

/-- What is reached was reached before, unless it is new. -/
theorem walk_of_lt (hwalk : t'.walk follow links start parts = .ok place)
    (hnode : place.node = some id) (hid : id < t.nodes.size) :
    t.walk follow links start parts = .ok place := by
  have hfollows := h.walk follow links start parts
  rw [hwalk] at hfollows
  cases hold : t.walk follow links start parts with
  | error errno =>
    rw [hold] at hfollows
    obtain ⟨errno', heq⟩ := hfollows
    cases heq
  | ok before =>
    rw [hold] at hfollows
    obtain ⟨directory, name, node, left⟩ := before
    cases node with
    | some other => exact hfollows.symm
    | none =>
      obtain ⟨node, heq, hnew⟩ := hfollows
      cases heq
      exact absurd (hnew id hnode) (Nat.not_le.mpr hid)

/-- Directories are reached by the same names. -/
theorem descend?_iff {names : List Name} :
    t'.descend? d names = some id ↔ t.descend? d names = some id := by
  induction names generalizing d with
  | nil => rw [descend?_nil_iff, descend?_nil_iff, h.isSome_directory?_iff]
  | cons name names ih =>
    rw [descend?_cons_iff, descend?_cons_iff]
    constructor
    · rintro ⟨next, ⟨above, entries', hd', hlookup'⟩, hrest⟩
      obtain ⟨⟨above', entries⟩, hd⟩ := Option.isSome_iff_exists.mp
        (h.isSome_directory?_iff.mp (by rw [hd']; rfl))
      obtain ⟨_, hheld, hentries⟩ := h.kept hd
      rw [hd'] at hheld
      cases hheld
      rcases hentries name with heq | ⟨-, node, hnew, hsize⟩
      · exact ⟨next, ⟨above, entries, hd, heq.symm.trans hlookup'⟩, ih.mp hrest⟩
      · rw [hlookup'] at hnew
        cases hnew
        have hdirectory := isSome_directory?_of_descend?_start hrest
        rw [h.closed_of_size_le hsize] at hdirectory
        cases hdirectory
    · rintro ⟨next, ⟨above, entries, hd, hlookup⟩, hrest⟩
      obtain ⟨entries', hd', hlookup'⟩ := h.exists_lookup hd hlookup
      exact ⟨next, ⟨above, entries', hd', hlookup'⟩, ih.mpr hrest⟩

/-- Directories keep their paths. -/
theorem pathOf_eq_ok_iff (hsound : t.Sound) (hsound' : t'.Sound) {path : Bytes} :
    t'.pathOf d = .ok path ↔ t.pathOf d = .ok path := by
  simp only [hsound.pathOf_eq_ok_iff, hsound'.pathOf_eq_ok_iff, h.descend?_iff]

omit h in
theorem find_eq_ok_iff {path : Bytes} : t.find start path = .ok id ↔
    path ≠ [] ∧ path.length < maxPath ∧ ∃ place,
      t.walk true maxLinks (origin start path) (partsOf path) = .ok place ∧
        place.node = some id := by
  refine ⟨walk_of_find, ?_⟩
  rintro ⟨hne, hshort, place, hwalk, hnode⟩
  have hempty : path.isEmpty = false := by simpa using hne
  rw [find, locate, hempty, if_neg Bool.false_ne_true, if_neg (Nat.not_le.mpr hshort), hwalk]
  simp only [hnode]

/-- What was found is still found. -/
theorem find_of_ok {path : Bytes} (hfind : t.find start path = .ok id) :
    t'.find start path = .ok id := by
  obtain ⟨hne, hshort, place, hwalk, hnode⟩ := find_eq_ok_iff.mp hfind
  exact find_eq_ok_iff.mpr ⟨hne, hshort, place, h.walk_of_some hwalk hnode, hnode⟩

/-- The same directories are opened. -/
theorem openDirectory_iff {path : Bytes} :
    t'.openDirectory start path = .ok d ↔ t.openDirectory start path = .ok d := by
  rw [openDirectory_eq_ok_iff, openDirectory_eq_ok_iff, h.isSome_directory?_iff]
  refine and_congr_left fun hd => ⟨fun hfind => ?_, h.find_of_ok⟩
  obtain ⟨hne, hshort, place, hwalk, hnode⟩ := find_eq_ok_iff.mp hfind
  have hold := h.walk_of_lt hwalk hnode (lt_size_of_directory? hd)
  exact find_eq_ok_iff.mpr ⟨hne, hshort, place, hold, hnode⟩

/-- What was reached has the same absolute path. -/
theorem pathAt_iff (hsound : t.Sound) (hsound' : t'.Sound) {path : Bytes} :
    t'.pathAt place = .ok path ↔ t.pathAt place = .ok path := by
  have hpath (d : NodeId) (path : Bytes) : t'.pathOf d = .ok path ↔ t.pathOf d = .ok path :=
    h.pathOf_eq_ok_iff hsound hsound'
  have hmap (result : Except Errno Bytes) (f : Bytes → Bytes) :
      result.map f = .ok path ↔ ∃ above, result = .ok above ∧ f above = path := by
    cases result <;> simp [Except.map]
  rw [pathAt, pathAt]
  cases place.node with
  | none => rfl
  | some id =>
    by_cases hd : (t.directory? id).isSome
    · simp only [h.isSome_directory?_iff, if_pos hd]
      exact hpath id path
    · simp only [h.isSome_directory?_iff, if_neg hd, hmap, hpath]

end Grown

/-- A path leads to a directory, along its absolute path. -/
def Leads (t : Tree) (start : NodeId) (path : Bytes) (d : NodeId) : Prop :=
  ∃ canonical, t.canonicalize start path = .ok canonical ∧
    t.openDirectory start (utf8 (textOfPath canonical)) = .ok d

/-- A path leads to the same directory after a tree has grown, and to none if it led to none. -/
theorem Grown.leads_iff (h : t.Grown t') (hsound : t.Sound) (hsound' : t'.Sound) {path : Bytes} :
    t'.Leads start path d ↔ t.Leads start path d := by
  have hpath (d : NodeId) (path : Bytes) : t'.pathOf d = .ok path ↔ t.pathOf d = .ok path :=
    h.pathOf_eq_ok_iff hsound hsound'
  constructor
  · rintro ⟨canonical, hcanonical, hopen⟩
    refine ⟨canonical, ?_, h.openDirectory_iff.mp hopen⟩
    -- The end of the path is the directory that is opened, and directories are never new.
    have hdirectory := (openDirectory_eq_ok_iff.mp hopen).2
    rw [utf8_textOfPath hopen] at hopen
    obtain ⟨place, hwalk, hnode⟩ := hsound'.walk_of_canonicalize hcanonical hopen
    obtain ⟨hne, hstart, _, hwalk', hat⟩ := canonicalize_eq_ok_iff.mp hcanonical
    rw [hwalk] at hwalk'
    cases hwalk'
    have hold := lt_size_of_directory? (h.isSome_directory?_iff.mp hdirectory)
    simp only [hpath] at hstart
    exact canonicalize_eq_ok_iff.mpr
      ⟨hne, hstart, place, h.walk_of_lt hwalk hnode hold, (h.pathAt_iff hsound hsound').mp hat⟩
  · rintro ⟨canonical, hcanonical, hopen⟩
    refine ⟨canonical, ?_, h.openDirectory_iff.mpr hopen⟩
    obtain ⟨hne, hstart, place, hwalk, hat⟩ := canonicalize_eq_ok_iff.mp hcanonical
    have hnode : ∃ id, place.node = some id := by
      rw [pathAt] at hat
      cases hnode : place.node with
      | none => simp [hnode] at hat
      | some id => exact ⟨id, rfl⟩
    obtain ⟨id, hnode⟩ := hnode
    simp only [← hpath] at hstart
    exact canonicalize_eq_ok_iff.mpr
      ⟨hne, hstart, place, h.walk_of_some hwalk hnode, (h.pathAt_iff hsound hsound').mpr hat⟩

/-! ## Making files -/

/-- Besides the entry for it, only the new node is new. -/
theorem content?_create_of_ne (t : Tree) (name : Name) (node : Node) (hid : id ≠ d) :
    (t.create d name node).2.content? id =
      if id = t.nodes.size then some node.content else t.content? id := by
  rw [create]
  simp only [content?_stamp, enter, content?_change, if_neg hid, content?_push]

/-- A tree grows when something is made in it that is no directory, no link and no device. -/
theorem grown_create {entries : List (Name × NodeId)} {above : NodeId} {node : Node}
    (hd : t.directory? d = some (above, entries)) (hname : entries.lookup name = none)
    (hdirectory : node.content.inside? = none) (hlink : ∀ target, node.content ≠ .link target)
    (hdevice : ∀ device, node.content ≠ .device device) : t.Grown (t.create d name node).2 := by
  have hlt := lt_size_of_directory? (by rw [hd]; rfl)
  have hnode := directory?_create hlt name node
  -- What is found at a node is the same unless it is a directory, or what was made.
  have hother {content : Content} (hinside : content.inside? = none) (hne : node.content ≠ content)
      (id : NodeId) :
      (t.create d name node).2.content? id = some content ↔ t.content? id = some content := by
    by_cases hid : id = d
    · have hnew : (t.create d name node).2.directory? id =
          some (above, insertEntry name t.nodes.size entries) := by
        rw [hnode, if_neg (hid ▸ Nat.ne_of_lt hlt), if_pos hid, hd]
        rfl
      rw [directory?_eq_some_iff.mp hnew, directory?_eq_some_iff.mp (hid ▸ hd)]
      constructor <;> (rintro ⟨⟩; cases hinside)
    · rw [content?_create_of_ne t name node hid]
      split
      · next heq =>
        rw [content?_eq_none (Nat.le_of_eq heq.symm)]
        simp [hne]
      · rfl
  refine ⟨?_, fun {id target} => hother rfl (hlink target) id,
    fun {id device} => hother rfl (hdevice device) id, fun {id} hnone => ?_,
    fun {id up inside} hinside => ?_⟩
  · rw [size_create]
    exact Nat.le_succ _
  · have hne : id ≠ d := by
      rintro rfl
      rw [hd] at hnone
      cases hnone
    rw [hnode, if_neg hne]
    split
    · exact hdirectory
    · exact hnone
  · have hold := lt_size_of_directory? (by rw [hinside]; rfl)
    rw [hnode, if_neg (Nat.ne_of_lt hold)]
    split
    · next heq =>
      subst heq
      rw [hd] at hinside
      cases hinside
      refine ⟨_, by rw [hd]; rfl, fun other => ?_⟩
      rw [lookup_insertEntry]
      split
      · next hsame =>
        subst hsame
        exact .inr ⟨hname, t.nodes.size, rfl, Nat.le_refl _⟩
      · exact .inl rfl
    · exact ⟨inside, hinside, fun other => .inl rfl⟩

end Tree

end CommandShell.Machine
