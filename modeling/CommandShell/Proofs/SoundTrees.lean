import CommandShell.Proofs.TextBytes
import CommandShell.Proofs.TreePaths

/-!
# Sound trees

The trees on which a machine works are in order. Main statements: a tree with nothing but its root
is sound (`Tree.sound_empty`), and it stays so when nodes are made (`Tree.Sound.create`).
-/

namespace CommandShell.Machine

open Ascii

/-- What was put at its place is one of the entries, and all others were there before. -/
theorem mem_insertEntry {name : Name} {id : NodeId} {entries : List (Name × NodeId)}
    {entry : Name × NodeId} (h : entry ∈ insertEntry name id entries) :
    entry = (name, id) ∨ entry ∈ entries := by
  induction entries with
  | nil => exact Or.inl (List.mem_singleton.1 h)
  | cons first rest ih =>
    obtain ⟨other, old⟩ := first
    rw [insertEntry] at h
    split at h
    · exact List.mem_cons.1 h
    · split at h
      · exact (List.mem_cons.1 h).imp_right (List.mem_cons_of_mem _)
      · rcases List.mem_cons.1 h with h | h
        · exact Or.inr (by rw [h]; exact List.mem_cons_self)
        · exact (ih h).imp_right (List.mem_cons_of_mem _)

/-- The names stay in order. -/
theorem ascending_insertEntry {entries : List (Name × NodeId)} (name : Name) (id : NodeId)
    (h : entries.Pairwise fun entry other => entry.1 < other.1) :
    (insertEntry name id entries).Pairwise fun entry other => entry.1 < other.1 := by
  induction entries with
  | nil => exact List.pairwise_singleton _ _
  | cons first rest ih =>
    obtain ⟨other, old⟩ := first
    obtain ⟨hfirst, hrest⟩ := List.pairwise_cons.1 h
    rw [insertEntry]
    split
    · next hlt =>
      refine List.pairwise_cons.2 ⟨fun entry hentry => ?_, h⟩
      rcases List.mem_cons.1 hentry with rfl | hentry
      · exact hlt
      · exact List.lt_trans hlt (hfirst entry hentry)
    · split
      · next heq =>
        subst heq
        exact List.pairwise_cons.2 ⟨hfirst, hrest⟩
      · next hlt hne =>
        refine List.pairwise_cons.2 ⟨fun entry hentry => ?_, ih hrest⟩
        rcases mem_insertEntry hentry with rfl | hentry
        · exact name_lt_of_not_lt hlt hne
        · exact hfirst entry hentry

/-- What a directory holds. -/
def Content.inside? : Content → Option (NodeId × List (Name × NodeId))
  | .directory above entries => some (above, entries)
  | _ => none

namespace Tree

variable {t : Tree} {d id : NodeId} {name : Name} {node : Node}

theorem directory?_eq (t : Tree) (id : NodeId) :
    t.directory? id = (t.nodes[id]?).bind fun node => node.content.inside? := by
  rw [directory?, content?]
  cases t.nodes[id]? with
  | none => rfl
  | some node =>
    obtain ⟨content, mode, modified⟩ := node
    cases content <;> rfl

/-- The time of a change has nothing to do with the directories. -/
theorem directory?_stamp (t : Tree) (changed id : NodeId) (time : Instant) :
    (t.stamp changed time).directory? id = t.directory? id := by
  rw [directory?_eq, directory?_eq, stamp, Array.getElem?_modify]
  split <;> cases t.nodes[id]? <;> rfl

/-- A name is entered in one directory only. -/
theorem directory?_enter (t : Tree) (d entered id : NodeId) (name : Name) :
    (t.enter d name entered).directory? id =
      if id = d then
        (t.directory? d).map fun held => (held.1, insertEntry name entered held.2)
      else t.directory? id := by
  rw [enter, change, directory?_eq, directory?_eq, directory?_eq, Array.getElem?_modify]
  by_cases hid : d = id
  · subst hid
    rw [if_pos rfl, if_pos rfl]
    cases t.nodes[d]? with
    | none => rfl
    | some node =>
      obtain ⟨content, mode, modified⟩ := node
      cases content <;> rfl
  · rw [if_neg hid, if_neg (Ne.symm hid)]

/-- A new node is behind all others. -/
theorem directory?_push (t : Tree) (node : Node) (id : NodeId) :
    (Tree.mk (t.nodes.push node)).directory? id =
      if id = t.nodes.size then node.content.inside? else t.directory? id := by
  rw [directory?_eq, directory?_eq, Array.getElem?_push]
  split <;> rfl

/-- What the directories hold after a node was made. -/
theorem directory?_create (hd : d < t.nodes.size) (name : Name) (node : Node) (id : NodeId) :
    (t.create d name node).2.directory? id =
      if id = t.nodes.size then node.content.inside?
      else if id = d then
        (t.directory? d).map fun held => (held.1, insertEntry name t.nodes.size held.2)
      else t.directory? id := by
  have hne : d ≠ t.nodes.size := Nat.ne_of_lt hd
  rw [create]
  simp only [directory?_stamp, directory?_enter, directory?_push, if_neg hne]
  by_cases hid : id = d
  · rw [if_pos hid, if_neg (by rwa [hid]), if_pos hid]
  · rw [if_neg hid, if_neg hid]

theorem size_create (t : Tree) (d : NodeId) (name : Name) (node : Node) :
    (t.create d name node).2.nodes.size = t.nodes.size + 1 := by
  simp [create, stamp, enter, change]

/-- An old node is a directory as before, in the same one. -/
theorem directory?_of_create (hd : d < t.nodes.size) (hid : id < t.nodes.size) {above : NodeId}
    {entries : List (Name × NodeId)}
    (h : (t.create d name node).2.directory? id = some (above, entries)) :
    ∃ old, t.directory? id = some (above, old) ∧
      (entries = old ∨ id = d ∧ entries = insertEntry name t.nodes.size old) := by
  rw [directory?_create hd, if_neg (Nat.ne_of_lt hid)] at h
  split at h
  · next heq =>
    subst heq
    obtain ⟨⟨up, old⟩, hold, heq⟩ := Option.map_eq_some_iff.1 h
    cases heq
    exact ⟨old, hold, Or.inr ⟨rfl, rfl⟩⟩
  · exact ⟨entries, h, Or.inl rfl⟩

/-- What can be made in a directory: anything but a directory that holds something, or is meant to
be elsewhere. -/
def Fresh (d : NodeId) (node : Node) : Prop :=
  ∀ above entries, node.content = .directory above entries → above = d ∧ entries = []

/-- A directory without entries is in order. -/
theorem tidy_nil (t : Tree) (d : NodeId) : t.Tidy d [] :=
  ⟨by simp, List.Pairwise.nil, by simp, by simp, by simp, by simp⟩

/-- A tree with nothing but its root is in order. -/
theorem sound_empty : empty.Sound where
  top := ⟨[], rfl⟩
  tidy := by
    intro d above entries h
    have hentries : entries = [] := by
      rw [directory?_eq] at h
      obtain ⟨node, hnode, h⟩ := Option.bind_eq_some_iff.1 h
      obtain ⟨hd, rfl⟩ := Array.getElem?_eq_some_iff.1 hnode
      have hzero : d = 0 := Nat.lt_one_iff.1 hd
      subst hzero
      cases h
      rfl
    subst hentries
    exact tidy_nil _ _

theorem directory_of_inside? {content : Content} {above : NodeId}
    {entries : List (Name × NodeId)} (h : content.inside? = some (above, entries)) :
    content = .directory above entries := by
  cases content <;> cases h
  rfl

/-- A directory stays in order when its entries get one more, or none. -/
theorem Tidy.create {old entries : List (Name × NodeId)} (h : t.Tidy id old)
    (hroot : Tree.root < t.nodes.size) (hd : d < t.nodes.size) (hname : IsEntryName name)
    (hnode : Fresh d node)
    (hentries : entries = old ∨ id = d ∧ entries = insertEntry name t.nodes.size old) :
    (t.create d name node).2.Tidy id entries := by
  have hmem : ∀ entry ∈ entries, id = d ∧ entry = (name, t.nodes.size) ∨ entry ∈ old := by
    intro entry hentry
    rcases hentries with rfl | ⟨hid, rfl⟩
    · exact Or.inr hentry
    · exact (mem_insertEntry hentry).imp_left fun heq => ⟨hid, heq⟩
  have hold : ∀ {i : NodeId}, i < t.nodes.size → ((t.create d name node).2.directory? i).isSome →
      (t.directory? i).isSome := by
    intro i hi hsome
    obtain ⟨⟨above, inside⟩, hinside⟩ := Option.isSome_iff_exists.1 hsome
    obtain ⟨held, hheld, -⟩ := directory?_of_create hd hi hinside
    rw [hheld]
    rfl
  refine ⟨fun entry hentry => ?_, ?_, fun entry hentry => ?_, ?_, ?_, ?_⟩
  · rcases hmem entry hentry with ⟨-, rfl⟩ | hentry
    · exact hname
    · exact h.named entry hentry
  · rcases hentries with rfl | ⟨-, rfl⟩
    · exact h.ascending
    · exact ascending_insertEntry name _ h.ascending
  · rw [size_create]
    rcases hmem entry hentry with ⟨-, rfl⟩ | hentry
    · exact Nat.lt_succ_self _
    · exact Nat.lt_succ_of_lt (h.known entry hentry)
  · intro n m i hn hm hsome
    rcases hmem _ hn with ⟨-, hn⟩ | hn <;> rcases hmem _ hm with ⟨-, hm⟩ | hm
    · cases hn
      cases hm
      rfl
    · cases hn
      exact absurd (h.known _ hm) (Nat.lt_irrefl _)
    · cases hm
      exact absurd (h.known _ hn) (Nat.lt_irrefl _)
    · exact h.single hn hm (hold (h.known _ hn) hsome)
  · intro n i above inside hn hinside
    rcases hmem _ hn with ⟨hid, hn⟩ | hn
    · cases hn
      rw [directory?_create hd, if_pos rfl] at hinside
      exact (hnode _ _ (directory_of_inside? hinside)).1.trans hid.symm
    · obtain ⟨held, hheld, -⟩ := directory?_of_create hd (h.known _ hn) hinside
      exact h.above hn hheld
  · intro n i hn
    rcases hmem _ hn with ⟨-, hn⟩ | hn
    · cases hn
      exact Nat.ne_of_gt hroot
    · exact h.ne_root hn

/-- A tree stays in order when a node with a proper name is made in it. -/
theorem Sound.create (h : t.Sound) (hd : d < t.nodes.size) (hname : IsEntryName name)
    (hnode : Fresh d node) : (t.create d name node).2.Sound := by
  obtain ⟨entries, htop⟩ := h.top
  have hroot := lt_size_of_directory? h.isSome_root
  refine ⟨?_, fun {id above inside} hinside => ?_⟩
  · rw [directory?_create hd, if_neg (Nat.ne_of_lt hroot)]
    split
    · next heq =>
      rw [← heq, htop]
      exact ⟨_, rfl⟩
    · exact ⟨entries, htop⟩
  · have hid := lt_size_of_directory? (by rw [hinside]; rfl)
    rw [size_create, Nat.lt_succ_iff_lt_or_eq] at hid
    rcases hid with hid | rfl
    · obtain ⟨old, hold, hentries⟩ := directory?_of_create hd hid hinside
      exact (h.tidy hold).create hroot hd hname hnode hentries
    · rw [directory?_create hd, if_pos rfl] at hinside
      obtain ⟨-, rfl⟩ := hnode _ _ (directory_of_inside? hinside)
      exact tidy_nil _ _

end Tree

instance (name : Name) : Decidable (IsEntryName name) :=
  decidable_of_iff (name ≠ [] ∧ slash ∉ name ∧ name ≠ dot ∧ name ≠ dotDot ∧ name.length ≤ maxName)
    ⟨fun ⟨h₁, h₂, h₃, h₄, h₅⟩ => ⟨h₁, h₂, h₃, h₄, h₅⟩, fun h => ⟨h.1, h.2, h.3, h.4, h.5⟩⟩

end CommandShell.Machine
