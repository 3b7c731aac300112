import CommandShell.Machine.Tree
import Mathlib.Data.Fintype.Card

/-!
# Paths in file trees

A directory that can be reached from the root has exactly one path of names, without links and
dots. Main statements: no other names lead to it (`Tree.Sound.descend?_inj`), there are fewer of
them than nodes (`Tree.Sound.length_lt_of_descend?`), and it is this path that is found by climbing
(`Tree.Sound.pathOf_eq_ok_iff`).
-/

namespace CommandShell.Machine

open Ascii

/-- A name that an entry of a directory can have. -/
structure IsEntryName (name : Name) : Prop where
  /-- It is not empty. -/
  ne_nil : name ≠ []
  /-- There is no slash in it. -/
  slash_notMem : slash ∉ name
  /-- It does not stand for the directory itself. -/
  ne_dot : name ≠ dot
  /-- It does not stand for the directory above. -/
  ne_dotDot : name ≠ dotDot
  /-- It is not too long. -/
  length_le : name.length ≤ maxName

/-- Names one after the other, a slash before each of them. -/
def trail (names : List Name) : Bytes := names.flatMap fun name => slash :: name

/-- The path of names from the root. -/
def spell (names : List Name) : Bytes := if (trail names).isEmpty then [slash] else trail names

section

variable {name rest : Name} {names : List Name}

@[simp] theorem trail_nil : trail [] = [] := rfl

theorem trail_cons : trail (name :: names) = slash :: (name ++ trail names) := by
  simp [trail]

theorem trail_append_singleton : trail (names ++ [name]) = trail names ++ slash :: name := by
  simp [trail]

theorem trail_ne_nil (h : names ≠ []) : trail names ≠ [] := by
  obtain ⟨first, rest, rfl⟩ := List.exists_cons_of_ne_nil h
  rw [trail_cons]
  exact List.cons_ne_nil _ _

theorem spell_nil : spell [] = [slash] := rfl

theorem spell_of_ne_nil (h : names ≠ []) : spell names = trail names := by
  rw [spell, if_neg]
  simpa using trail_ne_nil h

theorem isAbsolute_spell (names : List Name) : isAbsolute (spell names) = true := by
  cases names with
  | nil => rfl
  | cons name names =>
    rw [spell_of_ne_nil (List.cons_ne_nil _ _), trail_cons]
    rfl

/-- What stands before a further name is the path of the names, unless it is that of the root. -/
theorem before_spell (h : ∀ name ∈ names, IsEntryName name) :
    (if spell names = [slash] then [] else spell names) = trail names := by
  cases names with
  | nil => rw [spell_nil, if_pos rfl, trail_nil]
  | cons name names =>
    rw [spell_of_ne_nil (List.cons_ne_nil _ _), if_neg]
    intro heq
    rw [trail_cons, List.cons.injEq, List.append_eq_nil_iff] at heq
    exact (h name List.mem_cons_self).ne_nil heq.2.1

/-- A name without separators is one part. -/
theorem splitAt_of_notMem {separator : UInt8} {part : Bytes} (h : separator ∉ part) :
    splitAt separator part = [part] := by
  induction part with
  | nil => rfl
  | cons b part ih =>
    have hb : b ≠ separator := fun heq => h (heq ▸ List.mem_cons_self)
    rw [splitAt, if_neg hb, ih fun hmem => h (List.mem_cons_of_mem _ hmem)]

/-- A separator ends the part before it. -/
theorem splitAt_append_separator {separator : UInt8} {part : Bytes} (h : separator ∉ part)
    (rest : Bytes) :
    splitAt separator (part ++ separator :: rest) = part :: splitAt separator rest := by
  induction part with
  | nil => rw [List.nil_append, splitAt, if_pos rfl]
  | cons b part ih =>
    have hb : b ≠ separator := fun heq => h (heq ▸ List.mem_cons_self)
    rw [List.cons_append, splitAt, if_neg hb, ih fun hmem => h (List.mem_cons_of_mem _ hmem)]

/-- Names that were put together are found again. -/
theorem splitAt_append_trail (hname : slash ∉ name) (h : ∀ other ∈ names, slash ∉ other) :
    splitAt slash (name ++ trail names) = name :: names := by
  induction names generalizing name with
  | nil => rw [trail_nil, List.append_nil, splitAt_of_notMem hname]
  | cons next names ih =>
    rw [trail_cons, splitAt_append_separator hname,
      ih (h next List.mem_cons_self) fun other hother => h other (List.mem_cons_of_mem _ hother)]

theorem namesIn_trail (h : ∀ name ∈ names, IsEntryName name) : namesIn (trail names) = names := by
  cases names with
  | nil => rfl
  | cons name names =>
    have hsplit : splitAt slash (trail (name :: names)) = [] :: name :: names := by
      rw [trail_cons, splitAt, if_pos rfl]
      exact congrArg _ (splitAt_append_trail (h name List.mem_cons_self).slash_notMem
        fun other hother => (h other (List.mem_cons_of_mem _ hother)).slash_notMem)
    have hkept : ∀ other ∈ name :: names, (!other.isEmpty) = true := by
      intro other hother
      simpa using (h other hother).ne_nil
    rw [namesIn, hsplit, List.filter_cons_of_neg (by simp), List.filter_eq_self.2 hkept]

/-- The parts of a path of names are the names. -/
theorem partsOf_trail (hne : names ≠ []) (h : ∀ name ∈ names, IsEntryName name) :
    partsOf (trail names) = names := by
  have hend : endsInSlash (trail names) = false := by
    obtain ⟨front, last, rfl⟩ := List.eq_nil_or_concat names |>.resolve_left hne
    have hlast := h last (by simp)
    rw [List.concat_eq_append, trail_append_singleton, endsInSlash,
      List.getLast?_append_of_ne_nil _ (List.cons_ne_nil _ _),
      List.getLast?_cons_of_ne_nil hlast.ne_nil]
    rw [beq_eq_false_iff_ne]
    intro heq
    exact hlast.slash_notMem (List.mem_of_getLast? heq)
  rw [partsOf, hend, if_neg Bool.false_ne_true, namesIn_trail h]

end

/-- Two names that are not the same stand in one order or the other. -/
theorem name_lt_of_not_lt {name other : Name} (h : ¬ name < other) (hne : name ≠ other) :
    other < name := by
  apply Decidable.byContradiction
  intro hother
  exact hne (List.le_antisymm (List.not_lt.1 hother) (List.not_lt.1 h))

/-- In a list with different keys an entry is found under its key. -/
theorem lookup_eq_some_iff_mem {entries : List (Name × NodeId)}
    (h : (entries.map Prod.fst).Nodup) {name : Name} {id : NodeId} :
    entries.lookup name = some id ↔ (name, id) ∈ entries := by
  induction entries with
  | nil => simp
  | cons entry entries ih =>
    obtain ⟨other, node⟩ := entry
    rw [List.map_cons, List.nodup_cons] at h
    rw [List.lookup_cons, List.mem_cons]
    by_cases hname : name = other
    · subst hname
      have hnot : (name, id) ∉ entries := fun hmem => h.1 (List.mem_map.2 ⟨_, hmem, rfl⟩)
      simp [hnot, eq_comm]
    · have hbeq : (name == other) = false := by simpa using hname
      simp only [hbeq, ih h.2, Prod.mk.injEq, hname, false_and, false_or]

namespace Tree

variable {t : Tree} {id d : NodeId} {name : Name} {names : List Name}

/-- A directory has a place among the nodes. -/
theorem lt_size_of_directory? (h : (t.directory? id).isSome) : id < t.nodes.size := by
  by_contra hge
  rw [directory?, content?, Array.getElem?_eq_none (Nat.le_of_not_lt hge)] at h
  cases h

/-- A name is an entry of a directory. -/
def Holds (t : Tree) (d : NodeId) (name : Name) (id : NodeId) : Prop :=
  ∃ above entries, t.directory? d = some (above, entries) ∧ entries.lookup name = some id

/-- The directory to which names lead, each of them naming a directory in the one before it. -/
def descend? (t : Tree) (d : NodeId) : List Name → Option NodeId
  | [] => (t.directory? d).map fun _ => d
  | name :: rest =>
    (t.directory? d).bind fun (_, entries) =>
      (entries.lookup name).bind fun id => t.descend? id rest

/-- A directory can be reached from the root by names alone. -/
def Placed (t : Tree) (id : NodeId) : Prop := ∃ names, t.descend? root names = some id

/-- No names lead from a directory to itself. -/
theorem descend?_nil_iff : t.descend? d [] = some id ↔ d = id ∧ (t.directory? d).isSome := by
  rw [descend?]
  cases t.directory? d <;> simp

/-- The first name is an entry of the directory where the names begin. -/
theorem descend?_cons_iff : t.descend? d (name :: names) = some id ↔
    ∃ next, t.Holds d name next ∧ t.descend? next names = some id := by
  simp only [descend?, Option.bind_eq_some_iff, Holds]
  constructor
  · rintro ⟨⟨above, entries⟩, hd, next, hnext, hid⟩
    exact ⟨next, ⟨above, entries, hd, hnext⟩, hid⟩
  · rintro ⟨next, ⟨above, entries, hd, hnext⟩, hid⟩
    exact ⟨(above, entries), hd, next, hnext, hid⟩

/-- Names lead from a directory only. -/
theorem isSome_directory?_of_descend?_start (h : t.descend? d names = some id) :
    (t.directory? d).isSome := by
  cases names with
  | nil => exact (descend?_nil_iff.1 h).2
  | cons name names =>
    obtain ⟨next, ⟨above, entries, hd, -⟩, -⟩ := descend?_cons_iff.1 h
    rw [hd]
    rfl

/-- Names lead to a directory. -/
theorem isSome_directory?_of_descend? (h : t.descend? d names = some id) :
    (t.directory? id).isSome := by
  induction names generalizing d with
  | nil =>
    obtain ⟨rfl, hsome⟩ := descend?_nil_iff.1 h
    exact hsome
  | cons name names ih =>
    obtain ⟨next, -, h⟩ := descend?_cons_iff.1 h
    exact ih h

/-- Names lead on from where the names before them lead. -/
theorem descend?_append_iff {more : List Name} : t.descend? d (names ++ more) = some id ↔
    ∃ next, t.descend? d names = some next ∧ t.descend? next more = some id := by
  induction names generalizing d with
  | nil =>
    constructor
    · intro h
      exact ⟨d, descend?_nil_iff.2 ⟨rfl, isSome_directory?_of_descend?_start h⟩, h⟩
    · rintro ⟨next, hnext, h⟩
      obtain ⟨rfl, -⟩ := descend?_nil_iff.1 hnext
      exact h
  | cons name names ih =>
    simp only [List.cons_append, descend?_cons_iff, ih]
    constructor
    · rintro ⟨first, hfirst, next, hnext, h⟩
      exact ⟨next, ⟨first, hfirst, hnext⟩, h⟩
    · rintro ⟨next, ⟨first, hfirst, hnext⟩, h⟩
      exact ⟨first, hfirst, next, hnext, h⟩

/-- The last name is an entry of the directory to which the others lead. -/
theorem descend?_append_singleton_iff : t.descend? d (names ++ [name]) = some id ↔
    ∃ last, t.descend? d names = some last ∧ t.Holds last name id ∧ (t.directory? id).isSome := by
  simp only [descend?_append_iff, descend?_cons_iff, descend?_nil_iff]
  constructor
  · rintro ⟨last, hlast, next, hnext, rfl, hsome⟩
    exact ⟨last, hlast, hnext, hsome⟩
  · rintro ⟨last, hlast, hholds, hsome⟩
    exact ⟨last, hlast, id, hholds, rfl, hsome⟩

/-- What is in a directory: names in order, and directories that are nowhere else. -/
structure Tidy (t : Tree) (d : NodeId) (entries : List (Name × NodeId)) : Prop where
  /-- All names are proper ones. -/
  named : ∀ entry ∈ entries, IsEntryName entry.1
  /-- The names grow from left to right. -/
  ascending : entries.Pairwise fun entry other => entry.1 < other.1
  /-- All names stand for nodes. -/
  known : ∀ entry ∈ entries, entry.2 < t.nodes.size
  /-- A directory has one name. -/
  single : ∀ {name other : Name} {id : NodeId}, (name, id) ∈ entries → (other, id) ∈ entries →
    (t.directory? id).isSome → name = other
  /-- A directory knows in which one it is. -/
  above : ∀ {name : Name} {id above : NodeId} {inside : List (Name × NodeId)},
    (name, id) ∈ entries → t.directory? id = some (above, inside) → above = d
  /-- The root is in no directory. -/
  ne_root : ∀ {name : Name} {id : NodeId}, (name, id) ∈ entries → id ≠ root

/-- An entry is found under its name. -/
theorem Tidy.lookup_eq_some_iff {entries : List (Name × NodeId)} (h : t.Tidy d entries) :
    entries.lookup name = some id ↔ (name, id) ∈ entries := by
  apply lookup_eq_some_iff_mem
  rw [List.Nodup, List.pairwise_map]
  refine h.ascending.imp fun {entry other} hlt => ?_
  intro heq
  rw [heq] at hlt
  exact List.lt_irrefl _ hlt

/-- The directories of a tree are ordered as in a file system: the root is above itself, and all
others are in at most one directory. -/
structure Sound (t : Tree) : Prop where
  /-- The root is a directory, and above itself. -/
  top : ∃ entries, t.directory? root = some (root, entries)
  /-- All directories are in order. -/
  tidy : ∀ {d above : NodeId} {entries : List (Name × NodeId)},
    t.directory? d = some (above, entries) → t.Tidy d entries

namespace Sound

variable (h : t.Sound)
include h

theorem isSome_root : (t.directory? Tree.root).isSome := by
  obtain ⟨entries, htop⟩ := h.top
  rw [htop]
  rfl

theorem placed_root : t.Placed Tree.root := ⟨[], descend?_nil_iff.2 ⟨rfl, h.isSome_root⟩⟩

/-- The entries of a directory are what it holds. -/
theorem holds_iff_mem {above : NodeId} {entries : List (Name × NodeId)}
    (hd : t.directory? d = some (above, entries)) : t.Holds d name id ↔ (name, id) ∈ entries := by
  rw [← (h.tidy hd).lookup_eq_some_iff, Holds, hd]
  constructor
  · rintro ⟨_, _, heq, hlookup⟩
    cases heq
    exact hlookup
  · exact fun hlookup => ⟨above, entries, rfl, hlookup⟩

theorem isEntryName_of_holds (hholds : t.Holds d name id) : IsEntryName name := by
  obtain ⟨above, entries, hd, hlookup⟩ := hholds
  have htidy := h.tidy hd
  exact htidy.named _ (htidy.lookup_eq_some_iff.1 hlookup)

theorem ne_root_of_holds (hholds : t.Holds d name id) : id ≠ Tree.root := by
  obtain ⟨above, entries, hd, hlookup⟩ := hholds
  have htidy := h.tidy hd
  exact htidy.ne_root (htidy.lookup_eq_some_iff.1 hlookup)

/-- A directory knows which one holds it. -/
theorem above_of_holds (hholds : t.Holds d name id) {above : NodeId}
    {inside : List (Name × NodeId)} (hid : t.directory? id = some (above, inside)) : above = d := by
  obtain ⟨up, entries, hd, hlookup⟩ := hholds
  have htidy := h.tidy hd
  exact htidy.above (htidy.lookup_eq_some_iff.1 hlookup) hid

/-- A directory is held in one place, under one name. -/
theorem holds_unique {d' : NodeId} {other : Name} (hholds : t.Holds d name id)
    (hother : t.Holds d' other id) (hid : (t.directory? id).isSome) : d = d' ∧ name = other := by
  obtain ⟨⟨above, inside⟩, hinside⟩ := Option.isSome_iff_exists.1 hid
  have hsame : d = d' :=
    (h.above_of_holds hholds hinside).symm.trans (h.above_of_holds hother hinside)
  subst hsame
  obtain ⟨up, entries, hd, hlookup⟩ := hholds
  have htidy := h.tidy hd
  exact ⟨rfl, htidy.single (htidy.lookup_eq_some_iff.1 hlookup) ((h.holds_iff_mem hd).1 hother)
    hid⟩

/-- All names on the way to a directory are proper ones. -/
theorem isEntryName_of_descend? (hnames : t.descend? d names = some id) :
    ∀ name ∈ names, IsEntryName name := by
  induction names generalizing d with
  | nil => simp
  | cons first names ih =>
    obtain ⟨next, hfirst, hnames⟩ := descend?_cons_iff.1 hnames
    intro name hname
    rcases List.mem_cons.1 hname with rfl | hname
    · exact h.isEntryName_of_holds hfirst
    · exact ih hnames name hname

/-- A directory is reached by one sequence of names only. -/
theorem descend?_inj {others : List Name} (hnames : t.descend? Tree.root names = some id)
    (hothers : t.descend? Tree.root others = some id) : names = others := by
  induction names using List.reverseRecOn generalizing id others with
  | nil =>
    obtain ⟨rfl, -⟩ := descend?_nil_iff.1 hnames
    rcases List.eq_nil_or_concat others with rfl | ⟨front, last, rfl⟩
    · rfl
    · rw [List.concat_eq_append] at hothers
      obtain ⟨_, -, hholds, -⟩ := descend?_append_singleton_iff.1 hothers
      exact absurd rfl (h.ne_root_of_holds hholds)
  | append_singleton names name ih =>
    obtain ⟨last, hlast, hholds, hsome⟩ := descend?_append_singleton_iff.1 hnames
    rcases List.eq_nil_or_concat others with rfl | ⟨others, other, rfl⟩
    · obtain ⟨rfl, -⟩ := descend?_nil_iff.1 hothers
      exact absurd rfl (h.ne_root_of_holds hholds)
    · rw [List.concat_eq_append] at hothers ⊢
      obtain ⟨last', hlast', hholds', -⟩ := descend?_append_singleton_iff.1 hothers
      obtain ⟨rfl, rfl⟩ := h.holds_unique hholds hholds' hsome
      rw [ih hlast hlast']

/-- There are more nodes than names on the way to a directory. -/
theorem length_lt_of_descend? (hid : t.descend? Tree.root names = some id) :
    names.length < t.nodes.size := by
  -- The names up to any place lead to a directory of its own.
  have hstation : ∀ k : Fin (names.length + 1), ∃ station : Fin t.nodes.size,
      t.descend? Tree.root (names.take k) = some station.1 := by
    intro k
    have hsplit := hid
    rw [← List.take_append_drop k names, descend?_append_iff] at hsplit
    obtain ⟨station, hstation, -⟩ := hsplit
    exact ⟨⟨station, lt_size_of_directory? (isSome_directory?_of_descend? hstation)⟩, hstation⟩
  choose station hstation using hstation
  have hinj : Function.Injective station := by
    intro j k hjk
    have hj := hstation j
    rw [hjk] at hj
    have hlength := congrArg List.length (h.descend?_inj hj (hstation k))
    rw [List.length_take, List.length_take] at hlength
    omega
  have hcard := Fintype.card_le_of_injective station hinj
  rw [Fintype.card_fin, Fintype.card_fin] at hcard
  exact hcard

/-- A step upwards puts the name of the directory in front. -/
theorem climb_succ {fuel : Nat} (hholds : t.Holds d name id) (hid : (t.directory? id).isSome)
    (below : Bytes) : t.climb (fuel + 1) id below = t.climb fuel d (slash :: name ++ below) := by
  obtain ⟨⟨above, inside⟩, hinside⟩ := Option.isSome_iff_exists.1 hid
  have hne := h.ne_root_of_holds hholds
  have habove := h.above_of_holds hholds hinside
  subst habove
  obtain ⟨up, entries, hentries, hlookup⟩ := hholds
  have hmem := (h.tidy hentries).lookup_eq_some_iff.1 hlookup
  have hfind : entries.find? (·.2 == id) = some (name, id) := by
    have hexists : (entries.find? (·.2 == id)).isSome :=
      List.find?_isSome.2 ⟨(name, id), hmem, beq_self_eq_true id⟩
    obtain ⟨⟨other, node⟩, hfound⟩ := Option.isSome_iff_exists.1 hexists
    have hnode : node = id := by simpa using List.find?_some hfound
    subst hnode
    rw [hfound, (h.tidy hentries).single (List.mem_of_find?_eq_some hfound) hmem hid]
  rw [climb, if_neg hne, hinside]
  simp only [hentries, Option.bind_some, hfind]

/-- Whoever has gone on upwards has come from a directory that is held by the next one. -/
theorem holds_of_climb {fuel : Nat} {below path : Bytes} (hne : id ≠ Tree.root)
    (hclimb : t.climb (fuel + 1) id below = .ok path) :
    ∃ d name, t.Holds d name id ∧ (t.directory? id).isSome ∧
      t.climb fuel d (slash :: name ++ below) = .ok path := by
  rw [climb, if_neg hne] at hclimb
  cases hinside : t.directory? id with
  | none => simp [hinside] at hclimb
  | some inside =>
    obtain ⟨above, inside⟩ := inside
    simp only [hinside] at hclimb
    split at hclimb
    · cases hclimb
    · next name node hfound =>
      obtain ⟨⟨up, entries⟩, hentries, hfind⟩ := Option.bind_eq_some_iff.1 hfound
      have hnode : node = id := by simpa using List.find?_some hfind
      subst hnode
      exact ⟨above, name, (h.holds_iff_mem hentries).2 (List.mem_of_find?_eq_some hfind), rfl,
        hclimb⟩

/-- Climbing from a directory goes back along the names that lead to it. -/
theorem climb_of_descend? {fuel : Nat} (hfuel : names.length < fuel)
    (hid : t.descend? Tree.root names = some id) (below : Bytes) :
    t.climb fuel id below =
      .ok (if (trail names ++ below).isEmpty then [slash] else trail names ++ below) := by
  obtain ⟨fuel, rfl⟩ := Nat.exists_eq_succ_of_ne_zero (Nat.ne_of_gt (Nat.zero_lt_of_lt hfuel))
  induction names using List.reverseRecOn generalizing fuel id below with
  | nil =>
    obtain ⟨rfl, -⟩ := descend?_nil_iff.1 hid
    rw [climb, if_pos rfl, trail_nil, List.nil_append]
  | append_singleton names name ih =>
    rw [List.length_append, List.length_singleton, Nat.succ_eq_add_one, Nat.add_lt_add_iff_right]
      at hfuel
    obtain ⟨fuel, rfl⟩ := Nat.exists_eq_succ_of_ne_zero (Nat.ne_of_gt (Nat.zero_lt_of_lt hfuel))
    obtain ⟨last, hlast, hholds, hsome⟩ := descend?_append_singleton_iff.1 hid
    rw [h.climb_succ hholds hsome, ih hlast _ fuel hfuel, trail_append_singleton,
      List.append_assoc, List.cons_append]

/-- Whoever climbs up to the root has come along names. -/
theorem descend?_of_climb {fuel : Nat} {below path : Bytes}
    (hclimb : t.climb fuel id below = .ok path) :
    ∃ names, t.descend? Tree.root names = some id ∧
      path = if (trail names ++ below).isEmpty then [slash] else trail names ++ below := by
  induction fuel generalizing id below with
  | zero => cases hclimb
  | succ fuel ih =>
    by_cases hroot : id = Tree.root
    · subst hroot
      rw [climb, if_pos rfl] at hclimb
      cases hclimb
      exact ⟨[], descend?_nil_iff.2 ⟨rfl, h.isSome_root⟩, rfl⟩
    · obtain ⟨d, name, hholds, hsome, hclimb⟩ := h.holds_of_climb hroot hclimb
      obtain ⟨names, hnames, hpath⟩ := ih hclimb
      refine ⟨names ++ [name], descend?_append_singleton_iff.2 ⟨d, hnames, hholds, hsome⟩, ?_⟩
      rw [hpath, trail_append_singleton, List.append_assoc, List.cons_append]

/-- The path of a directory is made of the names that lead to it. -/
theorem pathOf_eq_ok_iff {path : Bytes} : t.pathOf id = .ok path ↔
    ∃ names, t.descend? Tree.root names = some id ∧ path = spell names := by
  constructor
  · intro hpath
    obtain ⟨names, hnames, heq⟩ := h.descend?_of_climb hpath
    rw [List.append_nil] at heq
    exact ⟨names, hnames, heq⟩
  · rintro ⟨names, hnames, rfl⟩
    have hfuel : names.length < t.nodes.size + 1 :=
      Nat.lt_succ_of_lt (h.length_lt_of_descend? hnames)
    rw [pathOf, h.climb_of_descend? hfuel hnames, List.append_nil]
    rfl

end Sound

end Tree

end CommandShell.Machine
