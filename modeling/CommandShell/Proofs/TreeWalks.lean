import CommandShell.Proofs.TreePaths

/-!
# Following paths

Where a path leads, and how this is related to the path of a directory. Main statements: from a
directory that can be reached from the root a path leads to another one, or to an entry of one
(`Tree.Sound.reached_of_walk`); the absolute path of something leads to a directory only if it is
the path of this directory (`Tree.Sound.pathOf_of_canonicalize`); and every directory that is
opened has an absolute path (`Tree.Sound.canonicalize_of_openDirectory`), by which it is opened
again unless it is too long (`Tree.Sound.openDirectory_of_pathOf`).
-/

namespace CommandShell.Machine

open Ascii

namespace Tree

variable {t : Tree} {id d : NodeId} {name : Name} {names : List Name}

/-- A node that is no link. -/
def IsNoLink (t : Tree) (id : NodeId) : Prop := ∀ target, t.content? id ≠ some (.link target)

theorem isNoLink_of_directory? (h : (t.directory? id).isSome) : t.IsNoLink id := by
  intro target hcontent
  rw [directory?, hcontent] at h
  cases h

/-- An entry that is no link is passed, or is the end. -/
theorem walk_of_isNoLink {follow : Bool} {links : Nat} {part : Name} {rest : List Name}
    {above : NodeId} {entries : List (Name × NodeId)} (hd : t.directory? d = some (above, entries))
    (hdot : part ≠ dot) (hdots : part ≠ dotDot) (hlong : ¬ maxName < part.length)
    (hlookup : entries.lookup part = some id) (hlink : t.IsNoLink id) :
    t.walk follow links d (part :: rest) =
      if rest.isEmpty then .ok ⟨d, part, some id, links⟩ else t.walk follow links id rest := by
  rw [walk, hd]
  simp only [if_neg hdot, if_neg hdots, if_neg hlong, hlookup]
  split
  · next target hcontent => exact absurd hcontent (hlink target)
  · rfl

/-- In a tree in order a proper name is all that an entry needs. -/
theorem Sound.walk_cons (h : t.Sound) {links : Nat} {rest : List Name} (hholds : t.Holds d name id)
    (hlink : t.IsNoLink id) :
    t.walk true links d (name :: rest) =
      if rest.isEmpty then .ok ⟨d, name, some id, links⟩ else t.walk true links id rest := by
  have hname := h.isEntryName_of_holds hholds
  obtain ⟨above, entries, hd, hlookup⟩ := hholds
  have hlong : ¬ maxName < name.length := Nat.not_lt.2 hname.length_le
  exact walk_of_isNoLink hd hname.ne_dot hname.ne_dotDot hlong hlookup hlink

/-- Names are followed from one directory to the next. -/
theorem Sound.walk_append (h : t.Sound) {last : NodeId} {links : Nat} {rest : List Name}
    (hnames : t.descend? d names = some last) (hrest : rest ≠ []) :
    t.walk true links d (names ++ rest) = t.walk true links last rest := by
  induction names generalizing d with
  | nil =>
    obtain ⟨rfl, -⟩ := descend?_nil_iff.1 hnames
    rw [List.nil_append]
  | cons name names ih =>
    obtain ⟨next, hnext, hnames⟩ := descend?_cons_iff.1 hnames
    have hdirectory := isNoLink_of_directory? (isSome_directory?_of_descend?_start hnames)
    have hempty : (names ++ rest).isEmpty = false := by simp [hrest]
    rw [List.cons_append, h.walk_cons hnext hdirectory, hempty,
      if_neg Bool.false_ne_true, ih hnames]

/-- The path of names leads to the entry that it names. -/
theorem Sound.find_trail (h : t.Sound) (start : NodeId)
    (hnames : t.descend? root names = some d) (hholds : t.Holds d name id)
    (hlink : t.IsNoLink id) (hshort : (trail (names ++ [name])).length < maxPath) :
    t.find start (trail (names ++ [name])) = .ok id := by
  have hne : names ++ [name] ≠ [] := by simp
  have hproper : ∀ other ∈ names ++ [name], IsEntryName other := by
    intro other hother
    rcases List.mem_append.1 hother with hother | hother
    · exact h.isEntryName_of_descend? hnames other hother
    · rw [List.mem_singleton.1 hother]
      exact h.isEntryName_of_holds hholds
  have hwalk : t.walk true maxLinks root (names ++ [name]) = .ok ⟨d, name, some id, maxLinks⟩ := by
    rw [h.walk_append hnames (List.cons_ne_nil _ _), h.walk_cons hholds hlink]
    rfl
  have habsolute := isAbsolute_spell (names ++ [name])
  rw [spell_of_ne_nil hne] at habsolute
  have hempty : (trail (names ++ [name])).isEmpty = false := by
    simpa using trail_ne_nil hne
  rw [find, locate, hempty, if_neg Bool.false_ne_true, if_neg (Nat.not_le.2 hshort), origin,
    habsolute, if_pos rfl, partsOf_trail hne hproper, hwalk]

/-- The root is found at its path. -/
theorem Sound.find_root (h : t.Sound) (start : NodeId) : t.find start [slash] = .ok root := by
  obtain ⟨entries, hroot⟩ := h.top
  have hparts : partsOf [slash] = [dot] := rfl
  have hwalk : t.walk true maxLinks root [dot] = .ok ⟨root, dot, some root, maxLinks⟩ := by
    rw [walk, hroot]
    simp only [if_pos]
    rw [walk]
  have horigin : origin start [slash] = root := rfl
  rw [find, locate, if_neg (by decide), if_neg (by decide), hparts, horigin, hwalk]

/-- A directory is opened at its path, unless this is too long. -/
theorem Sound.openDirectory_of_pathOf (h : t.Sound) {path : Bytes} (start : NodeId)
    (hpath : t.pathOf id = .ok path) (hshort : path.length < maxPath) :
    t.openDirectory start path = .ok id := by
  obtain ⟨names, hnames, rfl⟩ := h.pathOf_eq_ok_iff.1 hpath
  have hdirectory := isSome_directory?_of_descend? hnames
  have hfind : t.find start (spell names) = .ok id := by
    rcases List.eq_nil_or_concat names with rfl | ⟨front, name, rfl⟩
    · obtain ⟨rfl, -⟩ := descend?_nil_iff.1 hnames
      exact h.find_root start
    · rw [List.concat_eq_append] at hnames hshort ⊢
      have hne : front ++ [name] ≠ [] := by simp
      rw [spell_of_ne_nil hne] at hshort ⊢
      obtain ⟨last, hfront, hholds, hsome⟩ := descend?_append_singleton_iff.1 hnames
      exact h.find_trail start hfront hholds (isNoLink_of_directory? hsome) hshort
  rw [openDirectory, hfind]
  simp only [hdirectory, if_true]

section

variable (h : IsEntryName name)
include h

theorem isAbsolute_of_isEntryName : isAbsolute name = false := by
  rw [isAbsolute, beq_eq_false_iff_ne]
  intro heq
  exact h.slash_notMem (List.mem_of_head? heq)

theorem endsInSlash_of_isEntryName : endsInSlash name = false := by
  rw [endsInSlash, beq_eq_false_iff_ne]
  intro heq
  exact h.slash_notMem (List.mem_of_getLast? heq)

theorem namesIn_of_isEntryName : namesIn name = [name] := by
  rw [namesIn, splitAt_of_notMem h.slash_notMem]
  simp [h.ne_nil]

theorem length_lt_maxPath_of_isEntryName : name.length < maxPath :=
  Nat.lt_of_le_of_lt h.length_le (by decide)

end

/-- A name alone leads to what has it in the directory where the path begins. -/
theorem Sound.find_of_holds (h : t.Sound) (hholds : t.Holds d name id) (hlink : t.IsNoLink id) :
    t.find d name = .ok id := by
  have hname := h.isEntryName_of_holds hholds
  have hempty : name.isEmpty = false := by simpa using hname.ne_nil
  have hparts : partsOf name = [name] := by
    rw [partsOf, endsInSlash_of_isEntryName hname, if_neg Bool.false_ne_true,
      namesIn_of_isEntryName hname]
  have hwalk : t.walk true maxLinks d [name] = .ok ⟨d, name, some id, maxLinks⟩ := by
    rw [h.walk_cons hholds hlink]
    rfl
  rw [find, locate, hempty, if_neg Bool.false_ne_true,
    if_neg (Nat.not_le.2 (length_lt_maxPath_of_isEntryName hname)), origin,
    isAbsolute_of_isEntryName hname, if_neg Bool.false_ne_true, hparts, hwalk]

/-- A directory is opened by its name. -/
theorem Sound.openDirectory_of_holds (h : t.Sound) (hholds : t.Holds d name id)
    (hdirectory : (t.directory? id).isSome) : t.openDirectory d name = .ok id := by
  rw [openDirectory, h.find_of_holds hholds (isNoLink_of_directory? hdirectory)]
  simp only [hdirectory, if_true]

/-- A file is opened for writing by its name. -/
theorem Sound.openToMake_of_holds (h : t.Sound) (hholds : t.Holds d name id) (hlink : t.IsNoLink id)
    (hdirectory : t.directory? id = none) (mode : Nat) (time : Instant) :
    t.openToMake d name mode time = .ok (id, t) := by
  have hname := h.isEntryName_of_holds hholds
  have hempty : name.isEmpty = false := by simpa using hname.ne_nil
  obtain ⟨above, entries, hd, hlookup⟩ := hholds
  have hplace : t.placeToMake maxLinks d name = .ok ⟨d, name, some id, maxLinks⟩ := by
    have hwalk : t.walk true maxLinks d [] = .ok ⟨d, dot, some d, maxLinks⟩ := by rw [walk]
    have hproper : (decide (name = dot) || decide (name = dotDot) || endsInSlash name) = false := by
      simp [hname.ne_dot, hname.ne_dotDot, endsInSlash_of_isEntryName hname]
    rw [placeToMake, namesIn_of_isEntryName hname, origin, isAbsolute_of_isEntryName hname]
    simp only [List.getLast?_singleton, List.dropLast_singleton, Bool.false_eq_true, if_false,
      hwalk, hd, hproper, hlookup, if_neg (Nat.not_lt.2 hname.length_le)]
    split
    · next hcontent _ => exact absurd hcontent (hlink _)
    · next hcontent _ => exact absurd hcontent (hlink _)
    · rfl
  rw [openToMake, hempty, if_neg Bool.false_ne_true,
    if_neg (Nat.not_le.2 (length_lt_maxPath_of_isEntryName hname)), hplace]
  simp only
  split
  · next up inside hcontent =>
    rw [directory?, hcontent] at hdirectory
    cases hdirectory
  · rfl

/-- What is reached at the end of a path. -/
inductive Reached (t : Tree) (place : Place) (id : NodeId) : Prop
  /-- A directory. -/
  | directory (h : t.Placed id)
  /-- Something else in a directory. -/
  | entry (h : t.Placed place.directory) (hholds : t.Holds place.directory place.name id)
    (hlink : t.IsNoLink id) (hother : t.directory? id = none)

/-- The directory above a placed one is placed. -/
theorem Sound.placed_above (h : t.Sound) {above : NodeId} {entries : List (Name × NodeId)}
    (hplaced : t.Placed d) (hd : t.directory? d = some (above, entries)) : t.Placed above := by
  obtain ⟨names, hnames⟩ := hplaced
  rcases List.eq_nil_or_concat names with rfl | ⟨front, name, rfl⟩
  · obtain ⟨rfl, -⟩ := descend?_nil_iff.1 hnames
    obtain ⟨inside, htop⟩ := h.top
    rw [htop] at hd
    cases hd
    exact h.placed_root
  · rw [List.concat_eq_append] at hnames
    obtain ⟨last, hfront, hholds, -⟩ := descend?_append_singleton_iff.1 hnames
    rw [h.above_of_holds hholds hd]
    exact ⟨front, hfront⟩

/-- A directory in a placed one is placed. -/
theorem Placed.of_holds (hplaced : t.Placed d) (hholds : t.Holds d name id)
    (hdirectory : (t.directory? id).isSome) : t.Placed id := by
  obtain ⟨names, hnames⟩ := hplaced
  exact ⟨names ++ [name], descend?_append_singleton_iff.2 ⟨d, hnames, hholds, hdirectory⟩⟩

/-- No path leads beyond what is no directory. -/
theorem isSome_directory?_of_walk {links : Nat} {parts : List Name} {place : Place}
    (hparts : parts ≠ []) (hwalk : t.walk true links d parts = .ok place) :
    (t.directory? d).isSome := by
  obtain ⟨part, rest, rfl⟩ := List.exists_cons_of_ne_nil hparts
  rw [walk] at hwalk
  cases hd : t.directory? d with
  | none => simp [hd] at hwalk
  | some found => rfl

/-- From a directory that is placed, everything that a path leads to is placed. -/
theorem Sound.reached_of_walk (h : t.Sound) {links : Nat} {parts : List Name} {place : Place}
    (hplaced : t.Placed d) (hwalk : t.walk true links d parts = .ok place)
    (hnode : place.node = some id) : t.Reached place id := by
  fun_induction Tree.walk t true links d parts
  case case1 =>
    -- The path ends in the directory itself.
    cases hwalk
    cases hnode
    exact .directory hplaced
  case case3 ih => exact ih hplaced hwalk
  case case4 above entries hd _ ih => exact ih (h.placed_above hplaced hd) hwalk
  case case8 hfollow => simp at hfollow
  case case10 target hlink hfollow links ih =>
    refine ih ?_ hwalk
    split
    · exact h.placed_root
    · exact hplaced
  case case11 current part rest above entries hd hdot hdots hlong node hlookup hempty hlink =>
    cases hwalk
    cases hnode
    cases hdirectory : t.directory? id with
    | none => exact .entry hplaced ⟨above, entries, hd, hlookup⟩ hlink hdirectory
    | some found =>
      exact .directory (hplaced.of_holds ⟨above, entries, hd, hlookup⟩ (by rw [hdirectory]; rfl))
  case case12 current part rest above entries hd hdot hdots hlong node hlookup hrest hlink ih =>
    have hdirectory := isSome_directory?_of_walk (by simpa using hrest) hwalk
    exact ih (hplaced.of_holds ⟨above, entries, hd, hlookup⟩ hdirectory) hwalk
  all_goals cases hwalk
  -- Here the path ends in a name that nothing has.
  cases hnode

/-- The absolute path of what a path has led to. -/
def pathAt (t : Tree) (place : Place) : Except Errno Bytes :=
  match place.node with
  | none => .error .noEntry
  | some id =>
    if (t.directory? id).isSome then t.pathOf id
    else (t.pathOf place.directory).map fun above =>
      (if above = [slash] then [] else above) ++ slash :: place.name

/-- A path is followed to its end, after looking for the path of the place where it begins. -/
theorem canonicalize_of_ne_nil {start : NodeId} {path : Bytes} (hne : path ≠ []) :
    t.canonicalize start path =
      (if isAbsolute path then .ok [] else t.pathOf start).bind fun _ =>
        (t.walk true maxLinks (origin start path) (partsOf path)).bind t.pathAt := by
  have hempty : path.isEmpty = false := by simpa using hne
  have hend : ∀ place : Place, (match place.node with
      | none => .error .noEntry
      | some id =>
        if (t.directory? id).isSome then t.pathOf id
        else (t.pathOf place.directory).bind fun above =>
          .ok ((if above = [slash] then [] else above) ++ slash :: place.name)) =
      t.pathAt place := by
    intro place
    rw [pathAt]
    cases place.node with
    | none => rfl
    | some id => cases t.pathOf place.directory <;> rfl
  simp only [canonicalize, hempty, Bool.false_eq_true, if_false]
  cases isAbsolute path with
  | false =>
    cases t.pathOf start with
    | error errno => rfl
    | ok here =>
      cases t.walk true maxLinks (origin start path) (partsOf path) with
      | error errno => rfl
      | ok place => exact hend place
  | true =>
    cases t.walk true maxLinks (origin start path) (partsOf path) with
    | error errno => rfl
    | ok place => exact hend place

/-- The absolute path is that of the end of a path. A path that does not begin at the root needs a
directory to begin in that has a path. -/
theorem canonicalize_eq_ok_iff {start : NodeId} {path canonical : Bytes} :
    t.canonicalize start path = .ok canonical ↔ path ≠ [] ∧
      (isAbsolute path = false → ∃ here, t.pathOf start = .ok here) ∧
      ∃ place, t.walk true maxLinks (origin start path) (partsOf path) = .ok place ∧
        t.pathAt place = .ok canonical := by
  by_cases hne : path = []
  · subst hne
    simp [canonicalize, throw, throwThe, MonadExceptOf.throw, bind, Except.bind]
  · rw [canonicalize_of_ne_nil hne]
    cases isAbsolute path <;> cases t.pathOf start <;>
      cases t.walk true maxLinks (origin start path) (partsOf path) <;> simp [hne, Except.bind]

/-- The place from which a path counts is placed, if the path has an absolute one. -/
theorem Sound.placed_origin (h : t.Sound) {start : NodeId} {path : Bytes}
    (hstart : isAbsolute path = false → ∃ here, t.pathOf start = .ok here) :
    t.Placed (origin start path) := by
  rw [origin]
  split
  · exact h.placed_root
  · next hrelative =>
    obtain ⟨here, hhere⟩ := hstart (by simpa using hrelative)
    obtain ⟨names, hnames, -⟩ := h.pathOf_eq_ok_iff.1 hhere
    exact ⟨names, hnames⟩

/-- What is found was followed to its end. -/
theorem walk_of_find {start : NodeId} {path : Bytes} (hfind : t.find start path = .ok id) :
    path ≠ [] ∧ path.length < maxPath ∧ ∃ place,
      t.walk true maxLinks (origin start path) (partsOf path) = .ok place ∧
        place.node = some id := by
  rw [find, locate] at hfind
  by_cases hempty : path.isEmpty
  · simp [hempty] at hfind
  · by_cases hlong : maxPath ≤ path.length
    · simp [hempty, hlong] at hfind
    · rw [if_neg hempty, if_neg hlong] at hfind
      refine ⟨by simpa using hempty, Nat.lt_of_not_le hlong, ?_⟩
      cases hwalk : t.walk true maxLinks (origin start path) (partsOf path) with
      | error errno => simp [hwalk] at hfind
      | ok place =>
        cases hnode : place.node with
        | none => simp [hwalk, hnode] at hfind
        | some node =>
          simp only [hwalk, hnode, Except.ok.injEq] at hfind
          exact ⟨place, rfl, hnode.trans (congrArg some hfind)⟩

theorem openDirectory_eq_ok_iff {start : NodeId} {path : Bytes} :
    t.openDirectory start path = .ok id ↔
      t.find start path = .ok id ∧ (t.directory? id).isSome := by
  rw [openDirectory]
  cases hfind : t.find start path with
  | error errno => simp
  | ok node =>
    simp only [Except.ok.injEq]
    by_cases hdirectory : (t.directory? node).isSome
    · rw [if_pos hdirectory]
      constructor
      · rintro ⟨⟩
        exact ⟨rfl, hdirectory⟩
      · rintro ⟨rfl, -⟩
        rfl
    · rw [if_neg hdirectory]
      constructor
      · rintro ⟨⟩
      · rintro ⟨rfl, hsome⟩
        exact absurd hsome hdirectory

/-- A directory that is opened at the absolute path of something is this thing. -/
theorem Sound.walk_of_canonicalize (h : t.Sound) {start start' : NodeId}
    {path canonical : Bytes} (hcanonical : t.canonicalize start path = .ok canonical)
    (hopen : t.openDirectory start' canonical = .ok d) :
    ∃ place, t.walk true maxLinks (origin start path) (partsOf path) = .ok place ∧
      place.node = some d := by
  obtain ⟨hfind, hsome⟩ := openDirectory_eq_ok_iff.1 hopen
  obtain ⟨-, hshort, -⟩ := walk_of_find hfind
  obtain ⟨-, hstart, place, hwalk, hpath⟩ := canonicalize_eq_ok_iff.1 hcanonical
  refine ⟨place, hwalk, ?_⟩
  rw [pathAt] at hpath
  cases hnode : place.node with
  | none => simp [hnode] at hpath
  | some id =>
    simp only [hnode] at hpath
    split at hpath
    · have hid := h.openDirectory_of_pathOf start' hpath hshort
      rw [hopen] at hid
      cases hid
      rfl
    · next hother =>
      -- Something that is no directory is found at its path again, and is not opened.
      cases h.reached_of_walk (h.placed_origin hstart) hwalk hnode with
      | directory hplaced =>
        obtain ⟨names, hnames⟩ := hplaced
        exact absurd (isSome_directory?_of_descend? hnames) hother
      | entry hplaced hholds hlink hnone =>
        cases habove : t.pathOf place.directory with
        | error errno => simp [habove, Except.map] at hpath
        | ok above =>
          obtain ⟨names, hnames, rfl⟩ := h.pathOf_eq_ok_iff.1 habove
          have hspelled : canonical = trail (names ++ [place.name]) := by
            simp only [habove, Except.map, Except.ok.injEq] at hpath
            rw [← hpath, trail_append_singleton, before_spell (h.isEntryName_of_descend? hnames)]
          subst hspelled
          have hfound := h.find_trail start' hnames hholds hlink hshort
          rw [hfind] at hfound
          cases hfound
          exact absurd hsome hother

/-- A directory that is opened at an absolute path has this path. -/
theorem Sound.pathOf_of_canonicalize (h : t.Sound) {start start' : NodeId}
    {path canonical : Bytes} (hcanonical : t.canonicalize start path = .ok canonical)
    (hopen : t.openDirectory start' canonical = .ok d) : t.pathOf d = .ok canonical := by
  have hsome := (openDirectory_eq_ok_iff.1 hopen).2
  obtain ⟨place, hwalk, hnode⟩ := h.walk_of_canonicalize hcanonical hopen
  obtain ⟨-, -, _, hwalk', hpath⟩ := canonicalize_eq_ok_iff.1 hcanonical
  rw [hwalk] at hwalk'
  cases hwalk'
  simpa only [pathAt, hnode, hsome, if_true] using hpath

/-- A directory that is opened has an absolute path, and is found there. -/
theorem Sound.canonicalize_of_openDirectory (h : t.Sound) {start : NodeId} {path : Bytes}
    (hopen : t.openDirectory start path = .ok d)
    (hstart : isAbsolute path = false → ∃ here, t.pathOf start = .ok here) :
    ∃ canonical, t.pathOf d = .ok canonical ∧ t.canonicalize start path = .ok canonical := by
  obtain ⟨hfind, hsome⟩ := openDirectory_eq_ok_iff.1 hopen
  obtain ⟨hne, -, place, hwalk, hnode⟩ := walk_of_find hfind
  cases h.reached_of_walk (h.placed_origin hstart) hwalk hnode with
  | directory hplaced =>
    obtain ⟨names, hnames⟩ := hplaced
    have hpath : t.pathOf d = .ok (spell names) := h.pathOf_eq_ok_iff.2 ⟨names, hnames, rfl⟩
    refine ⟨spell names, hpath, canonicalize_eq_ok_iff.2 ⟨hne, hstart, place, hwalk, ?_⟩⟩
    rw [pathAt, hnode]
    simp only [hsome, if_true]
    exact hpath
  | entry hplaced hholds hlink hnone =>
    rw [hnone] at hsome
    cases hsome

end Tree

end CommandShell.Machine
