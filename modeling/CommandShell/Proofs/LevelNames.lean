import CommandShell.LogLevel
import Mathlib

/-!
# Names of log levels

The name of a level may be written in small and in capital letters and with white space around it.
It is compared in lower case, and the lower-case mapping knows letters of all scripts, among them
some outside of ASCII that become letters of ASCII. None of them helps to write a name: the sign of
the kelvin becomes a k, which is in no name, and the capital i with a dot does not become an i
alone. Main statements: trimming removes the white space at both ends and nothing else
(`Text.isCore_iff`), the lower-case form of a text is a name exactly if the two are equal up to the
case of ASCII letters (`lowerCharsAfter_eq_iff`), and what that means for the reading of levels
(`LogLevel.naming_read`).
-/

namespace CommandShell

namespace Text

/-! ## Trimmed texts -/

/-- What is left of a text without the white space at both ends. -/
structure IsCore (text core : List Char) : Prop where
  /-- Only white space is missing. -/
  parts : ∃ before after, text = before ++ core ++ after ∧
    (∀ c ∈ before, whiteSpace.contains c = true) ∧ ∀ c ∈ after, whiteSpace.contains c = true
  /-- What is left does not begin with white space. -/
  front : ∀ c, core.head? = some c → whiteSpace.contains c = false
  /-- It does not end with white space. -/
  back : ∀ c, core.getLast? = some c → whiteSpace.contains c = false

theorem trimBack_eq_rdropWhile (cs : List Char) :
    trimBack cs = cs.rdropWhile whiteSpace.contains := rfl

/-- Behind something that does not end with white space, white space is removed in full. -/
theorem trimBack_append {core after : List Char}
    (hback : ∀ c, core.getLast? = some c → whiteSpace.contains c = false)
    (hafter : ∀ c ∈ after, whiteSpace.contains c = true) : trimBack (core ++ after) = core := by
  have hspace : ∀ c ∈ after.reverse, whiteSpace.contains c = true := fun c hc =>
    hafter c (List.mem_reverse.1 hc)
  rw [trimBack, trimFront, List.reverse_append, List.dropWhile_append_of_pos hspace]
  cases hreverse : core.reverse with
  | nil => rw [List.dropWhile_nil, ← hreverse, List.reverse_reverse]
  | cons c rest =>
    have hlast : core.getLast? = some c := by rw [← List.head?_reverse, hreverse]; rfl
    have hstop : ¬ whiteSpace.contains c = true := by rw [hback c hlast]; exact Bool.false_ne_true
    rw [List.dropWhile_cons_of_neg hstop, ← hreverse, List.reverse_reverse]

/-- Trimming removes the white space at both ends, and there is only one way to do so. -/
theorem isCore_iff {text core : List Char} : IsCore text core ↔ trimChars text = core := by
  constructor
  · rintro ⟨⟨before, after, rfl, hbefore, hafter⟩, hfront, hback⟩
    rw [trimChars, trimFront, List.append_assoc, List.dropWhile_append_of_pos hbefore]
    cases core with
    | nil =>
      rw [List.nil_append, List.dropWhile_eq_nil_iff.2 hafter]
      rfl
    | cons c rest =>
      have hstop : ¬ whiteSpace.contains c = true := by
        rw [hfront c rfl]
        exact Bool.false_ne_true
      rw [List.cons_append, List.dropWhile_cons_of_neg hstop, ← List.cons_append]
      exact trimBack_append hback hafter
  · rintro rfl
    refine ⟨⟨text.takeWhile whiteSpace.contains,
      (trimFront text).rtakeWhile whiteSpace.contains, ?_, ?_, ?_⟩, ?_, ?_⟩
    · rw [List.append_assoc, trimChars, trimBack_eq_rdropWhile,
        List.rdropWhile_append_rtakeWhile, takeWhile_append_trimFront]
    · exact fun c hc => List.mem_takeWhile_imp hc
    · exact fun c hc => List.mem_rtakeWhile_imp hc
    · intro c hc
      obtain ⟨rest, hrest⟩ := List.head?_eq_some_iff.1 hc
      have hparts : (trimFront text).rdropWhile whiteSpace.contains ++
          (trimFront text).rtakeWhile whiteSpace.contains = trimFront text :=
        List.rdropWhile_append_rtakeWhile
      rw [← trimBack_eq_rdropWhile, ← trimChars, hrest, List.cons_append] at hparts
      exact whiteSpace_head_trimFront hparts.symm
    · intro c hc
      have hne : trimChars text ≠ [] := by
        intro hnil
        rw [hnil] at hc
        cases hc
      have hlast := List.rdropWhile_last_not whiteSpace.contains (trimFront text) hne
      rw [List.getLast?_eq_some_getLast hne, Option.some.injEq] at hc
      rw [← hc]
      exact Bool.eq_false_iff.2 hlast

/-! ## Lower case -/

/-- Two texts are equal up to the case of ASCII letters. -/
def EqUpToCase (a b : List Char) : Prop := a.map Char.toLower = b.map Char.toLower

/-- A small letter of ASCII other than the k: no character but the letter and its capital has it as
its lower-case form. -/
def IsOwnForm (d : Char) : Prop := 97 ≤ d.toNat ∧ d.toNat ≤ 122 ∧ d ≠ 'k'

instance (d : Char) : Decidable (IsOwnForm d) := inferInstanceAs (Decidable (_ ∧ _ ∧ _))

/-- The lower-case forms of characters outside of ASCII are outside of ASCII, that of the sign of
the kelvin apart. -/
theorem caseRuns_apart : ∀ run ∈ caseRuns, run.last < 128 ∨ (128 : Int) ≤ run.first + run.offset ∨
    run.first = run.last ∧ Char.ofNat (run.lower run.first) = 'k' := by
  decide +kernel

theorem toLower_of_isOwnForm {d : Char} (h : IsOwnForm d) : d.toLower = d := by
  rw [Char.toLower, dif_neg]
  rintro ⟨-, hlast⟩
  have hle : d.toNat ≤ 90 := hlast
  exact absurd (Nat.le_trans h.1 hle) (by decide)

/-- A character that is a small letter of ASCII up to its case is one of ASCII. -/
theorem lt_of_toLower {c d : Char} (hd : IsOwnForm d) (h : c.toLower = d) : c.toNat < 128 := by
  rw [Char.toLower] at h
  split at h
  · next hupper =>
    have hle : c.toNat ≤ 90 := hupper.2
    omega
  · obtain ⟨-, hlast, -⟩ := hd
    rw [h]
    omega

/-- It is a letter of ASCII. -/
theorem isAlpha_of_toLower {c d : Char} (hd : IsOwnForm d) (h : c.toLower = d) :
    c.isAlpha = true := by
  rw [Char.toLower] at h
  rw [Char.isAlpha, Bool.or_eq_true]
  split at h
  · next hupper => exact Or.inl (by simpa [Char.isUpper] using hupper)
  · obtain ⟨hfirst, hlast, -⟩ := hd
    rw [h, Char.isLower, Bool.and_eq_true, decide_eq_true_eq, decide_eq_true_eq]
    exact Or.inr ⟨hfirst, hlast⟩

/-- In ASCII only the case of letters changes. -/
theorem lowerChar_of_lt {c : Char} (h : c.toNat < 128) : lowerChar c = c.toLower := by
  have hascii := lowerChar_of_ascii c.toNat h
  rwa [Char.ofNat_toNat] at hascii

/-- A number stands for the character that has it, or for none. -/
theorem toNat_ofNat_cases (n : Nat) : (Char.ofNat n).toNat = n ∨ (Char.ofNat n).toNat = 0 := by
  rw [Char.ofNat]
  split
  · exact Or.inl rfl
  · exact Or.inr rfl

/-- A character is its own lower-case form, or the form is found in a run. -/
theorem lowerChar_cases (c : Char) : lowerChar c = c ∨
    ∃ run ∈ caseRuns, run.first ≤ c.toNat ∧ c.toNat ≤ run.last ∧
      lowerChar c = Char.ofNat (run.lower c.toNat) := by
  rw [lowerChar]
  cases hfind : caseRuns.find? (·.contains c.toNat) with
  | none => exact Or.inl rfl
  | some run =>
    have hcontains := List.find?_some hfind
    simp only [CaseRun.contains, Bool.and_eq_true, decide_eq_true_eq] at hcontains
    exact Or.inr ⟨run, List.mem_of_find?_eq_some hfind, hcontains.1.1, hcontains.1.2, rfl⟩

/-- The lower-case form of a character outside of ASCII is none of these letters. -/
theorem not_isOwnForm_lowerChar {c : Char} (h : 128 ≤ c.toNat) : ¬ IsOwnForm (lowerChar c) := by
  rintro ⟨hfirst, hlast, hk⟩
  rcases lowerChar_cases c with heq | ⟨run, hrun, hlow, hhigh, heq⟩
  · rw [heq] at hlast
    omega
  · rw [heq] at hfirst hlast hk
    rcases caseRuns_apart run hrun with hascii | hfar | ⟨hone, hkelvin⟩
    · omega
    · have hge : 128 ≤ run.lower c.toNat := by
        rw [CaseRun.lower, Int.ofNat_eq_natCast]
        omega
      rcases toNat_ofNat_cases (run.lower c.toNat) with hsame | hnone <;> omega
    · have hsign : c.toNat = run.first := by omega
      rw [hsign] at hk
      exact hk hkelvin

/-- The lower-case form of a character is such a letter exactly if the two are equal up to the case
of an ASCII letter. -/
theorem lowerChar_eq_iff {c d : Char} (hd : IsOwnForm d) : lowerChar c = d ↔ c.toLower = d := by
  rcases Nat.lt_or_ge c.toNat 128 with hlt | hge
  · rw [lowerChar_of_lt hlt]
  · constructor
    · rintro rfl
      exact absurd hd (not_isOwnForm_lowerChar hge)
    · intro h
      exact absurd (lt_of_toLower hd h) (Nat.not_lt_of_le hge)

/-- The lower-case form of a text is made of such letters exactly if the two are equal up to the
case of ASCII letters. -/
theorem lowerCharsAfter_eq_iff {before cs ds : List Char} (hds : ∀ d ∈ ds, IsOwnForm d) :
    lowerCharsAfter before cs = ds ↔ cs.map Char.toLower = ds := by
  induction cs generalizing before ds with
  | nil => rfl
  | cons c cs ih =>
    rw [lowerCharsAfter, List.map_cons]
    split
    · -- Neither form of the sigma is such a letter, and neither is the capital one.
      next hsigma =>
      rw [eq_of_beq hsigma]
      constructor
      · rintro rfl
        have hform := hds _ List.mem_cons_self
        split at hform <;> exact absurd hform (by decide)
      · rintro rfl
        exact absurd (hds _ List.mem_cons_self) (by decide)
    · split
      · -- The dot that comes with the small i is no letter.
        next hdotted =>
        rw [eq_of_beq hdotted]
        constructor
        · rintro rfl
          exact absurd (hds _ (List.mem_cons_of_mem _ List.mem_cons_self)) (by decide)
        · rintro rfl
          exact absurd (hds _ List.mem_cons_self) (by decide)
      · cases ds with
        | nil => simp
        | cons d ds =>
          rw [List.singleton_append, List.cons.injEq, List.cons.injEq,
            lowerChar_eq_iff (hds d List.mem_cons_self),
            ih fun d hd => hds d (List.mem_cons_of_mem _ hd)]

end Text

namespace LogLevel

/-! ## Names -/

/-- The names of a level. -/
def names : LogLevel → List String
  | warn => ["warn", "warning"]
  | level => [level.name]

theorem ofName?_eq_some_iff {name : String} {level : LogLevel} :
    ofName? name = some level ↔ name ∈ level.names := by
  cases level <;> grind [ofName?, names, LogLevel.name]

/-- Names are made of small letters that no other script can stand for. -/
theorem isOwnForm_of_mem_names {level : LogLevel} {name : String} (h : name ∈ level.names) :
    ∀ d ∈ name.toList, Text.IsOwnForm d := by
  have hall : ∀ name ∈ level.names,
      (name.toList.all fun d => decide (Text.IsOwnForm d)) = true := by
    cases level <;> decide
  exact fun d hd => of_decide_eq_true (List.all_eq_true.1 (hall name h) d hd)

/-- A level is written as one of its names, whatever the case of the ASCII letters. -/
def Spells (level : LogLevel) (word : List Char) : Prop :=
  ∃ name ∈ level.names, Text.EqUpToCase word name.toList

/-- The normal form of a text is a name of a level exactly if the level is written there. -/
theorem ofName?_normalize_iff {text : String} {level : LogLevel} :
    ofName? (normalize text) = some level ↔ level.Spells (Text.trimChars text.toList) := by
  have hname : ∀ name ∈ level.names, normalize text = name ↔
      Text.EqUpToCase (Text.trimChars text.toList) name.toList := by
    intro name hmem
    have hown := isOwnForm_of_mem_names hmem
    have hsmall : name.toList.map Char.toLower = name.toList :=
      (List.map_congr_left fun d hd => Text.toLower_of_isOwnForm (hown d hd)).trans (List.map_id _)
    rw [Text.EqUpToCase, hsmall, ← Text.lowerCharsAfter_eq_iff hown, normalize, Text.lower,
      Text.trim, String.toList_ofList, ← String.toList_inj, String.toList_ofList]
  rw [ofName?_eq_some_iff]
  constructor
  · exact fun hmem => ⟨_, hmem, (hname _ hmem).1 rfl⟩
  · rintro ⟨name, hmem, hequal⟩
    rwa [(hname name hmem).2 hequal]

/-- What it means that levels are read by their names. -/
structure Naming (text : String) : Prop where
  /-- There is exactly one text that is left without the white space at both ends. -/
  core : ∃! core, Text.IsCore text.toList core
  /-- A level is read exactly if one of its names is left, up to the case of ASCII letters. -/
  accepted : ∀ core, Text.IsCore text.toList core →
    ∀ level, read text = .ok level ↔ level.Spells core
  /-- Nothing is accepted that holds anything but white space and letters of ASCII. -/
  letters : ∀ level, read text = .ok level →
    ∀ c ∈ text.toList, Text.whiteSpace.contains c = true ∨ c.isAlpha = true
  /-- Everything else is refused, and the refusal shows what is left in lower case. -/
  refused : ∀ core, Text.IsCore text.toList core → (∀ level : LogLevel, ¬ level.Spells core) →
    read text = .error ("unknown log level `" ++ Text.lower (String.ofList core) ++ "`")

/-- Every text is read like this. -/
theorem naming_read (text : String) : Naming text := by
  have hread : ∀ level, read text = .ok level ↔ level.Spells (Text.trimChars text.toList) := by
    intro level
    rw [← ofName?_normalize_iff, read]
    cases ofName? (normalize text) <;> simp
  refine ⟨⟨_, Text.isCore_iff.2 rfl, fun core hcore => (Text.isCore_iff.1 hcore).symm⟩, ?_, ?_, ?_⟩
  · intro core hcore level
    rw [hread, Text.isCore_iff.1 hcore]
  · intro level hlevel c hc
    obtain ⟨name, hmem, hequal⟩ := (hread level).1 hlevel
    have hcore : Text.IsCore text.toList (Text.trimChars text.toList) := Text.isCore_iff.2 rfl
    obtain ⟨⟨before, after, hparts, hbefore, hafter⟩, -, -⟩ := hcore
    rw [hparts, List.mem_append, List.mem_append] at hc
    rcases hc with (hc | hc) | hc
    · exact Or.inl (hbefore c hc)
    · have hletter := List.mem_map_of_mem (f := Char.toLower) hc
      rw [hequal] at hletter
      obtain ⟨d, hd, hsame⟩ := List.mem_map.1 hletter
      have hown := isOwnForm_of_mem_names hmem d hd
      rw [Text.toLower_of_isOwnForm hown] at hsame
      exact Or.inr (Text.isAlpha_of_toLower hown hsame.symm)
    · exact Or.inl (hafter c hc)
  · intro core hcore hnone
    have hrefused : ofName? (normalize text) = none := by
      rw [Option.eq_none_iff_forall_ne_some]
      intro level hlevel
      rw [ofName?_normalize_iff, Text.isCore_iff.1 hcore] at hlevel
      exact hnone level hlevel
    rw [read, hrefused, ← Text.isCore_iff.1 hcore]
    rfl

example : (read "\u0130nfo").toOption = none := by decide +kernel

end LogLevel

end CommandShell
