import CommandShell.Text.Integer

/-!
# Numerals

Which texts are read as integers, and as which ones, is said without the order in which their
characters are looked at: a numeral consists of digits with a sign in front of them or without one.
The reader stops as soon as the number leaves the range, but further digits only lead it farther
away. Main statements: a text is read as a number if it is a numeral of it and the number lies in
the range (`Text.readInteger_eq_ok_iff`), and the decimal form of a number is a numeral of it
(`Text.numeral_toString`).
-/

namespace CommandShell.Text

/-- One digit at least, and nothing else. -/
structure IsDigits (cs : List Char) : Prop where
  /-- There is a digit. -/
  nonempty : cs ≠ []
  /-- There is nothing but ASCII digits. -/
  digits : ∀ c ∈ cs, c.isDigit = true

/-- The number that digits stand for. -/
def valueOf (cs : List Char) : Nat := Nat.ofDigitChars 10 cs 0

/-- A text stands for a number. -/
inductive Numeral : List Char → Int → Prop
  /-- There is no sign. -/
  | plain {cs : List Char} (h : IsDigits cs) : Numeral cs (valueOf cs)
  /-- There is a plus in front. -/
  | plus {cs : List Char} (h : IsDigits cs) : Numeral ('+' :: cs) (valueOf cs)
  /-- There is a minus in front. -/
  | minus {cs : List Char} (h : IsDigits cs) : Numeral ('-' :: cs) (-valueOf cs)

/-- A numeral consists of digits and signs. -/
theorem Numeral.chars {cs : List Char} {n : Int} (h : Numeral cs n) :
    cs ≠ [] ∧ ∀ c ∈ cs, c.isDigit = true ∨ c = '+' ∨ c = '-' := by
  cases h with
  | plain h => exact ⟨h.nonempty, fun c hc => Or.inl (h.digits c hc)⟩
  | plus h =>
    refine ⟨List.cons_ne_nil _ _, List.forall_mem_cons.mpr ⟨Or.inr (Or.inl rfl), fun c hc => ?_⟩⟩
    exact Or.inl (h.digits c hc)
  | minus h =>
    refine ⟨List.cons_ne_nil _ _, List.forall_mem_cons.mpr ⟨Or.inr (Or.inr rfl), fun c hc => ?_⟩⟩
    exact Or.inl (h.digits c hc)

/-- The range of a signed word of 32 bits. -/
def InRange (n : Int) : Prop := minInteger ≤ n ∧ n ≤ maxInteger

theorem digit?_eq (c : Char) :
    digit? c = if c.isDigit then some ((c.toNat - '0'.toNat : Nat) : Int) else none := by
  have hdigit : ('0' ≤ c ∧ c ≤ '9') ↔ c.isDigit = true := Char.isDigit_iff_toNat.symm
  rw [digit?]
  by_cases h : c.isDigit = true
  · rw [if_pos (hdigit.mpr h), if_pos h]
  · rw [if_neg (mt hdigit.mp h), if_neg h]

/-- Further digits make a number no smaller. -/
theorem le_ofDigitChars (cs : List Char) (value : Nat) : value ≤ Nat.ofDigitChars 10 cs value := by
  induction cs generalizing value with
  | nil => exact Nat.le_refl _
  | cons c cs ih =>
    rw [Nat.ofDigitChars_cons]
    exact Nat.le_trans (by omega) (ih _)

/-- The number that a digit makes of the number before it. -/
def appendDigit (value : Nat) (c : Char) : Nat := 10 * value + (c.toNat - '0'.toNat)

/-- A reader of digits that stops as soon as the number is too long, and gives the number in some
form. -/
structure ReadsDigits (read : Nat → List Char → Except IntegerFault Int) (form : Nat → Int)
    (fits : Nat → Prop) : Prop where
  /-- Without further digits the number is complete. -/
  nil : ∀ value, read value [] = .ok (form value)
  /-- A digit is appended if the number still fits. -/
  digit : ∀ value c cs, c.isDigit = true → fits (appendDigit value c) →
    read value (c :: cs) = read (appendDigit value c) cs
  /-- Otherwise the number is refused. -/
  misfit : ∀ value c cs, c.isDigit = true → ¬ fits (appendDigit value c) →
    ∃ fault, read value (c :: cs) = .error fault
  /-- What is no digit is refused. -/
  other : ∀ value c cs, c.isDigit = false → ∃ fault, read value (c :: cs) = .error fault
  /-- A smaller number fits if a greater one does. -/
  antitone : ∀ value value', value ≤ value' → fits value' → fits value

/-- Such a reader accepts the digits of a number that fits. -/
theorem ReadsDigits.eq_ok_iff {read : Nat → List Char → Except IntegerFault Int}
    {form : Nat → Int} {fits : Nat → Prop} (h : ReadsDigits read form fits) (cs : List Char)
    {value : Nat} (hvalue : fits value) (n : Int) : read value cs = .ok n ↔
      (∀ c ∈ cs, c.isDigit = true) ∧ n = form (Nat.ofDigitChars 10 cs value) ∧
        fits (Nat.ofDigitChars 10 cs value) := by
  induction cs generalizing value with
  | nil =>
    rw [h.nil, Except.ok.injEq, Nat.ofDigitChars_nil]
    constructor
    · rintro rfl
      exact ⟨nofun, rfl, hvalue⟩
    · exact fun hn => hn.2.1.symm
  | cons c cs ih =>
    rw [List.forall_mem_cons, Nat.ofDigitChars_cons, ← appendDigit]
    cases hdigit : c.isDigit with
    | false =>
      obtain ⟨fault, hfault⟩ := h.other value c cs hdigit
      simp [hfault]
    | true =>
      by_cases hfits : fits (appendDigit value c)
      · rw [h.digit value c cs hdigit hfits, ih hfits]
        simp
      · -- The number can only grow, so that it never fits again.
        obtain ⟨fault, hfault⟩ := h.misfit value c cs hdigit hfits
        have hnever : ¬ fits (Nat.ofDigitChars 10 cs (appendDigit value c)) :=
          mt (h.antitone _ _ (le_ofDigitChars cs _)) hfits
        simp [hfault, hnever]

theorem readsDigits_upward : ReadsDigits (fun value => readUpward value) (fun value => value)
    (fun value => (value : Int) ≤ maxInteger) := by
  have hstep : ∀ (value : Nat) (c : Char),
      (value : Int) * 10 + ((c.toNat - '0'.toNat : Nat) : Int) = appendDigit value c := by
    intro value c
    rw [appendDigit]
    omega
  refine ⟨fun value => rfl, fun value c cs hdigit hfits => ?_, fun value c cs hdigit hfits => ?_,
    fun value c cs hdigit => ?_, fun value value' hle hfits => by omega⟩
  · simp only [readUpward, digit?_eq, hdigit, ↓reduceIte, hstep, hfits]
  · simp only [readUpward, digit?_eq, hdigit, ↓reduceIte, hstep, hfits]
    exact ⟨_, rfl⟩
  · simp only [readUpward, digit?_eq, hdigit]
    exact ⟨_, rfl⟩

theorem readsDigits_downward : ReadsDigits (fun value => readDownward (-value))
    (fun value => -value) (fun value => minInteger ≤ -(value : Int)) := by
  have hstep : ∀ (value : Nat) (c : Char),
      -(value : Int) * 10 - ((c.toNat - '0'.toNat : Nat) : Int) = -appendDigit value c := by
    intro value c
    rw [appendDigit]
    omega
  refine ⟨fun value => rfl, fun value c cs hdigit hfits => ?_, fun value c cs hdigit hfits => ?_,
    fun value c cs hdigit => ?_, fun value value' hle hfits => by omega⟩
  · simp only [readDownward, digit?_eq, hdigit, ↓reduceIte, hstep, hfits]
  · simp only [readDownward, digit?_eq, hdigit, ↓reduceIte, hstep, hfits]
    exact ⟨_, rfl⟩
  · simp only [readDownward, digit?_eq, hdigit]
    exact ⟨_, rfl⟩

/-- What has no sign in front is read upwards. -/
theorem readSigned_of_unsigned {c : Char} {cs : List Char} (hplus : c ≠ '+') (hminus : c ≠ '-') :
    readSigned (c :: cs) = readUpward 0 (c :: cs) := by
  simp [readSigned, hplus, hminus]

theorem readSigned_plus {cs : List Char} (h : cs ≠ []) :
    readSigned ('+' :: cs) = readUpward 0 cs := by
  obtain ⟨c, cs, rfl⟩ := List.exists_cons_of_ne_nil h
  rfl

theorem readSigned_minus {cs : List Char} (h : cs ≠ []) :
    readSigned ('-' :: cs) = readDownward 0 cs := by
  obtain ⟨c, cs, rfl⟩ := List.exists_cons_of_ne_nil h
  rfl

theorem readUpward_eq_ok_iff {cs : List Char} (hne : cs ≠ []) {n : Int} :
    readUpward 0 cs = .ok n ↔ IsDigits cs ∧ n = valueOf cs ∧ InRange n := by
  have hzero : ((0 : Nat) : Int) ≤ maxInteger := by decide
  have hread := readsDigits_upward.eq_ok_iff cs hzero n
  rw [← Int.natCast_zero, hread, ← valueOf]
  constructor
  · rintro ⟨hdigits, rfl, hle⟩
    exact ⟨⟨hne, hdigits⟩, rfl, by rw [minInteger]; omega, hle⟩
  · rintro ⟨hdigits, rfl, hrange⟩
    exact ⟨hdigits.digits, rfl, hrange.2⟩

theorem readDownward_eq_ok_iff {cs : List Char} (hne : cs ≠ []) {n : Int} :
    readDownward 0 cs = .ok n ↔ IsDigits cs ∧ n = -valueOf cs ∧ InRange n := by
  have hzero : minInteger ≤ -((0 : Nat) : Int) := by decide
  have hread := readsDigits_downward.eq_ok_iff cs hzero n
  rw [← Int.neg_zero, ← Int.natCast_zero, hread, ← valueOf]
  constructor
  · rintro ⟨hdigits, rfl, hle⟩
    exact ⟨⟨hne, hdigits⟩, rfl, hle, by rw [maxInteger]; omega⟩
  · rintro ⟨hdigits, rfl, hrange⟩
    exact ⟨hdigits.digits, rfl, hrange.1⟩

/-- No digit is a sign. -/
theorem IsDigits.unsigned {c : Char} {cs : List Char} (h : IsDigits (c :: cs)) :
    c ≠ '+' ∧ c ≠ '-' := by
  have hdigit := h.digits c (by simp)
  constructor
  · rintro rfl
    cases hdigit
  · rintro rfl
    cases hdigit

/-- A text is read as a number if it is a numeral of it and the number lies in the range. -/
theorem readInteger_eq_ok_iff {text : String} {n : Int} :
    readInteger text = .ok n ↔ Numeral text.toList n ∧ InRange n := by
  rw [readInteger]
  generalize text.toList = cs
  constructor
  · intro h
    cases cs with
    | nil => cases h
    | cons c cs =>
      by_cases hplus : c = '+'
      · subst hplus
        cases cs with
        | nil => cases h
        | cons c cs =>
          rw [readSigned_plus (List.cons_ne_nil _ _), readUpward_eq_ok_iff (by simp)] at h
          obtain ⟨hdigits, rfl, hrange⟩ := h
          exact ⟨.plus hdigits, hrange⟩
      · by_cases hminus : c = '-'
        · subst hminus
          cases cs with
          | nil => cases h
          | cons c cs =>
            rw [readSigned_minus (List.cons_ne_nil _ _), readDownward_eq_ok_iff (by simp)] at h
            obtain ⟨hdigits, rfl, hrange⟩ := h
            exact ⟨.minus hdigits, hrange⟩
        · rw [readSigned_of_unsigned hplus hminus, readUpward_eq_ok_iff (by simp)] at h
          obtain ⟨hdigits, rfl, hrange⟩ := h
          exact ⟨.plain hdigits, hrange⟩
  · rintro ⟨hnumeral, hrange⟩
    cases hnumeral with
    | plain hdigits =>
      obtain ⟨c, cs, rfl⟩ := List.exists_cons_of_ne_nil hdigits.nonempty
      obtain ⟨hplus, hminus⟩ := hdigits.unsigned
      rw [readSigned_of_unsigned hplus hminus, readUpward_eq_ok_iff hdigits.nonempty]
      exact ⟨hdigits, rfl, hrange⟩
    | plus hdigits =>
      rw [readSigned_plus hdigits.nonempty, readUpward_eq_ok_iff hdigits.nonempty]
      exact ⟨hdigits, rfl, hrange⟩
    | minus hdigits =>
      rw [readSigned_minus hdigits.nonempty, readDownward_eq_ok_iff hdigits.nonempty]
      exact ⟨hdigits, rfl, hrange⟩

/-! ## Decimal forms -/

theorem isDigits_toDigits (n : Nat) : IsDigits (Nat.toDigits 10 n) :=
  ⟨Nat.toDigits_ne_nil, fun _ hc => Nat.isDigit_of_mem_toDigits (by decide) (by decide) hc⟩

theorem valueOf_toDigits (n : Nat) : valueOf (Nat.toDigits 10 n) = n :=
  Nat.ofDigitChars_ten_toDigits

/-- The decimal form of a number is a numeral of it. -/
theorem numeral_toString (n : Int) : Numeral (toString n).toList n := by
  cases n with
  | ofNat n =>
    have h := Numeral.plain (isDigits_toDigits n)
    rw [valueOf_toDigits] at h
    have hform : (toString (Int.ofNat n)).toList = Nat.toDigits 10 n := Nat.toList_repr
    rw [hform]
    exact h
  | negSucc n =>
    have h := Numeral.minus (isDigits_toDigits n.succ)
    rw [valueOf_toDigits] at h
    have hform : (toString (Int.negSucc n)).toList = '-' :: Nat.toDigits 10 n.succ := by
      change ("-" ++ n.succ.repr).toList = _
      rw [String.toList_append, Nat.toList_repr]
      rfl
    rw [hform]
    exact h

end CommandShell.Text
