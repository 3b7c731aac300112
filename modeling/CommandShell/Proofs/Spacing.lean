import CommandShell.Token

/-!
# Spacing of tokens

A line consists of its tokens and of the blanks between them. Two words need a blank between them,
and everywhere else blanks may be left out. Main statement: the tokens of a line are those from
which it can be laid out in this way, so that no other tokens give the same line
(`Token.scan_eq_iff`).
-/

namespace CommandShell

namespace Token

/-- A text that consists of blanks. It may be empty. -/
def IsGap (text : String) : Prop := ∀ c ∈ text.toList, isBlank c = true

/-- A text that can stand as a word: it is not empty, and there is no blank and no operator in
it. -/
def IsPlain (text : String) : Prop :=
  text ≠ "" ∧ ∀ c ∈ text.toList, isBlank c = false ∧ operator? c = none

/-- The texts of some tokens, each of them followed by its gap. -/
def layOut : List Token → List String → String
  | token :: tokens, gap :: gaps => token.text ++ gap ++ layOut tokens gaps
  | _, _ => ""

/-- A line is laid out as some tokens with a gap in front of them and a gap behind each of them. -/
structure Spaced (line : String) (tokens : List Token) (lead : String) (gaps : List String) :
    Prop where
  /-- There is a gap for every token. -/
  length : gaps.length = tokens.length
  /-- The gap in front of the tokens consists of blanks. -/
  leading : IsGap lead
  /-- So do all other gaps. -/
  blank : ∀ gap ∈ gaps, IsGap gap
  /-- The gap between two words is not empty. -/
  parted : ∀ (i : Nat) (v w gap : String), tokens[i]? = some (word v) →
    tokens[i + 1]? = some (word w) → gaps[i]? = some gap → gap ≠ ""
  /-- There is nothing else on the line. -/
  line_eq : line = lead ++ layOut tokens gaps

/-- What is on a line beside the blanks. -/
def visible (line : String) : List Char := line.toList.filter fun c => !isBlank c

/-! ## Characters -/

theorem isWordChar_iff (c : Char) :
    isWordChar c = true ↔ isBlank c = false ∧ operator? c = none := by
  rw [isWordChar]
  cases isBlank c <;> cases operator? c <;> simp

/-- An operator is the token of its own character. -/
theorem text_of_operator? {c : Char} {op : Token} (h : operator? c = some op) :
    op.text.toList = [c] ∧ ∀ w, op ≠ word w := by
  rw [operator?] at h
  split at h
  · next hc => cases h; exact ⟨by rw [eq_of_beq hc]; rfl, fun w => nofun⟩
  · split at h
    · next hc => cases h; exact ⟨by rw [eq_of_beq hc]; rfl, fun w => nofun⟩
    · split at h
      · next hc => cases h; exact ⟨by rw [eq_of_beq hc]; rfl, fun w => nofun⟩
      · cases h

/-- Every token that is no word has a character of its own, which is an operator and no blank. -/
theorem operator?_of_ne_word {op : Token} (h : ∀ w, op ≠ word w) :
    ∃ c, op.text.toList = [c] ∧ isBlank c = false ∧ operator? c = some op := by
  cases op with
  | word w => exact absurd rfl (h w)
  | pipe => exact ⟨'|', rfl, rfl, rfl⟩
  | input => exact ⟨'<', rfl, rfl, rfl⟩
  | output => exact ⟨'>', rfl, rfl, rfl⟩

/-! ## Scanning what was laid out -/

/-- Blanks in front are skipped. -/
theorem scanChars_gap_append {gap : List Char} (h : ∀ c ∈ gap, isBlank c = true)
    (rest : List Char) : scanChars (gap ++ rest) = scanChars rest := by
  induction gap with
  | nil => rfl
  | cons c gap ih =>
    rw [List.cons_append, scanChars_blank _ (h c List.mem_cons_self)]
    exact ih fun c hc => h c (List.mem_cons_of_mem _ hc)

theorem IsPlain.toList_eq_cons {text : String} (h : IsPlain text) :
    ∃ c cs, text.toList = c :: cs :=
  List.exists_cons_of_ne_nil fun hnil => h.1 (String.toList_eq_nil_iff.1 hnil)

theorem IsPlain.isWordChar {text : String} (h : IsPlain text) :
    ∀ c ∈ text.toList, isWordChar c = true :=
  fun c hc => (isWordChar_iff c).2 (h.2 c hc)

/-- A word in front comes out whole, if it does not go on behind. -/
theorem scanChars_plain_append {text : String} (h : IsPlain text) {rest : List Char}
    (hrest : ∀ c, rest.head? = some c → isWordChar c = false) :
    scanChars (text.toList ++ rest) = word text :: scanChars rest := by
  obtain ⟨c, cs, hcs⟩ := h.toList_eq_cons
  have hword : ∀ a ∈ c :: cs, isWordChar a = true := fun a ha => h.isWordChar a (hcs ▸ ha)
  have htake : rest.takeWhile isWordChar = [] := by
    cases rest with
    | nil => rfl
    | cons a rest => exact List.takeWhile_cons_of_neg (Bool.eq_false_iff.1 (hrest a rfl))
  have hdrop : rest.dropWhile isWordChar = rest := by
    cases rest with
    | nil => rfl
    | cons a rest => exact List.dropWhile_cons_of_neg (Bool.eq_false_iff.1 (hrest a rfl))
  have hinside : ∀ a ∈ cs, isWordChar a = true := fun a ha => hword a (List.mem_cons_of_mem c ha)
  rw [hcs, List.cons_append, scanChars_word _ (hword c List.mem_cons_self),
    List.takeWhile_append_of_pos hinside, List.dropWhile_append_of_pos hinside, htake, hdrop,
    List.append_nil, ← hcs, String.ofList_toList]

theorem toList_layOut_cons (token : Token) (tokens : List Token) (gap : String)
    (gaps : List String) : (layOut (token :: tokens) (gap :: gaps)).toList =
      token.text.toList ++ (gap.toList ++ (layOut tokens gaps).toList) := by
  rw [layOut, String.toList_append, String.toList_append, List.append_assoc]

/-- What is laid out begins with a character of a word only if its first token is a word. -/
theorem head?_layOut {tokens : List Token} {gaps : List String}
    (hlength : gaps.length = tokens.length) {c : Char}
    (hc : (layOut tokens gaps).toList.head? = some c) (hword : isWordChar c = true) :
    ∃ w, tokens[0]? = some (word w) := by
  cases tokens with
  | nil => cases hc
  | cons token tokens =>
    cases gaps with
    | nil => cases hlength
    | cons gap gaps =>
      by_cases htoken : ∃ w, token = word w
      · obtain ⟨w, rfl⟩ := htoken
        exact ⟨w, rfl⟩
      · obtain ⟨a, ha, -, hoperator⟩ := operator?_of_ne_word (not_exists.1 htoken)
        rw [toList_layOut_cons, ha] at hc
        cases hc
        rw [((isWordChar_iff c).1 hword).2] at hoperator
        cases hoperator

/-- What is laid out has the tokens from which it was made. -/
theorem scanChars_layOut {tokens : List Token} {gaps : List String}
    (hplain : ∀ w, word w ∈ tokens → IsPlain w) (hlength : gaps.length = tokens.length)
    (hgaps : ∀ gap ∈ gaps, IsGap gap)
    (hparted : ∀ (i : Nat) (v w gap : String), tokens[i]? = some (word v) →
      tokens[i + 1]? = some (word w) → gaps[i]? = some gap → gap ≠ "") :
    scanChars (layOut tokens gaps).toList = tokens := by
  induction tokens generalizing gaps with
  | nil => exact scanChars_nil
  | cons token tokens ih =>
    cases gaps with
    | nil => cases hlength
    | cons gap gaps =>
      have hrest : scanChars (gap.toList ++ (layOut tokens gaps).toList) = tokens := by
        rw [scanChars_gap_append (hgaps gap List.mem_cons_self)]
        refine ih (fun w hw => hplain w (List.mem_cons_of_mem _ hw)) (Nat.succ.inj hlength)
          (fun g hg => hgaps g (List.mem_cons_of_mem _ hg)) fun i => ?_
        exact hparted (i + 1)
      rw [toList_layOut_cons]
      by_cases htoken : ∃ w, token = word w
      · obtain ⟨w, rfl⟩ := htoken
        have hstop : ∀ c, (gap.toList ++ (layOut tokens gaps).toList).head? = some c →
            isWordChar c = false := by
          intro c hc
          apply Bool.eq_false_iff.2
          intro hword
          cases hgap : gap.toList with
          | nil =>
            -- The next token is a word, so that the gap cannot be empty.
            rw [hgap, List.nil_append] at hc
            obtain ⟨v, hv⟩ := head?_layOut (Nat.succ.inj hlength) hc hword
            exact hparted 0 w v gap rfl hv rfl (String.toList_eq_nil_iff.1 hgap)
          | cons a rest =>
            rw [hgap] at hc
            cases hc
            have hblank := hgaps gap List.mem_cons_self c (by rw [hgap]; exact List.mem_cons_self)
            rw [((isWordChar_iff c).1 hword).1] at hblank
            cases hblank
        rw [text, scanChars_plain_append (hplain w List.mem_cons_self) hstop, hrest]
      · obtain ⟨c, hc, hblank, hoperator⟩ := operator?_of_ne_word (not_exists.1 htoken)
        rw [hc, List.singleton_append, scanChars_operator _ hblank hoperator, hrest]

/-! ## Laying out what was scanned -/

theorem ofList_cons (c : Char) (cs : List Char) :
    String.ofList (c :: cs) = String.singleton c ++ String.ofList cs := by
  apply String.ext
  simp

/-- A blank in front of a line makes its leading gap longer. -/
theorem Spaced.blank_append {line : String} {tokens : List Token} {lead : String}
    {gaps : List String} (h : Spaced line tokens lead gaps) {c : Char} (hc : isBlank c = true) :
    Spaced (String.singleton c ++ line) tokens (String.singleton c ++ lead) gaps := by
  refine { h with leading := fun a ha => ?_, line_eq := ?_ }
  · rw [String.toList_append, String.toList_singleton, List.singleton_append, List.mem_cons] at ha
    rcases ha with rfl | ha
    · exact hc
    · exact h.leading a ha
  · rw [String.append_assoc, ← h.line_eq]

/-- A token in front of a line has no gap in front of it, and the leading gap of the line comes
behind it. A word can be put only in front of a line that does not begin with one. -/
theorem Spaced.token_append {line : String} {tokens : List Token} {lead : String}
    {gaps : List String} (h : Spaced line tokens lead gaps) {token : Token}
    (hparted : ∀ v w, token = word v → tokens[0]? = some (word w) → lead ≠ "") :
    Spaced (token.text ++ line) (token :: tokens) "" (lead :: gaps) := by
  refine ⟨congrArg Nat.succ h.length, fun c hc => (by cases hc), ?_, ?_, ?_⟩
  · intro gap hgap
    rcases List.mem_cons.1 hgap with rfl | hgap
    · exact h.leading
    · exact h.blank gap hgap
  · intro i v w gap hv hw hgap
    cases i with
    | zero =>
      cases hv
      cases hgap
      exact hparted v w rfl hw
    | succ i => exact h.parted i v w gap hv hw hgap
  · rw [String.empty_append, layOut, String.append_assoc, ← h.line_eq]

/-- There is a gap in front of a word on a line that does not begin with a character of it. -/
theorem Spaced.lead_ne_empty {line : String} {tokens : List Token} {lead : String}
    {gaps : List String} (h : Spaced line tokens lead gaps) {w : String}
    (hw : tokens[0]? = some (word w)) (hplain : IsPlain w)
    (hhead : ∀ c, line.toList.head? = some c → isWordChar c = false) : lead ≠ "" := by
  intro hempty
  obtain ⟨c, cs, hcs⟩ := hplain.toList_eq_cons
  have hline : line.toList.head? = some c := by
    cases tokens with
    | nil => cases hw
    | cons token tokens =>
      cases gaps with
      | nil => cases h.length
      | cons gap gaps =>
        cases hw
        rw [h.line_eq, hempty, String.empty_append, toList_layOut_cons, text, hcs]
        rfl
  have hword := hplain.isWordChar c (hcs ▸ List.mem_cons_self)
  rw [hhead c hline] at hword
  cases hword

/-- A character of a word makes one together with those behind it. -/
theorem isPlain_takeWhile {c : Char} (hc : isWordChar c = true) (cs : List Char) :
    IsPlain (String.ofList (c :: cs.takeWhile isWordChar)) := by
  constructor
  · intro hempty
    have hnil := congrArg String.toList hempty
    rw [String.toList_ofList] at hnil
    cases hnil
  · intro a ha
    rw [String.toList_ofList, List.mem_cons] at ha
    rcases ha with rfl | ha
    · exact (isWordChar_iff a).1 hc
    · exact (isWordChar_iff a).1 (List.all_eq_true.1 List.all_takeWhile a ha)

/-- Any characters are laid out as their tokens. -/
theorem exists_spaced (cs : List Char) :
    (∀ w, word w ∈ scanChars cs → IsPlain w) ∧ ∃ lead gaps,
      Spaced (String.ofList cs) (scanChars cs) lead gaps := by
  fun_induction scanChars cs with
  | case1 =>
    exact ⟨fun w hw => (by cases hw), "", [], rfl, fun c hc => (by cases hc),
      fun gap hgap => (by cases hgap), fun i v w gap hv => (by cases hv), rfl⟩
  | case2 c cs hblank ih =>
    obtain ⟨hplain, lead, gaps, hspaced⟩ := ih
    rw [ofList_cons]
    exact ⟨hplain, _, _, hspaced.blank_append hblank⟩
  | case3 c cs hblank op hoperator ih =>
    obtain ⟨hplain, lead, gaps, hspaced⟩ := ih
    obtain ⟨htext, hne⟩ := text_of_operator? hoperator
    have hcons : String.ofList (c :: cs) = op.text ++ String.ofList cs := by
      rw [ofList_cons]
      congr 1
      apply String.ext
      rw [htext, String.toList_singleton]
    rw [hcons]
    refine ⟨fun w hw => ?_, _, _, hspaced.token_append fun v _ hv => absurd hv (hne v)⟩
    rcases List.mem_cons.1 hw with hw | hw
    · exact absurd hw.symm (hne w)
    · exact hplain w hw
  | case4 c cs hblank hoperator ih =>
    obtain ⟨hplain, lead, gaps, hspaced⟩ := ih
    have hc : isWordChar c = true := (isWordChar_iff c).2 ⟨Bool.eq_false_iff.2 hblank, hoperator⟩
    have hsplit : String.ofList (c :: cs) =
        (word (String.ofList (c :: cs.takeWhile isWordChar))).text ++
          String.ofList (cs.dropWhile isWordChar) := by
      rw [text, ← String.ofList_append, List.cons_append, List.takeWhile_append_dropWhile]
    rw [hsplit]
    refine ⟨fun w hw => ?_, _, _, hspaced.token_append fun _ w _ hw => ?_⟩
    · rcases List.mem_cons.1 hw with hw | hw
      · cases hw
        exact isPlain_takeWhile hc cs
      · exact hplain w hw
    · refine hspaced.lead_ne_empty hw (hplain w (List.mem_of_getElem? hw)) fun a ha => ?_
      have hstop := List.head?_dropWhile_not isWordChar cs
      rw [String.toList_ofList] at ha
      rw [ha] at hstop
      exact hstop

/-! ## The tokens of a line -/

theorem visible_append (a b : String) : visible (a ++ b) = visible a ++ visible b := by
  rw [visible, String.toList_append, List.filter_append]
  rfl

theorem visible_gap {gap : String} (h : IsGap gap) : visible gap = [] := by
  apply List.filter_eq_nil_iff.2
  intro c hc
  rw [h c hc]
  exact Bool.false_ne_true

/-- There is no blank in a token. -/
theorem visible_text {token : Token} (h : ∀ w, token = word w → IsPlain w) :
    visible token.text = token.text.toList := by
  apply List.filter_eq_self.2
  intro c hc
  by_cases htoken : ∃ w, token = word w
  · obtain ⟨w, rfl⟩ := htoken
    rw [((h w rfl).2 c hc).1]
    rfl
  · obtain ⟨a, ha, hblank, -⟩ := operator?_of_ne_word (not_exists.1 htoken)
    rw [ha] at hc
    rw [List.mem_singleton.1 hc, hblank]
    rfl

/-- The visible characters of a layout are those of its tokens. -/
theorem visible_layOut {tokens : List Token} {gaps : List String}
    (hplain : ∀ w, word w ∈ tokens → IsPlain w) (hlength : gaps.length = tokens.length)
    (hgaps : ∀ gap ∈ gaps, IsGap gap) :
    visible (layOut tokens gaps) = tokens.flatMap fun token => token.text.toList := by
  induction tokens generalizing gaps with
  | nil => rfl
  | cons token tokens ih =>
    cases gaps with
    | nil => cases hlength
    | cons gap gaps =>
      have hrest := ih (fun w hw => hplain w (List.mem_cons_of_mem _ hw)) (Nat.succ.inj hlength)
        fun g hg => hgaps g (List.mem_cons_of_mem _ hg)
      have htoken : ∀ w, token = word w → IsPlain w := fun w hw =>
        hplain w (hw ▸ List.mem_cons_self)
      rw [layOut, visible_append, visible_append, visible_text htoken,
        visible_gap (hgaps gap List.mem_cons_self), List.append_nil, hrest, List.flatMap_cons]

/-- A line that is laid out has the tokens from which it was made. -/
theorem Spaced.scan_eq {line : String} {tokens : List Token} {lead : String} {gaps : List String}
    (h : Spaced line tokens lead gaps) (hplain : ∀ w, word w ∈ tokens → IsPlain w) :
    scan line = tokens := by
  rw [scan, h.line_eq, String.toList_append, scanChars_gap_append h.leading,
    scanChars_layOut hplain h.length h.blank h.parted]

/-- The words of a line are plain. -/
theorem isPlain_of_mem_scan {line w : String} (h : word w ∈ scan line) : IsPlain w :=
  (exists_spaced line.toList).1 w h

/-- Tokens with single blanks between them are laid out. -/
theorem exists_spaced_intercalate (tokens : List Token) :
    ∃ gaps, Spaced (" ".intercalate (tokens.map text)) tokens "" gaps := by
  induction tokens with
  | nil =>
    exact ⟨[], rfl, fun c hc => (by cases hc), fun gap hgap => (by cases hgap),
      fun i v w gap hv => (by cases hv), rfl⟩
  | cons token tokens ih =>
    obtain ⟨gaps, hrest⟩ := ih
    cases tokens with
    | nil =>
      have hspaced : Spaced (token.text ++ "") [token] "" ("" :: gaps) :=
        hrest.token_append fun v w _ hw => (by cases hw)
      rw [String.append_empty] at hspaced
      rw [List.map_cons, List.map_nil, String.intercalate_singleton]
      exact ⟨_, hspaced⟩
    | cons next tokens =>
      have hblank : isBlank ' ' = true := rfl
      have hgap : String.singleton ' ' ++ "" ≠ "" := by decide
      have hspaced : Spaced (token.text ++ _) (token :: next :: tokens) "" _ :=
        (hrest.blank_append hblank).token_append fun _ _ _ _ => hgap
      rw [List.map_cons, List.map_cons, String.intercalate_cons_cons, String.append_assoc,
        ← List.map_cons]
      exact ⟨_, hspaced⟩

/-- The tokens of a line are those from which it can be laid out: their words are not empty and
hold no blank and no operator, and all that stands between them are blanks, at least one of them
between two words. The characters of the tokens are then all that is on the line beside the
blanks, in the same order. -/
theorem scan_eq_iff (line : String) (tokens : List Token) :
    (scan line = tokens ↔
      (∀ w, word w ∈ tokens → IsPlain w) ∧ ∃ lead gaps, Spaced line tokens lead gaps) ∧
    (scan line).flatMap (fun token => token.text.toList) = visible line := by
  have hscan : (∀ w, word w ∈ scan line → IsPlain w) ∧
      ∃ lead gaps, Spaced line (scan line) lead gaps := by
    have h := exists_spaced line.toList
    rwa [String.ofList_toList] at h
  refine ⟨⟨fun h => h ▸ hscan, ?_⟩, ?_⟩
  · rintro ⟨hplain, lead, gaps, hspaced⟩
    rw [scan, hspaced.line_eq, String.toList_append, scanChars_gap_append hspaced.leading,
      scanChars_layOut hplain hspaced.length hspaced.blank hspaced.parted]
  · obtain ⟨hplain, lead, gaps, hspaced⟩ := hscan
    conv => rhs; rw [hspaced.line_eq]
    rw [visible_append, visible_gap hspaced.leading, List.nil_append,
      visible_layOut hplain hspaced.length hspaced.blank]

end Token

end CommandShell
