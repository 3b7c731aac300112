import CommandShell.Arguments
import Mathlib.Data.List.TakeWhile

/-!
# Scans without options

A command without options reads its arguments in one way only, which is said here without the scan.
What stands in front of the first `--` must not have the form of an option, words that ask for the
usage text are left out there, and all other words fill the positions in order. Main statement: a
scan comes to this and to nothing else (`Grammar.read_toOption`).
-/

namespace CommandShell

variable {α : Type}

/-- What a scan has read so far: the value, and whether the usage text was asked for. -/
def ScanState.progress (s : ScanState α) : α × Bool := (s.value, s.help)

namespace Grammar

/-- The word that ends the options. -/
def endOfOptions : String := "--"

/-- The words in front of the one that ends the options. -/
def front (words : List String) : List String := words.takeWhile (· != endOfOptions)

/-- The words from the one on that ends the options. -/
def ending (words : List String) : List String := words.dropWhile (· != endOfOptions)

/-- Whether the usage text is asked for. -/
def wantsHelp (words : List String) : Bool := (front words).any asksForHelp

/-- Whether no word is taken for an option. -/
def isOptionless (words : List String) : Bool :=
  (front words).all fun word => asksForHelp word || !isOption word

/-- The words that fill positions. -/
def fillers (words : List String) : List String :=
  (front words).filter (fun word => !asksForHelp word) ++ (ending words).tail

/-- Fills positions in order. There must be one for every word. -/
def fill : List (PositionalRule α) → α → List String → Option α
  | _, value, [] => some value
  | [], _, _ :: _ => none
  | rule :: vacant, value, word :: words =>
    match rule.store value word with
    | .error _ => none
    | .ok stored => fill vacant stored words

section

variable {word : String} (h : word ≠ endOfOptions) (words : List String)
include h

theorem front_cons : front (word :: words) = word :: front words := by
  simp [front, h]

theorem ending_cons : ending (word :: words) = ending words := by
  simp [ending, h]

theorem isOptionless_cons : isOptionless (word :: words) =
    ((asksForHelp word || !isOption word) && isOptionless words) := by
  rw [isOptionless, front_cons h, List.all_cons, isOptionless]

theorem wantsHelp_cons : wantsHelp (word :: words) = (asksForHelp word || wantsHelp words) := by
  rw [wantsHelp, front_cons h, List.any_cons, wantsHelp]

theorem fillers_cons : fillers (word :: words) =
    if asksForHelp word then fillers words else word :: fillers words := by
  rw [fillers, front_cons h, ending_cons h, fillers]
  cases hhelp : asksForHelp word <;> simp [hhelp]

end

/-- A word that neither asks for the usage text nor looks like an option fills a position. -/
theorem filler_cons {word : String} (hhelp : asksForHelp word = false)
    (hoption : isOption word = false) (words : List String) :
    isOptionless (word :: words) = isOptionless words ∧
      wantsHelp (word :: words) = wantsHelp words ∧
      fillers (word :: words) = word :: fillers words := by
  have hne : word ≠ endOfOptions := by
    rintro rfl
    revert hoption
    decide
  rw [isOptionless_cons hne, wantsHelp_cons hne, fillers_cons hne]
  simp [hhelp, hoption]

theorem front_append_ending (words : List String) : front words ++ ending words = words :=
  List.takeWhile_append_dropWhile

theorem ne_endOfOptions_of_mem_front {words : List String} {word : String}
    (h : word ∈ front words) : word ≠ endOfOptions := by
  simpa using List.mem_takeWhile_imp h

/-- Unless no word ends the options, the one that does comes first. -/
theorem ending_cases (words : List String) :
    ending words = [] ∨ ∃ behind, ending words = endOfOptions :: behind := by
  induction words with
  | nil => exact Or.inl rfl
  | cons word words ih =>
    by_cases h : word = endOfOptions
    · exact Or.inr ⟨words, by simp [ending, h]⟩
    · rwa [ending_cons h]

/-- If no word asks for the usage text, the words fill positions, all but the one that ends the
options. -/
theorem words_cases {words : List String} (h : wantsHelp words = false) :
    words = fillers words ∨ ∃ before behind, words = before ++ endOfOptions :: behind ∧
      fillers words = before ++ behind := by
  have hfillers : fillers words = front words ++ (ending words).tail := by
    rw [fillers, List.filter_eq_self.2]
    simpa [wantsHelp] using h
  have hsplit := front_append_ending words
  rcases ending_cases words with hending | ⟨behind, hending⟩
  · rw [hending] at hfillers hsplit
    exact Or.inl (hsplit.symm.trans hfillers.symm)
  · rw [hending] at hfillers hsplit
    exact Or.inr ⟨front words, behind, hsplit.symm, hfillers⟩

/-- Words are divided where the options end. -/
theorem front_ending_append (before after : List String)
    (hbefore : ∀ word ∈ before, word ≠ endOfOptions)
    (hafter : after = [] ∨ ∃ behind, after = endOfOptions :: behind) :
    front (before ++ after) = before ∧ ending (before ++ after) = after := by
  induction before with
  | nil => rcases hafter with rfl | ⟨behind, rfl⟩ <;> simp [front, ending]
  | cons word before ih =>
    obtain ⟨hword, hbefore⟩ := List.forall_mem_cons.mp hbefore
    obtain ⟨hfront, hending⟩ := ih hbefore
    rw [List.cons_append, front_cons hword, ending_cons hword, hfront, hending]
    exact ⟨rfl, rfl⟩

variable {g : Grammar α} {s : ScanState α}

/-- A word fills the next position, or it is refused. -/
theorem storePositional_cases (s : ScanState α) (word : String) :
    (∃ fault, storePositional s word = .error fault ∧
      ∀ words, fill s.vacant s.value (word :: words) = none) ∨
    ∃ t, storePositional s word = .ok t ∧ t.help = s.help ∧ t.ended = s.ended ∧
      ∀ words, fill s.vacant s.value (word :: words) = fill t.vacant t.value words := by
  obtain ⟨value, vacant, help, ended⟩ := s
  cases vacant with
  | nil => exact Or.inl ⟨_, rfl, fun words => rfl⟩
  | cons rule vacant =>
    cases hstore : rule.store value word with
    | error reason =>
      exact Or.inl ⟨.badPositional rule.name word reason, by simp [storePositional, hstore],
        fun words => by simp [fill, hstore]⟩
    | ok stored =>
      exact Or.inr ⟨⟨stored, vacant, help, ended⟩, by simp [storePositional, hstore], rfl, rfl,
        fun words => by simp [fill, hstore]⟩

/-- Behind the end of the options every word fills a position. -/
theorem scan_toOption_of_ended (hended : s.ended = true) (words : List String) :
    (g.scan s words).toOption.map ScanState.progress =
      (fill s.vacant s.value words).map (·, s.help) := by
  induction words generalizing s with
  | nil =>
    rw [scan.eq_def]
    cases s.vacant <;> rfl
  | cons word words ih =>
    rw [scan_ended g s word words hended]
    rcases storePositional_cases s word with
      ⟨fault, hstore, hfill⟩ | ⟨t, hstore, hhelp, hend, hfill⟩
    · rw [hstore, hfill]
      rfl
    · rw [hstore, hfill, ← hhelp]
      exact ih (hend.trans hended)

/-- In front of the end of the options a word that looks like an option is refused. -/
theorem scan_of_isOption (hg : g.options = []) (hended : s.ended = false) {word : String}
    (hne : word ≠ endOfOptions) (hhelp : asksForHelp word = false) (hoption : isOption word = true)
    (words : List String) : ∃ fault, g.scan s (word :: words) = .error fault := by
  have hnone : g.option? word = none := by rw [option?, hg]; rfl
  have hend : (word == "--") = false := beq_false_of_ne hne
  rw [scan.eq_def]
  simp only [hended, hhelp, hoption, hend, hnone, Bool.not_false, Bool.and_false, Bool.and_true,
    Bool.false_eq_true, if_false, if_true]
  split
  · exact ⟨_, rfl⟩
  · exact ⟨_, rfl⟩

/-- Any other word fills a position. -/
theorem scan_of_not_isOption (hhelp : asksForHelp word = false) (hoption : isOption word = false)
    (words : List String) : g.scan s (word :: words) =
      (storePositional s word).bind fun t => g.scan t words := by
  rw [scan.eq_def]
  simp only [hhelp, hoption, Bool.and_false, Bool.false_eq_true, if_false]
  cases storePositional s word <;> rfl

/-- What a scan comes to that has not found the end of the options yet. -/
theorem scan_toOption (hg : g.options = []) (hended : s.ended = false) (words : List String) :
    (g.scan s words).toOption.map ScanState.progress =
      if isOptionless words then
        (fill s.vacant s.value (fillers words)).map (·, s.help || wantsHelp words)
      else none := by
  induction words generalizing s with
  | nil =>
    rw [scan.eq_def]
    simp [isOptionless, front, fillers, ending, wantsHelp]
    cases s.vacant <;> rfl
  | cons word words ih =>
    by_cases hend : word = endOfOptions
    · subst hend
      rw [endOfOptions, scan_end g s words hended, scan_toOption_of_ended rfl]
      simp [isOptionless, front, fillers, ending, wantsHelp, endOfOptions]
    · rw [isOptionless_cons hend, wantsHelp_cons hend, fillers_cons hend]
      cases hhelp : asksForHelp word with
      | true =>
        have hrest := ih (s := { s with help := true }) hended
        rw [scan_help g s word words hended hhelp, hrest]
        simp
      | false =>
        cases hoption : isOption word with
        | true =>
          obtain ⟨fault, hfault⟩ := scan_of_isOption hg hended hend hhelp hoption words
          rw [hfault]
          rfl
        | false =>
          rw [scan_of_not_isOption hhelp hoption]
          rcases storePositional_cases s word with
            ⟨fault, hstore, hfill⟩ | ⟨t, hstore, hthelp, htended, hfill⟩
          · rw [hstore]
            simp [hfill, Except.bind, Except.toOption]
          · have hrest := ih (htended.trans hended)
            rw [hstore, Except.bind, hrest]
            simp [hfill, hthelp]

/-- Without options, the words ask for the usage text or for a run exactly if none of them is taken
for an option and all of them find a position. -/
theorem read_toOption (hg : g.options = []) (words : List String) :
    (g.read words).toOption =
      if isOptionless words then
        (fill g.positionals g.start (fillers words)).map fun value =>
          if wantsHelp words then .help else .run value
      else none := by
  have hscan := scan_toOption hg (s := ⟨g.start, g.positionals, false, false⟩) rfl words
  have hread : (g.read words).toOption = ((g.scan ⟨g.start, g.positionals, false, false⟩
      words).toOption.map ScanState.progress).map fun read =>
        if read.2 then .help else .run read.1 := by
    rw [read]
    cases g.scan ⟨g.start, g.positionals, false, false⟩ words <;> rfl
  rw [hread, hscan]
  cases isOptionless words with
  | true => simp [Function.comp_def]
  | false => rfl

/-- Words ask for a run if none of them asks for the usage text. -/
theorem read_eq_run_iff (hg : g.options = []) {words : List String} {value : α} :
    g.read words = .ok (.run value) ↔ isOptionless words = true ∧ wantsHelp words = false ∧
      fill g.positionals g.start (fillers words) = some value := by
  have hread : g.read words = .ok (.run value) ↔ (g.read words).toOption = some (.run value) := by
    cases g.read words <;> simp [Except.toOption]
  rw [hread, read_toOption hg]
  cases isOptionless words <;> cases wantsHelp words <;> simp

/-- Words without those that ask for the usage text. -/
def withoutHelp (words : List String) : List String :=
  (front words).filter (fun word => !asksForHelp word) ++ ending words

/-- Words ask for the usage text if they would ask for a run without the words that do so. -/
theorem read_eq_help_iff (hg : g.options = []) {words : List String} :
    g.read words = .ok .help ↔
      wantsHelp words = true ∧ ∃ value, g.read (withoutHelp words) = .ok (.run value) := by
  have hread : g.read words = .ok .help ↔ (g.read words).toOption = some .help := by
    cases g.read words <;> simp [Except.toOption]
  obtain ⟨hfront, hending⟩ := front_ending_append
    ((front words).filter fun word => !asksForHelp word) (ending words)
    (fun word hword => ne_endOfOptions_of_mem_front (List.mem_filter.mp hword).1)
    (ending_cases words)
  rw [← withoutHelp] at hfront hending
  have hoptionless : isOptionless (withoutHelp words) = isOptionless words := by
    rw [isOptionless, hfront, List.all_filter, isOptionless]
    simp only [Bool.not_not, ← Bool.or_assoc, Bool.or_self]
  have hwants : wantsHelp (withoutHelp words) = false := by
    rw [wantsHelp, hfront, List.any_filter]
    simp
  have hfillers : fillers (withoutHelp words) = fillers words := by
    rw [fillers, hfront, hending, List.filter_filter, fillers]
    simp
  rw [hread, read_toOption hg]
  simp only [read_eq_run_iff hg, hoptionless, hwants, hfillers]
  cases isOptionless words <;> cases wantsHelp words <;>
    cases fill g.positionals g.start (fillers words) <;> simp

end Grammar

end CommandShell
