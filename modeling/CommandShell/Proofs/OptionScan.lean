import CommandShell.Proofs.ArgumentScan

/-!
# Scans without positions

A command without positional arguments reads options, each with the word behind it as its value,
whatever this word is. Behind the options there can be words that ask for the usage text, and the
word that ends the options can stand at the very end. Main statement: a scan accepts this and
nothing else, and it has read what the options say one after the other (`Grammar.scan_eq_ok_iff`).
-/

namespace CommandShell.Grammar

variable {α : Type}

/-- The words of some options with their values. -/
def pairWords (pairs : List (String × String)) : List String :=
  pairs.flatMap fun pair => [pair.1, pair.2]

theorem pairWords_cons (pair : String × String) (pairs : List (String × String)) :
    pairWords (pair :: pairs) = pair.1 :: pair.2 :: pairWords pairs := rfl

/-- The word that ends the options, once at most. -/
def IsClosing (words : List String) : Prop := words = [] ∨ words = [endOfOptions]

/-- Words are options with values, and the end of the options behind them, in one way only. -/
theorem pairs_eq_of_append {pairs pairs' : List (String × String)} {closing closing' : List String}
    (h : IsClosing closing) (h' : IsClosing closing')
    (heq : pairWords pairs ++ closing = pairWords pairs' ++ closing') : pairs = pairs' := by
  have hshort : ∀ {words : List String}, IsClosing words → words.length < 2 := by
    rintro words (rfl | rfl) <;> simp
  induction pairs generalizing pairs' with
  | nil =>
    cases pairs' with
    | nil => rfl
    | cons pair' pairs' =>
      have hlength := hshort h
      rw [show closing = pairWords (pair' :: pairs') ++ closing' from heq,
        pairWords_cons] at hlength
      simp only [List.cons_append, List.length_cons] at hlength
      omega
  | cons pair pairs ih =>
    cases pairs' with
    | nil =>
      have hlength := hshort h'
      rw [show closing' = pairWords (pair :: pairs) ++ closing from heq.symm, pairWords_cons]
        at hlength
      simp only [List.cons_append, List.length_cons] at hlength
      omega
    | cons pair' pairs' =>
      simp only [pairWords_cons, List.cons_append, List.cons.injEq] at heq
      obtain ⟨hname, htext, hrest⟩ := heq
      rw [Prod.ext hname htext, ih hrest]

/-- What some options with their values come to, if all of them are accepted. -/
def storeAll (g : Grammar α) : α → List (String × String) → Option α
  | value, [] => some value
  | value, (name, text) :: rest =>
    match g.option? name with
    | none => none
    | some rule =>
      match storeOption rule value name text with
      | .error _ => none
      | .ok stored => g.storeAll stored rest

/-- All spellings of the options have the form of an option, and none has another meaning. -/
def WellNamed (g : Grammar α) : Prop :=
  ∀ rule ∈ g.options, ∀ name ∈ rule.names,
    isOption name = true ∧ asksForHelp name = false ∧ name ≠ endOfOptions

variable {g : Grammar α} {s t : ScanState α}

theorem storeAll_cons_eq_some_iff {value result : α} {name text : String}
    {rest : List (String × String)} :
    g.storeAll value ((name, text) :: rest) = some result ↔
      ∃ rule stored, g.option? name = some rule ∧ storeOption rule value name text = .ok stored ∧
        g.storeAll stored rest = some result := by
  rw [storeAll]
  cases hrule : g.option? name with
  | none => simp
  | some rule =>
    cases hstore : storeOption rule value name text with
    | error fault => simp [hstore]
    | ok stored => simp [hstore]

/-- What is found under a spelling is no word with another meaning. -/
theorem WellNamed.of_option? (h : g.WellNamed) {name : String} {rule : OptionRule α}
    (hrule : g.option? name = some rule) :
    isOption name = true ∧ asksForHelp name = false ∧ name ≠ endOfOptions := by
  have hmem := List.mem_of_find?_eq_some hrule
  have hname := List.find?_some hrule
  exact h rule hmem name (by simpa using hname)

/-- An option takes the next word as its value. -/
theorem scan_option (hended : s.ended = false) (hhelp : s.help = false) {name text : String}
    (hasks : asksForHelp name = false) (hoption : isOption name = true)
    (hend : name ≠ endOfOptions) {rule : OptionRule α} (hrule : g.option? name = some rule)
    {stored : α} (hstore : storeOption rule s.value name text = .ok stored) (rest : List String) :
    g.scan s (name :: text :: rest) = g.scan { s with value := stored } rest := by
  have hne : (name == "--") = false := beq_false_of_ne hend
  rw [scan.eq_def]
  simp [hended, hhelp, hasks, hoption, hne, hrule, hstore]

/-- Accepted options are scanned one after the other. -/
theorem scan_pairWords (hg : g.WellNamed) (hended : s.ended = false) (hhelp : s.help = false)
    {pairs : List (String × String)} {value : α} (h : g.storeAll s.value pairs = some value)
    (rest : List String) :
    g.scan s (pairWords pairs ++ rest) = g.scan { s with value := value } rest := by
  induction pairs generalizing s with
  | nil =>
    rw [storeAll, Option.some.injEq] at h
    subst h
    rfl
  | cons pair pairs ih =>
    obtain ⟨rule, stored, hrule, hstore, hrest⟩ := storeAll_cons_eq_some_iff.1 h
    obtain ⟨hoption, hasks, hend⟩ := hg.of_option? hrule
    have hstep := scan_option hended hhelp hasks hoption hend hrule hstore
      (pairWords pairs ++ rest)
    rw [pairWords_cons, List.cons_append, List.cons_append, hstep]
    exact ih (s := { s with value := stored }) hended hhelp hrest

/-- Requests for the usage text are scanned one after the other. -/
theorem scan_helps (hended : s.ended = false) {helps : List String}
    (h : ∀ word ∈ helps, asksForHelp word = true) (rest : List String) :
    g.scan s (helps ++ rest) = g.scan { s with help := s.help || !helps.isEmpty } rest := by
  induction helps generalizing s with
  | nil => simp
  | cons word helps ih =>
    obtain ⟨hword, hhelps⟩ := List.forall_mem_cons.1 h
    rw [List.cons_append, scan_help g s word _ hended hword,
      ih (s := { s with help := true }) hended hhelps]
    simp

/-- The end of the options is accepted at the end of the words. -/
theorem scan_closing (hended : s.ended = false) {closing : List String} (h : IsClosing closing) :
    g.scan s closing = .ok { s with ended := !closing.isEmpty } := by
  rcases h with rfl | rfl
  · obtain ⟨value, vacant, help, ended⟩ := s
    cases hended
    rw [scan.eq_def]
    rfl
  · rw [endOfOptions, scan_end g s [] hended, scan.eq_def]
    rfl

/-- What a scan has accepted: options, requests for the usage text, and the end of the options, in
this order. Behind a request there are no options, and behind the end there is nothing. -/
theorem accepted_of_scan (hvacant : s.vacant = []) {words : List String}
    (h : g.scan s words = .ok t) :
    ∃ pairs helps closing, words = pairWords pairs ++ helps ++ closing ∧
      g.storeAll s.value pairs = some t.value ∧ (∀ word ∈ helps, asksForHelp word = true) ∧
      IsClosing closing ∧ t.help = (s.help || !helps.isEmpty) ∧
      (s.help = true → pairs = []) ∧ (s.ended = true → words = []) := by
  fun_induction g.scan s words with
  | case1 s =>
    cases h
    exact ⟨[], [], [], rfl, rfl, by simp, Or.inl rfl, by simp, fun _ => rfl, fun _ => rfl⟩
  | case2 s word rest hasks ih =>
    obtain ⟨pairs, helps, closing, hrest, hstore, hhelps, hclosing, hhelp, hnone, -⟩ :=
      ih hvacant h
    obtain rfl := hnone rfl
    simp only [Bool.and_eq_true, Bool.not_eq_true'] at hasks
    refine ⟨[], word :: helps, closing, by rw [hrest]; rfl, hstore, ?_, hclosing, ?_,
      fun _ => rfl, fun hended => ?_⟩
    · exact List.forall_mem_cons.2 ⟨hasks.2, hhelps⟩
    · simpa using hhelp
    · rw [hasks.1] at hended
      cases hended
  | case3 s word rest hasks hoption hend ih =>
    obtain ⟨pairs, helps, closing, hrest, hstore, hhelps, hclosing, hhelp, hnone, hdone⟩ :=
      ih hvacant h
    obtain rfl := hdone rfl
    simp only [Bool.and_eq_true, Bool.not_eq_true'] at hoption
    obtain ⟨hbefore, rfl⟩ := List.append_eq_nil_iff.1 hrest.symm
    obtain ⟨hpairs, rfl⟩ := List.append_eq_nil_iff.1 hbefore
    obtain rfl : pairs = [] := by
      cases pairs with
      | nil => rfl
      | cons pair pairs => cases hpairs
    refine ⟨[], [], [word], rfl, hstore, by simp, Or.inr ?_, hhelp, fun _ => rfl, fun hended => ?_⟩
    · rw [eq_of_beq hend, endOfOptions]
    · rw [hoption.1] at hended
      cases hended
  | case4 | case5 | case6 | case7 => cases h
  | case8 s word hasks hoption hend hhelp rule hrule text rest stored hstore ih =>
    obtain ⟨pairs, helps, closing, hrest, hstored, hhelps, hclosing, hthelp, hnone, -⟩ :=
      ih hvacant h
    simp only [Bool.and_eq_true, Bool.not_eq_true'] at hoption
    refine ⟨(word, text) :: pairs, helps, closing, ?_, ?_, hhelps, hclosing, hthelp,
      fun hasked => absurd hasked hhelp, fun hended => ?_⟩
    · rw [hrest]
      rfl
    · exact storeAll_cons_eq_some_iff.2 ⟨rule, stored, hrule, hstore, hstored⟩
    · rw [hoption.1] at hended
      cases hended
  | case9 => cases h
  | case10 s word rest hasks hoption stored hstore ih =>
    rw [storePositional, hvacant] at hstore
    cases hstore

/-- A scan accepts options, requests for the usage text behind them, and the end of the options
behind these. -/
theorem scan_eq_ok_iff (hg : g.WellNamed) {value : α} {words : List String} :
    g.scan ⟨value, [], false, false⟩ words = .ok t ↔
      ∃ pairs helps closing, words = pairWords pairs ++ helps ++ closing ∧
        g.storeAll value pairs = some t.value ∧ (∀ word ∈ helps, asksForHelp word = true) ∧
        IsClosing closing ∧ t = ⟨t.value, [], !helps.isEmpty, !closing.isEmpty⟩ := by
  have hforward : ∀ {pairs helps closing stored}, g.storeAll value pairs = some stored →
      (∀ word ∈ helps, asksForHelp word = true) → IsClosing closing →
      g.scan ⟨value, [], false, false⟩ (pairWords pairs ++ helps ++ closing) =
        .ok ⟨stored, [], !helps.isEmpty, !closing.isEmpty⟩ := by
    intro pairs helps closing stored hstore hhelps hclosing
    rw [List.append_assoc, scan_pairWords hg rfl rfl hstore, scan_helps rfl hhelps,
      scan_closing rfl hclosing]
    rfl
  constructor
  · intro h
    obtain ⟨pairs, helps, closing, rfl, hstore, hhelps, hclosing, -⟩ := accepted_of_scan rfl h
    rw [hforward hstore hhelps hclosing, Except.ok.injEq] at h
    exact ⟨pairs, helps, closing, rfl, hstore, hhelps, hclosing, h.symm⟩
  · rintro ⟨pairs, helps, closing, rfl, hstore, hhelps, hclosing, ht⟩
    rw [hforward hstore hhelps hclosing, ← ht]

/-- Words ask for a run if they are options, and the end of the options behind them. -/
theorem read_eq_run_iff_pairs (hg : g.WellNamed) (hvacant : g.positionals = [])
    {words : List String} {value : α} :
    g.read words = .ok (.run value) ↔ ∃ pairs closing, words = pairWords pairs ++ closing ∧
      IsClosing closing ∧ g.storeAll g.start pairs = some value := by
  have hread : g.read words = .ok (.run value) ↔
      ∃ t, g.scan ⟨g.start, [], false, false⟩ words = .ok t ∧ t.help = false ∧ t.value = value := by
    rw [read, hvacant]
    cases g.scan ⟨g.start, [], false, false⟩ words with
    | error fault => simp
    | ok t => cases hhelp : t.help <;> simp [hhelp]
  rw [hread]
  constructor
  · rintro ⟨t, hscan, hhelp, rfl⟩
    obtain ⟨pairs, helps, closing, rfl, hstore, -, hclosing, ht⟩ := (scan_eq_ok_iff hg).1 hscan
    rw [ht] at hhelp
    obtain rfl : helps = [] := by simpa using hhelp
    exact ⟨pairs, closing, by rw [List.append_nil], hclosing, hstore⟩
  · rintro ⟨pairs, closing, rfl, hclosing, hstore⟩
    refine ⟨⟨value, [], false, !closing.isEmpty⟩, (scan_eq_ok_iff hg).2 ?_, rfl, rfl⟩
    exact ⟨pairs, [], closing, by rw [List.append_nil], hstore, by simp, hclosing, rfl⟩

/-- Words ask for the usage text if requests for it stand between options that would be accepted
and the end of the options. -/
theorem read_eq_help_iff_pairs (hg : g.WellNamed) (hvacant : g.positionals = [])
    {words : List String} :
    g.read words = .ok .help ↔ ∃ pairs helps closing value,
      words = pairWords pairs ++ helps ++ closing ∧ helps ≠ [] ∧
        (∀ word ∈ helps, asksForHelp word = true) ∧ IsClosing closing ∧
        g.storeAll g.start pairs = some value := by
  have hread : g.read words = .ok .help ↔
      ∃ t, g.scan ⟨g.start, [], false, false⟩ words = .ok t ∧ t.help = true := by
    rw [read, hvacant]
    cases g.scan ⟨g.start, [], false, false⟩ words with
    | error fault => simp
    | ok t => cases hhelp : t.help <;> simp [hhelp]
  rw [hread]
  constructor
  · rintro ⟨t, hscan, hhelp⟩
    obtain ⟨pairs, helps, closing, rfl, hstore, hhelps, hclosing, ht⟩ :=
      (scan_eq_ok_iff hg).1 hscan
    rw [ht] at hhelp
    exact ⟨pairs, helps, closing, t.value, rfl, by simpa using hhelp, hhelps, hclosing, hstore⟩
  · rintro ⟨pairs, helps, closing, value, rfl, hne, hhelps, hclosing, hstore⟩
    refine ⟨⟨value, [], true, !closing.isEmpty⟩, (scan_eq_ok_iff hg).2 ?_, rfl⟩
    exact ⟨pairs, helps, closing, rfl, hstore, hhelps, hclosing, by simp [hne]⟩

end CommandShell.Grammar
