import CommandShell.CommandLine
import CommandShell.Proofs.OptionScan

/-!
# The options of the shell

The arguments of the shell are options with values. Each option is given once at most, in one
spelling or another, and the order of the options does not matter. Any word can be a value, but
only the name of a level is one for the level of the log. Main statement: these arguments are
accepted with these values, requests for the usage text may follow the options, and everything
else is refused (`Options.describing_read`).
-/

namespace CommandShell.Options

open Grammar

variable {β : Type}

/-! ## Values that are given once -/

/-- The values given under some names, in order. -/
def valuesOf (names : List String) (pairs : List (String × String)) : List String :=
  (pairs.filter fun pair => names.contains pair.1).map Prod.snd

/-- A value is given under some names, once at most, behind one that was given before. Nothing is
given without one of the names. -/
def GivenAfter (before : Option β) (names : List String) (read : String → Except String β)
    (pairs : List (String × String)) (value : Option β) : Prop :=
  before.toList.map .ok ++ (valuesOf names pairs).map read = value.toList.map .ok

/-- A value is given under some names, once at most, and there is none without these names. -/
def Given (names : List String) (read : String → Except String β)
    (pairs : List (String × String)) (value : Option β) : Prop :=
  (valuesOf names pairs).map read = value.toList.map .ok

section

variable {before value : Option β} {names : List String} {read : String → Except String β}
  {name text : String} {pairs pairs' : List (String × String)}

theorem valuesOf_cons_of_mem (h : name ∈ names) :
    valuesOf names ((name, text) :: pairs) = text :: valuesOf names pairs := by
  simp [valuesOf, h]

theorem valuesOf_cons_of_notMem (h : name ∉ names) :
    valuesOf names ((name, text) :: pairs) = valuesOf names pairs := by
  simp [valuesOf, h]

/-- Without further options a value stays as it is. -/
theorem givenAfter_nil_iff : GivenAfter before names read [] value ↔ before = value := by
  cases before <;> cases value <;> simp [GivenAfter, valuesOf]

/-- A value can be given unless one was given before. -/
theorem givenAfter_cons_iff_of_mem (h : name ∈ names) :
    GivenAfter before names read ((name, text) :: pairs) value ↔
      before = none ∧ ∃ b, read text = .ok b ∧ GivenAfter (some b) names read pairs value := by
  rw [GivenAfter, valuesOf_cons_of_mem h]
  cases before with
  | some a => cases value <;> simp
  | none => cases hread : read text <;> cases value <;> simp [GivenAfter, hread]

/-- Other options leave a value as it is. -/
theorem givenAfter_cons_iff_of_notMem (h : name ∉ names) :
    GivenAfter before names read ((name, text) :: pairs) value ↔
      GivenAfter before names read pairs value := by
  rw [GivenAfter, valuesOf_cons_of_notMem h, GivenAfter]

/-- In whatever order options are given, the value is the same. -/
theorem Given.of_perm (h : Given names read pairs value) (hperm : pairs.Perm pairs') :
    Given names read pairs' value := by
  have hvalues : ((valuesOf names pairs).map read).Perm ((valuesOf names pairs').map read) :=
    ((hperm.filter _).map _).map _
  rw [h] at hvalues
  cases value with
  | none => exact List.nil_perm.1 hvalues
  | some b => exact (List.singleton_perm.1 hvalues).symm

/-- The values of options that can be given are those of one option at most. -/
theorem Given.length_valuesOf_le (h : Given names read pairs value) :
    (valuesOf names pairs).length ≤ 1 := by
  have hlength := congrArg List.length h
  cases value <;> simp_all

end

/-! ## The options -/

/-- The spellings of the option for the line to be run. -/
def commandNames : List String := ["-c", "--command"]

/-- The spelling of the option for the level of the log. -/
def levelNames : List String := ["--log-level"]

/-- The spelling of the option for the template of the prompt. -/
def promptNames : List String := ["--prompt"]

/-- What options with values say. -/
structure Settled (pairs : List (String × String)) (o : Options) : Prop where
  /-- There are no other options. -/
  named : ∀ pair ∈ pairs, pair.1 ∈ commandNames ++ levelNames ++ promptNames
  /-- Any word can be the line to be run. -/
  command : Given commandNames .ok pairs o.command
  /-- The level is the one that the value of its option names. -/
  level : Given levelNames LogLevel.read pairs o.level
  /-- Any word can be the template of the prompt. -/
  prompt : Given promptNames .ok pairs o.prompt

/-- The order of the options does not matter. -/
theorem Settled.of_perm {pairs pairs' : List (String × String)} {o : Options}
    (h : Settled pairs o) (hperm : pairs.Perm pairs') : Settled pairs' o where
  named pair hpair := h.named pair (hperm.mem_iff.2 hpair)
  command := h.command.of_perm hperm
  level := h.level.of_perm hperm
  prompt := h.prompt.of_perm hperm

/-- What options with values say behind others. -/
def Continues (before : Options) (pairs : List (String × String)) (o : Options) : Prop :=
  (∀ pair ∈ pairs, pair.1 ∈ commandNames ++ levelNames ++ promptNames) ∧
    GivenAfter before.command commandNames .ok pairs o.command ∧
    GivenAfter before.level levelNames LogLevel.read pairs o.level ∧
    GivenAfter before.prompt promptNames .ok pairs o.prompt

/-- An option stores what its value is read as, unless it was given before. -/
theorem storeOption_eq_ok_iff (get : Options → Option β) (read : String → Except String β)
    (set : Options → β → Options) (names : List String) {before stored : Options}
    {name text : String} :
    storeOption ⟨names, fun o => (get o).isSome, fun o text => (read text).map (set o)⟩ before name
        text = .ok stored ↔
      get before = none ∧ ∃ b, read text = .ok b ∧ set before b = stored := by
  rw [storeOption]
  cases hbefore : get before with
  | some b => simp [hbefore]
  | none => cases hread : read text <;> simp [hbefore, hread, Except.map]

theorem wellNamed_grammar : grammar.WellNamed := by
  intro rule hrule name hname
  simp only [grammar, List.mem_cons, List.not_mem_nil, or_false] at hrule
  rcases hrule with rfl | rfl | rfl
  · simp only [commandRule, List.mem_cons, List.not_mem_nil, or_false] at hname
    rcases hname with rfl | rfl <;> decide
  · obtain rfl := List.mem_singleton.1 hname
    decide
  · obtain rfl := List.mem_singleton.1 hname
    decide

section

variable {before o : Options} {name text : String} {rest : List (String × String)}

theorem option?_of_mem_commandNames (h : name ∈ commandNames) :
    grammar.option? name = some commandRule ∧ name ∉ levelNames ∧ name ∉ promptNames := by
  simp only [commandNames, List.mem_cons, List.not_mem_nil, or_false] at h
  rcases h with rfl | rfl
  · exact ⟨rfl, by decide, by decide⟩
  · exact ⟨rfl, by decide, by decide⟩

theorem option?_of_mem_levelNames (h : name ∈ levelNames) :
    grammar.option? name = some levelRule ∧ name ∉ commandNames ∧ name ∉ promptNames := by
  obtain rfl := List.mem_singleton.1 h
  exact ⟨rfl, by decide, by decide⟩

theorem option?_of_mem_promptNames (h : name ∈ promptNames) :
    grammar.option? name = some promptRule ∧ name ∉ commandNames ∧ name ∉ levelNames := by
  obtain rfl := List.mem_singleton.1 h
  exact ⟨rfl, by decide, by decide⟩

/-- There are no options under other names. -/
theorem option?_eq_none (h : name ∉ commandNames ++ levelNames ++ promptNames) :
    grammar.option? name = none := by
  simp only [commandNames, levelNames, promptNames, List.mem_append, List.mem_cons,
    List.not_mem_nil, or_false, not_or] at h
  simp [option?, grammar, commandRule, levelRule, promptRule, h]

/-- An option stores what its value is read as, and then it is the turn of the others. -/
theorem exists_stored_iff (get : Options → Option β) (read : String → Except String β)
    (set : Options → β → Options) {names : List String}
    (hrule : grammar.option? name =
      some ⟨names, fun o => (get o).isSome, fun o text => (read text).map (set o)⟩) :
    (∃ rule stored, grammar.option? name = some rule ∧
        storeOption rule before name text = .ok stored ∧ Continues stored rest o) ↔
      get before = none ∧ ∃ b, read text = .ok b ∧ Continues (set before b) rest o := by
  constructor
  · rintro ⟨rule, stored, hrule', hstored, hrest⟩
    cases hrule.symm.trans hrule'
    obtain ⟨hnone, b, hread, rfl⟩ := (storeOption_eq_ok_iff get read set names).1 hstored
    exact ⟨hnone, b, hread, hrest⟩
  · rintro ⟨hnone, b, hread, hrest⟩
    refine ⟨_, set before b, hrule, ?_, hrest⟩
    exact (storeOption_eq_ok_iff get read set names).2 ⟨hnone, b, hread, rfl⟩

/-- The first of some options is stored, and then it is the turn of the others. -/
theorem continues_cons_iff : Continues before ((name, text) :: rest) o ↔
    ∃ rule stored, grammar.option? name = some rule ∧
      storeOption rule before name text = .ok stored ∧ Continues stored rest o := by
  by_cases hcommand : name ∈ commandNames
  · obtain ⟨hrule, hlevel, hprompt⟩ := option?_of_mem_commandNames hcommand
    rw [exists_stored_iff Options.command .ok (fun o b => { o with command := some b }) hrule,
      Continues, givenAfter_cons_iff_of_mem hcommand, givenAfter_cons_iff_of_notMem hlevel,
      givenAfter_cons_iff_of_notMem hprompt]
    simp only [List.forall_mem_cons, List.mem_append, hcommand, Continues]
    grind
  by_cases hlevel : name ∈ levelNames
  · obtain ⟨hrule, -, hprompt⟩ := option?_of_mem_levelNames hlevel
    rw [exists_stored_iff Options.level LogLevel.read (fun o b => { o with level := some b }) hrule,
      Continues, givenAfter_cons_iff_of_notMem hcommand, givenAfter_cons_iff_of_mem hlevel,
      givenAfter_cons_iff_of_notMem hprompt]
    simp only [List.forall_mem_cons, List.mem_append, hlevel, Continues]
    grind
  by_cases hprompt : name ∈ promptNames
  · obtain ⟨hrule, -, -⟩ := option?_of_mem_promptNames hprompt
    rw [exists_stored_iff Options.prompt .ok (fun o b => { o with prompt := some b }) hrule,
      Continues, givenAfter_cons_iff_of_notMem hcommand, givenAfter_cons_iff_of_notMem hlevel,
      givenAfter_cons_iff_of_mem hprompt]
    simp only [List.forall_mem_cons, List.mem_append, hprompt, Continues]
    grind
  · have hnowhere : name ∉ commandNames ++ levelNames ++ promptNames := by
      simp [hcommand, hlevel, hprompt]
    rw [option?_eq_none hnowhere, Continues]
    constructor
    · rintro ⟨hnamed, -⟩
      exact absurd (hnamed _ List.mem_cons_self) hnowhere
    · rintro ⟨rule, stored, ⟨⟩, -⟩

end

/-- Options are stored one after the other if they can be given behind those before. -/
theorem storeAll_eq_some_iff {before o : Options} {pairs : List (String × String)} :
    grammar.storeAll before pairs = some o ↔ Continues before pairs o := by
  induction pairs generalizing before with
  | nil =>
    rw [storeAll, Option.some.injEq, Continues, givenAfter_nil_iff, givenAfter_nil_iff,
      givenAfter_nil_iff]
    obtain ⟨command, level, prompt⟩ := before
    obtain ⟨command', level', prompt'⟩ := o
    simp
  | cons pair pairs ih =>
    obtain ⟨name, text⟩ := pair
    rw [storeAll_cons_eq_some_iff, continues_cons_iff]
    simp only [ih]

/-- From the beginning, options can be stored exactly if they say something. -/
theorem storeAll_start_iff {pairs : List (String × String)} {o : Options} :
    grammar.storeAll grammar.start pairs = some o ↔ Settled pairs o := by
  rw [storeAll_eq_some_iff]
  exact ⟨fun ⟨hnamed, hcommand, hlevel, hprompt⟩ => ⟨hnamed, hcommand, hlevel, hprompt⟩,
    fun h => ⟨h.named, h.command, h.level, h.prompt⟩⟩

/-! ## The arguments -/

/-- Some words are options and nothing else, and these options say something. -/
def Means (words : List String) (o : Options) : Prop :=
  ∃ pairs closing, words = pairWords pairs ++ closing ∧ IsClosing closing ∧ Settled pairs o

/-- Some words are options that say something, and one or more requests for the usage text behind
them. -/
def Inquires (words : List String) : Prop :=
  ∃ pairs helps closing o, words = pairWords pairs ++ helps ++ closing ∧ helps ≠ [] ∧
    (∀ word ∈ helps, word = "--help" ∨ word = "help") ∧ IsClosing closing ∧ Settled pairs o

/-- What the arguments of the shell come to. -/
structure Described (arguments : List String) : Prop where
  /-- They are accepted exactly if they are options that say something, and it is what these say. -/
  run_iff : ∀ o, read arguments = .ok (.run o) ↔ Means arguments o
  /-- They ask for the usage text exactly if requests for it stand behind such options. -/
  help_iff : read arguments = .ok .help ↔ Inquires arguments
  /-- All other arguments are refused. -/
  refused_iff : (∃ fault, read arguments = .error fault) ↔
    (¬ ∃ o, Means arguments o) ∧ ¬ Inquires arguments
  /-- Whatever the arguments say, no option is given twice, and the template of the prompt is the
  usual one unless another one is given. -/
  single : ∀ o pairs, Settled pairs o → (valuesOf commandNames pairs).length ≤ 1 ∧
    (valuesOf levelNames pairs).length ≤ 1 ∧ (valuesOf promptNames pairs).length ≤ 1 ∧
    o.promptTemplate = (valuesOf promptNames pairs).headD "{cwd}> "
  /-- The same options in another order say the same. -/
  unordered : ∀ pairs pairs' closing closing' o, pairs.Perm pairs' → IsClosing closing →
    IsClosing closing' → read (pairWords pairs ++ closing) = .ok (.run o) →
    read (pairWords pairs' ++ closing') = .ok (.run o)

theorem read_eq_run_iff_means {arguments : List String} {o : Options} :
    read arguments = .ok (.run o) ↔ Means arguments o := by
  rw [read, read_eq_run_iff_pairs wellNamed_grammar rfl, Means]
  simp only [storeAll_start_iff]

/-- Words are options with values in one way only. -/
theorem Means.settled {pairs : List (String × String)} {closing : List String} {o : Options}
    (hclosing : IsClosing closing) (h : Means (pairWords pairs ++ closing) o) :
    Settled pairs o := by
  obtain ⟨pairs', closing', hwords, hclosing', hsettled⟩ := h
  rwa [pairs_eq_of_append hclosing hclosing' hwords]

theorem read_eq_help_iff_inquires {arguments : List String} :
    read arguments = .ok .help ↔ Inquires arguments := by
  rw [read, read_eq_help_iff_pairs wellNamed_grammar rfl, Inquires]
  simp only [storeAll_start_iff, asksForHelp, Bool.or_eq_true, beq_iff_eq]

/-- The template of the prompt is the usual one unless another one is given. -/
theorem Settled.promptTemplate_eq {pairs : List (String × String)} {o : Options}
    (h : Settled pairs o) :
    o.promptTemplate = (valuesOf promptNames pairs).headD "\x7bcwd\x7d> " := by
  have hvalues : valuesOf promptNames pairs = o.prompt.toList :=
    (List.map_inj_right fun _ _ => Except.ok.inj).1 h.prompt
  rw [hvalues, promptTemplate]
  cases o.prompt <;> rfl

/-- Whatever the arguments of the shell are, they are accepted, inquire or are refused as their
options say. -/
theorem describing_read (arguments : List String) : Described arguments where
  run_iff _ := read_eq_run_iff_means
  help_iff := read_eq_help_iff_inquires
  refused_iff := by
    rw [← read_eq_help_iff_inquires]
    simp only [← read_eq_run_iff_means]
    cases hread : read arguments with
    | error fault => simp
    | ok request => cases request <;> simp
  single _ _ h := ⟨h.command.length_valuesOf_le, h.level.length_valuesOf_le,
    h.prompt.length_valuesOf_le, h.promptTemplate_eq⟩
  unordered pairs pairs' closing closing' o hperm hclosing hclosing' hread := by
    have hsettled := (read_eq_run_iff_means.1 hread).settled hclosing
    exact read_eq_run_iff_means.2
      ⟨pairs', closing', rfl, hclosing', hsettled.of_perm hperm⟩

/-- Two options in either order, one of them with a value that looks like an option. -/
example : read ["--prompt", "--help", "-c", "ls", "--"] =
    .ok (.run ⟨some "ls", none, some "--help"⟩) := by rfl

end CommandShell.Options
