import CommandShell.Proofs.Grammar
import CommandShell.Proofs.Spacing
import Mathlib.Data.Set.List

/-!
# Rendering of pipelines

A pipeline can be written on a line if its words and targets can: each of them is not empty and
holds no blank and no operator. Reading the line gives the pipeline back, however it is spaced, and
nothing else is ever read from a line. Main statement: the lists of stages that are read from lines
are those that can be written on one (`frontEnd_scan`).
-/

namespace CommandShell

namespace Token

/-- All tokens of a part are on the line. -/
theorem mem_of_mem_parts {tokens part : List Token} {token : Token} (hpart : part ∈ parts tokens)
    (htoken : token ∈ part) : token ∈ tokens := by
  rw [parts] at hpart
  fun_induction cutAtPipes tokens generalizing part with
  | case1 =>
    rw [List.mem_singleton.1 hpart] at htoken
    exact htoken
  | case2 rest first later h ih =>
    rw [h] at ih
    rcases List.mem_cons.1 hpart with rfl | hpart
    · cases htoken
    · exact List.mem_cons_of_mem _ (ih hpart htoken)
  | case3 front rest hne first later h ih =>
    rw [h] at ih
    rcases List.mem_cons.1 hpart with rfl | hpart
    · rcases List.mem_cons.1 htoken with rfl | htoken
      · exact List.mem_cons_self
      · exact List.mem_cons_of_mem _ (ih List.mem_cons_self htoken)
    · exact List.mem_cons_of_mem _ (ih (List.mem_cons_of_mem _ hpart) htoken)

/-- Apart from the pipes, all that is joined stands in one of the parts. -/
theorem exists_mem_of_mem_intercalate {list : List (List Token)} {token : Token}
    (h : token ∈ [Token.pipe].intercalate list) (hne : token ≠ .pipe) :
    ∃ part ∈ list, token ∈ part := by
  induction list with
  | nil => cases h
  | cons part rest ih =>
    by_cases hrest : rest = []
    · rw [hrest, List.intercalate_singleton] at h
      exact ⟨part, List.mem_cons_self, h⟩
    · rw [List.intercalate_cons_of_ne_nil hrest, List.append_assoc, List.mem_append,
        List.singleton_append, List.mem_cons] at h
      rcases h with h | h | h
      · exact ⟨part, List.mem_cons_self, h⟩
      · exact absurd h hne
      · obtain ⟨later, hlater, hmem⟩ := ih h
        exact ⟨later, List.mem_cons_of_mem _ hlater, hmem⟩

/-- What stands in front of the first pipe belongs to the first part. -/
theorem cutAtPipes_append {part : List Token} (h : .pipe ∉ part) (rest : List Token) :
    cutAtPipes (part ++ rest) = (part ++ (cutAtPipes rest).1, (cutAtPipes rest).2) := by
  induction part with
  | nil => rfl
  | cons token part ih =>
    rw [List.mem_cons, not_or] at h
    rw [List.cons_append, cutAtPipes, ih h.2]
    · rfl
    · exact fun hpipe => h.1 hpipe.symm

theorem parts_of_pipe_notMem {part : List Token} (h : .pipe ∉ part) : parts part = [part] := by
  have hcut := cutAtPipes_append h []
  rw [cutAtPipes, List.append_nil] at hcut
  rw [parts, hcut]

theorem parts_append_pipe {part : List Token} (h : .pipe ∉ part) (rest : List Token) :
    parts (part ++ .pipe :: rest) = part :: parts rest := by
  rw [parts, cutAtPipes_append h, cutAtPipes, List.append_nil, parts]

/-- Parts without pipes, joined by pipes, are cut where they were joined. -/
theorem parts_intercalate {list : List (List Token)} (hne : list ≠ [])
    (hpipe : ∀ part ∈ list, .pipe ∉ part) : parts ([Token.pipe].intercalate list) = list := by
  induction list with
  | nil => exact absurd rfl hne
  | cons part rest ih =>
    have hpart := hpipe part List.mem_cons_self
    cases rest with
    | nil => rw [List.intercalate_singleton, parts_of_pipe_notMem hpart]
    | cons second rest =>
      rw [List.intercalate_cons_cons, List.append_assoc, List.singleton_append,
        parts_append_pipe hpart,
        ih (List.cons_ne_nil _ _) fun later h => hpipe later (List.mem_cons_of_mem _ h)]

end Token

namespace Item

/-- An item is never without tokens. -/
theorem tokens_ne_nil (item : Item) : item.tokens ≠ [] := by
  cases item <;> exact List.cons_ne_nil _ _

/-- There is no pipe in an item. -/
theorem pipe_notMem_spell (items : List Item) : .pipe ∉ spell items := by
  intro h
  obtain ⟨item, -, hitem⟩ := List.mem_flatMap.1 h
  cases item <;> simp [tokens] at hitem

/-- An argument is one of the tokens. -/
theorem mem_spell_of_mem_words {items : List Item} {w : String} (h : w ∈ words items) :
    .word w ∈ spell items := by
  obtain ⟨item, hitem, hword⟩ := List.mem_filterMap.1 h
  cases item <;> cases hword
  exact List.mem_flatMap.2 ⟨_, hitem, List.mem_singleton_self _⟩

/-- The file to read from is one of the tokens. -/
theorem mem_spell_of_lastInput? {items : List Item} {path : String}
    (h : lastInput? items = some path) : .word path ∈ spell items := by
  obtain ⟨item, hitem, htarget⟩ := List.mem_filterMap.1 (List.mem_of_getLast? h)
  cases item <;> cases htarget
  exact List.mem_flatMap.2 ⟨_, hitem, List.mem_cons_of_mem _ (List.mem_singleton_self _)⟩

/-- The file to write to is one of the tokens. -/
theorem mem_spell_of_lastOutput? {items : List Item} {path : String}
    (h : lastOutput? items = some path) : .word path ∈ spell items := by
  obtain ⟨item, hitem, htarget⟩ := List.mem_filterMap.1 (List.mem_of_getLast? h)
  cases item <;> cases htarget
  exact List.mem_flatMap.2 ⟨_, hitem, List.mem_cons_of_mem _ (List.mem_singleton_self _)⟩

end Item

/-! ## Stages on a line -/

namespace StageItems

/-- All words and targets can stand as words on a line. -/
structure IsPlain (items : StageItems) : Prop where
  /-- The words can. -/
  words : ∀ w ∈ items.words, Token.IsPlain w
  /-- The file to read from can. -/
  input : ∀ path, items.input = some path → Token.IsPlain path
  /-- The file to write to can. -/
  output : ∀ path, items.output = some path → Token.IsPlain path

/-- A stage on a line: its words, and behind them its redirections, with single blanks in
between. -/
def render (items : StageItems) : String :=
  " ".intercalate (items.words ++ items.input.toList.map ("< " ++ ·) ++
    items.output.toList.map ("> " ++ ·))

/-- The items of a stage in the order in which they are written. -/
def written (items : StageItems) : List Item :=
  items.words.map .word ++ items.input.toList.map .input ++ items.output.toList.map .output

/-- The tokens of a stage in the order in which they are written. -/
def tokens (items : StageItems) : List Token := Item.spell items.written

/-- What is written of a stage amounts to the stage. -/
theorem ofItems_written (items : StageItems) : ofItems items.written = items := by
  obtain ⟨words, input, output⟩ := items
  have hword : ∀ target : Option String,
      (target.toList.map Item.input).filterMap Item.word? = [] ∧
      (target.toList.map Item.output).filterMap Item.word? = [] := by
    intro target
    cases target <;> exact ⟨rfl, rfl⟩
  have hinput : (words.map Item.word).filterMap Item.input? = [] ∧
      (words.map Item.word).filterMap Item.output? = [] := by
    rw [List.filterMap_map, List.filterMap_map]
    exact ⟨List.filterMap_eq_nil_iff.2 fun _ _ => rfl, List.filterMap_eq_nil_iff.2 fun _ _ => rfl⟩
  have hwords : (words.map Item.word).filterMap Item.word? = words := by
    rw [List.filterMap_map]
    exact List.filterMap_some
  rw [ofItems, Item.words, Item.lastInput?, Item.lastOutput?, written]
  simp only [List.filterMap_append, (hword _).1, (hword _).2, hinput.1, hinput.2, hwords,
    List.append_nil, List.nil_append]
  cases input <;> cases output <;> rfl

theorem mem_tokens_iff {items : StageItems} {w : String} : .word w ∈ items.tokens ↔
    w ∈ items.words ∨ items.input = some w ∨ items.output = some w := by
  simp only [tokens, Item.spell, written, List.mem_flatMap, List.mem_append, List.mem_map,
    Option.mem_toList]
  constructor
  · rintro ⟨item, (⟨v, hv, rfl⟩ | ⟨v, hv, rfl⟩) | ⟨v, hv, rfl⟩, hitem⟩
    all_goals simp only [Item.tokens, List.mem_cons, Token.word.injEq, List.not_mem_nil, or_false,
      reduceCtorEq, false_or] at hitem
    · exact Or.inl (hitem ▸ hv)
    · exact Or.inr (Or.inl (hitem ▸ hv))
    · exact Or.inr (Or.inr (hitem ▸ hv))
  · rintro (h | h | h)
    · exact ⟨.word w, Or.inl (Or.inl ⟨w, h, rfl⟩), List.mem_singleton_self _⟩
    · exact ⟨.input w, Or.inl (Or.inr ⟨w, h, rfl⟩),
        List.mem_cons_of_mem _ (List.mem_singleton_self _)⟩
    · exact ⟨.output w, Or.inr ⟨w, h, rfl⟩, List.mem_cons_of_mem _ (List.mem_singleton_self _)⟩

end StageItems

/-- Texts that are joined can be joined piece by piece. -/
theorem intercalate_flatMap {α : Type} (separator : String) (list : List α)
    {pieces : α → List String} (hne : ∀ a, pieces a ≠ []) :
    separator.intercalate (list.flatMap pieces) =
      separator.intercalate (list.map fun a => separator.intercalate (pieces a)) := by
  induction list with
  | nil => rfl
  | cons a list ih =>
    cases list with
    | nil =>
      rw [List.flatMap_cons, List.flatMap_nil, List.append_nil, List.map_cons, List.map_nil,
        String.intercalate_singleton]
    | cons b list =>
      have hrest : (b :: list).flatMap pieces ≠ [] := by
        rw [List.flatMap_cons]
        exact List.append_ne_nil_of_left_ne_nil (hne b) _
      rw [List.flatMap_cons, String.intercalate_append_of_ne_nil (hne a) hrest, ih]
      exact (String.intercalate_cons_of_ne_nil (List.cons_ne_nil _ _)).symm

/-- Parts that are joined are all there. -/
theorem Token.intercalate_ne_nil {list : List (List Token)} (hlist : list ≠ [])
    (hne : ∀ part ∈ list, part ≠ []) : [Token.pipe].intercalate list ≠ [] := by
  obtain ⟨part, rest, rfl⟩ := List.exists_cons_of_ne_nil hlist
  have hpart := hne part List.mem_cons_self
  by_cases hrest : rest = []
  · rwa [hrest, List.intercalate_singleton]
  · rw [List.intercalate_cons_of_ne_nil hrest, List.append_assoc]
    exact List.append_ne_nil_of_left_ne_nil hpart _

namespace StageItems

/-- A stage is written as its tokens with single blanks in between. -/
theorem render_eq (items : StageItems) :
    items.render = " ".intercalate (items.tokens.map Token.text) := by
  have hpieces : ∀ item : Item, item.tokens.map Token.text ≠ [] := fun item h =>
    item.tokens_ne_nil (List.map_eq_nil_iff.1 h)
  have hinput : ∀ path : String, " ".intercalate ["<", path] = "< " ++ path := by
    intro path
    rw [String.intercalate_cons_cons, String.intercalate_singleton]
    rfl
  have houtput : ∀ path : String, " ".intercalate [">", path] = "> " ++ path := by
    intro path
    rw [String.intercalate_cons_cons, String.intercalate_singleton]
    rfl
  rw [tokens, Item.spell, List.map_flatMap, intercalate_flatMap " " _ hpieces, render, written]
  simp only [List.map_append, List.map_map, Function.comp_def, Item.tokens, List.map_cons,
    List.map_nil, Token.text, String.intercalate_singleton, hinput, houtput, List.map_id']

theorem tokens_ne_nil {items : StageItems} (h : items.words ≠ []) : items.tokens ≠ [] := by
  obtain ⟨w, rest, hwords⟩ := List.exists_cons_of_ne_nil h
  exact List.ne_nil_of_mem (mem_tokens_iff.2 (Or.inl (hwords ▸ List.mem_cons_self)))

/-- Stages are written as their tokens with single blanks in between, pipes among them. -/
theorem render_intercalate {stages : List StageItems}
    (hwords : ∀ items ∈ stages, items.words ≠ []) :
    " | ".intercalate (stages.map render) =
      " ".intercalate (([Token.pipe].intercalate (stages.map tokens)).map Token.text) := by
  induction stages with
  | nil => rfl
  | cons first rest ih =>
    have hfirst : first.tokens.map Token.text ≠ [] := fun h =>
      tokens_ne_nil (hwords first List.mem_cons_self) (List.map_eq_nil_iff.1 h)
    have hlater : ∀ items ∈ rest, items.words ≠ [] := fun items h =>
      hwords items (List.mem_cons_of_mem _ h)
    rw [List.map_cons, List.map_cons]
    by_cases hrest : rest = []
    · rw [hrest, List.map_nil, List.map_nil, String.intercalate_singleton,
        List.intercalate_singleton, render_eq]
    · have hrenders : rest.map render ≠ [] := fun h => hrest (List.map_eq_nil_iff.1 h)
      have hparts : rest.map tokens ≠ [] := fun h => hrest (List.map_eq_nil_iff.1 h)
      have htexts : ([Token.pipe].intercalate (rest.map tokens)).map Token.text ≠ [] := by
        refine fun h => Token.intercalate_ne_nil hparts (fun part hpart => ?_)
          (List.map_eq_nil_iff.1 h)
        obtain ⟨items, hitems, rfl⟩ := List.mem_map.1 hpart
        exact tokens_ne_nil (hlater items hitems)
      have hblanks : " | " = " " ++ ("|" ++ " ") := rfl
      rw [String.intercalate_cons_of_ne_nil hrenders, List.intercalate_cons_of_ne_nil hparts,
        List.map_append, List.map_append, List.append_assoc, List.map_singleton,
        List.singleton_append, String.intercalate_append_of_ne_nil hfirst (List.cons_ne_nil _ _),
        String.intercalate_cons_of_ne_nil htexts, ← ih hlater, ← render_eq, hblanks]
      simp only [String.append_assoc, Token.text]

end StageItems

/-- A stage as its words and its redirections. -/
def Stage.items (stage : Stage) : StageItems := ⟨stage.argv, stage.input, stage.output⟩

namespace Stage

theorem items_injective {stage other : Stage} (h : stage.items = other.items) : stage = other := by
  obtain ⟨program, arguments, input, output⟩ := stage
  obtain ⟨program', arguments', input', output'⟩ := other
  obtain ⟨hwords, rfl, rfl⟩ := StageItems.mk.inj h
  obtain ⟨rfl, rfl⟩ := List.cons.inj hwords
  rfl

/-- Words make a stage if there is one for its program. -/
theorem exists_items {items : StageItems} (h : items.words ≠ []) :
    ∃ stage : Stage, stage.items = items := by
  obtain ⟨words, input, output⟩ := items
  obtain ⟨program, arguments, rfl⟩ := List.exists_cons_of_ne_nil h
  exact ⟨⟨program, arguments, input, output⟩, rfl⟩

/-- What is written of a stage describes it. -/
theorem spelled_tokens (stage : Stage) : Spelled stage.items.tokens stage := by
  obtain ⟨hwords, hinput, houtput⟩ := StageItems.mk.inj stage.items.ofItems_written
  exact ⟨stage.items.written, rfl, hwords.symm, hinput.symm, houtput.symm⟩

/-- A stage that is described by plain words is plain. -/
theorem Spelled.isPlain {part : List Token} {stage : Stage} (h : Spelled part stage)
    (hplain : ∀ w, .word w ∈ part → Token.IsPlain w) : stage.items.IsPlain := by
  obtain ⟨items, rfl, hwords, hinput, houtput⟩ := h
  refine ⟨fun w hw => ?_, fun path hpath => ?_, fun path hpath => ?_⟩
  · have hmem : w ∈ Item.words items := hwords ▸ hw
    exact hplain w (Item.mem_spell_of_mem_words hmem)
  · exact hplain path (Item.mem_spell_of_lastInput? (hinput.symm.trans hpath))
  · exact hplain path (Item.mem_spell_of_lastOutput? (houtput.symm.trans hpath))

end Stage

/-! ## Pipelines on a line -/

namespace Pipeline

/-- The stages of a pipeline, each of them as its words and its redirections. -/
def items (p : Pipeline) : List StageItems := p.stages.map Stage.items

/-- A pipeline on a line: its stages with pipes in between. -/
def render (p : Pipeline) : String := " | ".intercalate (p.items.map StageItems.render)

/-- The tokens of a pipeline in the order in which they are written. -/
def tokens (p : Pipeline) : List Token := [Token.pipe].intercalate (p.items.map StageItems.tokens)

/-- Some stages can be written on a line: there is one, each of them has a word, and all words and
targets are plain. -/
structure Writable (stages : List StageItems) : Prop where
  /-- There is a stage. -/
  nonempty : stages ≠ []
  /-- Every stage has a word, which is its program. -/
  words : ∀ items ∈ stages, items.words ≠ []
  /-- No word and no target is empty or holds a blank or an operator. -/
  plain : ∀ items ∈ stages, items.IsPlain

theorem items_injective {p q : Pipeline} (h : p.items = q.items) : p = q := by
  have hstages := List.map_injective_iff.2 (fun _ _ => Stage.items_injective) h
  obtain ⟨first, rest⟩ := p
  obtain ⟨first', rest'⟩ := q
  obtain ⟨rfl, rfl⟩ := List.cons.inj hstages
  rfl

/-- Stages that can be written make a pipeline. -/
theorem exists_items {stages : List StageItems} (h : Writable stages) :
    ∃ p : Pipeline, p.items = stages := by
  have hrange : stages ∈ Set.range (List.map Stage.items) := by
    rw [Set.range_list_map]
    exact fun items hitems => Stage.exists_items (h.words items hitems)
  obtain ⟨list, rfl⟩ := hrange
  cases list with
  | nil => exact absurd rfl h.nonempty
  | cons first rest => exact ⟨⟨first, rest⟩, rfl⟩

theorem words_ne_nil {p : Pipeline} : ∀ items ∈ p.items, items.words ≠ [] := by
  intro items hitems
  obtain ⟨stage, -, rfl⟩ := List.mem_map.1 hitems
  exact List.cons_ne_nil _ _

/-- The tokens of a pipeline describe it. -/
theorem ofTokens_tokens (p : Pipeline) : Pipeline.ofTokens p.tokens = .ok p := by
  have hparts : Token.parts p.tokens = p.items.map StageItems.tokens := by
    refine Token.parts_intercalate (List.cons_ne_nil _ _) fun part hpart => ?_
    obtain ⟨items, -, rfl⟩ := List.mem_map.1 hpart
    exact Item.pipe_notMem_spell items.written
  rw [ofTokens_eq_ok_iff, hparts, items, List.map_map, List.forall₂_map_left_iff,
    List.forall₂_same]
  exact fun stage _ => stage.spelled_tokens

/-- The words of a pipeline that can be written are plain. -/
theorem isPlain_of_mem_tokens {p : Pipeline} (h : Writable p.items) {w : String}
    (hw : .word w ∈ p.tokens) : Token.IsPlain w := by
  obtain ⟨part, hpart, hmem⟩ := Token.exists_mem_of_mem_intercalate hw nofun
  obtain ⟨items, hitems, rfl⟩ := List.mem_map.1 hpart
  have hplain := h.plain items hitems
  rcases StageItems.mem_tokens_iff.1 hmem with hword | hinput | houtput
  · exact hplain.words w hword
  · exact hplain.input w hinput
  · exact hplain.output w houtput

/-- A pipeline that can be written is read from every line on which its tokens are laid out. -/
theorem ofTokens_spaced {p : Pipeline} (h : Writable p.items) {line lead : String}
    {gaps : List String} (hspaced : Token.Spaced line p.tokens lead gaps) :
    Pipeline.ofTokens (Token.scan line) = .ok p := by
  rw [hspaced.scan_eq fun w hw => isPlain_of_mem_tokens h hw, ofTokens_tokens]

/-- A pipeline is laid out by writing it. -/
theorem exists_spaced_render (p : Pipeline) : ∃ gaps, Token.Spaced p.render p.tokens "" gaps := by
  rw [render, StageItems.render_intercalate words_ne_nil]
  exact Token.exists_spaced_intercalate p.tokens

/-- A stage that is made of a part of a line is plain. -/
theorem isPlain_of_mem_parts {line : String} {part : List Token} {stage : Stage}
    (hpart : part ∈ Token.parts (Token.scan line)) (h : Stage.ofTokens part = .ok stage) :
    stage.items.IsPlain :=
  (Stage.ofTokens_eq_ok_iff.1 h).isPlain fun _ hw =>
    Token.isPlain_of_mem_scan (Token.mem_of_mem_parts hpart hw)

/-- The stages that are read from a line can be written on one. -/
theorem writable_of_scan {line : String} {p : Pipeline}
    (h : Pipeline.ofTokens (Token.scan line) = .ok p) : Writable p.items := by
  refine ⟨List.cons_ne_nil _ _, words_ne_nil, fun items hitems => ?_⟩
  obtain ⟨stage, hstage, rfl⟩ := List.mem_map.1 hitems
  obtain ⟨i, hi, rfl⟩ := List.mem_iff_getElem.1 hstage
  have hspelled := ofTokens_eq_ok_iff.1 h
  have hlt : i < (Token.parts (Token.scan line)).length := hspelled.length_eq ▸ hi
  exact isPlain_of_mem_parts (List.getElem_mem hlt)
    (Stage.ofTokens_eq_ok_iff.2 (hspelled.get hlt hi))

end Pipeline

/-- The way from lines to pipelines. -/
structure FrontEnd : Prop where
  /-- Some stages are read from a line exactly if they can be written on one. -/
  image : ∀ stages : List StageItems,
    (∃ line p, Pipeline.ofTokens (Token.scan line) = .ok p ∧ p.items = stages) ↔
      Pipeline.Writable stages
  /-- A pipeline that can be written is read back from what is written. -/
  rendered : ∀ p : Pipeline, Pipeline.Writable p.items →
    Pipeline.ofTokens (Token.scan p.render) = .ok p
  /-- So it is however its tokens are spaced. -/
  spaced : ∀ (p : Pipeline) (line lead : String) (gaps : List String),
    Pipeline.Writable p.items → Token.Spaced line p.tokens lead gaps →
      Pipeline.ofTokens (Token.scan line) = .ok p
  /-- Whenever a stage is made of a part of a line, its first argument is the program, and this is
  not empty. It makes no difference if another part of the line is at fault. -/
  named : ∀ (line : String) (part : List Token) (stage : Stage),
    part ∈ Token.parts (Token.scan line) → Stage.ofTokens part = .ok stage →
      stage.argv[0]? = some stage.program ∧ stage.program ≠ ""
  /-- A pipeline that is read has a stage, and one pipe less than stages. -/
  counted : ∀ (line : String) (p : Pipeline), Pipeline.ofTokens (Token.scan line) = .ok p →
    1 ≤ p.length ∧ p.joints = p.length - 1

/-- The pipelines that lines describe are those that can be written, each of which is read back from
its own rendering. -/
theorem frontEnd_scan : FrontEnd where
  image stages := by
    constructor
    · rintro ⟨line, p, hread, rfl⟩
      exact Pipeline.writable_of_scan hread
    · intro h
      obtain ⟨p, rfl⟩ := Pipeline.exists_items h
      obtain ⟨gaps, hspaced⟩ := p.exists_spaced_render
      exact ⟨p.render, p, Pipeline.ofTokens_spaced h hspaced, rfl⟩
  rendered p h := by
    obtain ⟨gaps, hspaced⟩ := p.exists_spaced_render
    exact Pipeline.ofTokens_spaced h hspaced
  spaced p line lead gaps h hspaced := Pipeline.ofTokens_spaced h hspaced
  named line part stage hpart h := by
    have hplain := Pipeline.isPlain_of_mem_parts hpart h
    exact ⟨rfl, (hplain.words stage.program List.mem_cons_self).1⟩
  counted line p h := by
    rw [← p.joints_add_one]
    exact ⟨Nat.le_add_left 1 _, rfl⟩

/-- A redirection is written behind the words of its stage. -/
example : Pipeline.render ⟨⟨"sort", ["-r"], some "in", none⟩, [⟨"wc", [], none, some "out"⟩]⟩ =
    "sort -r < in | wc > out" := by
  decide

end CommandShell
