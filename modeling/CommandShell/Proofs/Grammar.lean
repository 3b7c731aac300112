import CommandShell.Proofs.Targets
import Mathlib.Data.List.Forall2

/-!
# The grammar of a line

A part of a line is a sequence of items: words, and redirections with their targets. Where no item
begins there is a pipe, or an operator without a target. Main statement: a line describes a
pipeline if all its parts are items with a word among them; then every part describes the stage
in its place, and otherwise the leftmost part of another kind says what is wrong
(`Token.grammar`).
-/

namespace CommandShell

/-- What a part of a line is made of. -/
inductive Item where
  /-- A word that is no target. -/
  | word (text : String)
  /-- A file to read from. -/
  | input (target : String)
  /-- A file to write to. -/
  | output (target : String)
  deriving DecidableEq, Repr

namespace Item

/-- The tokens of an item. -/
def tokens : Item → List Token
  | word text => [.word text]
  | input target => [.input, .word target]
  | output target => [.output, .word target]

/-- The tokens of some items, in order. -/
def spell (items : List Item) : List Token := items.flatMap tokens

/-- The word that an item adds to the arguments. -/
def word? : Item → Option String
  | word text => some text
  | _ => none

/-- The file that an item names for reading. -/
def input? : Item → Option String
  | input target => some target
  | _ => none

/-- The file that an item names for writing. -/
def output? : Item → Option String
  | output target => some target
  | _ => none

/-- The arguments among some items, in order. -/
def words (items : List Item) : List String := items.filterMap word?

/-- The last file named for reading. -/
def lastInput? (items : List Item) : Option String := (items.filterMap input?).getLast?

/-- The last file named for writing. -/
def lastOutput? (items : List Item) : Option String := (items.filterMap output?).getLast?

theorem spell_cons (item : Item) (items : List Item) :
    spell (item :: items) = item.tokens ++ spell items := List.flatMap_cons

end Item

/-- Tokens that begin with no item, and what is wrong with that. -/
inductive Token.Obstacle : List Token → SyntaxFault → Prop where
  /-- A pipe is no item. -/
  | pipe (rest : List Token) : Obstacle (.pipe :: rest) .strayPipe
  /-- An operator is no item without a word behind it. -/
  | operator {token : Token} (redirects : token = .input ∨ token = .output) {rest : List Token}
    (target : ∀ w, rest.head? ≠ some (.word w)) : Obstacle (token :: rest) .missingTarget

namespace StageItems

/-- What some items amount to together with an item behind them. -/
def add (seen : StageItems) : Item → StageItems
  | .word text => { seen with words := seen.words ++ [text] }
  | .input target => { seen with input := some target }
  | .output target => { seen with output := some target }

/-- What some items amount to. -/
def ofItems (items : List Item) : StageItems :=
  ⟨Item.words items, Item.lastInput? items, Item.lastOutput? items⟩

/-- An item behind others adds its word or takes the place of the others of its direction. -/
theorem ofItems_concat (items : List Item) (item : Item) :
    ofItems (items ++ [item]) = (ofItems items).add item := by
  cases item <;>
    simp [ofItems, add, Item.words, Item.lastInput?, Item.lastOutput?, Item.word?, Item.input?,
      Item.output?]

/-- Items are gathered one after the other. -/
theorem gather_spell (before items : List Item) (rest : List Token) :
    (ofItems before).gather (Item.spell items ++ rest) =
      (ofItems (before ++ items)).gather rest := by
  induction items generalizing before with
  | nil => rw [List.append_nil]; rfl
  | cons item items ih =>
    have hstep : (ofItems before).gather (item.tokens ++ (Item.spell items ++ rest)) =
        ((ofItems before).add item).gather (Item.spell items ++ rest) := by
      cases item <;> simp only [Item.tokens, List.cons_append, List.nil_append, gather, add]
    rw [Item.spell_cons, List.append_assoc, hstep, ← ofItems_concat, ih, List.append_assoc,
      List.singleton_append]

/-- Nothing is gathered beyond an obstacle. -/
theorem gather_obstacle {rest : List Token} {fault : SyntaxFault} (h : Token.Obstacle rest fault)
    (seen : StageItems) : seen.gather rest = .error fault := by
  cases h with
  | pipe rest => rw [gather]
  | @operator _ hredirects rest htarget =>
    have hne : ∀ w later, rest = Token.word w :: later → False := by
      rintro w later rfl
      exact htarget w rfl
    rcases hredirects with rfl | rfl
    · rw [gather]
      exact hne
    · rw [gather]
      exact hne

/-- An operator is an obstacle if no target is behind it. -/
theorem obstacle_of_forall_ne {token : Token} (h : token = .input ∨ token = .output)
    {rest : List Token} (hne : ∀ w later, rest = Token.word w :: later → False) :
    Token.Obstacle (token :: rest) .missingTarget := by
  refine .operator h fun w hw => ?_
  cases rest with
  | nil => cases hw
  | cons first later =>
    cases hw
    exact hne w later rfl

/-- Tokens are items as far as the end or the first obstacle. -/
theorem exists_spell (tokens : List Token) : ∃ items rest, tokens = Item.spell items ++ rest ∧
    (rest = [] ∨ ∃ fault, Token.Obstacle rest fault) := by
  -- The cases are those of gathering, whatever has been gathered before.
  generalize hseen : empty = seen
  clear hseen
  fun_induction gather seen tokens with
  | case1 => exact ⟨[], [], rfl, .inl rfl⟩
  | case2 seen w rest ih =>
    obtain ⟨items, later, rfl, hlater⟩ := ih
    exact ⟨.word w :: items, later, rfl, hlater⟩
  | case3 seen target rest ih =>
    obtain ⟨items, later, rfl, hlater⟩ := ih
    exact ⟨.input target :: items, later, rfl, hlater⟩
  | case4 seen target rest ih =>
    obtain ⟨items, later, rfl, hlater⟩ := ih
    exact ⟨.output target :: items, later, rfl, hlater⟩
  | case5 seen rest => exact ⟨[], _, rfl, .inr ⟨_, .pipe rest⟩⟩
  | case6 seen rest hne =>
    exact ⟨[], _, rfl, .inr ⟨_, obstacle_of_forall_ne (.inl rfl) hne⟩⟩
  | case7 seen rest hne =>
    exact ⟨[], _, rfl, .inr ⟨_, obstacle_of_forall_ne (.inr rfl) hne⟩⟩

theorem ofTokens_spell (items : List Item) : ofTokens (Item.spell items) = .ok (ofItems items) := by
  have h := gather_spell [] items []
  rwa [List.append_nil, List.nil_append] at h

theorem ofTokens_obstacle (items : List Item) {rest : List Token} {fault : SyntaxFault}
    (h : Token.Obstacle rest fault) : ofTokens (Item.spell items ++ rest) = .error fault :=
  (gather_spell [] items rest).trans (gather_obstacle h _)

/-- Tokens can be sorted if they are items. -/
theorem ofTokens_eq_ok_iff {tokens : List Token} {result : StageItems} :
    ofTokens tokens = .ok result ↔ ∃ items, tokens = Item.spell items ∧ result = ofItems items := by
  constructor
  · intro h
    obtain ⟨items, rest, rfl, rfl | ⟨fault, hfault⟩⟩ := exists_spell tokens
    · rw [List.append_nil] at h ⊢
      rw [ofTokens_spell] at h
      exact ⟨items, rfl, (Except.ok.inj h).symm⟩
    · rw [ofTokens_obstacle items hfault] at h
      cases h
  · rintro ⟨items, rfl, rfl⟩
    exact ofTokens_spell items

/-- Tokens cannot be sorted if there is an obstacle behind some items. -/
theorem ofTokens_eq_error_iff {tokens : List Token} {fault : SyntaxFault} :
    ofTokens tokens = .error fault ↔
      ∃ items rest, tokens = Item.spell items ++ rest ∧ Token.Obstacle rest fault := by
  constructor
  · intro h
    obtain ⟨items, rest, rfl, rfl | ⟨other, hother⟩⟩ := exists_spell tokens
    · rw [List.append_nil, ofTokens_spell] at h
      cases h
    · rw [ofTokens_obstacle items hother] at h
      cases h
      exact ⟨items, rest, rfl, hother⟩
  · rintro ⟨items, rest, rfl, hfault⟩
    exact ofTokens_obstacle items hfault

end StageItems

/-! ## The parts of a line -/

/-- A part of a line describes a stage: it consists of items, whose words are the arguments, and of
the targets of each direction the last one counts. -/
def Stage.Spelled (part : List Token) (stage : Stage) : Prop :=
  ∃ items, part = Item.spell items ∧ stage.argv = Item.words items ∧
    stage.input = Item.lastInput? items ∧ stage.output = Item.lastOutput? items

/-- What is wrong with a part of a line. -/
inductive Stage.Flawed (part : List Token) : SyntaxFault → Prop where
  /-- It does not consist of items, whether there is a word in it or not. -/
  | missingTarget (broken : ∀ items, part ≠ Item.spell items) : Flawed part .missingTarget
  /-- It consists of redirections only, or of nothing. -/
  | emptyStage {items : List Item} (spelled : part = Item.spell items)
    (wordless : Item.words items = []) : Flawed part .emptyStage

namespace Stage

theorem ofTokens_eq_ok_iff {part : List Token} {stage : Stage} :
    Stage.ofTokens part = .ok stage ↔ Spelled part stage := by
  constructor
  · intro h
    rw [Stage.ofTokens] at h
    split at h
    · cases h
    · cases h
    · next program arguments input output hitems =>
      obtain ⟨items, hpart, hresult⟩ := StageItems.ofTokens_eq_ok_iff.1 hitems
      cases h
      obtain ⟨hwords, hinput, houtput⟩ := StageItems.mk.inj hresult
      exact ⟨items, hpart, hwords, hinput, houtput⟩
  · rintro ⟨items, rfl, hwords, hinput, houtput⟩
    have hitems : StageItems.ofTokens (Item.spell items) =
        .ok ⟨stage.program :: stage.arguments, stage.input, stage.output⟩ := by
      rw [StageItems.ofTokens_spell, StageItems.ofItems, ← hwords, ← hinput, ← houtput]
      rfl
    rw [Stage.ofTokens, hitems]

theorem ofTokens_eq_error_iff {part : List Token} (hpipe : .pipe ∉ part) {fault : SyntaxFault} :
    Stage.ofTokens part = .error fault ↔ Flawed part fault := by
  constructor
  · intro h
    rw [Stage.ofTokens] at h
    split at h
    · next hfault =>
      cases h
      have hnone : ∀ items, part ≠ Item.spell items := by
        rintro items rfl
        rw [StageItems.ofTokens_spell] at hfault
        cases hfault
      obtain ⟨items, rest, rfl, hobstacle⟩ := StageItems.ofTokens_eq_error_iff.1 hfault
      cases hobstacle with
      | pipe rest => exact absurd (List.mem_append_right _ List.mem_cons_self) hpipe
      | operator => exact .missingTarget hnone
    · next hitems =>
      cases h
      obtain ⟨items, hpart, hresult⟩ := StageItems.ofTokens_eq_ok_iff.1 hitems
      exact .emptyStage hpart (StageItems.mk.inj hresult).1.symm
    · cases h
  · intro h
    cases h with
    | missingTarget hbroken =>
      obtain ⟨items, rest, rfl, rfl | ⟨fault, hfault⟩⟩ := StageItems.exists_spell part
      · exact absurd (List.append_nil _) (hbroken items)
      · rw [Stage.ofTokens, StageItems.ofTokens_obstacle items hfault]
        cases hfault with
        | pipe rest => exact absurd (List.mem_append_right _ List.mem_cons_self) hpipe
        | operator => rfl
    | @emptyStage items hspelled hwords =>
      rw [Stage.ofTokens, hspelled, StageItems.ofTokens_spell, StageItems.ofItems, hwords]

/-- A part describes a stage if it consists of items with a word among them. -/
theorem exists_spelled_iff {part : List Token} : (∃ stage, Spelled part stage) ↔
    ∃ items, part = Item.spell items ∧ Item.words items ≠ [] := by
  constructor
  · rintro ⟨stage, items, hpart, hwords, -⟩
    refine ⟨items, hpart, ?_⟩
    rw [← hwords]
    exact List.cons_ne_nil _ _
  · rintro ⟨items, hpart, hwords⟩
    obtain ⟨program, arguments, hcons⟩ := List.exists_cons_of_ne_nil hwords
    exact ⟨⟨program, arguments, Item.lastInput? items, Item.lastOutput? items⟩, items, hpart,
      hcons.symm, rfl, rfl⟩

/-- A flawed part describes no stage. -/
theorem Flawed.not_spelled {part : List Token} {fault : SyntaxFault} (h : Flawed part fault)
    (hpipe : .pipe ∉ part) (stage : Stage) : ¬Spelled part stage := by
  intro hspelled
  have hfault := (ofTokens_eq_error_iff hpipe).2 h
  rw [ofTokens_eq_ok_iff.2 hspelled] at hfault
  cases hfault

/-- The stages of some parts are those that the parts describe. -/
theorem allOfParts_eq_ok_iff {parts : List (List Token)} {stages : List Stage} :
    Stage.allOfParts parts = .ok stages ↔ List.Forall₂ Spelled parts stages := by
  induction parts generalizing stages with
  | nil =>
    rw [Stage.allOfParts, List.forall₂_nil_left_iff]
    exact ⟨fun h => (Except.ok.inj h).symm, fun h => h ▸ rfl⟩
  | cons part parts ih =>
    constructor
    · intro h
      rw [Stage.allOfParts] at h
      split at h
      · cases h
      · next first hfirst =>
        split at h
        · cases h
        · next later hlater =>
          cases h
          exact .cons (ofTokens_eq_ok_iff.1 hfirst) (ih.1 hlater)
    · rintro (_ | ⟨hfirst, hlater⟩)
      rw [Stage.allOfParts, ofTokens_eq_ok_iff.2 hfirst, ih.2 hlater]

/-- The fault of some parts is that of the leftmost flawed one. -/
theorem allOfParts_eq_error_iff {parts : List (List Token)} (hpipe : ∀ part ∈ parts, .pipe ∉ part)
    {fault : SyntaxFault} :
    Stage.allOfParts parts = .error fault ↔ ∃ before part after, parts = before ++ part :: after ∧
      (∀ earlier ∈ before, ∃ stage, Spelled earlier stage) ∧ Flawed part fault := by
  induction parts with
  | nil =>
    constructor
    · intro h
      cases h
    · rintro ⟨before, part, after, h, -⟩
      cases before <;> cases h
  | cons part parts ih =>
    have hpart := hpipe part List.mem_cons_self
    have hrest := ih fun later h => hpipe later (List.mem_cons_of_mem _ h)
    rw [Stage.allOfParts]
    cases hstage : Stage.ofTokens part with
    | error found =>
      have hfound := (ofTokens_eq_error_iff hpart).1 hstage
      constructor
      · intro h
        cases h
        exact ⟨[], part, parts, rfl, fun _ h => (by cases h), hfound⟩
      · rintro ⟨before, other, after, h, hbefore, hother⟩
        cases before with
        | nil =>
          cases h
          rw [(ofTokens_eq_error_iff hpart).2 hother] at hstage
          cases hstage
          rfl
        | cons earlier before =>
          cases h
          obtain ⟨stage, hspelled⟩ := hbefore part List.mem_cons_self
          rw [ofTokens_eq_ok_iff.2 hspelled] at hstage
          cases hstage
    | ok stage =>
      have hspelled := ofTokens_eq_ok_iff.1 hstage
      constructor
      · intro h
        cases hall : Stage.allOfParts parts with
        | error found =>
          rw [hall] at h
          cases h
          obtain ⟨before, other, after, rfl, hbefore, hother⟩ := hrest.1 hall
          refine ⟨part :: before, other, after, rfl, fun earlier h => ?_, hother⟩
          rcases List.mem_cons.1 h with rfl | h
          · exact ⟨stage, hspelled⟩
          · exact hbefore earlier h
        | ok stages =>
          rw [hall] at h
          cases h
      · rintro ⟨before, other, after, h, hbefore, hother⟩
        cases before with
        | nil =>
          cases h
          rw [(ofTokens_eq_error_iff hpart).2 hother] at hstage
          cases hstage
        | cons earlier before =>
          cases h
          rw [hrest.2 ⟨before, other, after, rfl,
            fun earlier h => hbefore earlier (List.mem_cons_of_mem _ h), hother⟩]

end Stage

/-! ## Whole lines -/

namespace Token

/-- Cutting at the pipes loses nothing else. -/
theorem intercalate_parts (tokens : List Token) :
    [Token.pipe].intercalate (parts tokens) = tokens := by
  rw [parts]
  fun_induction cutAtPipes tokens with
  | case1 => rfl
  | case2 rest part parts h ih =>
    rw [h] at ih
    exact congrArg (Token.pipe :: ·) ih
  | case3 token rest hne part parts h ih =>
    rw [h] at ih
    refine Eq.trans ?_ (congrArg (token :: ·) ih)
    cases parts <;> rfl

theorem pipe_notMem_parts (tokens : List Token) : ∀ part ∈ parts tokens, .pipe ∉ part := by
  intro part hpart
  rcases List.mem_cons.1 hpart with rfl | hpart
  · exact (pipe_notMem_cutAtPipes tokens).1
  · exact (pipe_notMem_cutAtPipes tokens).2 part hpart

theorem length_parts (tokens : List Token) : (parts tokens).length = tokens.count .pipe + 1 :=
  congrArg Nat.succ (length_cutAtPipes tokens)

end Token

namespace Pipeline

/-- A line is read part by part. -/
theorem ofTokens_eq (tokens : List Token) : Pipeline.ofTokens tokens =
    match Stage.allOfParts (Token.parts tokens) with
    | .error fault => .error fault
    | .ok [] => .error .emptyStage
    | .ok (first :: rest) => .ok ⟨first, rest⟩ := by
  rw [Pipeline.ofTokens, Token.parts]
  generalize Token.cutAtPipes tokens = cut
  simp only [Stage.allOfParts]
  cases Stage.ofTokens cut.1 with
  | error fault => rfl
  | ok first =>
    cases Stage.allOfParts cut.2 with
    | error fault => rfl
    | ok rest => rfl

/-- A pipeline has the stages that the parts of its line describe. -/
theorem ofTokens_eq_ok_iff {tokens : List Token} {p : Pipeline} :
    Pipeline.ofTokens tokens = .ok p ↔
      List.Forall₂ Stage.Spelled (Token.parts tokens) p.stages := by
  rw [← Stage.allOfParts_eq_ok_iff, ofTokens_eq]
  constructor
  · intro h
    split at h
    · cases h
    · cases h
    · next first rest hall =>
      cases h
      exact hall
  · intro h
    rw [h, stages]

/-- The fault of a line is that of its leftmost flawed part. -/
theorem ofTokens_eq_error_iff {tokens : List Token} {fault : SyntaxFault} :
    Pipeline.ofTokens tokens = .error fault ↔
      ∃ before part after, Token.parts tokens = before ++ part :: after ∧
        (∀ earlier ∈ before, ∃ stage, Stage.Spelled earlier stage) ∧ Stage.Flawed part fault := by
  rw [← Stage.allOfParts_eq_error_iff (Token.pipe_notMem_parts tokens), ofTokens_eq]
  constructor
  · intro h
    split at h
    · next hall =>
      cases h
      exact hall
    · next hall =>
      rw [Stage.allOfParts_eq_ok_iff, Token.parts] at hall
      cases hall
    · cases h
  · intro h
    rw [h]

/-- A line describes a pipeline if every part describes a stage. -/
theorem exists_ofTokens_iff {tokens : List Token} : (∃ p, Pipeline.ofTokens tokens = .ok p) ↔
    ∀ part ∈ Token.parts tokens, ∃ stage, Stage.Spelled part stage := by
  constructor
  · rintro ⟨p, h⟩ part hpart
    obtain ⟨i, hi, rfl⟩ := List.mem_iff_getElem.1 hpart
    have hspelled := ofTokens_eq_ok_iff.1 h
    exact ⟨_, hspelled.get hi (hspelled.length_eq ▸ hi)⟩
  · intro hall
    cases h : Pipeline.ofTokens tokens with
    | ok p => exact ⟨p, rfl⟩
    | error fault =>
      obtain ⟨before, part, after, hparts, -, hflawed⟩ := ofTokens_eq_error_iff.1 h
      have hpart : part ∈ Token.parts tokens := by
        rw [hparts]
        exact List.mem_append_right _ List.mem_cons_self
      obtain ⟨stage, hspelled⟩ := hall part hpart
      exact absurd hspelled (hflawed.not_spelled (Token.pipe_notMem_parts tokens part hpart) stage)

end Pipeline

/-- What the tokens of a line come to. -/
structure Token.Grammar (tokens : List Token) : Prop where
  /-- The line is cut at the pipes: its parts, joined by pipes, are the line again. -/
  joined : [Token.pipe].intercalate (parts tokens) = tokens
  /-- There is no pipe left in a part. -/
  cut : ∀ part ∈ parts tokens, .pipe ∉ part
  /-- The line describes a pipeline if every part consists of items with a word among them. -/
  succeeds : (∃ p, Pipeline.ofTokens tokens = .ok p) ↔
    ∀ part ∈ parts tokens, ∃ items, part = Item.spell items ∧ Item.words items ≠ []
  /-- Its stages are then those that the parts describe, in the same order. -/
  stages : ∀ p, Pipeline.ofTokens tokens = .ok p ↔
    List.Forall₂ Stage.Spelled (parts tokens) p.stages
  /-- There is one stage more than there are pipes. -/
  length : ∀ p, Pipeline.ofTokens tokens = .ok p → p.length = tokens.count .pipe + 1
  /-- Otherwise the fault of the line is that of its leftmost flawed part. -/
  fails : ∀ fault, Pipeline.ofTokens tokens = .error fault ↔
    ∃ before part after, parts tokens = before ++ part :: after ∧
      (∀ earlier ∈ before, ∃ items, earlier = Item.spell items ∧ Item.words items ≠ []) ∧
      Stage.Flawed part fault
  /-- A pipe is never found inside a part. -/
  unstray : Pipeline.ofTokens tokens ≠ .error .strayPipe
  /-- Without being cut, the line can be sorted if all of it consists of items, even without a
  word. -/
  sorts : ∀ result, StageItems.ofTokens tokens = .ok result ↔
    ∃ items, tokens = Item.spell items ∧ result = StageItems.ofItems items
  /-- Otherwise the fault is that of the first obstacle, which may be a pipe. -/
  obstructs : ∀ fault, StageItems.ofTokens tokens = .error fault ↔
    ∃ items rest, tokens = Item.spell items ++ rest ∧ Obstacle rest fault
  /-- The wording of the faults. -/
  wording : SyntaxFault.missingTarget.message = "redirect missing target" ∧
    SyntaxFault.emptyStage.message = "empty pipeline stage" ∧
    SyntaxFault.strayPipe.message = "unexpected `|` inside a stage"

/-- A line describes a pipeline exactly if all its parts are items with a word among them, and the
pipeline is the one they describe. Otherwise the leftmost part of another kind is at fault, for a
broken redirection rather than for a missing word. -/
theorem Token.grammar (tokens : List Token) : Token.Grammar tokens where
  joined := intercalate_parts tokens
  cut := pipe_notMem_parts tokens
  succeeds := by
    rw [Pipeline.exists_ofTokens_iff]
    exact forall₂_congr fun part _ => Stage.exists_spelled_iff
  stages p := Pipeline.ofTokens_eq_ok_iff
  length p h := by
    rw [Pipeline.length, ← (Pipeline.ofTokens_eq_ok_iff.1 h).length_eq, length_parts]
  fails fault := by
    rw [Pipeline.ofTokens_eq_error_iff]
    simp only [Stage.exists_spelled_iff]
  unstray h := by
    obtain ⟨before, part, after, -, -, hflawed⟩ := Pipeline.ofTokens_eq_error_iff.1 h
    cases hflawed
  sorts result := StageItems.ofTokens_eq_ok_iff
  obstructs fault := StageItems.ofTokens_eq_error_iff
  wording := ⟨rfl, rfl, rfl⟩

/-- An operator without a target counts before a missing word, and a flaw on the left before one
on the right. -/
example : Pipeline.ofTokens [.word "a", .pipe, .input, .pipe, .pipe] = .error .missingTarget := by
  decide

end CommandShell
