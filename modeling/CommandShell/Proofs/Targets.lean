import CommandShell.Pipeline.Reading

/-!
# Targets of redirections

Which targets a stage has is a matter of its tokens: of the words behind the operators of one
direction the last one counts, and the others are never looked at again. Main statement: a stage of
a pipeline has the last target of each direction in its own part of the line
(`Pipeline.target_eq`).
-/

namespace CommandShell

namespace Token

/-- The word of a token, if it is one. -/
def word? : Token → Option String
  | word w => some w
  | _ => none

/-- The words right behind an operator, in order. -/
def targets (operator : Token) : List Token → List String
  | [] => []
  | [_] => []
  | first :: second :: rest =>
    (if first = operator then second.word?.toList else []) ++ targets operator (second :: rest)

/-- A token that is not the operator stands in front of no target. -/
theorem targets_cons_of_ne {operator first : Token} (h : first ≠ operator) (rest : List Token) :
    targets operator (first :: rest) = targets operator rest := by
  cases rest with
  | nil => rfl
  | cons second rest => rw [targets, if_neg h, List.nil_append]

/-- The word behind the operator is a target. -/
theorem targets_cons_self {operator : Token} (hword : operator.word? = none) (target : String)
    (rest : List Token) :
    targets operator (operator :: word target :: rest) = target :: targets operator rest := by
  have hne : word target ≠ operator := by
    rintro rfl
    cases hword
  rw [targets, if_pos rfl, targets_cons_of_ne hne]
  rfl

/-- The parts of a line, cut at every pipe. -/
def parts (tokens : List Token) : List (List Token) :=
  (cutAtPipes tokens).1 :: (cutAtPipes tokens).2

end Token

/-- Among the targets of one direction the last one counts. -/
theorem StageItems.targets_gather {seen items : StageItems} {tokens : List Token}
    (h : seen.gather tokens = .ok items) :
    items.input = (Token.targets .input tokens).getLast?.or seen.input ∧
      items.output = (Token.targets .output tokens).getLast?.or seen.output := by
  have hlast : ∀ (target : String) (later : List String) (before : Option String),
      (target :: later).getLast?.or before = later.getLast?.or (some target) := by
    intro target later before
    rw [List.getLast?_cons]
    cases later.getLast? <;> rfl
  fun_induction gather seen tokens with
  | case1 seen =>
    cases h
    exact ⟨rfl, rfl⟩
  | case2 seen w rest ih =>
    obtain ⟨hin, hout⟩ := ih h
    rw [Token.targets_cons_of_ne (by simp), Token.targets_cons_of_ne (by simp)]
    exact ⟨hin, hout⟩
  | case3 seen target rest ih =>
    obtain ⟨hin, hout⟩ := ih h
    rw [Token.targets_cons_self rfl, hlast, Token.targets_cons_of_ne (by simp),
      Token.targets_cons_of_ne (by simp)]
    exact ⟨hin, hout⟩
  | case4 seen target rest ih =>
    obtain ⟨hin, hout⟩ := ih h
    rw [Token.targets_cons_self rfl, hlast, Token.targets_cons_of_ne (by simp),
      Token.targets_cons_of_ne (by simp)]
    exact ⟨hin, hout⟩
  | case5 seen rest => cases h
  | case6 seen rest hne => cases h
  | case7 seen rest hne => cases h

/-- A stage has the last target of each direction in its part of the line. -/
theorem Stage.target_eq {part : List Token} {stage : Stage} (h : Stage.ofTokens part = .ok stage) :
    stage.input = (Token.targets .input part).getLast? ∧
      stage.output = (Token.targets .output part).getLast? := by
  rw [Stage.ofTokens] at h
  split at h
  · cases h
  · cases h
  · next program arguments input output hitems =>
    obtain ⟨hin, hout⟩ := StageItems.targets_gather hitems
    cases h
    exact ⟨by simpa [StageItems.empty] using hin, by simpa [StageItems.empty] using hout⟩

/-- Every part describes the stage in its place. -/
theorem Stage.getElem?_allOfParts {parts : List (List Token)} {stages : List Stage}
    (h : Stage.allOfParts parts = .ok stages) {i : Nat} {stage : Stage}
    (hi : stages[i]? = some stage) :
    ∃ part, parts[i]? = some part ∧ Stage.ofTokens part = .ok stage := by
  induction parts generalizing stages i with
  | nil =>
    cases h
    cases hi
  | cons part rest ih =>
    rw [Stage.allOfParts] at h
    split at h
    · cases h
    · next first hfirst =>
      split at h
      · cases h
      · next later hlater =>
        cases h
        cases i with
        | zero =>
          cases hi
          exact ⟨part, rfl, hfirst⟩
        | succ i => exact ih hlater hi

/-- A stage of a pipeline has the last target of each direction in its own part of the line. -/
theorem Pipeline.target_eq {tokens : List Token} {p : Pipeline}
    (h : Pipeline.ofTokens tokens = .ok p) {i : Nat} {stage : Stage}
    (hi : p.stages[i]? = some stage) :
    ∃ part, (Token.parts tokens)[i]? = some part ∧
      stage.input = (Token.targets .input part).getLast? ∧
      stage.output = (Token.targets .output part).getLast? := by
  suffices hpart : ∃ part, (Token.parts tokens)[i]? = some part ∧
      Stage.ofTokens part = .ok stage by
    obtain ⟨part, hget, hstage⟩ := hpart
    exact ⟨part, hget, Stage.target_eq hstage⟩
  simp only [Pipeline.ofTokens] at h
  split at h
  · cases h
  · next first hfirst =>
    split at h
    · cases h
    · next rest hrest =>
      cases h
      cases i with
      | zero =>
        cases hi
        exact ⟨_, rfl, hfirst⟩
      | succ i => exact Stage.getElem?_allOfParts hrest hi

end CommandShell
