import CommandShell.Errno
import CommandShell.Text.Quoted

/-!
# Argument vectors

The form in which the arguments of a program are handed to the system: a sequence of texts, each
of which ends at its first NUL byte, and the sequence itself ends at its first gap. An argument
that holds a NUL byte has no such form. Main statement: a reader of the vector finds the arguments
as they were, the empty ones included (`ArgumentVector.texts_ofArguments`).
-/

namespace CommandShell

/-- The bytes of a text. -/
def utf8 (s : String) : Bytes := s.toUTF8.toList

/-- The arguments of a program in the form in which the system takes them. -/
structure ArgumentVector where
  /-- The texts with the NUL byte at their end; a gap ends the sequence. -/
  cells : List (Option Bytes)
  deriving DecidableEq, Repr

namespace ArgumentVector

/-- The cell of a text. -/
def cell (text : Bytes) : Option Bytes := some (text ++ [0])

/-- What a reader finds in a cell: everything before the first NUL byte. -/
def textOf (cell : Bytes) : Bytes := cell.takeWhile (· != 0)

/-- The texts in front of the first gap. -/
def textsOf : List (Option Bytes) → List Bytes
  | [] => []
  | none :: _ => []
  | some cell :: rest => textOf cell :: textsOf rest

/-- What a reader of the vector finds. -/
def texts (v : ArgumentVector) : List Bytes := textsOf v.cells

/-- Whether a text can be passed on. -/
def passable (argument : String) : Bool := !(utf8 argument).contains 0

/-- Why an argument that holds a NUL byte cannot be passed on. -/
def refusal (argument : String) : String := Text.quote argument ++ ": argument contains NUL byte"

/-- The cells of the arguments, or the reason for the first one that cannot be passed on. -/
def cellsOf : List String → Except String (List (Option Bytes))
  | [] => .ok [none]
  | argument :: rest =>
    if passable argument then
      match cellsOf rest with
      | .error reason => .error reason
      | .ok cells => .ok (cell (utf8 argument) :: cells)
    else .error (refusal argument)

/-- The vector of the arguments, or the reason for the first one that cannot be passed on. -/
def ofArguments (arguments : List String) : Except String ArgumentVector :=
  (cellsOf arguments).map (⟨·⟩)

/-- A text without a NUL byte is found again in its cell. -/
theorem textOf_cell {text : Bytes} (h : (0 : UInt8) ∉ text) : textOf (text ++ [0]) = text := by
  induction text with
  | nil => rfl
  | cons b rest ih =>
    have hb : b ≠ 0 := fun e => h (by simp [e])
    have hr : (0 : UInt8) ∉ rest := fun e => h (by simp [e])
    rw [textOf, List.cons_append, List.takeWhile_cons_of_pos (by simpa using hb)]
    exact congrArg _ (ih hr)

/-- A reader of the vector finds the arguments as they were. -/
theorem texts_ofArguments {arguments : List String} {v : ArgumentVector}
    (h : ofArguments arguments = .ok v) : v.texts = arguments.map utf8 := by
  rw [ofArguments] at h
  cases hc : cellsOf arguments with
  | error reason => simp [hc, Except.map] at h
  | ok cells =>
    simp only [hc, Except.map, Except.ok.injEq] at h
    subst h
    rw [texts]
    induction arguments generalizing cells with
    | nil =>
      simp only [cellsOf, Except.ok.injEq] at hc
      subst hc
      rfl
    | cons argument rest ih =>
      rw [cellsOf] at hc
      split at hc
      · next hp =>
        cases hr : cellsOf rest with
        | error reason => simp [hr] at hc
        | ok more =>
          simp only [hr, Except.ok.injEq] at hc
          subst hc
          have hz : (0 : UInt8) ∉ utf8 argument := by simpa [passable] using hp
          simp only [cell, textsOf, List.map_cons, textOf_cell hz, ih more hr]
      · simp at hc

end ArgumentVector

end CommandShell
