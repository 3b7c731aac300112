import CommandShell.Text.Properties

/-!
# Trimming

White space is removed at both ends of a text, or at its end only. Main statements: what is
left begins with no white space, and nothing else is lost (`takeWhile_append_trimFront`).
-/

namespace CommandShell.Text

/-- Removes the white space in front. -/
def trimFront (cs : List Char) : List Char := cs.dropWhile whiteSpace.contains

/-- Removes the white space at the end. -/
def trimBack (cs : List Char) : List Char := (trimFront cs.reverse).reverse

/-- Removes the white space at both ends. -/
def trimChars (cs : List Char) : List Char := trimBack (trimFront cs)

/-- A text without the white space at both ends. -/
def trim (s : String) : String := String.ofList (trimChars s.toList)

/-- A text without the white space at its end. -/
def trimEnd (s : String) : String := String.ofList (trimBack s.toList)

/-- A text that holds nothing but white space. -/
def isBlank (s : String) : Bool := s.toList.all whiteSpace.contains

/-- What is left begins with no white space. -/
theorem whiteSpace_head_trimFront {cs : List Char} {c : Char} {rest : List Char}
    (h : trimFront cs = c :: rest) : whiteSpace.contains c = false := by
  induction cs with
  | nil => simp [trimFront] at h
  | cons d ds ih =>
    rw [trimFront, List.dropWhile_cons] at h
    split at h
    · exact ih h
    · next hd =>
      obtain ⟨rfl, -⟩ := List.cons.inj h
      simpa using hd

/-- Nothing but white space is removed in front. -/
theorem takeWhile_append_trimFront (cs : List Char) :
    cs.takeWhile whiteSpace.contains ++ trimFront cs = cs := by
  simp [trimFront]

end CommandShell.Text
