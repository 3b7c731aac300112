import CommandShell.ArgumentVector
import CommandShell.Machine.Ascii

/-!
# Names in messages

How the tools write a name that a user gave into a message: between apostrophes with escapes as in
program texts, or in a form in which a script interpreter would read it back, and that perhaps only
if the name would otherwise be misread. Main statement: a name of plain letters is shown as it is
(`shown_of_plain`).
-/

namespace CommandShell.Machine.Tool

open Ascii

/-- Whether a byte is a printable ASCII character. -/
def isPrintable (b : UInt8) : Bool := 32 ≤ b && b ≤ 126

/-- The letters of the escapes of control characters. -/
def escapeLetters : List (UInt8 × UInt8) :=
  [(7, byteOf 'a'), (8, byteOf 'b'), (12, byteOf 'f'), (10, byteOf 'n'), (13, byteOf 'r'),
    (9, byteOf 't'), (11, byteOf 'v')]

/-- A byte as a backslash with its three octal digits. -/
def octalEscape (b : UInt8) : Bytes := [backslash, zero + b / 64, zero + b / 8 % 8, zero + b % 8]

/-- The escape of a byte that cannot be shown as it is. -/
def escapeOf? (b : UInt8) : Option Bytes :=
  match escapeLetters.lookup b with
  | some letter => some [backslash, letter]
  | none => if isPrintable b then none else some (octalEscape b)

/-- A name between apostrophes, with escapes as in program texts. -/
def quoted (name : Bytes) : Bytes :=
  [apostrophe] ++ name.flatMap (fun b =>
    if b = apostrophe || b = backslash then [backslash, b] else (escapeOf? b).getD [b]) ++
    [apostrophe]

/-! ### Names that are read back -/

/-- The characters that mean something to a script interpreter wherever they stand. -/
def alwaysSpecial : Bytes := utf8 " !\"$&'()*;<=>?[\\^|" ++ [96]

/-- Whether a byte means something to a script interpreter, or cannot be shown. -/
def isSpecial (b : UInt8) : Bool := alwaysSpecial.contains b || !isPrintable b

/-- Whether a name means something else to a script interpreter than itself. -/
def needsQuotes : Bytes → Bool
  | [] => true
  | [b] => b = openBrace || b = closeBrace || b = numberSign || b = byteOf '~' || isSpecial b
  | b :: c :: rest => b = numberSign || b = byteOf '~' || (b :: c :: rest).any isSpecial

/-- The characters that mean the same between quotation marks as between apostrophes. -/
def isCommon (b : UInt8) : Bool :=
  isLetter b || isDigit b || (utf8 " %+,-./:]_'@").contains b

/-- Whether a name can stand between quotation marks. -/
def fitsQuotationMarks : Bytes → Bool
  | [] => true
  | b :: rest => (isCommon b || b = numberSign || b = byteOf '~') && rest.all isCommon

/-- The inside of a name between apostrophes; `escaping` says whether an escape comes before it. -/
def shellBody (escaping : Bool) : Bytes → Bytes
  | [] => []
  | b :: rest =>
    if b = apostrophe then
      [apostrophe, backslash, apostrophe, apostrophe] ++ shellBody false rest
    else match escapeOf? b with
      | some escape =>
        (if escaping then [] else [apostrophe, dollar, apostrophe]) ++ escape ++ shellBody true rest
      | none => (if escaping then [apostrophe, apostrophe] else []) ++ b :: shellBody false rest

/-- A name as a script interpreter reads it back, always between some kind of quotes. -/
def shellQuoted (name : Bytes) : Bytes :=
  if name.contains apostrophe && fitsQuotationMarks name then [quoteMark] ++ name ++ [quoteMark]
  else [apostrophe] ++ shellBody false name ++ [apostrophe]

/-- A name as a script interpreter reads it back, between quotes only if it needs them. -/
def shellWord (name : Bytes) : Bytes := if needsQuotes name then shellQuoted name else name

/-- A name in front of a colon: one that holds a colon itself stands between quotes too. -/
def shown (name : Bytes) : Bytes :=
  if needsQuotes name || name.contains colon then shellQuoted name else name

theorem letter_plain (b : UInt8) (h : isLetter b = true) :
    isSpecial b = false ∧ b ≠ numberSign ∧ b ≠ byteOf '~' ∧ b ≠ openBrace ∧ b ≠ closeBrace := by
  have all : ∀ n < 256, isLetter (UInt8.ofNat n) = true →
      isSpecial (UInt8.ofNat n) = false ∧ UInt8.ofNat n ≠ numberSign ∧
        UInt8.ofNat n ≠ byteOf '~' ∧ UInt8.ofNat n ≠ openBrace ∧ UInt8.ofNat n ≠ closeBrace := by
    decide +kernel
  have := all b.toNat b.toNat_lt
  rw [UInt8.ofNat_toNat] at this
  exact this h

theorem needsQuotes_of_plain {name : Bytes} (hne : name ≠ [])
    (h : ∀ b ∈ name, isLetter b = true) : needsQuotes name = false := by
  match name, hne, h with
  | [b], _, h =>
    obtain ⟨hs, h1, h2, h3, h4⟩ := letter_plain b (h b (by simp))
    simp only [needsQuotes, h1, h2, h3, h4, hs, decide_false, Bool.or_self]
  | b :: c :: rest, _, h =>
    obtain ⟨-, h1, h2, -, -⟩ := letter_plain b (h b (by simp))
    have hall : (b :: c :: rest).any isSpecial = false := by
      rw [List.any_eq_false]
      intro x hx
      rw [(letter_plain x (h x hx)).1]
      exact Bool.false_ne_true
    simp only [needsQuotes, h1, h2, hall, decide_false, Bool.or_self]

/-- A name of plain letters is shown as it is. -/
theorem shown_of_plain {name : Bytes} (hne : name ≠ [])
    (h : ∀ b ∈ name, isLetter b = true) : shown name = name := by
  have hc : name.contains colon = false := by
    rw [Bool.eq_false_iff]
    intro hm
    have := h colon (List.contains_iff_mem.mp hm)
    revert this
    decide
  rw [shown, needsQuotes_of_plain hne h, hc]
  rfl

end CommandShell.Machine.Tool
