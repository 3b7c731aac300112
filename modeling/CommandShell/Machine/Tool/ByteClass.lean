import CommandShell.Machine.Ascii

/-!
# Classes of bytes

The classes into which bytes fall as ASCII characters, under the names that they have in sets and
patterns. Main statement: letters and digits are the printable bytes that are neither punctuation
nor a space (`alnum_or_punct`).
-/

namespace CommandShell.Machine

open Ascii

/-- A class of bytes. -/
inductive ByteClass where
  | alnum
  | alpha
  | blank
  | cntrl
  | digit
  | graph
  | lower
  | print
  | punct
  | space
  | upper
  | xdigit
  deriving DecidableEq, Repr

namespace ByteClass

/-- The classes with their names. -/
def names : List (String × ByteClass) := [("alnum", alnum), ("alpha", alpha), ("blank", blank),
  ("cntrl", cntrl), ("digit", digit), ("graph", graph), ("lower", lower), ("print", print),
  ("punct", punct), ("space", space), ("upper", upper), ("xdigit", xdigit)]

/-- Whether a byte is a small letter. -/
def isLower (b : UInt8) : Bool := byteOf 'a' ≤ b && b ≤ byteOf 'z'

/-- Whether a byte is a capital letter. -/
def isUpper (b : UInt8) : Bool := byteOf 'A' ≤ b && b ≤ byteOf 'Z'

/-- Whether a byte shows something. -/
def isGraphic (b : UInt8) : Bool := 33 ≤ b && b ≤ 126

/-- Whether a byte is in a class. -/
def contains (c : ByteClass) (b : UInt8) : Bool :=
  match c with
  | alnum => isLetter b || isDigit b
  | alpha => isLetter b
  | blank => isBlank b
  | cntrl => b < 32 || b = 127
  | digit => isDigit b
  | graph => isGraphic b
  | lower => isLower b
  | print => b = Ascii.space || isGraphic b
  | punct => isGraphic b && !(isLetter b || isDigit b)
  | space => isSpace b
  | upper => isUpper b
  | xdigit => isDigit b || (byteOf 'a' ≤ b && b ≤ byteOf 'f') || (byteOf 'A' ≤ b && b ≤ byteOf 'F')

/-- A byte that shows something is a letter, a digit or punctuation. -/
theorem alnum_or_punct (b : UInt8) (h : graph.contains b = true) :
    (alnum.contains b || punct.contains b) = true := by
  simp only [contains] at h ⊢
  rw [h]
  cases isLetter b || isDigit b <;> rfl

/-- A small letter as a capital one. -/
def toUpper (b : UInt8) : UInt8 := if isLower b then b - 32 else b

/-- A capital letter as a small one. -/
def toLower (b : UInt8) : UInt8 := if isUpper b then b + 32 else b

end ByteClass

end CommandShell.Machine
