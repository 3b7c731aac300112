/-!
# Bytes with a name

The bytes that mean something to the tools and to scripts, under the names of their characters.
Main statement: the value of a digit is less than ten (`digitValue_lt`).
-/

namespace CommandShell.Machine.Ascii

@[match_pattern] abbrev tab : UInt8 := 9
@[match_pattern] abbrev newline : UInt8 := 10
@[match_pattern] abbrev carriageReturn : UInt8 := 13
@[match_pattern] abbrev space : UInt8 := 32
@[match_pattern] abbrev bang : UInt8 := 33
@[match_pattern] abbrev quoteMark : UInt8 := 34
@[match_pattern] abbrev numberSign : UInt8 := 35
@[match_pattern] abbrev dollar : UInt8 := 36
@[match_pattern] abbrev percent : UInt8 := 37
@[match_pattern] abbrev apostrophe : UInt8 := 39
@[match_pattern] abbrev star : UInt8 := 42
@[match_pattern] abbrev plus : UInt8 := 43
@[match_pattern] abbrev minus : UInt8 := 45
@[match_pattern] abbrev point : UInt8 := 46
@[match_pattern] abbrev slash : UInt8 := 47
@[match_pattern] abbrev zero : UInt8 := 48
@[match_pattern] abbrev nine : UInt8 := 57
@[match_pattern] abbrev colon : UInt8 := 58
@[match_pattern] abbrev equalsSign : UInt8 := 61
@[match_pattern] abbrev questionMark : UInt8 := 63
@[match_pattern] abbrev atSign : UInt8 := 64
@[match_pattern] abbrev openBracket : UInt8 := 91
@[match_pattern] abbrev backslash : UInt8 := 92
@[match_pattern] abbrev closeBracket : UInt8 := 93
@[match_pattern] abbrev underscore : UInt8 := 95
@[match_pattern] abbrev openBrace : UInt8 := 123
@[match_pattern] abbrev closeBrace : UInt8 := 125

/-- The byte of an ASCII character. -/
def byteOf (c : Char) : UInt8 := c.toUInt8

/-- Whether a byte is a decimal digit. -/
def isDigit (b : UInt8) : Bool := zero ≤ b && b ≤ nine

/-- Whether a byte is an octal digit. -/
def isOctal (b : UInt8) : Bool := zero ≤ b && b ≤ byteOf '7'

/-- Whether a byte is a letter. -/
def isLetter (b : UInt8) : Bool :=
  (byteOf 'A' ≤ b && b ≤ byteOf 'Z') || (byteOf 'a' ≤ b && b ≤ byteOf 'z')

/-- The small letter of a great one; any other byte is kept. -/
def smallLetter (b : UInt8) : UInt8 := if byteOf 'A' ≤ b && b ≤ byteOf 'Z' then b + 32 else b

/-- Whether a byte is a space or a tab. -/
def isBlank (b : UInt8) : Bool := b = space || b = tab

/-- Whether a byte is a blank or moves to another line or column. -/
def isSpace (b : UInt8) : Bool := b = space || (tab ≤ b && b ≤ carriageReturn)

/-- The value of a digit. -/
def digitValue (b : UInt8) : Nat := b.toNat - zero.toNat

theorem digitValue_lt {b : UInt8} (h : isDigit b = true) : digitValue b < 10 := by
  simp only [isDigit, Bool.and_eq_true, decide_eq_true_eq] at h
  have hb : b.toNat ≤ 57 := h.2
  have hz : zero.toNat = 48 := rfl
  rw [digitValue, hz]
  omega

end CommandShell.Machine.Ascii
