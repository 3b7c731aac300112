import CommandShell.Text.Properties

/-!
# Quoted texts

The form in which a text is shown between double quotes in diagnostics: characters that would be
invisible, that would attach to their neighbour or that end the quotation are written as escapes.
-/

namespace CommandShell.Text

/-- The lower-case hexadecimal digits of a number, without leading zeros. -/
def hexDigits (n : Nat) : List Char := Nat.toDigits 16 n

/-- The escape of a character by its code point. -/
def codePointEscape (c : Char) : List Char :=
  ['\\', 'u', '\x7b'] ++ hexDigits c.toNat ++ ['\x7d']

/-- Whether a character takes no place of its own. -/
def isAttached (c : Char) : Bool := graphemeExtend.contains c && !standingMarks.contains c

/-- Whether a character is shown by its code point. -/
def needsCodePoint (c : Char) : Bool :=
  isAttached c || unprintable.contains c || fillers.contains c

/-- How one character is written inside a quotation. -/
def escapeChar (c : Char) : List Char :=
  if c == '\x00' then ['\\', '0']
  else if c == '\t' then ['\\', 't']
  else if c == '\r' then ['\\', 'r']
  else if c == '\n' then ['\\', 'n']
  else if c == '"' then ['\\', '"']
  else if c == '\\' then ['\\', '\\']
  else if needsCodePoint c then codePointEscape c
  else [c]

/-- The inside of a quotation. -/
def escape (cs : List Char) : List Char := cs.flatMap escapeChar

/-- A text between double quotes. -/
def quote (s : String) : String := String.ofList ('"' :: escape s.toList ++ ['"'])

end CommandShell.Text
