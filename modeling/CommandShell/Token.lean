/-!
# Tokens of a command line

A line is cut into words and the three operators `|`, `<` and `>`. Blanks separate words and are
dropped; operators stand for themselves with or without blanks around them; there is no quoting
and no escaping. Main statement: each of the three kinds of character has one equation, and a word
comes out whole, as far as the next blank or operator (`Token.scanChars_word`).
-/

namespace CommandShell

/-- A word or an operator of a command line. -/
inductive Token where
  /-- A program name, an argument or the target of a redirection. -/
  | word (text : String)
  /-- The operator that joins two stages. -/
  | pipe
  /-- The operator in front of a file to read from. -/
  | input
  /-- The operator in front of a file to write to. -/
  | output
  deriving DecidableEq, Repr, Inhabited

namespace Token

/-- The text that a token stands for in a line. -/
def text : Token → String
  | word w => w
  | pipe => "|"
  | input => "<"
  | output => ">"

/-- The six characters that separate words: space, tab, line feed, carriage return, vertical tab
and form feed. No other character is a blank, however it is displayed. -/
def isBlank (c : Char) : Bool :=
  c == ' ' || c == '\t' || c == '\r' || c == '\n' || c == '\x0b' || c == '\x0c'

/-- The operator that a character stands for, if it is one. -/
def operator? (c : Char) : Option Token :=
  if c == '|' then some pipe
  else if c == '<' then some input
  else if c == '>' then some output
  else none

/-- A character that can stand in a word. -/
def isWordChar (c : Char) : Bool := !isBlank c && (operator? c).isNone

/-- What is left after the word at the front is no longer than the whole. -/
theorem length_dropWhile_le (p : Char → Bool) :
    ∀ cs : List Char, (cs.dropWhile p).length ≤ cs.length
  | [] => Nat.le_refl _
  | c :: cs => by
    rw [List.dropWhile_cons]
    split
    · exact Nat.le_succ_of_le (length_dropWhile_le p cs)
    · exact Nat.le_refl _

/-- The tokens of a sequence of characters: a blank is skipped, an operator stands alone, and any
other character begins a word that reaches to the next blank or operator. -/
def scanChars : List Char → List Token
  | [] => []
  | c :: cs =>
    if isBlank c then scanChars cs
    else match operator? c with
      | some op => op :: scanChars cs
      | none =>
        word (String.ofList (c :: cs.takeWhile isWordChar)) :: scanChars (cs.dropWhile isWordChar)
termination_by cs => cs.length
decreasing_by
  · simp
  · simp
  · exact Nat.lt_succ_of_le (length_dropWhile_le _ _)

/-- The tokens of a line. A blank line has none. -/
def scan (line : String) : List Token := scanChars line.toList

@[simp] theorem scanChars_nil : scanChars [] = [] := by rw [scanChars]

theorem scanChars_blank {c : Char} (cs : List Char) (h : isBlank c = true) :
    scanChars (c :: cs) = scanChars cs := by
  rw [scanChars, if_pos h]

theorem scanChars_operator {c : Char} {op : Token} (cs : List Char)
    (hb : isBlank c = false) (h : operator? c = some op) :
    scanChars (c :: cs) = op :: scanChars cs := by
  rw [scanChars, if_neg (by simp [hb]), h]

/-- A word reaches to the next blank or operator. -/
theorem scanChars_word {c : Char} (cs : List Char) (h : isWordChar c = true) :
    scanChars (c :: cs) =
      word (String.ofList (c :: cs.takeWhile isWordChar)) ::
        scanChars (cs.dropWhile isWordChar) := by
  have hb : isBlank c = false := by
    revert h; simp only [isWordChar]; cases isBlank c <;> simp
  have ho : operator? c = none := by
    revert h; simp only [isWordChar, hb]; cases operator? c <;> simp
  rw [scanChars, if_neg (by simp [hb]), ho]

end Token

end CommandShell
