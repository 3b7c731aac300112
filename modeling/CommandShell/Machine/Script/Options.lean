import CommandShell.Machine.Script.Session

/-!
# Options of commands

How the commands of an interpreter take the options in front of their arguments: letters behind a
minus sign, some of which have a text that belongs to them.
-/

namespace CommandShell.Machine.Script

open Ascii

/-- An option that was given. -/
structure Choice where
  /-- Its letter. -/
  letter : UInt8
  /-- The text that belongs to it, if one does. -/
  text : Bytes

/-- Whether a letter is an option, and whether a text belongs to it. A colon follows such
letters. -/
def optionKind? (letter : UInt8) : Bytes → Option Bool
  | [] => none
  | other :: rest =>
    let withText := rest.head? = some colon
    if other = letter then some withText
    else match rest with
      | colon :: more => optionKind? letter more
      | rest => optionKind? letter rest

/-- Takes the options among the letters of an argument. Arguments that follow are given. -/
def readLetters (allowed : Bytes) (before : List Choice) (rest : List Bytes) :
    Bytes → Act (List Choice × List Bytes)
  | [] => pure (before, rest)
  | letter :: letters => do
    match optionKind? letter allowed with
    | none => fail (utf8 "Illegal option -" ++ [letter])
    | some false => readLetters allowed (⟨letter, []⟩ :: before) rest letters
    | some true =>
      if !letters.isEmpty then return (⟨letter, letters⟩ :: before, rest)
      match rest with
      | [] => fail (utf8 "No arg for -" ++ [letter] ++ utf8 " option")
      | text :: rest => return (⟨letter, text⟩ :: before, rest)

/-- Takes the options in front of arguments, of which there are `fuel` at most. -/
def readOptionsWithin (allowed : Bytes) (before : List Choice) (arguments : List Bytes) :
    Nat → Act (List Choice × List Bytes)
  | 0 => pure (before.reverse, arguments)
  | fuel + 1 => do
    match arguments with
    | (minus :: letter :: letters) :: rest =>
      if letter = minus && letters.isEmpty then return (before.reverse, rest)
      let (before, rest) ← readLetters allowed before rest (letter :: letters)
      readOptionsWithin allowed before rest fuel
    | _ => return (before.reverse, arguments)

/-- Takes the options in front of arguments. -/
def readOptions (allowed : String) (arguments : List Bytes) : Act (List Choice × List Bytes) :=
  readOptionsWithin (utf8 allowed) [] arguments (arguments.length + 1)

/-! ### Texts that are read back -/

/-- The rest of a quoted text; what stands in front of it is open between quotation marks or between
apostrophes. -/
def quotedRest (inMarks : Bool) : Bytes → Bytes
  | [] => [if inMarks then quoteMark else apostrophe]
  | b :: rest =>
    if b = apostrophe then
      (if inMarks then [b] else [apostrophe, quoteMark, b]) ++ quotedRest true rest
    else (if inMarks then [quoteMark, apostrophe, b] else [b]) ++ quotedRest false rest

/-- A text in the form in which a script would give it: between apostrophes, and the apostrophes in
it between quotation marks. -/
def quotedText (text : Bytes) : Bytes := apostrophe :: quotedRest false text

end CommandShell.Machine.Script
