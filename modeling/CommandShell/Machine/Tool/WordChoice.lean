import CommandShell.Machine.Tool.Options
import CommandShell.Machine.Tool.Quoting

/-!
# Choices between words

Values of options that are one of some words. A word can be shortened as long as it stays
unambiguous; words that mean the same may be confused with each other.
-/

namespace CommandShell.Machine.Tool

open Ascii

/-- Words with what they mean. Words that mean the same stand next to each other. -/
abbrev WordChoice (α : Type) := List (String × α)

namespace WordChoice

variable {α : Type} [DecidableEq α]

/-- What a text stands for: nothing, one meaning, or several. -/
inductive Finding (α : Type) where
  /-- It begins no word. -/
  | nothing
  /-- It is a word, or begins words of one meaning. -/
  | one (meaning : α)
  /-- It begins words of several meanings. -/
  | several

/-- What a text stands for. -/
def find (choice : WordChoice α) (text : Bytes) : Finding α :=
  match choice.find? fun (word, _) => utf8 word = text with
  | some (_, meaning) => .one meaning
  | none =>
    match choice.filter fun (word, _) => text.isPrefixOf (utf8 word) with
    | [] => .nothing
    | (_, meaning) :: others =>
      if others.all fun (_, other) => decide (other = meaning) then .one meaning else .several

/-- The lines that tell which words there are, those of one meaning on one line. -/
def lines (choice : WordChoice α) : Bytes :=
  let step := fun (text, last) (word, meaning) =>
    let shown := quoted (utf8 word)
    if last = some meaning then (text ++ utf8 ", " ++ shown, last)
    else (text ++ utf8 "\n  - " ++ shown, some meaning)
  (choice.foldl step (([] : Bytes), (none : Option α))).1 ++ [newline]

/-- What the value of an option stands for. Any other value ends the tool. -/
def require (choice : WordChoice α) (t : Invocation) (code : Nat) (option : String)
    (value : Bytes) : Act α := do
  match find choice value with
  | .one meaning => return meaning
  | finding =>
    let fault := match finding with
      | .several => "ambiguous argument "
      | _ => "invalid argument "
    t.complain (utf8 fault ++ quoted value ++ utf8 " for " ++ quoted (utf8 option))
    say (utf8 "Valid arguments are:" ++ lines choice)
    t.pointToHelp code

end WordChoice

end CommandShell.Machine.Tool
