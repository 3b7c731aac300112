import CommandShell.Machine.Script.CommandReader
import CommandShell.Machine.Script.Expansion

/-!
# Prompts

The texts that an interpreter shows to ask for a line of a script, or in front of a command that it
runs. Variables hold them; parameters and commands in them are replaced each time, and one in which
that is not possible is shown as it is.
-/

namespace CommandShell.Machine.Script.Prompt

open Ascii Tool

/-- Whether something can be replaced in a text. -/
def isTemplate (text : Bytes) : Bool :=
  text.any fun b => b = dollar || b = backslash || b = backquote

/-- A text in which parameters and commands are replaced. -/
def expandTemplate (capture : Capture) (text : Bytes) : Act Bytes := do
  if !isTemplate text then return text
  let s ← get
  let cursor := Cursor.ofText text true s.nextDocument []
  let returned := if s.isAtEnd then some Token.endOfText else none
  match readTemplate.run { cursor with returned := returned } with
  | .error .hungry => return text
  | .error (.fault line _ message) =>
    modify fun s => { s with line := line, status := 2, isAtEnd := false }
    warn (utf8 message)
    return text
  | .ok (word, cursor) =>
    modify fun s => { s with isAtEnd := cursor.returned.isSome }
    match ← outcome (expandDocument capture word) with
    | .ok text => return text
    | .error .error => return text
    | .error reason => leave reason

/-- The prompt that a variable holds. -/
def textOf (capture : Capture) (name : String) : Act Bytes := do
  expandTemplate capture (((← get).valueOf? (utf8 name)).getD [])

/-- Shows the prompt that a variable holds. -/
def ask (capture : Capture) (name : String) : Act Unit := do
  say (← textOf capture name)

end CommandShell.Machine.Script.Prompt
