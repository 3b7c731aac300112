import CommandShell.Machine.Script.Run

/-!
# Conversations

How the main part of a script is run, which may come from a user. While an interpreter converses it
asks for each line, and an error does not end it: it forgets what it was about to do and what has
come of the script, and goes on with the rest.
-/

namespace CommandShell.Machine.Script

open Ascii Tool

/-- Whether an interpreter goes on although something was broken off. -/
def Session.outlives (s : Session) (reason : Leave) : Bool :=
  s.converses && (reason = .error || reason = .interrupted)

/-- Forgets what was about to be done. -/
def recover (reason : Leave) : Act Unit := do
  undoRedirections 0
  settle reason
  closeFrames 0 (← get).frames.length
  modify fun s => { s with collected := .empty, failed := false, running := none }
  modify fun s => { s with depth := 0, stack := 0 }
  if reason = .interrupted then say [newline]

/-- Does something; nothing comes of it if it was broken off and the interpreter goes on. -/
def attempt {α : Type} (act : Act α) : Act (Option α) := do
  match ← outcome act with
  | .ok a => return some a
  | .error reason =>
    if !(← get).outlives reason then leave reason
    recover reason
    return none

/-- How often an interpreter that should not end goes on at the end of its script. -/
def mostEnds : Nat := 50

/-- What is said then. -/
def farewell : Bytes := utf8 "\nUse \"exit\" to leave shell.\n"

/-- Gives up what has come of a script. What has not come yet is left. -/
def Source.abandon (source : Source) (line : Nat) : Source :=
  let cursor := Cursor.ofText [] false 0 []
  { source with cursor := { cursor with line := line } }

/-- Asks for a line and reads it. -/
def askFor (run : Runner) (source : Source) : Act (Line × Source) := do
  modify fun s => { s with isAtEnd := false }
  let capture := capture run
  if (← get).converses then
    Prompt.ask capture "PS1"
    source.next (some (Prompt.ask capture "PS2"))
  else source.next none

/-- Runs the main part of a script, `fuel` lines at most. It has ended some times already. -/
def converse (run : Runner) (source : Source) (ends : Nat) : Nat → Act Unit
  | 0 => pure ()
  | fuel + 1 => do
    match ← attempt (askFor run source) with
    | none => converse run (source.abandon (← get).readLine) 0 fuel
    | some (.ended, source) =>
      let s ← get
      if s.has .ignoreEof && ends < mostEnds then
        say farewell
        converse run source (ends + 1) fuel
      else if s.has .interactive && !s.has .ignoreEof then say [newline]
    | some (.commands none _, source) => converse run source 0 fuel
    | some (.commands (some command) _, source) =>
      match ← attempt (run command .plain) with
      | none => converse run (source.abandon source.cursor.line) 0 fuel
      | some _ =>
        if (← get).skip ≠ .nothing then endReturn else converse run source 0 fuel

end CommandShell.Machine.Script
