import CommandShell.Machine.Script.Token

/-!
# Reading the text of a script

A script is read byte by byte. The text may come in pieces: a reader that needs more than has come
stops, and begins again when there is more. The text of an alias is put in front of what is left;
while it is being read the alias does not stand for itself. Main statement: a byte that was put back
is the next one (`nextByte_unread`).
-/

namespace CommandShell.Machine.Script

open Ascii

/-- The text of an alias that is being read. -/
structure Insertion where
  /-- The alias. -/
  name : Bytes
  /-- What is left of its text. -/
  rest : Bytes
  /-- Whether its text ends with a blank, so that the next word can be an alias too. -/
  endsBlank : Bool

/-- A text in the script to which a redirection refers and which has not been read yet. -/
structure Awaited where
  /-- The number of the text. -/
  number : Nat
  /-- The line that ends it, if one does. -/
  mark : Option Bytes
  /-- Whether tabs at the beginnings of its lines are dropped. -/
  stripsTabs : Bool
  /-- Whether nothing in it is replaced. -/
  isLiteral : Bool

/-- What is left to be read. -/
structure Cursor where
  /-- Texts of aliases in front of it. -/
  insertions : List Insertion
  /-- Aliases whose text has just ended. -/
  fading : List Bytes
  /-- The text that has come. -/
  rest : Bytes
  /-- Whether no more will come. -/
  ended : Bool
  /-- The number of the line. -/
  line : Nat
  /-- A token that was put back. -/
  returned : Option Token
  /-- The last token. -/
  last : Token
  /-- Whether the next word can be an alias because of the alias in front of it. -/
  aliasNext : Bool
  /-- The texts that follow the line. -/
  awaited : List Awaited
  /-- The texts that were read. -/
  documents : List (Nat × Word)
  /-- The number of the next text. -/
  nextDocument : Nat
  /-- The aliases. -/
  aliases : List (Bytes × Bytes)

/-- The cursor at the beginning of a text. -/
def Cursor.ofText (text : Bytes) (ended : Bool) (nextDocument : Nat)
    (aliases : List (Bytes × Bytes)) : Cursor where
  insertions := []
  fading := []
  rest := text
  ended := ended
  line := 1
  returned := none
  last := .endOfText
  aliasNext := false
  awaited := []
  documents := []
  nextDocument := nextDocument
  aliases := aliases

/-- Why a reader stops. -/
inductive Stop where
  /-- It needs more text. -/
  | hungry
  /-- The text is not a script. So many bytes are behind the mistake. -/
  | fault (line left : Nat) (message : String)

/-- A reader. -/
abbrev Parse := StateT Cursor (Except Stop)

/-- Stops because of a mistake in the text. -/
def faulty {α : Type} (message : String) : Parse α := fun c =>
  .error (.fault c.line c.rest.length message)

/-- Goes on to the next line. -/
def countLine : Parse Unit := modify fun c => { c with line := c.line + 1 }

/-! ### Bytes -/

/-- What is left of the inserted texts without those that have ended. -/
def dropEnded : List Insertion → List Insertion
  | [] => []
  | i :: rest => if i.rest.isEmpty then dropEnded rest else i :: rest

/-- The inserted texts in front of the first one that has not ended. -/
def justEnded : List Insertion → List Insertion
  | [] => []
  | i :: rest => if i.rest.isEmpty then i :: justEnded rest else []

/-- Reads a byte. There is none at the end. -/
def nextByte : Parse (Option UInt8) := fun c =>
  let ended := justEnded c.insertions
  let c := { c with
    fading := ended.map Insertion.name
    aliasNext := c.aliasNext || ended.any Insertion.endsBlank }
  match dropEnded c.insertions with
  | i :: more => .ok (i.rest.head?, { c with insertions := { i with rest := i.rest.tail } :: more })
  | [] =>
    match c.rest with
    | b :: rest => .ok (some b, { c with insertions := [], rest := rest })
    | [] => if c.ended then .ok (none, { c with insertions := [] }) else .error .hungry

/-- Puts a byte back. -/
def unread (b : Option UInt8) : Parse Unit :=
  match b with
  | none => pure ()
  | some b => modify fun c =>
    match c.insertions with
    | i :: more => { c with insertions := { i with rest := b :: i.rest } :: more }
    | [] => { c with rest := b :: c.rest }

/-- A byte that was put back is the next one. -/
theorem nextByte_unread (b : UInt8) (c : Cursor) :
    ((do unread (some b); nextByte : Parse (Option UInt8)).run c).toOption.map (·.1) =
      some (some b) := by
  obtain ⟨insertions⟩ := c
  cases insertions <;> rfl

/-- Reads a byte. Ends of lines with a backslash in front of them are skipped, `fuel` at most. -/
def nextJoinedWithin : Nat → Parse (Option UInt8)
  | 0 => nextByte
  | fuel + 1 => do
    let b ← nextByte
    if b ≠ some backslash then return b
    let following ← nextByte
    if following ≠ some newline then
      unread following
      return b
    countLine
    nextJoinedWithin fuel

/-- A number of steps that no reader of a script reaches. -/
def endless : Nat := 1 <<< 60

/-- Reads a byte. Ends of lines with a backslash in front of them are skipped. -/
def nextJoined : Parse (Option UInt8) := nextJoinedWithin endless

/-- Reads the bytes up to the first one that does not belong to them, `fuel` at most. -/
def bytesWhileWithin (belongs : UInt8 → Bool) (before : Bytes) : Nat → Parse Bytes
  | 0 => pure before.reverse
  | fuel + 1 => do
    match ← nextJoined with
    | none => return before.reverse
    | some b =>
      if belongs b then bytesWhileWithin belongs (b :: before) fuel
      else
        unread (some b)
        return before.reverse

/-- Reads the bytes up to the first one that does not belong to them. -/
def bytesWhile (belongs : UInt8 → Bool) : Parse Bytes := bytesWhileWithin belongs [] endless

/-- Skips the bytes in front of the end of the line, `fuel` at most. -/
def skipLineWithin : Nat → Parse Unit
  | 0 => pure ()
  | fuel + 1 => do
    match ← nextByte with
    | none => pure ()
    | some b => if b = newline then unread (some b) else skipLineWithin fuel

/-- Skips the bytes in front of the end of the line. -/
def skipLine : Parse Unit := skipLineWithin endless

/-! ### Lines that end a text -/

/-- Skips bytes that are the next ones, and tells whether they are. -/
def skipBytes : Bytes → Parse Bool
  | [] => pure true
  | b :: rest => do
    if (← nextByte) = some b then skipBytes rest else return false

/-- Skips tabs, `fuel` at most. -/
def skipTabsWithin : Nat → Parse Unit
  | 0 => pure ()
  | fuel + 1 => do
    let b ← nextByte
    if b = some tab then skipTabsWithin fuel else unread b

/-- Skips the line that ends a text, and tells whether it is the next one. Tabs at the beginning of
the line are dropped if the text asks for it. -/
def skipMark (a : Awaited) : Parse Bool := do
  match a.mark with
  | none => return false
  | some mark =>
    if a.stripsTabs then skipTabsWithin endless
    let start ← get
    if ← skipBytes mark then
      let b ← nextByte
      if b = none || b = some newline then
        countLine
        return true
    set start
    return false

end CommandShell.Machine.Script
