import CommandShell.Machine.Script.Cursor

/-!
# Reading words

Words are read piece by piece. What a byte means depends on where it stands: in a bare word, in
braces, between quotation marks, in an arithmetic expression or in a text to which a redirection
refers. The reader of commands that stand in a word is given. Main statement: between apostrophes
nothing has a meaning (`readApostrophes` reads bytes only).
-/

namespace CommandShell.Machine.Script

open Ascii

/-- What ends a sequence of pieces. -/
inductive Ending where
  /-- A byte that cannot stand in a bare word. -/
  | word
  /-- A closing brace. -/
  | brace
  /-- A quotation mark. A closing brace can be quoted inside braces. -/
  | quotationMark (inBraces : Bool)
  /-- Two closing parentheses. -/
  | parentheses
  /-- The line that ends a text. -/
  | document

/-- Where a piece stands. -/
structure Surrounding where
  /-- Whether it is quoted. -/
  isQuoted : Bool
  /-- What ends the sequence to which it belongs. -/
  ending : Ending
  /-- The text to which it belongs. -/
  document : Option Awaited
  /-- Whether nothing is replaced. -/
  isLiteral : Bool

namespace Surrounding

/-- A bare word. -/
def bareWord (isLiteral : Bool) : Surrounding := ⟨false, .word, none, isLiteral⟩

/-- A text to which a redirection refers. -/
def inDocument (a : Awaited) : Surrounding := ⟨true, .document, some a, false⟩

/-- Whether closing braces have a meaning. -/
def endsWithBrace (s : Surrounding) : Bool := match s.ending with
  | .brace => true
  | _ => false

/-- Whether the piece stands in braces. -/
def isInBraces (s : Surrounding) : Bool := match s.ending with
  | .brace => true
  | .quotationMark inBraces => inBraces
  | _ => false

/-- Between quotation marks that begin here. -/
def marked (s : Surrounding) : Surrounding :=
  { s with isQuoted := true, ending := .quotationMark s.isInBraces }

/-- In braces whose content is quoted if this is. -/
def braced (s : Surrounding) : Surrounding := { s with ending := .brace }

/-- In braces whose content is a pattern. -/
def pattern (s : Surrounding) : Surrounding := ⟨false, .brace, none, s.isLiteral⟩

/-- In an arithmetic expression. -/
def arithmetic (s : Surrounding) : Surrounding :=
  { s with isQuoted := true, ending := .parentheses }

/-- A byte that stands for itself. -/
def own (s : Surrounding) (b : UInt8) : Piece := if s.isQuoted then .quoted [b] else .plain [b]

/-- The complaint about a sequence of pieces that does not end. -/
def complaint (s : Surrounding) : String := match s.ending with
  | .parentheses => "Syntax error: Missing '))'"
  | _ => if s.isQuoted && s.document.isNone then "Syntax error: Unterminated quoted string"
    else "Syntax error: Missing '\x7d'"

end Surrounding

/-- Whether a byte cannot stand in a bare word. -/
def endsWord (b : UInt8) : Bool := (utf8 " \t\n;&|<>()").contains b

/-- The mark between which and the next one commands stand. -/
def backquote : UInt8 := 96

/-- Pieces in order, with neighbouring plain ones put together. -/
def inOrder (reversed : Word) : Word := reversed.foldl (fun word piece => joinPlain piece word) []

/-! ### Apostrophes -/

/-- Reads the bytes up to an apostrophe, `fuel` at most. -/
def readApostrophes (before : Bytes) : Nat → Parse Bytes
  | 0 => pure before.reverse
  | fuel + 1 => do
    match ← nextByte with
    | none => faulty "Syntax error: Unterminated quoted string"
    | some b =>
      if b = apostrophe then return before.reverse
      if b = newline then countLine
      readApostrophes (b :: before) fuel

/-! ### Backslashes -/

/-- Whether a backslash in front of a byte that is quoted anyway has a meaning. -/
def isEscapable (s : Surrounding) (b : UInt8) : Bool :=
  b = backslash || b = backquote || b = dollar ||
    (b = quoteMark && (s.document.isNone || s.isInBraces)) || (b = closeBrace && s.isInBraces)

/-- Reads what follows a backslash. -/
def readEscape (s : Surrounding) : Parse Piece := do
  match ← nextByte with
  | none => return .quoted [backslash]
  | some b =>
    if b = newline then countLine
    if s.isQuoted && !isEscapable s b then return .quoted [backslash, b] else return .quoted [b]

/-! ### Backquotes -/

/-- Reads the text between backquotes, `fuel` bytes at most. -/
def readBackquotes (isQuoted : Bool) (before : Bytes) : Nat → Parse Bytes
  | 0 => pure before.reverse
  | fuel + 1 => do
    match ← nextJoined with
    | none => faulty "Syntax error: EOF in backquote substitution"
    | some b =>
      if b = backquote then return before.reverse
      if b = backslash then
        match ← nextByte with
        | none => faulty "Syntax error: EOF in backquote substitution"
        | some c =>
          if c = newline then countLine
          let escaped := c = backslash || c = backquote || c = dollar || (isQuoted && c = quoteMark)
          readBackquotes isQuoted (if escaped then c :: before else c :: backslash :: before) fuel
      else
        if b = newline then countLine
        readBackquotes isQuoted (b :: before) fuel

/-! ### Parameters -/

/-- What a letter behind the name of a parameter asks for. -/
def useOf (letter : UInt8) (orEmpty : Bool) (word : Word) : Option Use :=
  if letter = minus then some (.default orEmpty word)
  else if letter = plus then some (.instead orEmpty word)
  else if letter = questionMark then some (.demand orEmpty word)
  else if letter = equalsSign then some (.assign orEmpty word)
  else none

/-- The part that one or two signs behind the name of a parameter cut off. -/
def trimOf (letter : UInt8) (twice : Bool) : Trim :=
  if letter = percent then (if twice then .longEnd else .shortEnd)
  else if twice then .longStart else .shortStart

/-- Reads the rest of a parameter in braces, behind its name. -/
def readUse (pieces : Surrounding → Parse Word) (s : Surrounding) : Parse Use := do
  match ← nextJoined with
  | none => do
    let _ ← pieces s.braced
    return .senseless
  | some b =>
    if b = closeBrace then return .value
    if b = percent || b = numberSign then
      let following ← nextJoined
      if following ≠ some b then unread following
      let pattern ← pieces s.pattern
      return .trim (trimOf b (following = some b)) pattern
    let orEmpty := b = colon
    let letter ← if orEmpty then nextJoined else pure (some b)
    let word ← pieces s.braced
    return (letter.bind fun letter => useOf letter orEmpty word).getD .senseless

/-- Reads the name of a parameter that begins with a byte. -/
def readName (b : UInt8) : Parse Bytes := do
  return b :: (← bytesWhile (if isDigit b then isDigit else isInName))

/-- Reads the end of a parameter whose size is asked for. -/
def readSizeEnd (pieces : Surrounding → Parse Word) (s : Surrounding) (name : Bytes) :
    Parse (Bytes × Use) := do
  let b ← nextJoined
  if b = some closeBrace then return (name, .size)
  unread b
  let _ ← pieces s.braced
  return (name, .senseless)

/-- Reads a parameter that makes no sense to its end. -/
def readSenseless (pieces : Surrounding → Parse Word) (s : Surrounding) : Parse (Bytes × Use) := do
  let _ ← pieces s.braced
  return ([], .senseless)

/-- Reads a parameter in braces, behind the opening one. -/
def readBraced (pieces : Surrounding → Parse Word) (s : Surrounding) : Parse (Bytes × Use) := do
  match ← nextJoined with
  | none => readSenseless pieces s
  | some b =>
    if startsName b || isDigit b then
      let name ← readName b
      return (name, ← readUse pieces s)
    if b = closeBrace then
      unread (some b)
      return ← readSenseless pieces s
    if b ≠ numberSign then
      if isSpecialParameter b then return ([b], ← readUse pieces s)
      let following ← nextJoined
      unread following
      return ← readSenseless pieces s
    match ← nextJoined with
    | none => readSenseless pieces s
    | some c =>
      if startsName c || isDigit c then
        let name ← readName c
        return ← readSizeEnd pieces s name
      let following ← nextJoined
      if c ≠ closeBrace && following = some closeBrace then
        if isSpecialParameter c then return ([c], .size)
        unread following
        return ← readSenseless pieces s
      unread following
      unread (some c)
      return ([b], ← readUse pieces s)

/-! ### Pieces -/

/-- The readers of what can stand in a piece. -/
structure Inner where
  /-- Reads pieces. -/
  pieces : Surrounding → Parse Word
  /-- Reads commands up to a closing parenthesis. -/
  commands : Parse (Option Command)
  /-- Reads the commands in a text of their own. -/
  ofText : Bytes → Parse (Option Command)

/-- Reads what follows a dollar sign. -/
def readDollar (r : Inner) (s : Surrounding) : Parse Piece := do
  let b ← nextJoined
  match b with
  | none => return s.own dollar
  | some c =>
    if s.isLiteral then
      unread b
      return s.own dollar
    if c = byteOf '(' then
      let following ← nextJoined
      if following = some (byteOf '(') then
        return .arithmetic (← r.pieces s.arithmetic) s.isQuoted
      unread following
      return .output (← r.commands) s.isQuoted
    if c = openBrace then
      let (name, use) ← readBraced r.pieces s
      return .parameter name use s.isQuoted
    if startsName c then return .parameter (← readName c) .value s.isQuoted
    if isSpecialParameter c then return .parameter [c] .value s.isQuoted
    unread b
    return s.own dollar

/-- Whether pieces are nothing but all positional parameters. -/
def isAllParameters : Word → Bool
  | [.parameter [atSign] .value _] => true
  | _ => false

/-- Reads what follows a quotation mark. Even if nothing stands between the quotation marks there is
something, unless all positional parameters stand there. -/
def readMarked (r : Inner) (s : Surrounding) : Parse Word := do
  let word ← r.pieces s.marked
  if s.isQuoted || isAllParameters word then return word else return .quoted [] :: word

/-- What reading a byte leads to. -/
inductive Progress where
  /-- Some pieces more, the last one first. -/
  | more (pieces : Word)
  /-- An opening parenthesis. -/
  | deeper
  /-- A closing parenthesis that has an opening one. -/
  | shallower
  /-- The end. -/
  | ended

/-- Reads the end of a line in a sequence of pieces. -/
def readLineEnd (s : Surrounding) : Parse Progress := do
  countLine
  match s.document with
  | none => return .more [s.own newline]
  | some a =>
    if ← skipMark a then faulty s.complaint
    return .more [s.own newline]

/-- Reads one step of a sequence of pieces. The number of parentheses that are open is given. -/
def readStep (r : Inner) (s : Surrounding) (depth : Nat) (b : UInt8) : Parse Progress := do
  if b = backslash then return .more [← readEscape s]
  if b = dollar then return .more [← readDollar r s]
  if b = backquote && !s.isLiteral then
    let text ← readBackquotes s.isQuoted [] endless
    return .more [.output (← r.ofText text) s.isQuoted]
  if b = apostrophe && !s.isQuoted then
    return .more [.quoted (← readApostrophes [] endless)]
  match s.ending with
  | .word =>
    if endsWord b then
      unread (some b)
      return .ended
    if b = quoteMark then return .more (← readMarked r s).reverse
    return .more [s.own b]
  | .brace =>
    if b = closeBrace then return .ended
    if b = quoteMark then return .more (← readMarked r s).reverse
    if b = newline then return ← readLineEnd s
    return .more [s.own b]
  | .quotationMark _ =>
    if b = quoteMark then return .ended
    if b = newline then return ← readLineEnd s
    return .more [s.own b]
  | .parentheses =>
    if b = byteOf '(' then return .deeper
    if b = byteOf ')' then
      if 0 < depth then return .shallower
      let following ← nextJoined
      if following = some (byteOf ')') then return .ended
      unread following
      return .more [s.own b]
    if b = newline then return ← readLineEnd s
    return .more [s.own b]
  | .document =>
    return .more [s.own b]

/-- Reads a sequence of pieces to its end, in `fuel` steps at most. -/
def readPiecesWithin (r : Inner) (s : Surrounding) (depth : Nat) (before : Word) :
    Nat → Parse Word
  | 0 => pure (inOrder before)
  | fuel + 1 => do
    match ← nextJoined with
    | none => match s.ending with
      | .word => return inOrder before
      | _ => faulty s.complaint
    | some b =>
      match ← readStep r s depth b with
      | .ended => return inOrder before
      | .more pieces => readPiecesWithin r s depth (pieces ++ before) fuel
      | .deeper => readPiecesWithin r s (depth + 1) (s.own b :: before) fuel
      | .shallower => readPiecesWithin r s (depth - 1) (s.own b :: before) fuel

/-- Reads the lines of a text up to the one that ends it, in `fuel` steps at most. -/
def readDocumentWithin (r : Inner) (a : Awaited) (before : Word) : Nat → Parse Word
  | 0 => pure (inOrder before)
  | fuel + 1 => do
    let s := Surrounding.inDocument a
    match ← if a.isLiteral then nextByte else nextJoined with
    | none => return inOrder before
    | some b =>
      if b = newline then
        countLine
        if ← skipMark a then return inOrder (.quoted [newline] :: before)
        readDocumentWithin r a (.quoted [newline] :: before) fuel
      else if a.isLiteral then readDocumentWithin r a (.quoted [b] :: before) fuel
      else match ← readStep r s 0 b with
        | .more pieces => readDocumentWithin r a (pieces ++ before) fuel
        | _ => return inOrder before

/-- Reads a text to which a redirection refers. -/
def readDocument (r : Inner) (a : Awaited) : Parse Word := do
  if ← skipMark a then return []
  readDocumentWithin r a [] endless

end CommandShell.Machine.Script
