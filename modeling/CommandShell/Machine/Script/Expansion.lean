import CommandShell.Machine.Account
import CommandShell.Machine.Script.Arithmetic
import CommandShell.Machine.Script.Field
import CommandShell.Machine.Script.Pattern
import CommandShell.Machine.Script.Session

/-!
# Expansion

What the words of a command are replaced by: the values of parameters, what commands write, the
values of arithmetic expressions and home directories. Without quotation the result is divided into
fields, and fields that are patterns are replaced by the paths that match them. How the output of
commands is found out is given.
-/

namespace CommandShell.Machine.Script

open Ascii Tool

/-- How a word is expanded. -/
structure Manner where
  /-- Whether it is divided into fields. -/
  splits : Bool
  /-- Whether bytes without quotation can be divided too. -/
  splitsPlain : Bool

/-- How what commands write is found out. -/
abbrev Capture := Option Command → Act Bytes

/-! ### Home directories -/

/-- The home directory of a user who is known. -/
def homeOf? (s : Session) (user : Bytes) : Option Bytes :=
  if user.isEmpty then s.valueOf? (utf8 "HOME") else Account.homeOf? user

/-- A word in which the beginning of a plain piece stands for a home directory. In an assignment a
colon ends the name of the user. An empty home directory leaves nothing, not even an empty field. -/
def resolveStart (s : Session) (inAssignment : Bool) (bytes : Bytes) (rest : Word) : Word :=
  match bytes with
  | [] => rest
  | b :: more =>
    let ends (c : UInt8) : Bool := c = slash || (inAssignment && c = colon)
    let user := more.takeWhile fun c => !ends c
    let behind := more.dropWhile fun c => !ends c
    if b = byteOf '~' && (!behind.isEmpty || rest.isEmpty) then
      match homeOf? s user with
      | some [] => .plain behind :: rest
      | some home => .quoted home :: .plain behind :: rest
      | none => .plain bytes :: rest
    else .plain bytes :: rest

/-- A word in which its beginning stands for a home directory. -/
def resolveHome (s : Session) (word : Word) : Word :=
  match word with
  | .plain bytes :: rest => resolveStart s false bytes rest
  | word => word

/-- The parts of a plain piece of an assignment in which home directories can stand: each begins
behind a colon. -/
def colonParts (bytes : Bytes) : List Bytes := splitAt colon bytes

/-- Home directories in the parts of a plain piece. -/
def resolveParts (s : Session) (rest : Word) : List Bytes → Word
  | [] => rest
  | [part] => resolveStart s true part rest
  | part :: more =>
    resolveStart s true (part ++ [colon]) [] ++ resolveParts s rest more

/-- The plain pieces behind the first one of an assignment, with home directories behind colons. -/
def resolveLater (s : Session) : Word → Word
  | [] => []
  | .plain bytes :: rest =>
    match colonParts bytes with
    | [] => resolveLater s rest
    | [part] => .plain part :: resolveLater s rest
    | part :: more => .plain (part ++ [colon]) :: resolveParts s (resolveLater s rest) more
  | piece :: rest => piece :: resolveLater s rest

/-- An assignment in which home directories stand behind the equals sign and behind colons. -/
def resolveAssignment (s : Session) (word : Word) : Word :=
  match word with
  | .plain bytes :: rest =>
    match splitAssignment? bytes with
    | none => resolveLater s word
    | some (name, value) =>
      .plain (name ++ [equalsSign]) ::
        (if value.isEmpty then resolveLater s rest
          else resolveParts s (resolveLater s rest) (colonParts value))
  | word => resolveLater s word

/-! ### Parameters -/

/-- The bytes of a value. -/
def cellsOf (isQuoted : Bool) (bytes : Bytes) : List Cell := bytes.map fun b => .byte b isQuoted

/-- The bytes that divide fields. -/
def Session.delimiters (s : Session) : Bytes := (s.valueOf? (utf8 "IFS")).getD fieldBlanks

/-- What stands between positional parameters that are put together. -/
def Session.joint (s : Session) (isQuoted : Bool) : List Cell :=
  match s.valueOf? (utf8 "IFS") with
  | none => [.byte space isQuoted]
  | some [] => []
  | some (b :: _) => [.byte b isQuoted]

/-- The letters of the settings that are on. -/
def Session.letters (s : Session) : Bytes :=
  (Setting.table.reverse.filterMap fun (setting, _, letter) =>
    if s.has setting then letter else none).map byteOf

/-- The positional parameters as one value. -/
def Session.allPositional (s : Session) (isStar splits isQuoted : Bool) : List Cell :=
  let joint :=
    if splits && (if isQuoted then !isStar else (s.valueOf? (utf8 "IFS")).isSome)
    then [.separator]
    else if splits && !isQuoted then [.byte space false]
    else s.joint isQuoted
  List.intercalate joint (s.positional.map (cellsOf isQuoted))

/-- The value of a parameter, if it has one. -/
def Session.parameter? (s : Session) (splits isQuoted : Bool) (name : Bytes) :
    Option (List Cell) :=
  match name with
  | [b] =>
    if b = star || b = atSign then some (s.allPositional (b = star) splits isQuoted)
    else (if b = dollar then some (decimal s.root)
      else if b = questionMark then some (decimal s.status)
      else if b = numberSign then some (decimal s.positional.length)
      else if b = bang then s.lastBackground.map decimal
      else if b = minus then some s.letters
      else if b = zero then some s.name
      else if isDigit b then s.positional[digitValue b - 1]?
      else s.valueOf? name).map (cellsOf isQuoted)
  | name =>
    (if name.all isDigit then
      let n := digitsValue name
      if n = 0 then some s.name else s.positional[n - 1]?
    else s.valueOf? name).map (cellsOf isQuoted)

/-- How the value of a parameter is divided. -/
def Session.divisionOf (s : Session) (name : Bytes) (isQuoted : Bool) : Division :=
  if !isQuoted then .atDelimiters
  else if name = [atSign] && !s.positional.isEmpty then .atSeparators
  else .whole

/-- The parts of a value as bytes, of which none are zero unless they separate. -/
def Cell.raw : Cell → UInt8
  | .byte b _ => b
  | _ => 0

/-- A value without a part that matches a pattern. No match goes beyond the end of a positional
parameter, and only the first one of them is searched from the front. -/
def trimCells (part : Trim) (pattern : Bytes) (cells : List Cell) : List Cell :=
  let text := cells.map Cell.raw
  let places := List.range (text.length + 1)
  let firstPlaces := places.take ((firstPart text).length + 1)
  match part with
  | .shortStart => cells.drop ((endOfPrefix? pattern text firstPlaces).getD 0)
  | .longStart => cells.drop ((endOfPrefix? pattern text places.reverse).getD 0)
  | .shortEnd => cells.take ((startOfSuffix? pattern text places.reverse).getD text.length)
  | .longEnd => cells.take ((startOfSuffix? pattern text firstPlaces).getD text.length)

/-- Complains about a parameter that has no value. -/
def refuseUnset {α : Type} (name : Bytes) (orEmpty : Bool) : Act α :=
  fail (name ++ utf8 (": parameter not set" ++ if orEmpty then " or null" else ""))

/-! ### Words -/

/-- Bytes without the zero ones and without the ends of lines at their end. -/
def capturedText (output : Bytes) : Bytes :=
  ((output.filter (· ≠ 0)).reverse.dropWhile (· = newline)).reverse

/-- A value that is not there, or does not count. -/
def counts (orEmpty : Bool) (value : Option (List Cell)) : Option (List Cell) :=
  if orEmpty then value.filter (!·.isEmpty) else value

/-- Expands what is made of the value of a parameter. How words inside of it are expanded is
given. -/
def expandUse (expand : Manner → Word → Act (List Run)) (m : Manner) (name : Bytes)
    (isQuoted : Bool) (use : Use) : Act (List Run) := do
  let s ← get
  let value := s.parameter? m.splits isQuoted name
  let division := s.divisionOf name isQuoted
  let inside : Manner := ⟨m.splits, !isQuoted⟩
  let alone : Manner := ⟨false, false⟩
  match use with
  | .value =>
    match value with
    | some cells => return [⟨cells, division⟩]
    | none => if s.has .noUnset then refuseUnset name false else return []
  | .size =>
    match value with
    | some cells => return [⟨cellsOf isQuoted (decimal cells.length), division⟩]
    | none =>
      if s.has .noUnset then refuseUnset name false
      else return [⟨cellsOf isQuoted [zero], division⟩]
  | .default orEmpty word =>
    match counts orEmpty value with
    | some cells => return [⟨cells, division⟩]
    | none => expand inside (resolveHome s word)
  | .instead orEmpty word =>
    match counts orEmpty value with
    | some _ => expand inside (resolveHome s word)
    | none => return []
  | .assign orEmpty word =>
    match counts orEmpty value with
    | some cells => return [⟨cells, division⟩]
    | none =>
      let text := textOf (← expand alone (resolveHome s word))
      setVariable name text false
      return [⟨cellsOf isQuoted text, division⟩]
  | .demand orEmpty word =>
    match counts orEmpty value with
    | some cells => return [⟨cells, division⟩]
    | none =>
      if word.isEmpty then refuseUnset name orEmpty
      else fail (name ++ utf8 ": " ++ textOf (← expand alone (resolveHome s word)))
  | .trim part word =>
    match value with
    | none => if s.has .noUnset then refuseUnset name false else return []
    | some cells =>
      let pattern ← expand alone (resolveHome s word)
      return [⟨trimCells part (patternOf pattern) cells, division⟩]
  | .senseless => fail (utf8 "Bad substitution")

/-- The signal that ends a process whose arithmetic has no result. -/
def arithmeticSignal : Nat := 8

/-- The value of an arithmetic expression. -/
def evaluateText (text : Bytes) : Act Int64 := do
  let s ← get
  let result := Arithmetic.evaluate (fun name => (s.valueOf? name).getD []) text
  result.assigned.forM fun (name, value) => setVariable name (utf8 (toString value)) false
  match result.value with
  | .ok n => return n
  | .error (.senseless message) =>
    fail (utf8 ("arithmetic expression: " ++ message ++ ": \"") ++ text ++ [quoteMark])
  | .error (.notNumber value) => refuseNumber value
  | .error .overflow => liftM (m := Program) (Program.crash arithmeticSignal)

/-- Expands a piece of a word. How words inside of it are expanded is given. -/
def expandPiece (capture : Capture) (expand : Manner → Word → Act (List Run)) (m : Manner)
    (piece : Piece) : Act (List Run) := do
  let divisionFor (isQuoted : Bool) : Division := if isQuoted then .whole else .atDelimiters
  match piece with
  | .plain bytes => return [⟨cellsOf false bytes, divisionFor (!m.splitsPlain)⟩]
  | .quoted [] => return [⟨[.mark], .whole⟩]
  | .quoted bytes => return [⟨cellsOf true bytes, .whole⟩]
  | .parameter name use isQuoted => expandUse expand m name isQuoted use
  | .output commands isQuoted =>
    let output ← capture commands
    return [⟨cellsOf isQuoted (capturedText output), divisionFor isQuoted⟩]
  | .arithmetic expression isQuoted =>
    let text := textOf (← expand ⟨false, false⟩ expression)
    let n ← evaluateText text
    return [⟨cellsOf isQuoted (utf8 (toString n)), divisionFor isQuoted⟩]

/-- Expands the pieces of a word one after the other. -/
def expandPieces (expand : Piece → Act (List Run)) : Word → Act (List Run)
  | [] => pure []
  | piece :: rest => do
    let runs ← expand piece
    return runs ++ (← expandPieces expand rest)

/-- Expands a word, with a nesting of `fuel` at most. -/
def expandWithin (capture : Capture) : Nat → Manner → Word → Act (List Run)
  | 0, _, _ => pure []
  | fuel + 1, m, word => expandPieces (expandPiece capture (expandWithin capture fuel) m) word

/-- Expands a word. -/
def expandWord (capture : Capture) (m : Manner) (word : Word) : Act (List Run) :=
  expandWithin capture endless m word

/-! ### Paths -/

/-- The parts of a pattern between slashes. -/
def pathParts (pattern : Bytes) : List Bytes :=
  let step (b : UInt8) (parts : Bytes × List Bytes) : Bytes × List Bytes :=
    if b = slash then ([], parts.1 :: parts.2) else (b :: parts.1, parts.2)
  let (first, rest) := pattern.foldr step ([], [])
  first :: rest

/-- A part of a pattern without a backslash at its end, which belongs to the slash behind it. -/
def withoutEscape (escaped : Bool) : Bytes → Bytes
  | [] => []
  | [b] => if b = backslash && !escaped then [] else [b]
  | b :: rest => b :: withoutEscape (b = backslash && !escaped) rest

/-- Parts of a pattern without backslashes in front of the slashes between them. -/
def withoutEscapes : List Bytes → List Bytes
  | [] => []
  | [last] => [last]
  | part :: rest => withoutEscape false part :: withoutEscapes rest

/-- Whether brackets begin here that are closed. -/
def hasClosing (atStart : Bool) : Bytes → Bool
  | [] => false
  | b :: rest =>
    if atStart then
      if b = backslash then match rest with
        | [] => false
        | _ :: more => hasClosing false more
      else hasClosing false rest
    else if b = closeBracket then true
    else if b = backslash then match rest with
      | [] => false
      | _ :: more => hasClosing false more
    else hasClosing false rest

/-- Whether a part of a pattern can match something else than itself. The first `skipped` bytes do
not count. -/
def isPattern (skipped : Nat) : Bytes → Bool
  | [] => false
  | b :: rest =>
    if 0 < skipped then isPattern (skipped - 1) rest
    else if b = star || b = questionMark then true
    else if b = openBracket then
      hasClosing true (if rest.head? = some bang then rest.tail else rest) || isPattern 0 rest
    else if b = backslash then isPattern 1 rest
    else isPattern 0 rest

/-- A pattern without its backslashes. -/
def unescaped (skipped : Bool) : Bytes → Bytes
  | [] => []
  | b :: rest =>
    if b = backslash && !skipped && !rest.isEmpty then unescaped true rest
    else b :: unescaped false rest

/-- Whether a part of a pattern can match a name that begins with a point. -/
def matchesHidden (pattern : Bytes) : Bool :=
  match pattern with
  | b :: rest => (if b = backslash then rest.head? else some b) = some point
  | [] => false

/-- The names in a directory that match a part of a pattern. -/
def namesMatching (directory pattern : Bytes) : Act (List Bytes) := do
  let path := if directory.isEmpty then [point] else directory
  match (← ask (.listDirectory path) : Except Errno (List Name)) with
  | .error _ => return []
  | .ok names =>
    let parts := glyphs 0 pattern
    return ([[point], [point, point]] ++ names).filter fun name =>
      (name.head? ≠ some point || matchesHidden pattern) && matchesGlyphs parts name

/-- Parts of a path put together. -/
def joinPath (parts : List Bytes) : Bytes := List.intercalate [slash] parts

/-- The paths behind each of some directories. -/
def pathsBehind (paths : Bytes → Act (List Bytes)) (directory : Bytes) :
    List Bytes → Act (List Bytes)
  | [] => pure []
  | name :: rest => do
    let found ← paths (directory ++ name ++ [slash])
    return found ++ (← pathsBehind paths directory rest)

/-- The paths that match the parts of a pattern behind a directory. -/
def pathsMatching (directory : Bytes) (fixed : List Bytes) : List Bytes → Act (List Bytes)
  | [] => do
    if directory.isEmpty then return []
    let path := directory ++ joinPath fixed.reverse
    match (← ask (.inspect path false) : Except Errno FileFacts) with
    | .ok _ => return [path]
    | .error _ => return []
  | part :: rest => do
    if !isPattern 0 part then pathsMatching directory (unescaped false part :: fixed) rest
    else
      let directory := directory ++ fixed.reverse.flatMap (· ++ [slash])
      let names ← namesMatching directory part
      if rest.isEmpty then return names.map (directory ++ ·)
      else pathsBehind (fun directory => pathsMatching directory [] rest) directory names

/-- The paths that a field stands for: those that match it as a pattern, or itself. -/
def expandPaths (field : List Cell) : Act (List Bytes) := do
  let text := bytesOf field
  if (← get).has .noGlob || !text.any (fun b => b = star || b = questionMark || b = openBracket)
  then return [text]
  let parts := withoutEscapes (pathParts (patternIn field))
  let paths ← pathsMatching [] [] parts
  return if paths.isEmpty then [text] else paths.mergeSort

/-- The paths that fields stand for. -/
def expandAllPaths : List (List Cell) → Act (List Bytes)
  | [] => pure []
  | field :: rest => do
    let paths ← expandPaths field
    return paths ++ (← expandAllPaths rest)

/-! ### Results -/

/-- The fields of a word. -/
def expandFields (capture : Capture) (word : Word) : Act (List Bytes) := do
  let runs ← expandWord capture ⟨true, false⟩ (resolveHome (← get) word)
  expandAllPaths (splitRuns (← get).delimiters none runs)

/-- The text of a word as a whole. -/
def expandText (capture : Capture) (word : Word) : Act Bytes := do
  return textOf (← expandWord capture ⟨false, false⟩ (resolveHome (← get) word))

/-- The text of an assignment. -/
def expandAssignment (capture : Capture) (word : Word) : Act Bytes := do
  return textOf (← expandWord capture ⟨false, false⟩ (resolveAssignment (← get) word))

/-- The pattern that a word is. -/
def expandPattern (capture : Capture) (word : Word) : Act Bytes := do
  return patternOf (← expandWord capture ⟨false, false⟩ (resolveHome (← get) word))

/-- The text to which a redirection refers. -/
def expandDocument (capture : Capture) (word : Word) : Act Bytes := do
  return textOf (← expandWord capture ⟨false, false⟩ word)

end CommandShell.Machine.Script
