import CommandShell.Machine.Script.WordReader

/-!
# Reading commands

Commands are read from tokens. Which words are reserved, which can be aliases and whether ends of
lines are skipped depends on where a token stands. A list of commands ends with its line where a
script is read, and in front of a closing token where it stands inside another command. The texts
to which redirections refer follow the line on which they are mentioned.
-/

namespace CommandShell.Machine.Script

open Ascii

/-! ### Tokens -/

/-- How a token is read. -/
structure Expectation where
  /-- Whether ends of lines are skipped. -/
  skipsLines : Bool
  /-- Whether words can be reserved. -/
  reserves : Bool
  /-- Whether words can be aliases. -/
  aliases : Bool
  /-- Whether nothing in a word is replaced. -/
  isLiteral : Bool

namespace Expectation

/-- A token where a command has begun. -/
def inside : Expectation := ⟨false, false, false, false⟩

/-- A token where a command can begin. -/
def beginning : Expectation := ⟨false, true, true, false⟩

/-- A token where a command can begin, perhaps on another line. -/
def continuing : Expectation := ⟨true, true, true, false⟩

/-- A token that may be reserved, perhaps on another line. -/
def reserved : Expectation := ⟨true, true, false, false⟩

/-- A token that can be an alias. -/
def aliased : Expectation := ⟨false, false, true, false⟩

/-- The line that ends a text. -/
def mark : Expectation := ⟨false, false, false, true⟩

end Expectation

/-- Puts a token back. -/
def putBack (t : Token) : Parse Unit := modify fun c => { c with returned := some t }

/-- Makes a token the last one. -/
def took (t : Token) : Parse Token := do
  modify fun c => { c with last := t }
  return t

/-- Reads what follows the sign of a redirection of a descriptor. -/
def readArrow (fd : Option Fd) (sign : UInt8) : Parse Token := do
  let b ← nextJoined
  if sign = byteOf '>' then
    let fd := fd.getD 1
    if b = some (byteOf '>') then return .redirection fd (.file .append)
    if b = some (byteOf '|') then return .redirection fd (.file .overwrite)
    if b = some (byteOf '&') then return .redirection fd .descriptor
    unread b
    return .redirection fd (.file .output)
  let fd := fd.getD 0
  if b = some (byteOf '<') then
    let following ← nextJoined
    if following = some minus then return .redirection fd (.document true)
    unread following
    return .redirection fd (.document false)
  if b = some (byteOf '&') then return .redirection fd .descriptor
  if b = some (byteOf '>') then return .redirection fd (.file .update)
  unread b
  return .redirection fd (.file .input)

/-- The descriptor that the bytes in front of a redirection name, if they do. -/
def descriptorIn? : Word → Option (Option Fd)
  | [] => some none
  | [.plain [b]] => if isDigit b then some (some (digitValue b)) else none
  | _ => none

/-- Reads a word, or a redirection with a descriptor in front. -/
def readWordToken (r : Inner) (isLiteral : Bool) : Parse Token := do
  let word ← readPiecesWithin r (.bareWord isLiteral) 0 [] endless
  match descriptorIn? word with
  | none => return .word word
  | some fd =>
    match ← nextByte with
    | none => return .word word
    | some b =>
      if b = byteOf '<' || b = byteOf '>' then readArrow fd b
      else
        unread (some b)
        return .word word

/-- Reads one of two operators: the second one if a byte follows. -/
def readOperator (b : UInt8) (short long : Operator) : Parse Token := do
  let following ← nextJoined
  if following = some b then return .operator long
  unread following
  return .operator short

/-- Reads a token from the text, in `fuel` steps at most. -/
def readTokenWithin (r : Inner) (isLiteral : Bool) : Nat → Parse Token
  | 0 => pure .endOfText
  | fuel + 1 => do
    match ← nextJoined with
    | none => return .endOfText
    | some b =>
      if isBlank b then readTokenWithin r isLiteral fuel
      else if b = numberSign then
        skipLine
        readTokenWithin r isLiteral fuel
      else if b = newline then
        countLine
        return .newline
      else if b = byteOf '&' then readOperator b .background .both
      else if b = byteOf '|' then readOperator b .pipe .either
      else if b = byteOf ';' then readOperator b .separator .caseEnd
      else if b = byteOf '(' then return .operator .openParenthesis
      else if b = byteOf ')' then return .operator .closeParenthesis
      else
        unread (some b)
        readWordToken r isLiteral

/-- Reads the token that was put back, or one from the text. -/
def rawToken (r : Inner) (isLiteral : Bool) : Parse Token := do
  match (← get).returned with
  | some t =>
    modify fun c => { c with returned := none }
    return t
  | none => readTokenWithin r isLiteral endless

/-- Reads texts to which redirections refer. -/
def readDocuments (r : Inner) : List Awaited → Parse Unit
  | [] => pure ()
  | a :: rest => do
    let word ← readDocument r a
    modify fun c => { c with documents := (a.number, word) :: c.documents }
    readDocuments r rest

/-- Reads the texts that follow a line. -/
def readAwaited (r : Inner) : Parse Unit := do
  let awaited := (← get).awaited
  modify fun c => { c with awaited := [] }
  readDocuments r awaited

/-- Reads a token behind ends of lines, in `fuel` steps at most. -/
def skipLinesWithin (r : Inner) (t : Token) : Nat → Parse Token
  | 0 => pure t
  | fuel + 1 => do
    match t with
    | .newline =>
      readAwaited r
      modify fun c => { c with aliasNext := false }
      skipLinesWithin r (← rawToken r false) fuel
    | t => return t

/-- The text of an alias that a word is, unless it is being read. -/
def aliasFor? (c : Cursor) (word : Word) : Option (Bytes × Bytes) := do
  let name ← bareText? word
  let text ← c.aliases.lookup name
  if c.fading.contains name || c.insertions.any (fun i => i.name == name) then none
  else some (name, text)

/-- Whether a text ends with a blank. -/
def endsWithBlank (text : Bytes) : Bool := text.getLast?.any isBlank

/-- Reads a token, in `fuel` steps at most. -/
def nextTokenWithin (r : Inner) (e : Expectation) : Nat → Parse Token
  | 0 => took .endOfText
  | fuel + 1 => do
    let t ← rawToken r e.isLiteral
    let t ← if e.skipsLines then skipLinesWithin r t endless else pure t
    let c ← get
    let aliases := e.aliases || c.aliasNext
    set { c with aliasNext := false }
    match t with
    | .word word =>
      match (if e.reserves then (bareText? word).bind Reserved.ofBytes? else none) with
      | some reserved => took (.reserved reserved)
      | none =>
        match (if aliases then aliasFor? c word else none) with
        | none => took t
        | some (name, text) =>
          if !text.isEmpty then
            modify fun c => { c with
              insertions := ⟨name, text, endsWithBlank text⟩ :: c.insertions }
          nextTokenWithin r ⟨e.skipsLines, e.reserves, aliases, e.isLiteral⟩ fuel
    | t => took t

/-- Reads a token. -/
def nextToken (r : Inner) (e : Expectation) : Parse Token := nextTokenWithin r e endless

/-! ### Complaints -/

/-- Complains about the last token. -/
def unexpected {α : Type} : Parse α := do
  faulty ("Syntax error: " ++ (← get).last.name ++ " unexpected")

/-- Complains about the last token in the stead of another one. -/
def unexpectedFor {α : Type} (wanted : Token) : Parse α := do
  faulty ("Syntax error: " ++ (← get).last.name ++ " unexpected (expecting " ++ wanted.name ++ ")")

/-- Reads a reserved word. -/
def requireReserved (r : Inner) (e : Expectation) (wanted : Reserved) : Parse Unit := do
  let t ← nextToken r e
  if !t.isReserved wanted then unexpectedFor (.reserved wanted)

/-- Reads an operator. -/
def requireOperator (r : Inner) (wanted : Operator) : Parse Unit := do
  let t ← nextToken r .inside
  if !t.isOperator wanted then unexpectedFor (.operator wanted)

/-! ### Redirections -/

/-- What a word behind the sign of a duplicate refers to. -/
def duplicateOf (word : Word) : Target :=
  match word with
  | [.plain [b]] =>
    if isDigit b then .descriptor (some (digitValue b))
    else if b = minus then .descriptor none
    else .namedDescriptor word
  | word => .namedDescriptor word

/-- Reads what a redirection refers to. -/
def readTarget (r : Inner) (arrow : Arrow) : Parse Target := do
  let e := match arrow with
    | .document _ => Expectation.mark
    | _ => Expectation.inside
  match ← nextToken r e with
  | .word word =>
    match arrow with
    | .file direction => return .file direction word
    | .descriptor => return duplicateOf word
    | .document stripsTabs =>
      let c ← get
      let number := c.nextDocument
      let awaited : Awaited := ⟨number, some (literalText word), stripsTabs, hasQuotation word⟩
      set { c with nextDocument := number + 1, awaited := c.awaited ++ [awaited] }
      return .document number
  | _ => unexpected

/-- Reads the redirections behind a command, `fuel` at most. -/
def readRedirections (r : Inner) (e : Expectation) (before : List Redirection) :
    Nat → Parse (List Redirection)
  | 0 => pure before.reverse
  | fuel + 1 => do
    match ← nextToken r e with
    | .redirection fd arrow =>
      let target ← readTarget r arrow
      readRedirections r .inside (.mk fd target :: before) fuel
    | t =>
      putBack t
      return before.reverse

/-! ### Commands -/

/-- Where a list of commands stands. -/
inductive Extent where
  /-- On a line of a script. -/
  | line
  /-- Inside another command that needs one. -/
  | body
  /-- Inside another command, where there may be none. -/
  | optional
  deriving DecidableEq

/-- The readers of what can stand in a command. -/
structure Parts where
  /-- The readers of what can stand in a word. -/
  inner : Inner
  /-- Reads a list of commands. -/
  commands : Extent → Parse (Option Command)
  /-- Reads a command. -/
  command : Expectation → Parse Command

/-- Reads a list of commands up to a token that must be another one. -/
def readBody (p : Parts) (wanted : Token) : Parse Command := do
  match ← p.commands .body with
  | some command => return command
  | none =>
    let _ ← nextToken p.inner .inside
    unexpectedFor wanted

/-- Reads the commands of a conditional, behind its first word, with `fuel` conditions at most. The
closing word is left. -/
def readConditional (p : Parts) : Nat → Parse Command
  | 0 => unexpected
  | fuel + 1 => do
    let test ← readBody p (.reserved .consequence)
    requireReserved p.inner .inside .consequence
    let yes ← readBody p (.reserved .conditionalEnd)
    let t ← nextToken p.inner .inside
    if t.isReserved .otherwiseIf then
      return .conditional test yes (some (← readConditional p fuel))
    if t.isReserved .otherwise then
      return .conditional test yes (some (← readBody p (.reserved .conditionalEnd)))
    putBack t
    return .conditional test yes none

/-- Reads words up to another token, `fuel` at most. -/
def readWords (p : Parts) (before : List Word) : Nat → Parse (List Word × Token)
  | 0 => pure (before.reverse, .endOfText)
  | fuel + 1 => do
    match ← nextToken p.inner .inside with
    | .word word => readWords p (word :: before) fuel
    | t => return (before.reverse, t)

/-- Reads a loop for each word, behind its first word. -/
def readForEach (p : Parts) (line : Nat) : Parse Command := do
  let name? := match ← nextToken p.inner .inside with
    | .word word => (bareText? word).filter isName
    | _ => none
  match name? with
  | none => faulty "Syntax error: Bad for loop variable"
  | some name =>
    let t ← nextToken p.inner .continuing
    let words ← if t.isReserved .membership then
        let (words, t) ← readWords p [] endless
        match t with
        | .newline | .operator .separator => pure words
        | _ => unexpected
      else
        if !t.isOperator .separator then putBack t
        pure [[.parameter [atSign] .value true]]
    requireReserved p.inner .continuing .body
    return .forEach line name words (← readBody p (.reserved .bodyEnd))

/-- The word that a token is where a pattern is wanted. -/
def patternWord : Token → Word
  | .word word => word
  | .reserved r => [.plain r.bytes]
  | _ => []

/-- Reads the patterns of a case up to the closing parenthesis, `fuel` at most. -/
def readPatterns (p : Parts) (first : Token) (before : List Word) : Nat → Parse (List Word)
  | 0 => pure before.reverse
  | fuel + 1 => do
    let patterns := patternWord first :: before
    let t ← nextToken p.inner .inside
    if t.isOperator .pipe then readPatterns p (← nextToken p.inner .inside) patterns fuel
    else if t.isOperator .closeParenthesis then return patterns.reverse
    else unexpectedFor (.operator .closeParenthesis)

/-- Reads the cases of a choice up to the closing word, `fuel` at most. -/
def readCases (p : Parts) (before : List Case) : Nat → Parse (List Case)
  | 0 => pure before.reverse
  | fuel + 1 => do
    let t ← nextToken p.inner .reserved
    if t.isReserved .choiceEnd then return before.reverse
    let first ← if t.isOperator .openParenthesis then nextToken p.inner .inside else pure t
    let patterns ← readPatterns p first [] endless
    let body ← p.commands .optional
    let cases := .mk patterns body :: before
    let t ← nextToken p.inner .reserved
    if t.isReserved .choiceEnd then return cases.reverse
    if !t.isOperator .caseEnd then unexpectedFor (.operator .caseEnd)
    readCases p cases fuel

/-- Reads a choice, behind its first word. -/
def readChoice (p : Parts) (line : Nat) : Parse Command := do
  match ← nextToken p.inner .inside with
  | .word subject =>
    requireReserved p.inner .continuing .membership
    return .choice line subject (← readCases p [] endless)
  | _ => unexpectedFor (.word [])

/-- What was read of a simple command. -/
structure Simple where
  /-- The assignments, the last one first. -/
  assignments : List Word
  /-- The words, the last one first. -/
  words : List Word
  /-- The redirections, the last one first. -/
  redirections : List Redirection

/-- Names that cannot be given to other commands. -/
def protectedNames : List String := [".", ":", "break", "continue", "eval", "exec", "exit",
  "export", "local", "readonly", "return", "set", "shift", "times", "trap", "unset"]

/-- The name of a definition. -/
def definitionName (word : Word) : Parse Bytes := do
  match bareText? word with
  | some name =>
    if isName name && !protectedNames.any (fun other => utf8 other == name) then return name
    else faulty "Syntax error: Bad function name"
  | none => faulty "Syntax error: Bad function name"

/-- Reads a simple command or a definition that begins on a line, with `fuel` tokens at most. -/
def readSimple (p : Parts) (line : Nat) (s : Simple) : Nat → Parse Command
  | 0 => unexpected
  | fuel + 1 => do
    let e := if s.words.isEmpty then Expectation.aliased else Expectation.inside
    match ← nextToken p.inner e with
    | .word word =>
      if s.words.isEmpty && isAssignment word then
        readSimple p line { s with assignments := word :: s.assignments } fuel
      else readSimple p line { s with words := word :: s.words } fuel
    | .redirection fd arrow =>
      let target ← readTarget p.inner arrow
      readSimple p line { s with redirections := .mk fd target :: s.redirections } fuel
    | t =>
      match s, t with
      | ⟨[], [word], []⟩, .operator .openParenthesis =>
        requireOperator p.inner .closeParenthesis
        let name ← definitionName word
        return .definition name (← p.command .continuing)
      | _, _ =>
        putBack t
        return .simple line s.assignments.reverse s.words.reverse s.redirections.reverse

/-- A command with the redirections behind it. -/
def withRedirections (line : Nat) (command : Command) (redirections : List Redirection) : Command :=
  match redirections, command with
  | [], command => command
  | redirections, .subshell line body _ => .subshell line body redirections
  | redirections, command => .redirected line command redirections

/-- Reads the redirections behind a command that encloses others. -/
def finishCommand (p : Parts) (line : Nat) (command : Command) : Parse Command := do
  return withRedirections line command (← readRedirections p.inner .beginning [] endless)

/-- Reads a command. -/
def readCommand (p : Parts) (e : Expectation) : Parse Command := do
  let line := (← get).line
  match ← nextToken p.inner e with
  | .reserved .conditional =>
    let command ← readConditional p endless
    requireReserved p.inner .inside .conditionalEnd
    finishCommand p line command
  | .reserved .whileLoop =>
    let test ← readBody p (.reserved .body)
    requireReserved p.inner .inside .body
    let body ← readBody p (.reserved .bodyEnd)
    requireReserved p.inner .inside .bodyEnd
    finishCommand p line (.loop false test body)
  | .reserved .untilLoop =>
    let test ← readBody p (.reserved .body)
    requireReserved p.inner .inside .body
    let body ← readBody p (.reserved .bodyEnd)
    requireReserved p.inner .inside .bodyEnd
    finishCommand p line (.loop true test body)
  | .reserved .forEach =>
    let command ← readForEach p line
    requireReserved p.inner .inside .bodyEnd
    finishCommand p line command
  | .reserved .choice => finishCommand p line (← readChoice p line)
  | .operator .openParenthesis =>
    let body ← readBody p (.operator .closeParenthesis)
    requireOperator p.inner .closeParenthesis
    finishCommand p line (.subshell line body [])
  | .reserved .groupStart =>
    let body ← readBody p (.reserved .groupEnd)
    requireReserved p.inner .inside .groupEnd
    finishCommand p line body
  | .word word =>
    putBack (.word word)
    readSimple p (← get).line ⟨[], [], []⟩ endless
  | .redirection fd arrow =>
    putBack (.redirection fd arrow)
    readSimple p (← get).line ⟨[], [], []⟩ endless
  | _ => unexpected

/-- Reads further stages of a pipeline, `fuel` at most. -/
def readStages (p : Parts) (before : List Command) : Nat → Parse (List Command)
  | 0 => pure before.reverse
  | fuel + 1 => do
    let stages := (← p.command .continuing) :: before
    let t ← nextToken p.inner .inside
    if t.isOperator .pipe then readStages p stages fuel
    else
      putBack t
      return stages.reverse

/-- Reads a pipeline. -/
def readPipeline (p : Parts) (e : Expectation) : Parse Command := do
  let t ← nextToken p.inner e
  let negated := t.isReserved .negation
  if !negated then putBack t
  let first ← p.command (if negated then .beginning else .inside)
  let t ← nextToken p.inner .inside
  let command ← if t.isOperator .pipe then
      pure (.pipeline (← readStages p [first] endless) false)
    else
      putBack t
      pure first
  return if negated then .negation command else command

/-- Reads further pipelines that are run if the ones in front succeed or fail, `fuel` at most. -/
def readAlternatives (p : Parts) (first : Command) : Nat → Parse Command
  | 0 => pure first
  | fuel + 1 => do
    let t ← nextToken p.inner .inside
    if t.isOperator .both || t.isOperator .either then
      let second ← readPipeline p .continuing
      readAlternatives p (if t.isOperator .both then .both first second else .either first second)
        fuel
    else
      putBack t
      return first

/-- A command for which nobody waits. -/
def inBackground : Command → Command
  | .pipeline stages _ => .pipeline stages true
  | .redirected line body redirections => .background line body redirections
  | command => .background 0 command []

/-- A list of commands with one more. -/
def followedBy (before : Option Command) (command : Command) : Command :=
  match before with
  | none => command
  | some first => .sequence first command

/-- Reads a list of commands, `fuel` at most. -/
def readListWithin (p : Parts) (extent : Extent) (before : Option Command) :
    Nat → Parse (Option Command)
  | 0 => pure before
  | fuel + 1 => do
    let onLine := extent = .line
    let t ← nextToken p.inner (if onLine then .beginning else .continuing)
    match t with
    | .newline =>
      readAwaited p.inner
      return before
    | .endOfText =>
      readAwaited p.inner
      putBack t
      return before
    | t =>
      putBack t
      if t.ends && !onLine && (extent = .optional || before.isSome) then return before
      let command ← readAlternatives p (← readPipeline p .inside) endless
      let t ← nextToken p.inner .inside
      let command := if t.isOperator .background then inBackground command else command
      let after := some (followedBy before command)
      match t with
      | .endOfText =>
        readAwaited p.inner
        putBack t
        return after
      | .newline =>
        putBack t
        readListWithin p extent after fuel
      | .operator .background | .operator .separator => readListWithin p extent after fuel
      | t =>
        if onLine then unexpected
        putBack t
        return after

/-! ### Scripts -/

/-- Reads what stands in a text of its own, in which every mistake is one of the text around it. -/
def withFaultsIn {α : Type} (outer : Cursor) (parse : Parse α) : Parse α := fun c =>
  match parse c with
  | .error (.fault line _ message) => .error (.fault line outer.rest.length message)
  | result => result

/-- Reads the commands in a text of their own. -/
def readText (commands : Extent → Parse (Option Command)) (text : Bytes) :
    Parse (Option Command) := do
  let outer ← get
  set { Cursor.ofText text true outer.nextDocument outer.aliases with
    documents := outer.documents, returned := outer.returned }
  let commands ← withFaultsIn outer (commands .optional)
  modify fun c => { outer with
    nextDocument := c.nextDocument, documents := c.documents, returned := none }
  return commands

/-- Reads commands up to a closing parenthesis. -/
def readSubstitution (inner : Inner) (commands : Extent → Parse (Option Command)) :
    Parse (Option Command) := do
  let awaited := (← get).awaited
  modify fun c => { c with awaited := [] }
  let body ← commands .optional
  requireOperator inner .closeParenthesis
  modify fun c => { c with awaited := awaited }
  return body

mutual

/-- Reads pieces, with a nesting of `fuel` at most. -/
def readPieces : Nat → Surrounding → Parse Word
  | 0, _ => pure []
  | fuel + 1, s => readPiecesWithin
      ⟨readPieces fuel, substitutionAt fuel, readText (readList fuel)⟩ s 0 [] endless

/-- Reads commands up to a closing parenthesis, with a nesting of `fuel` at most. -/
def substitutionAt : Nat → Parse (Option Command)
  | 0 => pure none
  | fuel + 1 => readSubstitution
      ⟨readPieces fuel, substitutionAt fuel, readText (readList fuel)⟩ (readList fuel)

/-- Reads a list of commands, with a nesting of `fuel` at most. -/
def readList : Nat → Extent → Parse (Option Command)
  | 0, _ => pure none
  | fuel + 1, extent => readListWithin
      ⟨⟨readPieces fuel, substitutionAt fuel, readText (readList fuel)⟩, readList fuel,
        commandAt fuel⟩ extent none endless

/-- Reads a command, with a nesting of `fuel` at most. -/
def commandAt : Nat → Expectation → Parse Command
  | 0, _ => unexpected
  | fuel + 1, e => readCommand
      ⟨⟨readPieces fuel, substitutionAt fuel, readText (readList fuel)⟩, readList fuel,
        commandAt fuel⟩ e

end

/-- The readers of what can stand in a piece of a word. -/
def innerReaders : Inner :=
  ⟨readPieces endless, substitutionAt endless, readText (readList endless)⟩

/-- Reads a text in which parameters and commands are replaced. -/
def readTemplate : Parse Word := readDocument innerReaders ⟨0, none, false, false⟩

/-- What was found where a line of a script begins. -/
inductive Line where
  /-- Commands, if the line has some; and whether the text ends behind them. -/
  | commands (command : Option Command) (isLast : Bool)
  /-- The end of the text. -/
  | ended

/-- Whether the text ends behind a line. -/
def Line.isLast : Line → Bool
  | .commands _ isLast => isLast
  | .ended => true

/-- Reads a line of a script. -/
def readLine : Parse Line := do
  modify fun c => { c with returned := none, aliasNext := false, awaited := [] }
  let command ← readList endless .line
  let isLast := match (← get).returned with
    | some .endOfText => true
    | _ => false
  if command.isNone && isLast then return .ended
  return .commands command isLast

end CommandShell.Machine.Script
