import CommandShell.Machine.Tool.Options
import CommandShell.Machine.Tool.Quoting

/-!
# Counting

The tool that counts the lines, words and bytes of files and measures their longest line. A word is
a row of bytes other than blanks of which at least one is printable. Main statement: what is counted
in two pieces of a file is what is counted in the whole (`count_append`).
-/

namespace CommandShell.Machine.Tool.Wc

open Ascii

/-- Which counts are wanted. -/
structure Settings where
  /-- The number of lines. -/
  lines : Bool
  /-- The number of words. -/
  words : Bool
  /-- The number of characters. -/
  chars : Bool
  /-- The number of bytes. -/
  bytes : Bool
  /-- The length of the longest line. -/
  width : Bool
  /-- A file with the names of the files. -/
  names : Option Bytes

/-- What was counted. -/
structure Counts where
  /-- The number of lines. -/
  lines : Nat
  /-- The number of words. -/
  words : Nat
  /-- The number of bytes. -/
  bytes : Nat
  /-- The length of the longest line. -/
  width : Nat

/-- Nothing at all. -/
def Counts.none : Counts := ⟨0, 0, 0, 0⟩

/-- What was counted in two files. -/
def Counts.add (a b : Counts) : Counts :=
  ⟨a.lines + b.lines, a.words + b.words, a.bytes + b.bytes, max a.width b.width⟩

/-! ### Counting -/

/-- What was counted in the bytes so far. -/
structure Progress where
  /-- The number of lines that were ended. -/
  lines : Nat
  /-- The number of words that were ended. -/
  words : Nat
  /-- The length of the longest line that was ended. -/
  width : Nat
  /-- The column of the next byte. -/
  column : Nat
  /-- Whether a word has begun. -/
  inWord : Bool

/-- The end of a word, if one has begun. -/
def Progress.endWord (p : Progress) : Progress :=
  { p with words := if p.inWord then p.words + 1 else p.words, inWord := false }

/-- The end of a line, as far as its length goes. -/
def Progress.endLine (p : Progress) : Progress :=
  { p with width := max p.width p.column, column := 0 }

/-- One byte more. -/
def Progress.step (p : Progress) (b : UInt8) : Progress :=
  if b = newline then { p.endLine.endWord with lines := p.lines + 1 }
  else if b = carriageReturn || b = 12 then p.endLine.endWord
  else if b = tab then { p.endWord with column := p.column + (8 - p.column % 8) }
  else if b = space then { p.endWord with column := p.column + 1 }
  else if b = 11 then p.endWord
  else if isPrintable b then { p with column := p.column + 1, inWord := true }
  else p

/-- What was counted when the bytes of a piece are behind the others. -/
def count (p : Progress) (bytes : ByteArray) : Progress := bytes.foldl Progress.step p

/-- What was counted in bytes that are given one after the other. -/
def countList (p : Progress) (bytes : Bytes) : Progress := bytes.foldl Progress.step p

theorem count_append (p : Progress) (first second : Bytes) :
    countList p (first ++ second) = countList (countList p first) second :=
  List.foldl_append

/-- Nothing was counted yet. -/
def Progress.start : Progress := ⟨0, 0, 0, 0, false⟩

/-- What was counted in some number of bytes. -/
def Progress.counts (p : Progress) (bytes : Nat) : Counts :=
  ⟨p.lines, p.endWord.words, bytes, p.endLine.width⟩

/-- The number of bytes that are read at a time. -/
def readSize : Nat := 16384

/-- Counts everything that is read. The answer tells what was counted before the reading failed, if
it did. -/
def countAll (t : Invocation) (title : Bytes) (fd : Fd) (p : Progress) (bytes : Nat) :
    Nat → Act (Progress × Nat × Bool)
  | 0 => pure (p, bytes, true)
  | fuel + 1 => do
    match (← ask (.read fd readSize) : Except Errno ByteArray) with
    | .error errno =>
      t.complainOf (shown title) errno
      return (p, bytes, false)
    | .ok piece =>
      if piece.isEmpty then return (p, bytes, true)
      countAll t title fd (count p piece) (bytes + piece.size) fuel

/-- Counts only the bytes that are read. -/
def countBytes (t : Invocation) (title : Bytes) (fd : Fd) (bytes : Nat) : Nat → Act (Nat × Bool)
  | 0 => pure (bytes, true)
  | fuel + 1 => do
    match (← ask (.read fd readSize) : Except Errno ByteArray) with
    | .error errno =>
      t.complainOf (shown title) errno
      return (bytes, false)
    | .ok piece =>
      if piece.isEmpty then return (bytes, true)
      countBytes t title fd (bytes + piece.size) fuel

/-- The size of a page of memory, and of a block of a file. -/
def pageSize : Nat := 4096

/-- Finds the number of bytes behind the position of a file, from its size if that can be trusted: a
size of whole pages may be a stand-in for one that is not known. -/
def measure (t : Invocation) (title : Bytes) (fd : Fd) (facts : Option FileFacts) :
    Act (Nat × Bool) := do
  match facts with
  | some ⟨.regular, _, size, _, _⟩ =>
    match (← ask (.seek fd .position 0) : Except Errno Nat) with
    | .error _ => countBytes t title fd 0 endless
    | .ok position =>
      if size % pageSize ≠ 0 then return (size - position, true)
      let sure := size - size % (pageSize + 1)
      if position < sure then
        let _ : Except Errno Nat ← ask (.seek fd .position sure)
        countBytes t title fd (sure - position) endless
      else countBytes t title fd 0 endless
  | _ => countBytes t title fd 0 endless

/-- Counts in the file that is open at a descriptor. -/
def countFile (t : Invocation) (s : Settings) (title : Bytes) (fd : Fd)
    (facts : Option FileFacts) : Act (Counts × Bool) := do
  if !(s.lines || s.words || s.width) then
    let (bytes, complete) ← measure t title fd facts
    return ({ Counts.none with bytes := bytes }, complete)
  let (p, bytes, complete) ← countAll t title fd .start 0 endless
  if !complete && !s.words && !s.width then return (.none, false)
  return (p.counts bytes, complete)

/-! ### Results -/

/-- How many columns are wanted. -/
def Settings.columns (s : Settings) : Nat :=
  [s.lines, s.words, s.chars, s.bytes, s.width].countP id

/-- A line with counts. -/
def line (s : Settings) (width : Nat) (counts : Counts) (name : Option Bytes) : Bytes :=
  let cell := fun (n : Nat) =>
    let digits := decimal n
    List.replicate (width - digits.length) space ++ digits
  let cells := (if s.lines then [cell counts.lines] else []) ++
    (if s.words then [cell counts.words] else []) ++
    (if s.chars then [cell counts.bytes] else []) ++
    (if s.bytes then [cell counts.bytes] else []) ++
    (if s.width then [cell counts.width] else [])
  let name := name.map fun name => if name.contains newline then shown name else name
  List.intercalate [space] (cells ++ name.toList) ++ [newline]

/-- Writes a line with counts at once. -/
def writeLine (s : Settings) (width : Nat) (counts : Counts) (name : Option Bytes) :
    Act Unit := do
  putText (line s width counts name)
  let _ ← flush

/-- The width of the columns for files of which some facts are known. -/
def columnWidth (facts : List (Option FileFacts)) : Nat :=
  let total := facts.foldl (fun total known => match known with
    | some ⟨.regular, _, size, _, _⟩ => total + size
    | _ => total) 0
  let least := if facts.any fun known => known.any fun f => f.kind != .regular then 7 else 1
  max least (decimal total).length

/-- What is known about the file of an operand. -/
def factsOf (operand : Bytes) : Act (Option FileFacts) := do
  if operand = hyphen then return (← ask (.describe 0) : Except Errno FileFacts).toOption
  return (← ask (.inspect operand true) : Except Errno FileFacts).toOption

/-- What the tool works on: the operands with what was known about them at the start, unless that
was not looked at. -/
abbrev Work := List (Bytes × Option (Option FileFacts))

/-- Counts in the file of an operand and writes the result. -/
def countOperand (t : Invocation) (s : Settings) (width : Nat) (operand : Bytes)
    (known : Option (Option FileFacts)) (name : Option Bytes) : Act (Counts × Bool) := do
  match ← openOperand operand with
  | .error errno =>
    t.complainOf (shown operand) errno
    return (.none, false)
  | .ok fd =>
    let facts : Except Errno FileFacts ← ask (.describe fd)
    let title := if name.isNone then utf8 "standard input" else operand
    let (counts, complete) ← countFile t s title fd (known.getD facts.toOption)
    writeLine s width counts name
    closeOperand operand fd
    return (counts, complete)

/-- The complaint about a name that is empty, the number of which among others is given if they were
read from a file. -/
def emptyName (s : Settings) (number : Nat) : Bytes :=
  match s.names with
  | none => utf8 "invalid zero-length file name"
  | some list => shown list ++ utf8 ":" ++ decimal number ++ utf8 ": invalid zero-length file name"

/-- Counts in all files, one after the other. -/
def countOperands (t : Invocation) (s : Settings) (width number : Nat) (total : Counts)
    (code : Nat) : Work → Act (Counts × Nat)
  | [] => pure (total, code)
  | (operand, known) :: rest => do
    if s.names = some hyphen && operand = hyphen then
      t.complain (utf8 "when reading file names from stdin, no file name of " ++
        shellQuoted operand ++ utf8 " allowed")
      countOperands t s width (number + 1) total 1 rest
    else if operand.isEmpty then
      t.complain (emptyName s number)
      countOperands t s width (number + 1) total 1 rest
    else
      let (counts, complete) ← countOperand t s width operand known (some operand)
      countOperands t s width (number + 1) (total.add counts) (if complete then code else 1) rest

/-- The names in a file, each of which is ended by a zero byte. -/
def namesIn (bytes : ByteArray) : List Bytes :=
  let names := splitAt 0 bytes.toList
  if names.getLast? = some [] then names.dropLast else names

/-- Reads the names of the files, and tells whether all of them were known from the start. -/
def readNames (t : Invocation) (list : Bytes) : Act (List Bytes × Bool × Bool) := do
  match ← openOperand list with
  | .error errno =>
    t.dieOf 1 (utf8 "cannot open " ++ shellQuoted list ++ utf8 " for reading") errno
  | .ok fd =>
    let facts : Except Errno FileFacts ← ask (.describe fd)
    let regular := match facts with
      | .ok ⟨.regular, _, _, _, _⟩ => true
      | _ => false
    match ← StateT.lift (readAll fd) with
    | .ok bytes => return (namesIn bytes, regular, true)
    | .error errno =>
      if regular then t.die 1 (utf8 "cannot read file names from " ++ shellQuoted list)
      t.complainOf (shown list ++ utf8 ": read error") errno
      return ([], false, false)

/-- Looks at the files before counting starts, unless there is a single number to be written. -/
def survey (s : Settings) (operands : List Bytes) (listed : Bool) : Act (Work × Nat) := do
  if !listed || (operands.length = 1 && s.columns = 1) then
    return (operands.map fun operand => (operand, none), 1)
  let facts ← operands.mapM factsOf
  return (operands.zip (facts.map some), columnWidth facts)

/-- The options. -/
def rules : List OptionRule := [.plain 'c' "bytes", .plain 'm' "chars", .plain 'l' "lines",
  .plain 'w' "words", .nameOnly "debug", ⟨"files0-from", none, some "files0-from", .required⟩,
  .plain 'L' "max-line-length"]

/-- What an option asks for. -/
def choose (s : Settings) (key : String) (value : Bytes) : Settings :=
  match key with
  | "bytes" => { s with bytes := true }
  | "chars" => { s with chars := true }
  | "lines" => { s with lines := true }
  | "words" => { s with words := true }
  | "max-line-length" => { s with width := true }
  | "files0-from" => { s with names := some value }
  | _ => s

/-- The settings with the columns that are written if none was asked for. -/
def Settings.orUsual (s : Settings) : Settings :=
  if s.columns = 0 then { s with lines := true, words := true, bytes := true } else s

/-- Counts in the standard input, which is not named then. -/
def countInput (t : Invocation) (s : Settings) : Act Nat := do
  let (work, width) ← survey s [hyphen] true
  let known := (work.head?.map (·.2)).getD none
  let (_, complete) ← countOperand t s width hyphen known none
  t.closeInput hyphen [hyphen]
  return if complete then 0 else 1

/-- Counts in files that are named. -/
def countNamed (t : Invocation) (s : Settings) (operands : List Bytes) (listed : Bool)
    (code : Nat) : Act Nat := do
  let (work, width) ← survey s operands listed
  let (total, code) ← countOperands t s width 1 .none code work
  if 1 < operands.length then writeLine s width total (some (utf8 "total"))
  t.closeInput hyphen operands
  return code

/-- Counts lines, words and bytes. -/
def tool (t : Invocation) : Task :=
  t.run 1 (withOptions t rules true 1 ⟨false, false, false, false, false, none⟩
    (fun s key value => pure (choose s key value)) fun s operands => do
      let s := s.orUsual
      match s.names, operands with
      | none, [] => countInput t s
      | none, operands => countNamed t s operands true 0
      | some _, operand :: _ =>
        t.complain (utf8 "extra operand " ++ shellQuoted operand)
        say (utf8 "file operands cannot be combined with --files0-from\n")
        t.pointToHelp 1
      | some list, [] => do
        let (names, listed, complete) ← readNames t list
        countNamed t s names listed (if complete then 0 else 1))

end CommandShell.Machine.Tool.Wc
