import CommandShell.Machine.Tool.Lines
import CommandShell.Machine.Tool.SortNotes
import CommandShell.Machine.Tool.Wc

/-!
# Sorting

The tool that writes the lines of files in order, merges files that are sorted, or tells whether a
file is. Everything is read before anything is written, so that a file can be replaced by its own
sorted lines.
-/

namespace CommandShell.Machine.Tool.Sort

open Ascii

/-! ### Reading and writing -/

/-- Ends the tool because of a file. -/
def dieFor {α : Type} (t : Invocation) (wording : String) (file : Bytes) (errno : Errno) : Act α :=
  t.dieOf failure (utf8 (wording ++ ": ") ++ shown file) errno

/-- Checks that the standard input is open if it comes first. -/
def checkFirst (t : Invocation) (files : List Bytes) : Act Unit := do
  if files.head? = some hyphen then
    match (← ask (.describe 0) : Except Errno FileFacts) with
    | .ok _ => pure ()
    | .error errno => dieFor t "stat failed" hyphen errno

/-- Reads the lines of a file. A file that takes the place of a standard stream stays there. -/
def readLines (t : Invocation) (s : Settings) (file : Bytes) : Act (List ByteArray) := do
  match ← openOperand file with
  | .error errno => dieFor t "open failed" file errno
  | .ok fd =>
    match ← StateT.lift (readAll fd) with
    | .error errno => dieFor t "read failed" file errno
    | .ok bytes =>
      if 1 < fd then ask (.close fd)
      return allLines s.delimiter bytes

/-- Reads the lines of all files. -/
def readFiles (t : Invocation) (s : Settings) : List Bytes → Act (List (List ByteArray))
  | [] => pure []
  | file :: rest => do
    let lines ← readLines t s file
    return lines :: (← readFiles t s rest)

/-- Checks that all files can be read. -/
def checkInputs (t : Invocation) : List Bytes → Act Unit
  | [] => pure ()
  | file :: rest => do
    if file ≠ hyphen then
      match (← ask (.inspect file true) : Except Errno FileFacts) with
      | .ok _ => pure ()
      | .error errno => dieFor t "cannot read" file errno
    checkInputs t rest

/-- Opens the output in the stead of the standard output. -/
def openOutput (t : Invocation) (path : Bytes) (mode : OpenMode) : Act Unit := do
  match (← ask (.openFile path mode) : Except Errno Fd) with
  | .error errno => dieFor t "open failed" path errno
  | .ok fd =>
    if fd ≠ 1 then
      let _ : Except Errno Unit ← ask (.duplicate fd 1)
      ask (.close fd)

/-- A line as it is written. -/
def written (s : Settings) (r : Rule) (line : ByteArray) : ByteArray :=
  if s.explains then pack (explained r line) else line.push s.delimiter

/-- Writes lines. -/
def writeLines (t : Invocation) (s : Settings) (r : Rule) (title : Bytes) :
    List ByteArray → Act Unit
  | [] => do
    match ← flush with
    | .ok () => pure ()
    | .error errno => dieFor t "fflush failed" title errno
  | line :: rest => do
    match ← put (written s r line) with
    | .ok () => writeLines t s r title rest
    | .error errno => dieFor t "write failed" title errno

/-! ### Order -/

/-- A line and those behind it without those that are equal to the one in front of them. -/
def distinctFrom (r : Rule) (a : Entry) : List Entry → List Entry
  | [] => [a]
  | b :: rest =>
    if r.compare a b = 0 then distinctFrom r a rest else a :: distinctFrom r b rest

/-- The lines without those that are equal to the one in front of them. -/
def distinct (r : Rule) : List Entry → List Entry
  | [] => []
  | a :: rest => distinctFrom r a rest

/-- Which one of two lines comes first in an order. -/
def Rule.before (r : Rule) (a b : Entry) : Bool := r.compare a b ≤ 0

/-- Merges two sequences of lines. The first one comes first if lines are equal. -/
def mergeTwo (r : Rule) (first second : List Entry) : List Entry :=
  List.merge first second r.before

/-- The keys by which lines are sorted. A key that asks for nothing takes over what is asked for
all lines. -/
def keysOf (s : Settings) : List Key :=
  let keys := s.keys.map fun k =>
    if k.ordering.isPlain && !k.ordering.reverse then { k with ordering := s.ordering } else k
  if keys.isEmpty && !s.ordering.isPlain then [.whole s.ordering] else keys

/-- The number of bytes of chance. -/
def saltSize : Nat := 16

/-- Reads the bytes of chance from a descriptor. -/
def readSalt (t : Invocation) (source : Bytes) (fd : Fd) (before : ByteArray) : Nat → Act ByteArray
  | 0 => pure before
  | fuel + 1 => do
    if saltSize ≤ before.size then return before
    match (← ask (.read fd (saltSize - before.size)) : Except Errno ByteArray) with
    | .error errno => t.dieOf failure (quoted source ++ utf8 ": read error") errno
    | .ok piece =>
      if piece.isEmpty then t.die failure (quoted source ++ utf8 ": end of file")
      readSalt t source fd (before ++ piece) fuel

/-- The bytes of chance, if some key needs them. -/
def saltOf (t : Invocation) (s : Settings) (keys : List Key) : Act ByteArray := do
  if !keys.any (·.ordering.random) then return .empty
  match s.source with
  | none => return pack (List.replicate saltSize 0)
  | some source =>
    match (← ask (.openFile source .input) : Except Errno Fd) with
    | .error errno => dieFor t "open failed" source errno
    | .ok fd =>
      let salt ← readSalt t source fd .empty (saltSize + 1)
      ask (.close fd)
      return salt

/-- The rule by which lines are sorted. -/
def ruleOf (s : Settings) (keys : List Key) (salt : ByteArray) : Rule :=
  ⟨keys, s.tab, s.ordering.reverse, s.unique || s.stable, salt⟩

/-- The place and the line of the first line that does not come behind the one in front of it. -/
def firstDisorder (r : Rule) (unique : Bool) (number : Nat) : List Entry → Option (Nat × Entry)
  | a :: b :: rest =>
    let d := r.compare a b
    if 0 < d || (unique && d = 0) then some (number + 1, b)
    else firstDisorder r unique (number + 1) (b :: rest)
  | _ => none

/-- Tells whether a file is sorted. -/
def check (t : Invocation) (s : Settings) (r : Rule) (checking : Checking) (file : Bytes) :
    Act Nat := do
  let lines ← readLines t s file
  match firstDisorder r s.unique 1 (lines.map r.entry) with
  | none => return 0
  | some (number, entry) =>
    if checking = .loud then
      say (t.name ++ utf8 ": " ++ file ++ utf8 ":" ++ decimal number ++
        utf8 ": disorder: " ++ entry.line.toList ++ [s.delimiter])
    return 1

/-- The lines of files in order. -/
def arrange (s : Settings) (r : Rule) (files : List (List ByteArray)) : List ByteArray :=
  let files := files.map fun lines => lines.map r.entry
  let sorted := if s.merges then files.foldl (mergeTwo r) []
    else files.flatten.mergeSort r.before
  (if s.unique then distinct r sorted else sorted).map (·.line)

/-- Reads the names of the files that are sorted. -/
def readNames (t : Invocation) (s : Settings) (list : Bytes) : Act (List Bytes) := do
  match s.files with
  | operand :: _ =>
    t.complain (utf8 "extra operand " ++ shellQuoted operand)
    say (utf8 "file operands cannot be combined with --files0-from\n")
    t.pointToHelp failure
  | [] =>
    match ← openOperand list with
    | .error errno => dieFor t "open failed" list errno
    | .ok fd =>
      match ← StateT.lift (readAll fd) with
      | .error _ => t.die failure (utf8 "cannot read file names from " ++ shellQuoted list)
      | .ok bytes =>
        let names := Wc.namesIn bytes
        if names.isEmpty then t.die failure (utf8 "no input from " ++ shellQuoted list)
        match names.findIdx? fun name => name.isEmpty || name = hyphen with
        | none => return names
        | some n =>
          if names[n]? = some hyphen then
            t.die failure (utf8 "when reading file names from stdin, no file name of " ++
              shellQuoted hyphen ++ utf8 " allowed")
          else t.die failure (shown list ++ utf8 ":" ++ decimal (n + 1) ++
              utf8 ": invalid zero-length file name")

/-- Checks that no key asks for things that do not go together. -/
def checkKeys (t : Invocation) : List Key → Act Unit
  | [] => pure ()
  | k :: rest => do
    if k.ordering.isContradictory then
      refuseTogether t { k.ordering with
        skipsAhead := false, skipsBehind := false, reverse := false }.letters
    checkKeys t rest

/-- Explains by what lines are sorted, if that is wanted. -/
def explain (t : Invocation) (s : Settings) (keys : List Key) : Act Unit := do
  if s.explains then
    match s.checks, s.output with
    | some checking, _ => refuseTogether t (checking.letter ++ " --debug")
    | none, some _ => refuseTogether t "o --debug"
    | none, none => (notes s keys).forM t.complain

/-- How many bytes of memory the work of a processor takes. -/
def workSize : Nat := 256

/-- Whether the memory is too small for the work of all processors. -/
def isExhausting (s : Settings) (lines : List ByteArray) : Bool :=
  !s.merges && 1 < lines.length && memorySize < workSize * s.processors

/-- Sorts lines. -/
def tool (t : Invocation) : Task := t.run failure do
  let s ← readSettings t
  let files ← match s.names with
    | none => pure s.files
    | some list => readNames t s list
  let keys := keysOf s
  checkKeys t keys
  explain t s keys
  let r := ruleOf s keys (← saltOf t s keys)
  let files := operandsOr files
  match s.checks with
  | some checking =>
    match files with
    | _ :: second :: _ =>
      t.die failure (utf8 "extra operand " ++ shellQuoted second ++
        utf8 (" not allowed with -" ++ checking.letter))
    | _ =>
      if s.output.isSome then refuseTogether t (checking.letter ++ "o")
      check t s r checking (files.headD hyphen)
  | none =>
    checkInputs t files
    match s.output with
    | none => pure ()
    | some path => openOutput t path .keep
    if !s.merges then checkFirst t files
    let lines := arrange s r (← readFiles t s files)
    match s.output with
    | none => pure ()
    | some path => openOutput t path .output
    if isExhausting s lines then t.die failure (utf8 "memory exhausted")
    writeLines t s r (s.output.getD (utf8 "standard output")) lines
    return 0

end CommandShell.Machine.Tool.Sort
