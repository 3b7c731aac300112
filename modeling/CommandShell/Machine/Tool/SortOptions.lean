import CommandShell.Machine.Tool.SortKey
import CommandShell.Machine.Tool.WordChoice

/-!
# The command line of sorting

What the tool that sorts lines is asked for. Keys can be given in an old form too, by the places
where they begin and end.
-/

namespace CommandShell.Machine.Tool.Sort

open Ascii

/-- How it is told that a file is not sorted. -/
inductive Checking where
  /-- The first line that is out of order is shown. -/
  | loud
  /-- Only by the code. -/
  | silent
  deriving DecidableEq

/-- The letter of a way to tell that a file is not sorted. -/
def Checking.letter : Checking → String
  | .loud => "c"
  | .silent => "C"

/-- What is wanted. -/
structure Settings where
  /-- The order of lines and of keys that ask for nothing. -/
  ordering : Ordering
  /-- The keys. -/
  keys : List Key
  /-- Whether it is only told if a file is sorted, and how. -/
  checks : Option Checking
  /-- Whether sorted files are merged. -/
  merges : Bool
  /-- The file that is written. -/
  output : Option Bytes
  /-- Whether lines with equal keys keep their order. -/
  stable : Bool
  /-- Whether only the first one of equal lines is written. -/
  unique : Bool
  /-- The byte that separates fields. -/
  tab : Option UInt8
  /-- The byte that ends a line. -/
  delimiter : UInt8
  /-- The file with the names of the files. -/
  names : Option Bytes
  /-- The files. -/
  files : List Bytes
  /-- Whether it is shown by what lines are sorted. -/
  explains : Bool
  /-- The file from which chance comes. -/
  source : Option Bytes
  /-- The program that makes files smaller. -/
  compressor : Option Bytes
  /-- Whether keys are known in their old form. -/
  traditional : Bool
  /-- How many processors are used, if that is decided. -/
  processors : Nat

/-- What is wanted without any wish. -/
def Settings.usual (traditional : Bool) : Settings where
  ordering := .plain
  keys := []
  checks := none
  merges := false
  output := none
  stable := false
  unique := false
  tab := none
  delimiter := newline
  names := none
  files := []
  explains := false
  source := none
  compressor := none
  traditional := traditional
  processors := 1

/-- The code of a failure. -/
def failure : Nat := 2

/-! ### The command line -/

/-- Refuses options that do not go together. -/
def refuseTogether {α : Type} (t : Invocation) (letters : String) : Act α :=
  t.die failure (utf8 ("options '-" ++ letters ++ "' are incompatible"))

/-- Refuses a description of a key. -/
def refuseKey {α : Type} (t : Invocation) (wording : String) (text : Bytes) : Act α :=
  t.die failure (utf8 (wording ++ ": invalid field specification ") ++ quoted text)

/-- Reads a number of fields or bytes, and what is left behind it. -/
def readCount? (text : Bytes) : Option (Nat × Bytes) :=
  let trimmed := text.dropWhile isSpace
  let signless := if trimmed.head? = some plus then trimmed.tail else trimmed
  let digits := signless.takeWhile isDigit
  if digits.isEmpty then none
  else some (min (digitsValue digits) maxQuantity, signless.drop digits.length)

/-- Reads a number of fields or bytes, which must be there. -/
def readCount (t : Invocation) (wording : String) (text : Bytes) : Act (Nat × Bytes) := do
  match readCount? text with
  | some answer => return answer
  | none => t.die failure (utf8 (wording ++ ": invalid count at start of ") ++ quoted text)

/-- A number of fields in front of something, none standing for the whole line. -/
def fieldCount (n : Nat) : Option Nat := if n = maxQuantity then none else some n

/-- Reads the place where a key begins. -/
def readStart (t : Invocation) (text : Bytes) : Act (Option Nat × Nat × Bytes) := do
  let (field, rest) ← readCount t "invalid number at field start" text
  if field = 0 then refuseKey t "field number is zero" text
  if rest.head? ≠ some point then
    return (if field = 1 then none else fieldCount (field - 1), 0, rest)
  let (byte, rest) ← readCount t "invalid number after '.'" rest.tail
  if byte = 0 then refuseKey t "character offset is zero" text
  return (if field = 1 && byte = 1 then none else fieldCount (field - 1), byte - 1, rest)

/-- Reads the place where a key ends. -/
def readEnd (t : Invocation) (whole text : Bytes) : Act (Option Nat × Nat × Bytes) := do
  let (field, rest) ← readCount t "invalid number after ','" text
  if field = 0 then refuseKey t "field number is zero" whole
  if rest.head? ≠ some point then return (fieldCount (field - 1), 0, rest)
  let (byte, rest) ← readCount t "invalid number after '.'" rest.tail
  return (fieldCount (field - 1), byte, rest)

/-- Reads a key. -/
def readKey (t : Invocation) (text : Bytes) : Act Key := do
  let (startField, startByte, rest) ← readStart t text
  let (ordering, rest) := Ordering.plain.chooseAll .ahead rest
  if rest.head? ≠ some (byteOf ',') then
    if !rest.isEmpty then refuseKey t "stray character in field spec" text
    return ⟨startField, startByte, none, 0, ordering, false⟩
  let (endField, endByte, rest) ← readEnd t text rest.tail
  let (ordering, rest) := ordering.chooseAll .behind rest
  if !rest.isEmpty then refuseKey t "stray character in field spec" text
  return ⟨startField, startByte, endField, endByte, ordering, false⟩

/-- Reads the place where a key begins in its old form, behind a plus sign. -/
def readOldStart (text : Bytes) : Option Key := do
  let (field, rest) ← readCount? text
  let (byte, rest) ← if rest.head? = some point then readCount? rest.tail else some (0, rest)
  let (ordering, rest) := Ordering.plain.chooseAll .ahead rest
  if rest.isEmpty then
    return ⟨if field = 0 && byte = 0 then none else fieldCount field, byte, none, 0, ordering, true⟩
  else none

/-- Reads the place where a key ends in its old form, behind a hyphen. -/
def readOldEnd (t : Invocation) (k : Key) (argument : Bytes) : Act Key := do
  let (field, rest) ← readCount t "invalid number after '-'" argument.tail
  let (byte, rest) ← if rest.head? = some point then
      readCount t "invalid number after '.'" rest.tail
    else pure (0, rest)
  let field := if byte = 0 && field ≠ 0 then field - 1 else field
  let (ordering, rest) := k.ordering.chooseAll .behind rest
  if !rest.isEmpty then refuseKey t "stray character in field spec" argument
  return { k with endField := fieldCount field, endByte := byte, ordering := ordering }

/-- The ways to sort with their letters. -/
def sortWords : WordChoice Char := [("general-numeric", 'g'), ("human-numeric", 'h'),
  ("month", 'M'), ("numeric", 'n'), ("random", 'R'), ("version", 'V')]

/-- The ways to tell that a file is not sorted. -/
def checkWords : WordChoice Checking :=
  [("quiet", .silent), ("silent", .silent), ("diagnose-first", .loud)]

/-- The letters that ask for an order. -/
def orderLetters : List (Char × String) := [('b', "ignore-leading-blanks"),
  ('d', "dictionary-order"), ('f', "ignore-case"), ('g', "general-numeric-sort"),
  ('i', "ignore-nonprinting"), ('M', "month-sort"), ('n', "numeric-sort"),
  ('h', "human-numeric-sort"), ('V', "version-sort"), ('R', "random-sort"), ('r', "reverse")]

/-- An option that is only known by a name and has a value. -/
def valuedName (name : String) : OptionRule := ⟨name, none, some name, .required⟩

/-- The options. -/
def rules : List OptionRule := [.plain 'b' "ignore-leading-blanks",
  ⟨"check", none, some "check", .optional⟩, valuedName "compress-program", .nameOnly "debug",
  .plain 'd' "dictionary-order", .plain 'f' "ignore-case", valuedName "files0-from",
  .plain 'g' "general-numeric-sort", .plain 'i' "ignore-nonprinting", .valued 'k' "key",
  .plain 'm' "merge", .plain 'M' "month-sort", .plain 'n' "numeric-sort",
  .plain 'h' "human-numeric-sort", .plain 'V' "version-sort", .plain 'R' "random-sort",
  valuedName "random-source", valuedName "sort", .valued 'o' "output", .plain 'r' "reverse",
  .plain 's' "stable", valuedName "batch-size", valuedName "buffer-size",
  .valued 't' "field-separator", .valued 'T' "temporary-directory", .plain 'u' "unique",
  .plain 'z' "zero-terminated", valuedName "parallel", .letterOnly 'c', .letterOnly 'C',
  ⟨"S", some 'S', none, .required⟩, ⟨"y", some 'y', none, .required⟩]

/-- Takes over a letter that asks for an order. -/
def chooseOrder (s : Settings) (letter : Char) : Settings :=
  { s with ordering := (s.ordering.choose? .both (byteOf letter)).getD s.ordering }

/-- Takes over a way to tell that a file is not sorted. -/
def chooseCheck (t : Invocation) (s : Settings) (checking : Checking) : Act Settings :=
  match s.checks with
  | some other =>
    if other ≠ checking then refuseTogether t "cC" else pure s
  | none => pure { s with checks := some checking }

/-- Takes over a byte that separates fields. -/
def chooseTab (t : Invocation) (s : Settings) (text : Bytes) : Act Settings := do
  let tab ← match text with
    | [] => t.die failure (utf8 "empty tab")
    | [b] => pure b
    | _ =>
      if text = utf8 "\\0" then pure 0
      else t.die failure (utf8 "multi-character tab " ++ quoted text)
  if s.tab.any (· ≠ tab) then t.die failure (utf8 "incompatible tabs")
  return { s with tab := some tab }

/-- Refuses the value of an option that is no quantity. -/
def refuseQuantity {α : Type} (t : Invocation) (option : String) (text : Bytes) :
    QuantityFault → Act α
  | .invalid =>
    t.die failure (utf8 ("invalid " ++ option ++ " argument '") ++ text ++ [apostrophe])
  | .suffix =>
    t.die failure (utf8 ("invalid suffix in " ++ option ++ " argument '") ++ text ++ [apostrophe])
  | .excessive => t.die failure (utf8 (option ++ " argument '") ++ text ++ utf8 "' too large")

/-- The number of bytes of memory. -/
def memorySize : Nat := 1 <<< 36

/-- The size that a text stands for, in bytes: a number of kilobytes, or one with a unit, which may
also be a byte or a part of the memory. -/
def readSize (text : Bytes) : Except QuantityFault Nat :=
  match splitNumber text with
  | some (n, []) => bounded (n * 1024)
  | some (n, [b]) =>
    if b = byteOf 'b' || b = percent then
      match bounded n with
      | .error _ => .error .suffix
      | .ok n => if b = percent then bounded (memorySize * n / 100) else .ok n
    else readQuantity (utf8 "EgGkKmMPtTYZ") text
  | _ => readQuantity (utf8 "EgGkKmMPtTYZ") text

/-- Checks a size, which makes no difference otherwise. -/
def checkSize (t : Invocation) (option : String) (text : Bytes) : Act Unit := do
  if let .error fault := readSize text then refuseQuantity t option text fault

/-- Reads a number of processors. -/
def readProcessors (t : Invocation) (text : Bytes) : Act Nat := do
  match readQuantity [] text with
  | .ok n =>
    if n = 0 then t.die failure (utf8 "number in parallel must be nonzero")
    return n
  | .error .excessive => return maxQuantity
  | .error fault => refuseQuantity t "--parallel" text fault

/-- How many descriptors the tool has apart from those of the files that it merges. -/
def ownDescriptors : Nat := 3

/-- The greatest number of files that can be merged at a time. -/
def maxBatch : Act Nat := do
  let bound : Bound ← ask (.boundOf .descriptors)
  match bound.soft with
  | none => return 4294967295 - ownDescriptors
  | some n => return n - ownDescriptors

/-- Checks a number of files that are merged at a time, which makes no difference otherwise. -/
def checkBatch (t : Invocation) (text : Bytes) : Act Unit := do
  let most ← maxBatch
  let tooLarge : Act Unit := do
    t.complain (utf8 "--batch-size argument " ++ quoted text ++ utf8 " too large")
    t.die failure (utf8 "maximum --batch-size argument with current rlimit is " ++ decimal most)
  match readQuantity [] text with
  | .ok n =>
    if n < 2 then
      t.complain (utf8 "invalid --batch-size argument " ++ quoted text)
      t.die failure (utf8 "minimum --batch-size argument is '2'")
    if most < n then tooLarge
  | .error .excessive => tooLarge
  | .error fault => refuseQuantity t "--batch-size" text fault

/-- Takes over a value that may be given several times if it is always the same. -/
def chooseOnce (t : Invocation) (wording : String) (before : Option Bytes) (text : Bytes) :
    Act (Option Bytes) := do
  if before.any (· ≠ text) then t.die failure (utf8 ("multiple " ++ wording ++ " specified"))
  return some text

/-- What an option asks for. -/
def choose (t : Invocation) (s : Settings) (key : String) (value : Option Bytes) :
    Act Settings := do
  let text := value.getD []
  match orderLetters.find? fun (_, name) => name == key with
  | some (letter, _) => return chooseOrder s letter
  | none =>
    match key with
    | "check" =>
      match value with
      | none => chooseCheck t s .loud
      | some word => chooseCheck t s (← checkWords.require t 1 "--check" word)
    | "c" => chooseCheck t s .loud
    | "C" => chooseCheck t s .silent
    | "files0-from" => return { s with names := some text }
    | "key" => return { s with keys := s.keys ++ [← readKey t text] }
    | "merge" => return { s with merges := true }
    | "sort" => return chooseOrder s (← sortWords.require t 1 "--sort" text)
    | "output" => return { s with output := ← chooseOnce t "output files" s.output text }
    | "random-source" =>
      return { s with source := ← chooseOnce t "random sources" s.source text }
    | "compress-program" =>
      return { s with compressor := ← chooseOnce t "compress programs" s.compressor text }
    | "debug" => return { s with explains := true }
    | "stable" => return { s with stable := true }
    | "S" =>
      checkSize t "-S" text
      return s
    | "buffer-size" =>
      checkSize t "--buffer-size" text
      return s
    | "parallel" => return { s with processors := ← readProcessors t text }
    | "batch-size" =>
      checkBatch t text
      return s
    | "field-separator" => chooseTab t s text
    | "unique" => return { s with unique := true }
    | "zero-terminated" => return { s with delimiter := 0 }
    | _ => return s

/-- Takes over the parts of a command line, one after the other. -/
def chooseItems (t : Invocation) (s : Settings) : List Item → Act Settings
  | [] => pure s
  | .operand text :: rest => chooseItems t { s with files := s.files ++ [text] } rest
  | .given key value :: rest => do
    if key = "help" || key = "version" then t.finish 0 failure
    chooseItems t (← choose t s key value) rest

/-- Whether an argument is a hyphen with a digit behind it. -/
def isOldEnd : Bytes → Bool
  | minus :: b :: _ => isDigit b
  | _ => false

/-- Whether an argument names the output and its name is there. -/
def isOutput (rest : List Bytes) : Bytes → Bool
  | minus :: letter :: name => letter = byteOf 'o' && !(name.isEmpty && rest.isEmpty)
  | _ => false

/-- Whether an argument is a file for a strict tool: it stands behind one, and it does not name the
output. -/
def Settings.endsOptions (s : Settings) (first : Bytes) (rest : List Bytes) : Bool :=
  !s.files.isEmpty && !(s.traditional && s.checks.isNone && isOutput rest first)

/-- The arguments that are left behind an option and its value. A value that was not meant for the
option is one of them. -/
def behindOption (items : List Item) (front behind : List Bytes) : List Bytes :=
  match items.getLast?, front with
  | some (.given "y" _), [_, value] => if value.all isDigit then behind else value :: behind
  | _, _ => behind

/-- Reads the arguments. A key in its old form may consist of two of them. -/
def readArguments (t : Invocation) (s : Settings) : Nat → List Bytes → Act Settings
  | 0, _ | _, [] => pure s
  | fuel + 1, first :: rest => do
    if t.isStrict && s.endsOptions first rest then
      readArguments t { s with files := s.files ++ [first] } fuel rest
    else if first = [minus, minus] then return { s with files := s.files ++ rest }
    else
      let hasEnd := isOldEnd (rest.headD [])
      let isStart := first.head? = some plus
      let s := { s with traditional := s.traditional || (isStart && hasEnd && !t.isStrict) }
      match if isStart && s.traditional then readOldStart first.tail else none with
      | some k =>
        let k ← if hasEnd then readOldEnd t k (rest.headD []) else pure k
        readArguments t { s with keys := s.keys ++ [k] } fuel (if hasEnd then rest.tail else rest)
      | none =>
        let (front, behind) := splitFirst rules (first :: rest)
        let scanned := scan (rules ++ OptionRule.common) true front
        let s ← chooseItems t s scanned.items
        match scanned.fault with
        | some fault => t.refuseFault failure fault
        | none => readArguments t s fuel (behindOption scanned.items front behind)

/-- What the command line asks for. -/
def readSettings (t : Invocation) : Act Settings :=
  readArguments t (.usual t.edition.isTraditional) (t.arguments.length + 1) t.arguments

end CommandShell.Machine.Tool.Sort
