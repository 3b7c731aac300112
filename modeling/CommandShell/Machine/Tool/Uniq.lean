import CommandShell.Machine.Tool.ByteClass
import CommandShell.Machine.Tool.Lines
import CommandShell.Machine.Tool.Quantity
import CommandShell.Machine.Tool.WordChoice

/-!
# Repeated lines

The tool that writes one line for each group of equal lines that follow each other, or only groups
of one line, or only larger ones, or all lines with the groups set apart. What lines are compared by
can leave out fields and bytes.
-/

namespace CommandShell.Machine.Tool.Uniq

open Ascii

/-- Where groups are set apart. -/
inductive Spacing where
  | nowhere
  /-- In front of each group. -/
  | before
  /-- Behind each group. -/
  | behind
  /-- Between groups. -/
  | between
  /-- In front of the first group and behind each one. -/
  | around
  deriving DecidableEq

/-- What is wanted. -/
structure Settings where
  /-- How many fields are left out. -/
  skipFields : Nat
  /-- Whether that number was given as digits behind a hyphen. -/
  shorthand : Bool
  /-- How many bytes are left out behind the fields. -/
  skipBytes : Nat
  /-- How many bytes are compared at most. -/
  compared : Option Nat
  /-- Whether the case of letters makes no difference. -/
  ignoreCase : Bool
  /-- Whether lines are counted. -/
  counts : Bool
  /-- Whether groups of one line are written. -/
  single : Bool
  /-- Whether the first line of other groups is written. -/
  firstOfMany : Bool
  /-- Whether the other lines are written. -/
  laterOnes : Bool
  /-- How groups of more than one line are set apart. -/
  spacing : Spacing
  /-- How all groups are set apart. -/
  grouping : Spacing
  /-- The byte that ends a line. -/
  delimiter : UInt8
  /-- Whether it was said which lines are written. -/
  selects : Bool
  /-- The operands. -/
  files : List Bytes

/-- What is wanted without any wish. -/
def Settings.usual : Settings where
  skipFields := 0
  shorthand := false
  skipBytes := 0
  compared := none
  ignoreCase := false
  counts := false
  single := true
  firstOfMany := true
  laterOnes := false
  spacing := .nowhere
  grouping := .nowhere
  delimiter := newline
  selects := false
  files := []

/-! ### Comparison -/

/-- The offset behind a number of fields. -/
def behindFields (line : ByteArray) (offset : Nat) : Nat → Nat
  | 0 => offset
  | fields + 1 =>
    let separates := fun b => isBlank b || b = newline
    let rest := (line.extract offset line.size).toList
    let blanks := rest.takeWhile separates
    let word := (rest.drop blanks.length).takeWhile (!separates ·)
    behindFields line (offset + blanks.length + word.length) fields

/-- What a line is compared by. -/
def keyOf (s : Settings) (line : ByteArray) : ByteArray :=
  let offset := behindFields line 0 (min s.skipFields line.size) + s.skipBytes
  let ending := match s.compared with
    | none => line.size
    | some n => offset + n
  let key := line.extract offset ending
  if s.ignoreCase then ⟨key.data.map ByteClass.toUpper⟩ else key

/-! ### Groups as they come -/

/-- A line with its end. -/
def ended (s : Settings) (line : ByteArray) : ByteArray := line.push s.delimiter

/-- An end of a line alone. -/
def gap (s : Settings) : ByteArray := ByteArray.empty.push s.delimiter

/-- What is written for a line if groups are written as they come. The key of the line in front is
given. -/
def stepAtOnce (s : Settings) (last : Option ByteArray) (line : ByteArray) :
    ByteArray × Option ByteArray :=
  let key := keyOf s line
  let new := last != some key
  let spaced := new && match s.grouping with
    | .nowhere => false
    | .before | .around => true
    | .behind | .between => last.isSome
  let front := if spaced then gap s else .empty
  if new || s.grouping ≠ .nowhere then (front ++ ended s line, some key)
  else (.empty, last)

/-! ### Groups when they are over -/

/-- A line that is held back until the next one is known. -/
structure Held where
  /-- The line. -/
  line : ByteArray
  /-- What it is compared by. -/
  key : ByteArray
  /-- How many equal lines were in front of it. -/
  equal : Nat
  /-- Whether no group of more than one line is over. -/
  first : Bool

/-- What is written for a line, given whether an equal one follows it and how many were met. -/
def report (s : Settings) (line : ByteArray) (followed : Bool) (equal : Nat) : ByteArray :=
  let wanted := if equal = 0 then s.single else if followed then s.laterOnes else s.firstOfMany
  if !wanted then .empty
  else
    let digits := decimal (equal + 1)
    let front := if s.counts then List.replicate (7 - digits.length) space ++ digits ++ [space]
      else []
    pack front ++ ended s line

/-- What is written when another line is known. -/
def stepHeld (s : Settings) (held : Option Held) (line : ByteArray) : ByteArray × Option Held :=
  let key := keyOf s line
  match held with
  | none => (.empty, some ⟨line, key, 0, true⟩)
  | some h =>
    if h.key == key then
      let equal := h.equal + 1
      let spaced := equal = 1 && (s.spacing = .before || (s.spacing = .between && !h.first))
      let front := if spaced then gap s else .empty
      if s.laterOnes then
        (front ++ report s h.line true equal, some ⟨line, key, equal, h.first⟩)
      else (front, some { h with equal := equal })
    else
      (report s h.line false h.equal, some ⟨line, key, 0, h.first && h.equal = 0⟩)

/-! ### The work -/

/-- Whether groups are written as they come. -/
def Settings.isImmediate (s : Settings) : Bool := s.single && s.firstOfMany && !s.counts

/-- The number of bytes that are read at a time. -/
def readSize : Nat := 4096

/-- Goes through the lines of a file. -/
def work (s : Settings) (fd : Fd) : Act (Except Errno Unit) := do
  if s.isImmediate then
    match ← overLines fd readSize s.delimiter (stepAtOnce s) none .empty endless with
    | .error errno => return .error errno
    | .ok last =>
      if last.isSome && (s.grouping = .behind || s.grouping = .around) then putQuietly (gap s)
      return .ok ()
  else
    match ← overLines fd readSize s.delimiter (stepHeld s) none .empty endless with
    | .error errno => return .error errno
    | .ok none => return .ok ()
    | .ok (some h) =>
      putQuietly (report s h.line false h.equal)
      return .ok ()

/-- Opens a file in the stead of a standard stream. If that is not possible the stream is closed,
and if it was not open that is the reason which is told. -/
def openStream (t : Invocation) (path : Bytes) (mode : OpenMode) (stream : Fd) : Act Unit := do
  if path ≠ hyphen then
    match (← ask (.openFile path mode) : Except Errno Fd) with
    | .error errno =>
      match (← ask (.describe stream) : Except Errno FileFacts) with
      | .ok _ => t.dieOf 1 (shown path) errno
      | .error errno => t.dieOf 1 (shown path) errno
    | .ok fd =>
      if fd ≠ stream then
        let _ : Except Errno Unit ← ask (.duplicate fd stream)
        ask (.close fd)

/-! ### The command line -/

/-- Where groups of more than one line can be set apart. -/
def spacings : WordChoice Spacing :=
  [("none", .nowhere), ("prepend", .before), ("separate", .between)]

/-- Where all groups can be set apart. -/
def groupings : WordChoice Spacing :=
  [("prepend", .before), ("append", .behind), ("separate", .between), ("both", .around)]

/-- The options. -/
def rules : List OptionRule := [.plain 'c' "count", .plain 'd' "repeated",
  ⟨"all-repeated", none, some "all-repeated", .optional⟩,
  ⟨"all-repeated", some 'D', none, .absent⟩, ⟨"group", none, some "group", .optional⟩,
  .plain 'i' "ignore-case", .plain 'u' "unique", .valued 'f' "skip-fields",
  .valued 's' "skip-chars", .valued 'w' "check-chars", .plain 'z' "zero-terminated"] ++
  (List.range 10).map fun n => .letterOnly (Char.ofNat (48 + n))

/-- The number that an option is given. -/
def readCount (t : Invocation) (wording : String) (value : Bytes) : Act Nat := do
  match readQuantity [] value with
  | .ok n => return n
  | .error .excessive => return maxQuantity
  | .error _ => t.die 1 (value ++ utf8 (": " ++ wording))

/-- What an option asks for. -/
def choose (t : Invocation) (s : Settings) (key : String) (value : Option Bytes) :
    Act Settings := do
  let text := value.getD []
  match key with
  | "count" => return { s with counts := true, selects := true }
  | "repeated" => return { s with single := false, selects := true }
  | "unique" => return { s with firstOfMany := false, selects := true }
  | "ignore-case" => return { s with ignoreCase := true }
  | "zero-terminated" => return { s with delimiter := 0 }
  | "all-repeated" =>
    let spacing ← match value with
      | none => pure .nowhere
      | some word => spacings.require t 1 "--all-repeated" word
    return { s with single := false, laterOnes := true, spacing := spacing, selects := true }
  | "group" =>
    let grouping ← match value with
      | none => pure .between
      | some word => groupings.require t 1 "--group" word
    return { s with grouping := grouping }
  | "skip-fields" =>
    let n ← readCount t "invalid number of fields to skip" text
    return { s with skipFields := n, shorthand := false }
  | "skip-chars" =>
    return { s with skipBytes := ← readCount t "invalid number of bytes to skip" text }
  | "check-chars" =>
    return { s with compared := some (← readCount t "invalid number of bytes to compare" text) }
  | digit =>
    let before := if s.shorthand then s.skipFields else 0
    let n := before * 10 + digitsValue (utf8 digit)
    return { s with skipFields := min n maxQuantity, shorthand := true }

/-- Takes an operand. -/
def takeOperand (t : Invocation) (s : Settings) (operand : Bytes) : Act Settings :=
  if s.files.length < 2 then pure { s with files := s.files ++ [operand] }
  else t.refuse 1 (utf8 "extra operand " ++ quoted operand)

/-- Takes an operand that may be a number of bytes to be left out. -/
def takeSkip (t : Invocation) (s : Settings) (operand : Bytes) : Act Settings :=
  let isNumber := operand.head? = some plus && (t.edition.isTraditional)
  match if isNumber then readQuantity [] operand else .error .invalid with
  | .ok n => pure { s with skipBytes := n }
  | _ => takeOperand t s operand

/-- What the parts of the command line ask for, one after the other. -/
def chooseAll (t : Invocation) (s : Settings) : List Item → Act Settings
  | [] => pure s
  | .operand text :: rest => do chooseAll t (← takeSkip t s text) rest
  | .given key value :: rest => do
    if key = "help" || key = "version" then t.finish 0 1
    chooseAll t (← choose t s key value) rest

/-- Reads the command line. A strict tool takes no options behind an operand. -/
def readArguments (t : Invocation) (s : Settings) : Nat → List Bytes → Act Settings
  | 0, _ | _, [] => pure s
  | fuel + 1, first :: rest => do
    if t.isStrict && !s.files.isEmpty then (first :: rest).foldlM (takeOperand t) s
    else if first = [minus, minus] then rest.foldlM (takeOperand t) s
    else
      let (front, behind) := splitFirst rules (first :: rest)
      let scanned := scan (rules ++ OptionRule.common) true front
      let s ← chooseAll t s scanned.items
      match scanned.fault with
      | some fault => t.refuseFault 1 fault
      | none => readArguments t s fuel behind

/-- What the command line asks for. -/
def readSettings (t : Invocation) : Act Settings :=
  readArguments t .usual (t.arguments.length + 1) t.arguments

/-- Writes one line for each group of equal lines. -/
def tool (t : Invocation) : Task := t.run 1 do
  let s ← readSettings t
  if s.grouping ≠ .nowhere && s.selects then
    t.refuse 1 (utf8 "--group is mutually exclusive with -c/-d/-D/-u")
  if s.counts && s.laterOnes then
    t.refuse 1 (utf8 "printing all duplicated lines and repeat counts is meaningless")
  let input := s.files.headD hyphen
  openStream t input .input 0
  openStream t ((s.files[1]?).getD hyphen) .output 1
  match ← work s 0 with
  | .error _ => t.die 1 (utf8 "error reading " ++ shellQuoted input)
  | .ok () => return 0

end CommandShell.Machine.Tool.Uniq
