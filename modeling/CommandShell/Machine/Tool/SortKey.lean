import CommandShell.Machine.Tool.ByteClass
import CommandShell.Machine.Tool.Fingerprint
import CommandShell.Machine.Tool.Floating
import CommandShell.Machine.Tool.Quantity

/-!
# What lines are sorted by

The parts of a line by which it is sorted, and the ways in which two such parts are compared: as
bytes, numbers, months or versions. A part is taken out of a line once, in the form in which it is
compared. Main statement: a text does not come before itself (`compareBytes_refl`).
-/

namespace CommandShell.Machine.Tool.Sort

open Ascii

/-- Which bytes of a part are left out. -/
inductive Omission where
  /-- All but letters, digits and blanks. -/
  | unlisted
  /-- Those that cannot be printed. -/
  | unprintable
  deriving DecidableEq

/-- How parts of lines are compared. -/
structure Ordering where
  /-- Whether blanks in front of the beginning are left out. -/
  skipsAhead : Bool
  /-- Whether blanks in front of the end are left out. -/
  skipsBehind : Bool
  /-- Which bytes are left out. -/
  omission : Option Omission
  /-- Whether the case of letters makes no difference. -/
  folds : Bool
  /-- Whether they are floating-point numbers. -/
  general : Bool
  /-- Whether they are numbers with a unit. -/
  human : Bool
  /-- Whether they are names of months. -/
  month : Bool
  /-- Whether they are numbers. -/
  numeric : Bool
  /-- Whether they are put in an order of no meaning. -/
  random : Bool
  /-- Whether the greatest comes first. -/
  reverse : Bool
  /-- Whether they are versions. -/
  version : Bool
  deriving DecidableEq

namespace Ordering

/-- The plain order of bytes. -/
def plain : Ordering :=
  ⟨false, false, none, false, false, false, false, false, false, false, false⟩

/-- Whether nothing is asked for, apart from the direction. -/
def isPlain (o : Ordering) : Bool := { o with reverse := false } = plain

/-- At which end of a part blanks are left out. -/
inductive Side where
  | ahead
  | behind
  | both
  deriving DecidableEq

/-- What a letter asks for, if it means something. -/
def choose? (o : Ordering) (side : Side) (letter : UInt8) : Option Ordering :=
  if letter = byteOf 'b' then some { o with
    skipsAhead := o.skipsAhead || side ≠ .behind
    skipsBehind := o.skipsBehind || side ≠ .ahead }
  else if letter = byteOf 'd' then some { o with omission := some .unlisted }
  else if letter = byteOf 'f' then some { o with folds := true }
  else if letter = byteOf 'g' then some { o with general := true }
  else if letter = byteOf 'h' then some { o with human := true }
  else if letter = byteOf 'i' then
    some { o with omission := some (o.omission.getD .unprintable) }
  else if letter = byteOf 'M' then some { o with month := true }
  else if letter = byteOf 'n' then some { o with numeric := true }
  else if letter = byteOf 'r' then some { o with reverse := true }
  else if letter = byteOf 'R' then some { o with random := true }
  else if letter = byteOf 'V' then some { o with version := true }
  else none

/-- What letters ask for, and what is left behind them. -/
def chooseAll (o : Ordering) (side : Side) : Bytes → Ordering × Bytes
  | [] => (o, [])
  | letter :: rest =>
    match o.choose? side letter with
    | some o => o.chooseAll side rest
    | none => (o, letter :: rest)

/-- Whether an order asks for things that do not go together. -/
def isContradictory (o : Ordering) : Bool :=
  1 < [o.numeric, o.general, o.human, o.month, o.version || o.random || o.omission.isSome].countP id

/-- The letters that ask for an order. -/
def letters (o : Ordering) : String :=
  (if o.skipsAhead || o.skipsBehind then "b" else "") ++
    (if o.omission = some .unlisted then "d" else "") ++ (if o.folds then "f" else "") ++
    (if o.general then "g" else "") ++ (if o.human then "h" else "") ++
    (if o.omission = some .unprintable then "i" else "") ++ (if o.month then "M" else "") ++
    (if o.numeric then "n" else "") ++ (if o.random then "R" else "") ++
    (if o.reverse then "r" else "") ++ (if o.version then "V" else "")

/-- Whether parts are compared as numbers of some kind. -/
def isNumeric (o : Ordering) : Bool := o.numeric || o.general || o.human

end Ordering

/-- A part of a line by which it is sorted. -/
structure Key where
  /-- How many fields are in front of it, unless it begins with the line. -/
  startField : Option Nat
  /-- How many bytes of its first field are in front of it. -/
  startByte : Nat
  /-- How many fields are in front of its last one, unless it ends with the line. -/
  endField : Option Nat
  /-- How many bytes of its last field belong to it, or zero for all of them. -/
  endByte : Nat
  /-- How it is compared. -/
  ordering : Ordering
  /-- Whether it was given in the old form. -/
  old : Bool

/-- A whole line. -/
def Key.whole (o : Ordering) : Key := ⟨none, 0, none, 0, o, false⟩

/-! ### Fields -/

/-- Whether a byte separates fields if no other one does. -/
def separates (b : UInt8) : Bool := isBlank b || b = newline

/-- The offset of the first byte from an offset on that is not of a kind. -/
def skipWhile (p : UInt8 → Bool) (line : ByteArray) (offset : Nat) : Nat → Nat
  | 0 => offset
  | fuel + 1 =>
    if line.size ≤ offset then offset
    else if p (line.get! offset) then skipWhile p line (offset + 1) fuel
    else offset

/-- The offset of the first byte from an offset on that is not of a kind, or of the end. -/
def past (p : UInt8 → Bool) (line : ByteArray) (offset : Nat) : Nat :=
  skipWhile p line offset (line.size - offset)

/-- The offset behind one field and, if there is more to come, the separator behind it. -/
def pastField (tab : Option UInt8) (line : ByteArray) (more : Bool) (offset : Nat) : Nat :=
  match tab with
  | none => past (!separates ·) line (past separates line offset)
  | some tab =>
    let ending := past (· ≠ tab) line offset
    if more && ending < line.size then ending + 1 else ending

/-- The offset behind a number of fields. The separator behind the last one counts if `more` says
so. -/
def pastFields (tab : Option UInt8) (line : ByteArray) (more : Bool) (offset : Nat) : Nat → Nat
  | 0 => offset
  | fields + 1 =>
    if line.size ≤ offset then offset
    else pastFields tab line more (pastField tab line (more || fields ≠ 0) offset) fields

/-- The offset behind the fields in front of some place. No line has more fields than bytes. -/
def pastFirst (tab : Option UInt8) (line : ByteArray) (more : Bool) (fields : Nat) : Nat :=
  pastFields tab line (more || line.size < fields) 0 (min fields (line.size + 1))

/-- Where a key begins. -/
def Key.start (k : Key) (tab : Option UInt8) (line : ByteArray) : Nat :=
  let offset := match k.startField with
    | none => 0
    | some fields => pastFirst tab line true fields
  let offset := if k.ordering.skipsAhead then past separates line offset else offset
  match k.startField with
  | none => offset
  | some _ => min line.size (offset + k.startByte)

/-- Where a key ends. -/
def Key.ending (k : Key) (tab : Option UInt8) (line : ByteArray) : Nat :=
  match k.endField with
  | none => line.size
  | some fields =>
    if k.endByte = 0 then pastFirst tab line false (fields + 1)
    else
      let offset := pastFirst tab line true fields
      let offset := if k.ordering.skipsBehind then past separates line offset else offset
      min line.size (offset + k.endByte)

/-- Whether a byte is left out. -/
def Omission.omits : Omission → UInt8 → Bool
  | .unlisted, b => !separates b && !ByteClass.alnum.contains b
  | .unprintable, b => !ByteClass.print.contains b

/-- The bytes of a key in a line, as they are compared. -/
def Key.bytes (k : Key) (tab : Option UInt8) (line : ByteArray) : ByteArray :=
  let part := line.extract (k.start tab line) (k.ending tab line)
  let kept := match k.ordering.omission with
    | none => part
    | some omission => ⟨part.data.filter (!omission.omits ·)⟩
  if k.ordering.folds then ⟨kept.data.map ByteClass.toUpper⟩ else kept

/-! ### Numbers -/

/-- A decimal number as it is written, without the digits that make no difference. -/
structure Decimal where
  /-- Whether it is less than zero. -/
  negative : Bool
  /-- The digits in front of the point. -/
  whole : Bytes
  /-- The digits behind the point. -/
  fraction : Bytes

/-- Reads a decimal number. Nothing at all stands for zero. -/
def readDecimal (text : Bytes) : Decimal :=
  let trimmed := text.dropWhile separates
  let negative := trimmed.head? = some minus
  let signless := if negative then trimmed.tail else trimmed
  let digits := signless.takeWhile isDigit
  let whole := digits.dropWhile (· = zero)
  let fraction := match signless.drop digits.length with
    | b :: rest =>
      if b = point then ((rest.takeWhile isDigit).reverse.dropWhile (· = zero)).reverse else []
    | [] => []
  ⟨negative && !(whole.isEmpty && fraction.isEmpty), whole, fraction⟩

/-- Which one of two sequences of bytes comes first. -/
def compareBytes : Bytes → Bytes → Int
  | [], [] => 0
  | [], _ :: _ => -1
  | _ :: _, [] => 1
  | a :: as, b :: bs => if a < b then -1 else if b < a then 1 else compareBytes as bs

/-- A text does not come before itself. -/
theorem compareBytes_refl (text : Bytes) : compareBytes text text = 0 := by
  induction text with
  | nil => rfl
  | cons b rest ih =>
    have h : ¬ b < b := UInt8.lt_irrefl b
    rw [compareBytes, if_neg h, if_neg h, ih]

/-- Which one of two natural numbers is less. -/
def compareNats (a b : Nat) : Int := if a < b then -1 else if b < a then 1 else 0

/-- One comparison, and another one if the first one makes no difference. -/
def thenBy (first second : Int) : Int := if first = 0 then second else first

/-- Which one of two decimal numbers is less. -/
def Decimal.compare (a b : Decimal) : Int :=
  let magnitudes := thenBy (compareNats a.whole.length b.whole.length)
    (thenBy (compareBytes a.whole b.whole) (compareBytes a.fraction b.fraction))
  match a.negative, b.negative with
  | true, false => -1
  | false, true => 1
  | true, true => -magnitudes
  | false, false => magnitudes

/-- The units of numbers in their order. -/
def unitOrder (b : UInt8) : Nat :=
  if b = byteOf 'k' || b = byteOf 'K' then 1
  else match (utf8 "MGTPEZY").findIdx? (· = b) with
    | some n => n + 2
    | none => 0

/-- The order of the unit behind a number. A negative number has it the other way round. -/
def unitOf (text : Bytes) : Int :=
  let trimmed := text.dropWhile separates
  let negative := trimmed.head? = some minus
  let signless := if negative then trimmed.tail else trimmed
  let whole := signless.takeWhile isDigit
  let rest := signless.drop whole.length
  let fraction := if rest.head? = some point then rest.tail.takeWhile isDigit else []
  let rest := if rest.head? = some point then rest.tail.drop fraction.length else rest
  if (whole ++ fraction).all (· = zero) then 0
  else
    let order : Int := unitOrder (rest.headD 0)
    if negative then -order else order

/-- Which one of two floating-point numbers is less. What is none comes first. -/
def compareFloating : Option Floating → Option Floating → Int
  | none, none => 0
  | none, some _ => -1
  | some _, none => 1
  | some a, some b =>
    if a.less b then -1
    else if b.less a then 1
    else match a, b with
      | .undefined s, .undefined s' => if s = s' then 0 else if s then -1 else 1
      | .undefined _, _ => -1
      | _, .undefined _ => 1
      | _, _ => 0

/-- The names of the months. -/
def months : List String :=
  ["JAN", "FEB", "MAR", "APR", "MAY", "JUN", "JUL", "AUG", "SEP", "OCT", "NOV", "DEC"]

/-- The number of the month that a text begins with. -/
def monthOf (text : Bytes) : Nat :=
  let name := ((text.dropWhile separates).take 3).map ByteClass.toUpper
  match months.findIdx? (utf8 · = name) with
  | some n => n + 1
  | none => 0

/-! ### Versions -/

/-- The order of a byte of a version that is no digit. The end comes before all but one of them. -/
def versionOrder : Option UInt8 → Int
  | none => -1
  | some b =>
    if isDigit b then 0
    else if isLetter b then b.toNat
    else if b = byteOf '~' then -2
    else b.toNat + 256

/-- Compares versions as far as one of them has no digit, and tells what is left of both. -/
def compareWords : Nat → Bytes → Bytes → Int × Bytes × Bytes
  | 0, a, b => (0, a, b)
  | fuel + 1, a, b =>
    if a.head?.any (!isDigit ·) || b.head?.any (!isDigit ·) then
      let d := versionOrder a.head? - versionOrder b.head?
      if d ≠ 0 then (d, a, b) else compareWords fuel a.tail b.tail
    else (0, a, b)

/-- Compares versions, words and numbers in turn. -/
def compareParts : Nat → Bytes → Bytes → Int
  | 0, _, _ => 0
  | fuel + 1, a, b =>
    if a.isEmpty && b.isEmpty then 0
    else
      let (d, a, b) := compareWords (a.length + b.length) a b
      if d ≠ 0 then d
      else
        let a := a.dropWhile (· = zero)
        let b := b.dropWhile (· = zero)
        let digits := a.takeWhile isDigit
        let digits' := b.takeWhile isDigit
        let d := thenBy (compareNats digits.length digits'.length) (compareBytes digits digits')
        if d ≠ 0 then d
        else compareParts fuel (a.drop digits.length) (b.drop digits'.length)

/-- Compares versions. -/
def compareVersions (a b : Bytes) : Int := compareParts (a.length + b.length + 1) a b

/-- Whether what follows a byte of a version is a suffix of a file name, and what is left behind
it. -/
def pastSuffix : Bytes → Option Bytes
  | dot :: b :: rest =>
    if dot = point && (isLetter b || b = byteOf '~') then
      some (rest.dropWhile fun c => isLetter c || isDigit c || c = byteOf '~')
    else none
  | _ => none

/-- Whether a text is a row of suffixes of a file name. -/
def isSuffixes : Nat → Bytes → Bool
  | 0, text => text.isEmpty
  | fuel + 1, text => text.isEmpty ||
      match pastSuffix text with
      | none => false
      | some rest => isSuffixes fuel rest

/-- A version without the suffixes of a file name. The first byte is none of them. -/
def withoutSuffixes (before : Bytes) : Bytes → Bytes
  | [] => before.reverse
  | b :: rest =>
    if !before.isEmpty && isSuffixes (rest.length + 1) (b :: rest) then before.reverse
    else withoutSuffixes (b :: before) rest

/-- Compares the versions in file names. Hidden files come first. -/
def compareFileVersions (a b : Bytes) : Int :=
  let rank := fun (name : Bytes) =>
    if name.isEmpty then 0
    else if name = [point] then 1
    else if name = [point, point] then 2
    else if name.head? = some point then 3
    else 4
  let d := compareNats (rank a) (rank b)
  if d ≠ 0 || rank a ≤ 2 then d
  else
    thenBy (compareVersions (withoutSuffixes [] a) (withoutSuffixes [] b)) (compareVersions a b)

/-! ### Comparison -/

/-- A key of a line in the form in which it is compared. -/
inductive Measure where
  | bytes (value : ByteArray)
  | decimal (value : Decimal)
  | floating (value : Option Floating)
  | sized (unit : Int) (value : Decimal)
  | month (number : Nat)
  | version (value : Bytes)

/-- Some bytes behind the fingerprint of them and of what is added to all of them. -/
def scattered (salt bytes : ByteArray) : ByteArray :=
  Fingerprint.fingerprint (salt ++ bytes) ++ bytes

/-- Takes a key out of a line. -/
def Key.measure (k : Key) (tab : Option UInt8) (salt line : ByteArray) : Measure :=
  let bytes := k.bytes tab line
  if k.ordering.numeric then .decimal (readDecimal bytes.toList)
  else if k.ordering.general then
    .floating ((Floating.read .extended bytes.toList).map (·.value))
  else if k.ordering.human then .sized (unitOf bytes.toList) (readDecimal bytes.toList)
  else if k.ordering.month then .month (monthOf bytes.toList)
  else if k.ordering.random then .bytes (scattered salt bytes)
  else if k.ordering.version then .version bytes.toList
  else .bytes bytes

/-- Which one of two arrays of bytes comes first, from an offset on. -/
def compareFrom (a b : ByteArray) (offset : Nat) : Nat → Int
  | 0 => compareNats a.size b.size
  | fuel + 1 =>
    if offset < a.size && offset < b.size then
      let x := a.get! offset
      let y := b.get! offset
      if x < y then -1 else if y < x then 1 else compareFrom a b (offset + 1) fuel
    else compareNats a.size b.size

/-- Which one of two arrays of bytes comes first. -/
def compareArrays (a b : ByteArray) : Int := compareFrom a b 0 (a.size + 1)

/-- Which one of two measures comes first. -/
def Measure.compare : Measure → Measure → Int
  | .bytes a, .bytes b => compareArrays a b
  | .decimal a, .decimal b => a.compare b
  | .floating a, .floating b => compareFloating a b
  | .sized u a, .sized v b => thenBy (u - v) (a.compare b)
  | .month a, .month b => compareNats a b
  | .version a, .version b => compareFileVersions a b
  | _, _ => 0

/-- A line with the measures of its keys. -/
structure Entry where
  /-- The line. -/
  line : ByteArray
  /-- The measures of its keys. -/
  measures : List Measure

/-- How lines are sorted. -/
structure Rule where
  /-- The keys. -/
  keys : List Key
  /-- The byte that separates fields. -/
  tab : Option UInt8
  /-- Whether the greatest line comes first. -/
  reverse : Bool
  /-- Whether lines with equal keys are equal. -/
  decisive : Bool
  /-- What is added to all keys that are put in an order of no meaning. -/
  salt : ByteArray

/-- A line with the measures of its keys. -/
def Rule.entry (r : Rule) (line : ByteArray) : Entry :=
  ⟨line, r.keys.map (·.measure r.tab r.salt line)⟩

/-- Which one of two lines comes first by their keys. -/
def compareKeys : List Key → List Measure → List Measure → Int
  | k :: ks, a :: as, b :: bs =>
    let d := a.compare b
    if d ≠ 0 then if k.ordering.reverse then -d else d else compareKeys ks as bs
  | _, _, _ => 0

/-- Which one of two lines comes first. -/
def Rule.compare (r : Rule) (a b : Entry) : Int :=
  let d := compareKeys r.keys a.measures b.measures
  if d ≠ 0 || (r.decisive && !r.keys.isEmpty) then d
  else
    let d := compareArrays a.line b.line
    if r.reverse then -d else d

end CommandShell.Machine.Tool.Sort
