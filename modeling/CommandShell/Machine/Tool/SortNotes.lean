import CommandShell.Machine.Tool.SortOptions

/-!
# Notes on sorting

What the tool that sorts lines tells about itself on request: what is odd about the keys, and, below
every line, where its keys are.
-/

namespace CommandShell.Machine.Tool.Sort

open Ascii

/-! ### Keys -/

/-- Whether a key ends in a field in front of the one in which it begins. -/
def Key.isEmpty (k : Key) : Bool :=
  match k.startField, k.endField with
  | some first, some last => last < first
  | _, _ => false

/-- The note on a key in the old form: both forms of it. -/
def Key.oldNote (k : Key) : Bytes :=
  let first := k.startField.getD 0
  let (oldEnd, newEnd) := match k.endField with
    | none => ([], [])
    | some last => (utf8 " -" ++ decimal (last + 1), utf8 "," ++ decimal (last + 1))
  utf8 "obsolescent key " ++ quoted (utf8 "+" ++ decimal first ++ oldEnd) ++
    utf8 " used; consider " ++ quoted (utf8 "-k " ++ decimal (first + 1) ++ newEnd) ++
    utf8 " instead"

/-- Whether blanks in front of a key or of its end make a difference that may not be wanted. -/
def Key.hasLoneBlanks (k : Key) : Bool :=
  let o := k.ordering
  let isFirst := k.endField = some 0 && k.endByte ≠ 0
  let isTrimmed := o.isNumeric || o.month
  !k.isEmpty && !isFirst && ((!o.skipsAhead && (!isTrimmed || k.startByte ≠ 0)) ||
    (!o.skipsBehind && k.endByte ≠ 0))

/-- Whether a key reaches over several fields. -/
def Key.isWide (k : Key) : Bool :=
  match k.endField with
  | none => true
  | some last => k.startField.getD 0 < last

/-- What is asked for in an order and not in the one of a key. -/
def Ordering.without (o p : Ordering) : Ordering where
  skipsAhead := o.skipsAhead && !p.skipsAhead
  skipsBehind := o.skipsBehind && !p.skipsBehind
  omission := if o.omission = p.omission then none else o.omission
  folds := o.folds && !p.folds
  general := o.general && !p.general
  human := o.human && !p.human
  month := o.month && !p.month
  numeric := o.numeric && !p.numeric
  random := o.random && !p.random
  reverse := o.reverse && !p.reverse
  version := o.version && !p.version

/-- The notes on a key with a number. `alone` tells whether it is the order of whole lines. -/
def Key.notes (k : Key) (tab : Option UInt8) (alone : Bool) (number : Nat) : List Bytes :=
  let note (holds : Bool) (text : Bytes) : List Bytes := if holds then [text] else []
  note k.old k.oldNote ++
    note k.isEmpty
      (utf8 "key " ++ decimal number ++ utf8 " has zero width and will be ignored") ++
    note (!alone && tab.isNone && k.hasLoneBlanks)
      (utf8 "leading blanks are significant in key " ++ decimal number ++
        utf8 "; consider also specifying 'b'") ++
    note (!alone && k.ordering.isNumeric && k.isWide)
      (utf8 "key " ++ decimal number ++ utf8 " is numeric and spans multiple fields")

/-- What a byte between fields is taken for in numbers, if some of them are floating-point ones or
not. -/
def signIn (general : Bool) (tab : Option UInt8) : Option String :=
  match tab with
  | some point => some "decimal point"
  | some minus => some "minus sign"
  | some plus => if general then some "plus sign" else none
  | _ => none

/-- The notes on the numbers in keys. -/
def numberNotes (tab : Option UInt8) (alone : Bool) (keys : List Key) : List Bytes :=
  let numeric := keys.filter (·.ordering.isNumeric)
  let wide := if alone then [] else numeric.filter Key.isWide
  let sign := if wide.isEmpty then none else signIn (wide.any (·.ordering.general)) tab
  let signNotes := sign.toList.map fun sign =>
    utf8 "field separator " ++ quoted tab.toList ++ utf8 (" is treated as a " ++ sign) ++
      utf8 " in numbers"
  let pointNote := utf8 "note numbers use '.' as a decimal point in this locale"
  signNotes ++ if numeric.isEmpty || sign = some "decimal point" then [] else [pointNote]

/-- The notes on the order that no key has taken over. -/
def orderNotes (s : Settings) (keys : List Key) : List Bytes :=
  let left := keys.foldl (fun o k => o.without k.ordering) s.ordering
  let decisive := s.stable || s.unique
  let letters := { left with reverse := left.reverse && decisive }.letters
  let isLost := !left.isPlain || (left.reverse && decisive && !keys.isEmpty)
  let lost := if !isLost then []
    else if letters.length = 1 then [utf8 ("option '-" ++ letters ++ "' is ignored")]
    else [utf8 ("options '-" ++ letters ++ "' are ignored")]
  lost ++ if left.reverse && !decisive && !keys.isEmpty then
    [utf8 "option '-r' only applies to last-resort comparison"] else []

/-- All notes. -/
def notes (s : Settings) (keys : List Key) : List Bytes :=
  let alone := s.keys.isEmpty
  [utf8 "text ordering performed using simple byte comparison"] ++
    (keys.zipIdx 1).flatMap (fun (k, number) => k.notes s.tab alone number) ++
    numberNotes s.tab alone keys ++ orderNotes s keys

/-! ### Lines -/

/-- How far a decimal number reaches from an offset on, and whether it has digits. -/
def numberEnd (line : ByteArray) (offset : Nat) : Nat × Bool :=
  let whole := past isDigit line offset
  if whole < line.size && line.get! whole = point then
    let ending := past isDigit line (whole + 1)
    (ending, offset < whole || whole + 1 < ending)
  else (whole, offset < whole)

/-- How far the part of a key reaches by which it is compared, which begins at an offset behind its
blanks. -/
def tightEnd (o : Ordering) (line : ByteArray) (offset : Nat) : Nat :=
  let text := (line.extract offset line.size).toList
  if o.month then if monthOf text = 0 then offset else offset + 3
  else if o.general then
    offset + (text.length - ((Floating.read .extended text).elim text (·.rest)).length)
  else if o.isNumeric then
    let isNegative := offset < line.size && line.get! offset = minus
    let (ending, hasDigits) := numberEnd line (if isNegative then offset + 1 else offset)
    if !hasDigits then offset
    else if o.human && ending < line.size && unitOrder (line.get! ending) ≠ 0 then ending + 1
    else ending
  else line.size

/-- Where the part of a key is by which it is compared. -/
def Key.extent (k : Key) (tab : Option UInt8) (line : ByteArray) : Nat × Nat :=
  let first := if k.startField.isSome then k.start tab line else 0
  let behind := max first (k.ending tab line)
  let o := k.ordering
  if (o.skipsAhead && k.startField.isNone) || o.month || o.isNumeric then
    let part := line.extract 0 behind
    let trimmed := past separates part first
    (trimmed, tightEnd o part trimmed)
  else (first, behind)

/-- Whether a byte moves nothing and shows nothing. -/
def isControl (b : UInt8) : Bool := b < space || b = 127

/-- The width at which some bytes are shown. -/
def widthOf (line : ByteArray) (first behind : Nat) : Nat :=
  (line.extract first behind).foldl (fun n b => if isControl b && b ≠ tab then n else n + 1) 0

/-- A mark below a line. -/
def mark (offset width : Nat) : Bytes :=
  List.replicate offset space ++
    (if width = 0 then utf8 "^ no match for key" else List.replicate width underscore) ++ [newline]

/-- The mark of some part of a line. -/
def markBetween (line : ByteArray) (extent : Nat × Nat) : Bytes :=
  mark (widthOf line 0 extent.1) (widthOf line extent.1 extent.2)

/-- A line with the marks of its keys below it, and one for the whole of it if the whole line can
make a difference. Tabs are shown by another sign. -/
def explained (r : Rule) (line : ByteArray) : Bytes :=
  let shown := line.toList.map fun b => if b = tab then byteOf '>' else b
  let marks := r.keys.flatMap fun k => markBetween line (k.extent r.tab line)
  let isWhole := r.keys.isEmpty || !r.decisive
  shown ++ [newline] ++ marks ++ if isWhole then markBetween line (0, line.size) else []

end CommandShell.Machine.Tool.Sort
