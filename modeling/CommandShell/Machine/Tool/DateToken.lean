import CommandShell.ArgumentVector
import CommandShell.Machine.Ascii

/-!
# Signs in descriptions of times

A description of a time is a sequence of words, numbers and marks. Words have their meanings
whatever the case of their letters; months and days of the week can be shortened to three letters.
Text in parentheses means nothing, and neither does a sign without a number behind it.
-/

namespace CommandShell.Machine.Tool.DateText

open Ascii

/-- What is counted in a description. -/
inductive Measure where
  | year
  | month
  | day
  | hour
  | minute
  | second
  deriving DecidableEq, Repr

/-- A number with the digits that it was written with. -/
structure Numeral where
  /-- The number. -/
  value : Int
  /-- How many digits it has. -/
  digits : Nat
  /-- Whether a minus sign stands in front of it. -/
  negative : Bool
  deriving DecidableEq, Repr

/-- A sign in a description. -/
inductive Sign where
  /-- Says whether what is in front of it is counted forward or back. -/
  | direction (factor : Int)
  /-- Summer time. -/
  | summer
  /-- So many of something. -/
  | measure (m : Measure) (count : Int)
  /-- A day so many days from now. -/
  | shift (days : Int)
  /-- A day of the week. -/
  | weekday (number : Int)
  /-- A half of the day. -/
  | half (isLate : Bool)
  /-- A month. -/
  | month (number : Int)
  /-- A place in a sequence. -/
  | ordinal (n : Int)
  /-- A zone that is so many seconds ahead. -/
  | zone (seconds : Int)
  /-- A zone that is so many seconds ahead in winter, in summer. -/
  | summerZone (seconds : Int)
  /-- The letter between a date and a time of day, which is a zone otherwise. -/
  | separator
  /-- The letter of the zone of whoever reads it. -/
  | here
  /-- A number, with a sign in front or not. -/
  | number (isSigned : Bool) (n : Numeral)
  /-- Seconds and nanoseconds, with a sign in front or not. -/
  | decimal (isSigned : Bool) (seconds nanoseconds : Int)
  /-- A mark. -/
  | mark (b : UInt8)
  /-- Something that makes no sense. -/
  | senseless
  deriving DecidableEq, Repr

/-! ### Words -/

/-- The seconds of so many hours. -/
def hours (n : Int) : Int := n * 3600

/-- The halves of the day. -/
def halves : List (String × Sign) := [("AM", .half false), ("A.M.", .half false),
  ("PM", .half true), ("P.M.", .half true)]

/-- The months and the days of the week. -/
def calendarWords : List (String × Sign) := [
  ("JANUARY", .month 1), ("FEBRUARY", .month 2), ("MARCH", .month 3), ("APRIL", .month 4),
  ("MAY", .month 5), ("JUNE", .month 6), ("JULY", .month 7), ("AUGUST", .month 8),
  ("SEPTEMBER", .month 9), ("SEPT", .month 9), ("OCTOBER", .month 10), ("NOVEMBER", .month 11),
  ("DECEMBER", .month 12), ("SUNDAY", .weekday 0), ("MONDAY", .weekday 1),
  ("TUESDAY", .weekday 2), ("TUES", .weekday 2), ("WEDNESDAY", .weekday 3),
  ("WEDNES", .weekday 3), ("THURSDAY", .weekday 4), ("THUR", .weekday 4), ("THURS", .weekday 4),
  ("FRIDAY", .weekday 5), ("SATURDAY", .weekday 6)]

/-- The zones. -/
def zones : List (String × Sign) := [
  ("GMT", .zone 0), ("UT", .zone 0), ("UTC", .zone 0), ("WET", .zone 0), ("WEST", .summerZone 0),
  ("BST", .summerZone 0), ("ART", .zone (hours (-3))), ("BRT", .zone (hours (-3))),
  ("BRST", .summerZone (hours (-3))), ("NST", .zone (-12600)), ("NDT", .summerZone (-12600)),
  ("AST", .zone (hours (-4))), ("ADT", .summerZone (hours (-4))), ("CLT", .zone (hours (-4))),
  ("CLST", .summerZone (hours (-4))), ("EST", .zone (hours (-5))),
  ("EDT", .summerZone (hours (-5))), ("CST", .zone (hours (-6))),
  ("CDT", .summerZone (hours (-6))), ("MST", .zone (hours (-7))),
  ("MDT", .summerZone (hours (-7))), ("PST", .zone (hours (-8))),
  ("PDT", .summerZone (hours (-8))), ("AKST", .zone (hours (-9))),
  ("AKDT", .summerZone (hours (-9))), ("HST", .zone (hours (-10))),
  ("HAST", .zone (hours (-10))), ("HADT", .summerZone (hours (-10))),
  ("SST", .zone (hours (-12))), ("WAT", .zone (hours 1)), ("CET", .zone (hours 1)),
  ("CEST", .summerZone (hours 1)), ("MET", .zone (hours 1)), ("MEZ", .zone (hours 1)),
  ("MEST", .summerZone (hours 1)), ("MESZ", .summerZone (hours 1)), ("EET", .zone (hours 2)),
  ("EEST", .summerZone (hours 2)), ("CAT", .zone (hours 2)), ("SAST", .zone (hours 2)),
  ("EAT", .zone (hours 3)), ("MSK", .zone (hours 3)), ("MSD", .summerZone (hours 3)),
  ("IST", .zone 19800), ("SGT", .zone (hours 8)), ("KST", .zone (hours 9)),
  ("JST", .zone (hours 9)), ("GST", .zone (hours 10)), ("NZST", .zone (hours 12)),
  ("NZDT", .summerZone (hours 12))]

/-- What is counted. -/
def measures : List (String × Sign) := [("YEAR", .measure .year 1), ("MONTH", .measure .month 1),
  ("FORTNIGHT", .measure .day 14), ("WEEK", .measure .day 7), ("DAY", .measure .day 1),
  ("HOUR", .measure .hour 1), ("MINUTE", .measure .minute 1), ("MIN", .measure .minute 1),
  ("SECOND", .measure .second 1), ("SEC", .measure .second 1)]

/-- The words that count from now. -/
def relativeWords : List (String × Sign) := [("TOMORROW", .shift 1), ("YESTERDAY", .shift (-1)),
  ("TODAY", .shift 0), ("NOW", .shift 0), ("LAST", .ordinal (-1)), ("THIS", .ordinal 0),
  ("NEXT", .ordinal 1), ("FIRST", .ordinal 1), ("THIRD", .ordinal 3), ("FOURTH", .ordinal 4),
  ("FIFTH", .ordinal 5), ("SIXTH", .ordinal 6), ("SEVENTH", .ordinal 7), ("EIGHTH", .ordinal 8),
  ("NINTH", .ordinal 9), ("TENTH", .ordinal 10), ("ELEVENTH", .ordinal 11),
  ("TWELFTH", .ordinal 12), ("AGO", .direction (-1)), ("HENCE", .direction 1)]

/-- The letters that stand for zones. -/
def letters : List (String × Sign) := [("A", .zone (hours 1)), ("B", .zone (hours 2)),
  ("C", .zone (hours 3)), ("D", .zone (hours 4)), ("E", .zone (hours 5)), ("F", .zone (hours 6)),
  ("G", .zone (hours 7)), ("H", .zone (hours 8)), ("I", .zone (hours 9)), ("J", .here),
  ("K", .zone (hours 10)), ("L", .zone (hours 11)), ("M", .zone (hours 12)),
  ("N", .zone (hours (-1))), ("O", .zone (hours (-2))), ("P", .zone (hours (-3))),
  ("Q", .zone (hours (-4))), ("R", .zone (hours (-5))), ("S", .zone (hours (-6))),
  ("T", .separator), ("U", .zone (hours (-8))), ("V", .zone (hours (-9))),
  ("W", .zone (hours (-10))), ("X", .zone (hours (-11))), ("Y", .zone (hours (-12))),
  ("Z", .zone 0)]

/-- The meaning of a word in a table. -/
def find? (word : Bytes) (table : List (String × Sign)) : Option Sign :=
  (table.find? fun (text, _) => utf8 text == word).map (·.2)

/-- The meaning of a month or a day of the week, which three letters are enough for, with a point
behind them or not. -/
def calendarWord? (word : Bytes) : Option Sign :=
  if word.length = 3 || (word.length = 4 && word.getLast? = some point) then
    (calendarWords.find? fun (text, _) => (utf8 text).take 3 == word.take 3).map (·.2)
  else find? word calendarWords

/-- The meaning of what is counted, in the plural or not. -/
def measure? (word : Bytes) : Option Sign :=
  find? word measures <|>
    if word.getLast? = some (byteOf 'S') then find? word.dropLast measures else none

/-- The meaning of a word in capital letters. -/
def meaningOf (word : Bytes) : Sign :=
  let bare := word.filter (· ≠ point)
  (find? word halves <|> calendarWord? word <|> find? word zones <|>
    (if word = utf8 "DST" then some Sign.summer else none) <|> measure? word <|>
    find? word relativeWords <|> find? word letters <|>
    (if bare = word then none else find? bare zones)).getD .senseless

/-! ### Scanning -/

/-- How many letters of a word are looked at. -/
def maxWord : Nat := 19

/-- The capital letter of a small one; any other byte is kept. -/
def capitalLetter (b : UInt8) : UInt8 := if byteOf 'a' ≤ b && b ≤ byteOf 'z' then b - 32 else b

/-- The word that a text begins with. -/
def wordIn (text : Bytes) : Bytes := text.takeWhile fun b => isLetter b || b = point

/-- The least integer that can be held. -/
def leastInteger : Int := -9223372036854775808

/-- The greatest integer that can be held. -/
def greatestInteger : Int := 9223372036854775807

/-- Whether an integer can be held. -/
def fits (n : Int) : Bool := leastInteger ≤ n && n ≤ greatestInteger

/-- The number that digits stand for. -/
def valueOf (digits : Bytes) : Nat := digits.foldl (fun n b => n * 10 + digitValue b) 0

/-- How many digits of a fraction count. -/
def maxPlaces : Nat := 9

/-- Seconds with a fraction; what is below a nanosecond is cut off downwards. -/
def decimalSign (isSigned negative : Bool) (seconds : Nat) (fraction : Bytes) : Sign :=
  let kept := fraction.take maxPlaces
  let part := valueOf (kept ++ List.replicate (maxPlaces - kept.length) zero)
  if negative then
    let part := if (fraction.drop maxPlaces).any (· ≠ zero) then part + 1 else part
    if part = 0 then .decimal isSigned (-seconds) 0
    else if fits (-seconds - 1) then .decimal isSigned (-seconds - 1) (1000000000 - part)
    else .senseless
  else .decimal isSigned seconds part

/-- The number that a text begins with, and how many bytes it has. -/
def numberIn (isSigned negative : Bool) (text : Bytes) : Sign × Nat :=
  let digits := text.takeWhile isDigit
  let n := valueOf digits
  let value : Int := if negative then -n else n
  let behind := text.drop digits.length
  let fraction := behind.tail.takeWhile isDigit
  let hasFraction := behind.head?.any fun b => b = point || b = byteOf ','
  if !fits value then (.senseless, text.length)
  else if hasFraction && !fraction.isEmpty then
    (decimalSign isSigned negative n fraction, digits.length + 1 + fraction.length)
  else (.number isSigned ⟨value, digits.length, negative⟩, digits.length)

/-- How many bytes there are up to the end of parentheses of which some are open. Without an end
there is no answer. -/
def parenthesesIn (depth : Nat) : Bytes → Option Nat
  | [] => none
  | b :: rest =>
    let depth := if b = byteOf '(' then depth + 1 else if b = byteOf ')' then depth - 1 else depth
    if depth = 0 then some 1 else (parenthesesIn depth rest).map (· + 1)

/-- The signs of a text of which the first bytes are passed over. -/
def scan (skipped : Nat) : Bytes → List Sign
  | [] => []
  | b :: rest =>
    if 0 < skipped then scan (skipped - 1) rest
    else if isSpace b then scan 0 rest
    else if isDigit b then
      let (sign, length) := numberIn false false (b :: rest)
      sign :: scan (length - 1) rest
    else if b = minus || b = plus then
      let blanks := (rest.takeWhile isSpace).length
      if (rest.drop blanks).head?.any isDigit then
        let (sign, length) := numberIn true (b = minus) (rest.drop blanks)
        sign :: scan (blanks + length) rest
      else scan 0 rest
    else if isLetter b then
      let word := wordIn (b :: rest)
      meaningOf ((word.take maxWord).map capitalLetter) :: scan (word.length - 1) rest
    else if b = byteOf '(' then
      match parenthesesIn 0 (b :: rest) with
      | none => []
      | some length => scan (length - 1) rest
    else .mark b :: scan 0 rest

/-- The signs of a description. -/
def signsOf (text : Bytes) : List Sign := scan 0 (text.takeWhile (· ≠ 0))

end CommandShell.Machine.Tool.DateText
