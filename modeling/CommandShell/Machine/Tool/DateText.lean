import CommandShell.Machine.Calendar
import CommandShell.Machine.Tool.DateToken

/-!
# Descriptions of times

The point in time that a description stands for, seen from another one. A description is either a
number of seconds behind an at sign, or a sequence of items, each of which is a date, a time of day,
a zone, a day of the week or a distance; no more than one of each kind can stand in it but for
distances, which add up. What is not described is taken over.
-/

namespace CommandShell.Machine.Tool.DateText

open Ascii Calendar

/-- A distance in time. -/
structure Distance where
  years : Int
  months : Int
  days : Int
  hours : Int
  minutes : Int
  seconds : Int
  nanoseconds : Int
  deriving DecidableEq, Repr

namespace Distance

/-- No distance. -/
def zero : Distance := ⟨0, 0, 0, 0, 0, 0, 0⟩

/-- So many of something. -/
def ofMeasure (m : Measure) (n : Int) : Distance :=
  match m with
  | .year => { zero with years := n }
  | .month => { zero with months := n }
  | .day => { zero with days := n }
  | .hour => { zero with hours := n }
  | .minute => { zero with minutes := n }
  | .second => { zero with seconds := n }

/-- A distance and some times another one. -/
def plus (d e : Distance) (factor : Int) : Distance :=
  ⟨d.years + factor * e.years, d.months + factor * e.months, d.days + factor * e.days,
    d.hours + factor * e.hours, d.minutes + factor * e.minutes, d.seconds + factor * e.seconds,
    d.nanoseconds + factor * e.nanoseconds⟩

/-- Whether all parts of a distance can be held. -/
def isHeld (d : Distance) : Bool :=
  [d.years, d.months, d.days, d.hours, d.minutes, d.seconds].all fits

end Distance

/-- What was learned from a description so far. -/
structure Finding where
  /-- The year. -/
  year : Numeral
  /-- The month. -/
  month : Int
  /-- The day of the month. -/
  day : Int
  /-- The hour. -/
  hour : Int
  /-- The minute. -/
  minute : Int
  /-- The second. -/
  second : Int
  /-- The nanosecond. -/
  nanosecond : Int
  /-- The half of the day, if hours are counted in it. -/
  half : Option Bool
  /-- Which one of the days of the week that follow. -/
  weekdayPlace : Int
  /-- The day of the week. -/
  weekday : Int
  /-- How many seconds the zone is ahead. -/
  zone : Int
  /-- The distances put together. -/
  distance : Distance
  /-- Whether there was a distance. -/
  hasDistance : Bool
  /-- How many dates there were. -/
  dates : Nat
  /-- How many times of day there were. -/
  times : Nat
  /-- How many days of the week there were. -/
  weekdays : Nat
  /-- How many zones there were. -/
  zones : Nat
  /-- Whether one of them was a zone with a number. -/
  hasZone : Bool

namespace Finding

/-- What is known before anything was read: the moment and the nanosecond of another time. -/
def start (m : Moment) (nanosecond : Int) : Finding where
  year := ⟨m.year, 0, false⟩
  month := m.month
  day := m.day
  hour := m.hour
  minute := m.minute
  second := m.second
  nanosecond := nanosecond
  half := none
  weekdayPlace := 0
  weekday := 0
  zone := 0
  distance := .zero
  hasDistance := false
  dates := 0
  times := 0
  weekdays := 0
  zones := 0
  hasZone := false

/-- A date was read. -/
def withDate (f : Finding) (year : Numeral) (month day : Int) : Finding :=
  { f with year := year, month := month, day := day, dates := f.dates + 1 }

/-- A time of day was read. -/
def withTime (f : Finding) (hour minute second nanosecond : Int) (half : Option Bool) : Finding :=
  { f with
    hour := hour, minute := minute, second := second, nanosecond := nanosecond, half := half
    times := f.times + 1 }

/-- A zone was read. -/
def withZone (f : Finding) (seconds : Int) : Finding :=
  { f with zone := seconds, zones := f.zones + 1, hasZone := true }

/-- A day of the week was read. -/
def withWeekday (f : Finding) (place day : Int) : Finding :=
  { f with weekdayPlace := place, weekday := day, weekdays := f.weekdays + 1 }

/-- A distance was read. -/
def withDistance (f : Finding) (d : Distance) (factor : Int) : Option Finding :=
  let sum := f.distance.plus d factor
  if sum.isHeld then some { f with distance := sum, hasDistance := true } else none

/-- A number that stands alone was read: a year, a date or a time of day. -/
def withNumber (f : Finding) (n : Numeral) : Finding :=
  if 0 < f.dates && f.year.digits = 0 && !f.hasDistance && (0 < f.times || 2 < n.digits) then
    { f with year := n }
  else if 4 < n.digits then
    f.withDate ⟨n.value / 10000, n.digits - 4, false⟩ (n.value / 100 % 100) (n.value % 100)
  else if n.digits ≤ 2 then f.withTime n.value 0 0 0 none
  else f.withTime (n.value / 100) (n.value % 100) 0 0 none

end Finding

/-! ### Reading -/

/-- What was learned, and the signs that are left. -/
abbrev Step := Option (Finding × List Sign)

/-- The sign between hours and minutes. -/
def colonMark : Sign := .mark colon

/-- The greatest distance of a zone, in minutes. -/
def maxZone : Int := 24 * 60

/-- Reads the minutes of a zone of which the hours were read, and notes the zone. So many seconds
are added. -/
def readZone (f : Finding) (hours : Numeral) (more : Int) (signs : List Sign) : Step :=
  let whole (minutes : Int) (rest : List Sign) : Step :=
    if -maxZone ≤ minutes && minutes ≤ maxZone then
      some (f.withZone (minutes * 60 + more), rest)
    else none
  match signs with
  | .mark b :: .number false minutes :: rest =>
    if b ≠ colon then
      let n := if hours.digits ≤ 2 then hours.value * 100 else hours.value
      whole (n.tdiv 100 * 60 + n.tmod 100) signs
    else whole (hours.value * 60 + if hours.negative then -minutes.value else minutes.value) rest
  | signs =>
    if signs.head? = some colonMark then none
    else
      let n := if hours.digits ≤ 2 then hours.value * 100 else hours.value
      whole (n.tdiv 100 * 60 + n.tmod 100) signs

/-- Reads the end of a time of day: a half of the day or a zone. -/
def endTime (f : Finding) (allowsHalf : Bool) (hour minute second nanosecond : Int)
    (signs : List Sign) : Step :=
  let plain := f.withTime hour minute second nanosecond none
  match signs with
  | .half isLate :: rest =>
    if allowsHalf then some (f.withTime hour minute second nanosecond (some isLate), rest)
    else some (plain, signs)
  | .number true n :: rest => readZone plain n 0 rest
  | signs => some (plain, signs)

/-- Reads a time of day behind its hour and a colon. -/
def readTime (f : Finding) (allowsHalf : Bool) (hour : Int) (signs : List Sign) : Step :=
  match signs with
  | .number false minute :: .mark b :: rest =>
    if b ≠ colon then endTime f allowsHalf hour minute.value 0 0 (.mark b :: rest)
    else match rest with
      | .number false second :: rest =>
        endTime f allowsHalf hour minute.value second.value 0 rest
      | .decimal false second nanosecond :: rest =>
        endTime f allowsHalf hour minute.value second nanosecond rest
      | _ => none
  | .number false minute :: rest => endTime f allowsHalf hour minute.value 0 0 rest
  | _ => none

/-- Reads what stands behind a date of year, month and day: perhaps a time of day behind a
letter. -/
def endDate (f : Finding) (signs : List Sign) : Step :=
  match signs with
  | .separator :: .number false hour :: .number true n :: rest =>
    readZone (f.withTime hour.value 0 0 0 none) n 0 rest
  | .separator :: .number false hour :: .mark b :: rest =>
    if b = colon then readTime f false hour.value rest else none
  | .separator :: _ => none
  | signs => some (f, signs)

/-- Notes a distance that was read, and reads its direction. -/
def endDistance (f : Finding) (d : Distance) (signs : List Sign) : Step :=
  match signs with
  | .direction factor :: rest => (f.withDistance d factor).map (·, rest)
  | signs => (f.withDistance d 1).map (·, signs)

/-- Reads the year, month and day of a date with slashes. -/
def readSlashes (f : Finding) (first : Numeral) (signs : List Sign) : Step :=
  match signs with
  | .number false second :: .mark b :: rest =>
    if b ≠ slash then some (f.withDate f.year first.value second.value, .mark b :: rest)
    else match rest with
      | .number false third :: rest =>
        if 4 ≤ first.digits then some (f.withDate first second.value third.value, rest)
        else some (f.withDate third first.value second.value, rest)
      | _ => none
  | .number false second :: rest => some (f.withDate f.year first.value second.value, rest)
  | _ => none

/-- A numeral with the other sign. -/
def Numeral.opposite (n : Numeral) : Numeral := { n with value := -n.value }

/-- Reads an item that begins with a number. -/
def readNumber (f : Finding) (n : Numeral) (signs : List Sign) : Step :=
  match signs with
  | .half isLate :: rest => some (f.withTime n.value 0 0 0 (some isLate), rest)
  | .number true second :: .number true third :: rest =>
    endDate (f.withDate n (-second.value) (-third.value)) rest
  | .number true count :: .measure m size :: rest =>
    ((f.withNumber n).withDistance (.ofMeasure m (count.value * size)) 1).map (·, rest)
  | .number true zone :: rest => readZone (f.withTime n.value 0 0 0 none) zone 0 rest
  | .weekday day :: rest => some (f.withWeekday n.value day, rest)
  | .month month :: .number true year :: rest =>
    some (f.withDate year.opposite month n.value, rest)
  | .month month :: .number false year :: rest => some (f.withDate year month n.value, rest)
  | .month month :: rest => some (f.withDate f.year month n.value, rest)
  | .measure m size :: rest => endDistance f (.ofMeasure m (n.value * size)) rest
  | .mark b :: rest =>
    if b = colon then readTime f true n.value rest
    else if b = slash then readSlashes f n rest
    else some (f.withNumber n, signs)
  | signs => some (f.withNumber n, signs)

/-- Reads an item that begins with a month. -/
def readMonth (f : Finding) (month : Int) (signs : List Sign) : Step :=
  match signs with
  | .number true day :: .number true year :: rest =>
    some (f.withDate year.opposite month (-day.value), rest)
  | .number false day :: .mark b :: rest =>
    if b ≠ byteOf ',' then some (f.withDate f.year month day.value, .mark b :: rest)
    else match rest with
      | .number false year :: rest => some (f.withDate year month day.value, rest)
      | _ => none
  | .number false day :: rest => some (f.withDate f.year month day.value, rest)
  | _ => none

/-- Reads an item that begins with a zone. -/
def readZoneName (f : Finding) (seconds : Int) (signs : List Sign) : Step :=
  match signs with
  | .number true count :: .measure m size :: rest =>
    ((f.withZone seconds).withDistance (.ofMeasure m (count.value * size)) 1).map (·, rest)
  | .number true hours :: rest => readZone f hours seconds rest
  | .summer :: rest => some (f.withZone (seconds + hours 1), rest)
  | signs => some (f.withZone seconds, signs)

/-- How many seconds the zone of a letter is ahead that can also stand between a date and a time of
day. -/
def separatorZone : Int := hours (-7)

/-- Reads an item. -/
def readItem (f : Finding) (signs : List Sign) : Step :=
  match signs with
  | .number false n :: rest => readNumber f n rest
  | .number true n :: .measure m size :: rest =>
    endDistance f (.ofMeasure m (n.value * size)) rest
  | .decimal _ seconds nanoseconds :: .measure .second _ :: rest =>
    endDistance f { Distance.zero with seconds := seconds, nanoseconds := nanoseconds } rest
  | .ordinal n :: .weekday day :: rest => some (f.withWeekday n day, rest)
  | .ordinal n :: .measure m size :: rest => endDistance f (.ofMeasure m (n * size)) rest
  | .measure m size :: rest => endDistance f (.ofMeasure m size) rest
  | .shift days :: rest => (f.withDistance (.ofMeasure .day days) 1).map (·, rest)
  | .month month :: rest => readMonth f month rest
  | .weekday day :: .mark b :: rest =>
    some (f.withWeekday 0 day, if b = byteOf ',' then rest else .mark b :: rest)
  | .weekday day :: rest => some (f.withWeekday 0 day, rest)
  | .zone seconds :: rest => readZoneName f seconds rest
  | .summerZone seconds :: rest => some (f.withZone (seconds + hours 1), rest)
  | .separator :: .number true count :: .measure m size :: rest =>
    ((f.withZone separatorZone).withDistance (.ofMeasure m (count.value * size)) 1).map (·, rest)
  | .separator :: .number true _ :: _ => none
  | .separator :: rest => some (f.withZone separatorZone, rest)
  | .here :: rest => some ({ f with zones := f.zones + 1 }, rest)
  | _ => none

/-- Reads items to the end, `fuel` at most. -/
def readItems (f : Finding) (signs : List Sign) : Nat → Option Finding
  | 0 => none
  | fuel + 1 =>
    if signs.isEmpty then some f
    else match readItem f signs with
      | none => none
      | some (f, rest) => readItems f rest fuel

/-! ### The point in time -/

/-- The hour of the day that an hour of a half of the day is. -/
def hourOf? (hour : Int) : Option Bool → Option Int
  | none => if 0 ≤ hour && hour < 24 then some hour else none
  | some isLate =>
    if hour = 12 then some (if isLate then 12 else 0)
    else if 0 < hour && hour < 12 then some (if isLate then hour + 12 else hour)
    else none

/-- The year that a numeral stands for. Two digits leave the century away. -/
def yearOf (n : Numeral) : Int :=
  if n.value < 0 then -n.value
  else if n.digits = 2 then n.value + (if n.value < 69 then 2000 else 1900)
  else n.value

/-- Whether a year can be held. -/
def isHeldYear (year : Int) : Bool := -2147481748 ≤ year && year ≤ 2147485547

/-- Whether a count of days or months can be held. -/
def isHeldCount (n : Int) : Bool := -2147483648 ≤ n && n ≤ 2147483647

/-- A moment moved to the day of the week that was found. -/
def Finding.atWeekday (f : Finding) (m : Moment) : Option Moment :=
  if f.weekdays = 0 || 0 < f.dates then some m
  else
    let today := Calendar.weekday m.dayNumber
    let weeks :=
      f.weekdayPlace - (if 0 < f.weekdayPlace && today ≠ f.weekday then 1 else 0)
    let day := m.day + (f.weekday - today + 7) % 7 + weeks * 7
    if isHeldCount day then
      some (Moment.ofSeconds { m with day := day }.seconds)
    else none

/-- A moment moved by the years, months and days that were found. -/
def Finding.afterDays (f : Finding) (m : Moment) : Option Moment :=
  let year := m.year + f.distance.years
  let month := m.month + f.distance.months
  let day := m.day + f.distance.days
  if isHeldYear year && isHeldCount month && isHeldCount day then
    some (Moment.ofSeconds { m with year := year, month := month, day := day }.seconds)
  else none

/-- The point in time that was found, where the zone of the reader is so many seconds ahead. -/
def Finding.instant? (f : Finding) (ahead : Int) : Option Instant := do
  if 1 < f.times || 1 < f.dates || 1 < f.weekdays || 1 < f.zones then none
  let isTimed := 0 < f.times || (f.hasDistance && f.dates = 0 && f.weekdays = 0)
  let hour ← if isTimed then hourOf? f.hour f.half else some 0
  let year := yearOf f.year
  if !isHeldYear year then none
  let m : Moment := ⟨year, f.month, f.day, hour, if isTimed then f.minute else 0,
    if isTimed then f.second else 0⟩
  if !m.isValid then none
  let m ← f.afterDays (← f.atWeekday m)
  let here := m.seconds - (if f.hasZone then f.zone else ahead)
  let seconds := here + f.distance.hours * 3600 + f.distance.minutes * 60 + f.distance.seconds
  if !fits seconds then none
  return Calendar.instant seconds ((if isTimed then f.nanosecond else 0) + f.distance.nanoseconds)

/-- The zone in front of a description, if there is one, and the description behind it. -/
def zoneIn (text : Bytes) : Option (Bytes × Bytes) :=
  let start := utf8 "TZ=\""
  if !start.isPrefixOf text then none
  else
    let zone := (text.drop start.length).takeWhile (· ≠ quoteMark)
    match (text.drop start.length).drop zone.length with
    | [] => none
    | _ :: rest => some (zone, rest)

/-- How many seconds a zone is ahead that has a name of letters and a distance behind it. Any other
zone is that of the machine. -/
def aheadOf (zone : Bytes) : Int :=
  let rest := zone.dropWhile isLetter
  if zone.length < rest.length + 3 then 0
  else
    let unsigned := if rest.head?.any (fun b => b = minus || b = plus) then rest.tail else rest
    let digits := unsigned.takeWhile isDigit
    let behind := unsigned.drop digits.length
    let minutes := if behind.head? = some colon then behind.tail.takeWhile isDigit else []
    let distance : Int := valueOf digits * 3600 + valueOf minutes * 60
    if rest.head? = some minus then distance else -distance

/-- The point in time that the signs of a description stand for, seen from another one. -/
def instantOfSigns (ahead : Int) (now : Instant) (signs : List Sign) : Option Instant :=
  match signs with
  | [.mark b, .number _ n] =>
    if b = atSign then some (Calendar.instant n.value 0) else none
  | [.mark b, .decimal _ seconds nanoseconds] =>
    if b = atSign then some (Calendar.instant seconds nanoseconds) else none
  | signs =>
    let m := Moment.ofSeconds (now / secondLength + ahead)
    let signs := if signs.isEmpty then [.number false ⟨0, 1, false⟩] else signs
    match readItems (.start m (now % secondLength)) signs (signs.length + 1) with
    | none => none
    | some f => f.instant? ahead

/-- The point in time that a description stands for, seen from another one, for a reader in a
zone. -/
def instantOf (zone : Bytes) (now : Instant) (text : Bytes) : Option Instant :=
  let text := text.dropWhile isSpace
  match zoneIn text with
  | some (named, rest) => instantOfSigns (aheadOf named) now (signsOf rest)
  | none => instantOfSigns (aheadOf zone) now (signsOf text)

end CommandShell.Machine.Tool.DateText
