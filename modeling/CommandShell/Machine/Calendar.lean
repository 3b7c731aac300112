/-!
# The calendar

Points in time and the dates under which they are known. Days are counted from the first one of the
year one on, and the rule of leap years holds for all years, those before it included. Main
statement: a year begins where the one before it ends (`daysBefore_succ`).
-/

namespace CommandShell.Machine

/-- A point in time: nanoseconds since the year 1970 began. -/
abbrev Instant := Int

namespace Calendar

/-- How many nanoseconds a second has. -/
def secondLength : Nat := 1000000000

/-- How many seconds a day has. -/
def dayLength : Nat := 86400

/-- Whether a year has a day more than others. -/
def isLeap (year : Int) : Bool := (year % 4 = 0 && year % 100 ≠ 0) || year % 400 = 0

/-- How many days a month has. -/
def daysIn (year : Int) (month : Nat) : Nat :=
  if month = 2 then if isLeap year then 29 else 28
  else if month = 4 || month = 6 || month = 9 || month = 11 then 30
  else 31

/-- How many days lie in front of a year. -/
def daysBefore (year : Int) : Int :=
  let past := year - 1
  365 * past + past / 4 - past / 100 + past / 400

/-- How many days of a year lie in front of a month. -/
def daysBeforeMonth (year : Int) : Nat → Int
  | 0 => 0
  | 1 => 0
  | month + 1 => daysBeforeMonth year month + daysIn year month

/-- The number of a day. -/
def dayNumber (year : Int) (month : Nat) (day : Int) : Int :=
  daysBefore year + daysBeforeMonth year month + day - 1

/-- A year begins where the one before it ends. -/
theorem daysBefore_succ (year : Int) :
    daysBefore (year + 1) = daysBefore year + if isLeap year then 366 else 365 := by
  unfold daysBefore isLeap
  simp only [Bool.or_eq_true, Bool.and_eq_true, decide_eq_true_eq]
  split <;> omega

/-- The day with which the counting of time begins. -/
def firstDay : Int := daysBefore 1970

/-- The day of the week, Sunday being the first one with the number zero. -/
def weekday (day : Int) : Int := (day + 1) % 7

/-- The year in which a day lies. -/
def yearOf (day : Int) : Int :=
  let guess := day * 400 / 146097 + 1
  if day < daysBefore guess then guess - 1
  else if daysBefore (guess + 1) ≤ day then guess + 1
  else guess

/-- The last month, of those up to one, that begins on a day of a year or before it. -/
def monthOf (year : Int) (offset : Int) : Nat → Nat
  | 0 => 1
  | month + 1 =>
    if daysBeforeMonth year (month + 1) ≤ offset then month + 1 else monthOf year offset month

/-- A date with a time of day. -/
structure Moment where
  /-- The year. -/
  year : Int
  /-- The month, from one on. -/
  month : Int
  /-- The day of the month, from one on. -/
  day : Int
  /-- The hour. -/
  hour : Int
  /-- The minute. -/
  minute : Int
  /-- The second. -/
  second : Int
  deriving DecidableEq, Repr

namespace Moment

/-- The moment of so many seconds since the counting of time begins. -/
def ofSeconds (seconds : Int) : Moment :=
  let day := seconds / dayLength + firstDay
  let time := seconds % dayLength
  let year := yearOf day
  let offset := day - daysBefore year
  let month := monthOf year offset 12
  ⟨year, month, offset - daysBeforeMonth year month + 1, time / 3600, time / 60 % 60, time % 60⟩

/-- The number of the day of a moment. A month and a day that do not exist stand for what comes when
one counts on. -/
def dayNumber (m : Moment) : Int :=
  Calendar.dayNumber (m.year + (m.month - 1) / 12) ((m.month - 1) % 12 + 1).toNat m.day

/-- The seconds from the beginning of the counting of time to a moment. -/
def seconds (m : Moment) : Int :=
  (m.dayNumber - firstDay) * dayLength + m.hour * 3600 + m.minute * 60 + m.second

/-- Whether a moment exists. -/
def isValid (m : Moment) : Bool := ofSeconds m.seconds = m

end Moment

/-- The point in time that so many seconds and nanoseconds make. -/
def instant (seconds nanoseconds : Int) : Instant := seconds * secondLength + nanoseconds

end Calendar

end CommandShell.Machine
