import PipelineAudit.Count
import PipelineAudit.Decimal.Fixed

/-!
# Dates and moments

Dates of the Gregorian calendar, and moments: a date with a time of day and possibly an offset
from universal time.  `Date.valid?` and `Moment.valid?` refuse what is no date or time of day and
say which part of it is out of range.
-/

namespace PipelineAudit

/-- A date of the calendar. -/
structure Date where
  year : Nat
  month : Nat
  day : Nat
  deriving DecidableEq, Repr

/-- A date with a time of day.  The offset from universal time is in minutes. -/
structure Moment where
  date : Date
  hour : Nat
  minute : Nat
  second : Nat
  microsecond : Nat
  offset : Option Int
  deriving DecidableEq, Repr

/-- The parts of a date or moment that can be out of range. -/
inductive CalendarError where
  | year (given : Nat)
  | month
  | day
  | hour
  | minute
  | second
  | offset (minutes : Int)
  deriving DecidableEq, Repr

/-- The text of a number of whole minutes as days and a time of day. -/
def durationText (minutes : Int) : String :=
  let days := minutes.fdiv 1440
  let rest := (minutes.fmod 1440).toNat
  let clock := if rest = 0 then "" else s!", seconds={60 * rest}"
  s!"datetime.timedelta(days={days}{clock})"

/-- What is wrong with a date or moment, in words. -/
def CalendarError.message : CalendarError → String
  | .year given => s!"year {given} is out of range"
  | .month => "month must be in 1..12"
  | .day => "day is out of range for month"
  | .hour => "hour must be in 0..23"
  | .minute => "minute must be in 0..59"
  | .second => "second must be in 0..59"
  | .offset minutes =>
    "offset must be a timedelta strictly between -timedelta(hours=24) and " ++
      s!"timedelta(hours=24), not {durationText minutes}."

namespace Date

/-- Whether a year has a leap day. -/
def isLeap (year : Nat) : Bool :=
  year % 4 = 0 && (year % 100 ≠ 0 || year % 400 = 0)

/-- The number of days of a month. -/
def daysIn (year month : Nat) : Nat :=
  if month = 2 then if isLeap year then 29 else 28
  else if month = 4 || month = 6 || month = 9 || month = 11 then 30
  else 31

/-- The date itself if it exists. -/
def valid? (d : Date) : Except CalendarError Date :=
  if d.year = 0 || 9999 < d.year then .error (.year d.year)
  else if d.month = 0 || 12 < d.month then .error .month
  else if d.day = 0 || daysIn d.year d.month < d.day then .error .day
  else .ok d

/-- The number of days before a date, from the first day of year one. -/
def dayNumber (d : Date) : Nat :=
  let y := d.year - 1
  365 * y + y / 4 - y / 100 + y / 400 +
    total ((List.range (d.month - 1)).map fun m => daysIn d.year (m + 1)) + (d.day - 1)

/-- The day after a date. -/
def nextDay (d : Date) : Date :=
  if d.day < daysIn d.year d.month then { d with day := d.day + 1 }
  else if d.month < 12 then ⟨d.year, d.month + 1, 1⟩
  else ⟨d.year + 1, 1, 1⟩

/-- The text of a date: year, month and day between hyphens. -/
def text (d : Date) : List Char :=
  Decimal.digitsPadded 4 d.year ++ '-' :: Decimal.digitsPadded 2 d.month ++
    '-' :: Decimal.digitsPadded 2 d.day

/-- The constructor form of a date. -/
def literal (d : Date) : String :=
  s!"datetime.date({d.year}, {d.month}, {d.day})"

end Date

namespace Moment

/-- The moment itself if its offset, its date and its time of day exist. -/
def valid? (m : Moment) : Except CalendarError Moment := do
  if m.offset.any fun minutes => 1440 ≤ minutes.natAbs then
    .error (.offset (m.offset.getD 0))
  let _ ← m.date.valid?
  if 24 ≤ m.hour then .error .hour
  else if 60 ≤ m.minute then .error .minute
  else if 60 ≤ m.second then .error .second
  else .ok m

/-- The moment one second later. -/
def nextSecond (m : Moment) : Moment :=
  if m.second < 59 then { m with second := m.second + 1 }
  else if m.minute < 59 then { m with second := 0, minute := m.minute + 1 }
  else if m.hour < 23 then { m with second := 0, minute := 0, hour := m.hour + 1 }
  else { m with second := 0, minute := 0, hour := 0, date := m.date.nextDay }

/-- The microseconds from the start of year one, on the clock of the moment. -/
def clock (m : Moment) : Int :=
  ((((m.date.dayNumber * 24 + m.hour) * 60 + m.minute) * 60 + m.second) * 1000000 +
    m.microsecond : Nat)

/-- Whether two moments are the same: on the clock if neither has an offset, in universal time if
both have one. -/
def same (a b : Moment) : Bool :=
  match a.offset, b.offset with
  | none, none => a.clock = b.clock
  | some x, some y => a.clock - x * 60000000 = b.clock - y * 60000000
  | _, _ => false

/-- The text of an offset: a sign, hours and minutes. -/
def offsetText (minutes : Int) : List Char :=
  (if minutes < 0 then '-' else '+') :: Decimal.digitsPadded 2 (minutes.natAbs / 60) ++
    ':' :: Decimal.digitsPadded 2 (minutes.natAbs % 60)

/-- The text of a moment: the date, the time of day, its fraction and its offset if any. -/
def text (m : Moment) : List Char :=
  m.date.text ++ ' ' :: Decimal.digitsPadded 2 m.hour ++ ':' :: Decimal.digitsPadded 2 m.minute ++
    ':' :: Decimal.digitsPadded 2 m.second ++
    (if m.microsecond = 0 then [] else '.' :: Decimal.digitsPadded 6 m.microsecond) ++
    (match m.offset with
    | none => []
    | some minutes => offsetText minutes)

/-- The constructor form of a duration. -/
def offsetLiteral (minutes : Int) : String :=
  if minutes = 0 then "datetime.timezone.utc"
  else if 0 < minutes then s!"datetime.timezone(datetime.timedelta(seconds={60 * minutes}))"
  else
    s!"datetime.timezone(datetime.timedelta(days=-1, seconds={86400 + 60 * minutes}))"

/-- The constructor form of a moment; trailing zeros of the time of day are left out, except for
the minute. -/
def literal (m : Moment) : String :=
  let seconds :=
    if m.microsecond = 0 then if m.second = 0 then "" else s!", {m.second}"
    else s!", {m.second}, {m.microsecond}"
  let zone :=
    match m.offset with
    | none => ""
    | some minutes => s!", tzinfo={offsetLiteral minutes}"
  s!"datetime.datetime({m.date.year}, {m.date.month}, {m.date.day}, {m.hour}, {m.minute}" ++
    s!"{seconds}{zone})"

end Moment

/-! ### Reading -/

namespace Moment

/-- The number that a run of exactly `width` digits begins a text with, and what follows it. -/
def takeNumber? (width : Nat) (s : List Char) : Option (Nat × List Char) :=
  let digits := s.take width
  if digits.length = width && digits.all Char.isDigit then
    some (digits.foldl (fun n c => 10 * n + (c.toNat - '0'.toNat)) 0, s.drop width)
  else none

/-- What follows a given character at the beginning of a text. -/
def after? (c : Char) : List Char → Option (List Char)
  | d :: rest => if d = c then some rest else none
  | [] => none

/-- The date that a text begins with, and what follows it. -/
def takeDate? (s : List Char) : Option (Date × List Char) := do
  let (year, s) ← takeNumber? 4 s
  let s ← after? '-' s
  let (month, s) ← takeNumber? 2 s
  let s ← after? '-' s
  let (day, s) ← takeNumber? 2 s
  return (⟨year, month, day⟩, s)

/-- The offset that makes up a text, none if the text is empty. -/
def offset? : List Char → Option (Option Int)
  | [] => some none
  | sign :: s => do
    let (hours, s) ← takeNumber? 2 s
    let s ← after? ':' s
    let (minutes, _) ← takeNumber? 2 s
    let total : Int := 60 * hours + minutes
    return some (if sign = '-' then -total else total)

/-- The moment that a text written by `text` stands for. -/
def ofText? (s : String) : Option Moment := do
  let (date, s) ← takeDate? s.toList
  let (hour, s) ← takeNumber? 2 (s.drop 1)
  let s ← after? ':' s
  let (minute, s) ← takeNumber? 2 s
  let s ← after? ':' s
  let (second, s) ← takeNumber? 2 s
  let (microsecond, s) :=
    match after? '.' s with
    | some t => (takeNumber? 6 t).getD (0, t)
    | none => (0, s)
  let offset ← offset? s
  return ⟨date, hour, minute, second, microsecond, offset⟩

end Moment

/-- The date that a text written by `Date.text` stands for. -/
def Date.ofText? (s : String) : Option Date :=
  (Moment.takeDate? s.toList).map (·.1)

end PipelineAudit
