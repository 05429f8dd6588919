/-!
# Calendar

Days and times of day in the Gregorian calendar, as configuration files may name them.

## Main definitions

* `Date`: a day of the calendar.
* `Moment`: a day with a time of day, and how far its clock is ahead of the universal one, if known.
* `Date.ofParts`, `Moment.ofParts`: a day or moment, if its parts make one.
* `Moment.same`: whether two moments are one.

## Design notes

**What the clock says and when it is.**  A moment keeps what its own clock says.  Two moments whose
offsets are known are the same if they lie at the same time on the universal clock; a moment without
an offset cannot be told to be the same as one with it.
-/

namespace ToolWeave

/-- Why parts make no day or moment. -/
inductive CalendarFault where
  | year (value : Nat)
  | month
  | day
  | hour
  | minute
  | second
  /-- A clock is a day or more ahead of the universal one, or behind it; in minutes. -/
  | offset (minutes : Int)
  deriving DecidableEq

/-- A day of the calendar. -/
structure Date where
  year : Nat
  month : Nat
  day : Nat
  deriving DecidableEq

/-- A day with a time of day. -/
structure Moment where
  date : Date
  hour : Nat
  minute : Nat
  second : Nat
  microsecond : Nat
  /-- How many minutes the clock is ahead of the universal one, if known. -/
  offset : Option Int
  deriving DecidableEq

/-- A number in decimal, filled up with zeros to a width. -/
def Calendar.digits (width n : Nat) : String :=
  let shown := toString n
  String.ofList (List.replicate (width - shown.length) '0') ++ shown

/-- A length of time in minutes as a part of a message: whole days, then seconds, which are never
negative. -/
def Calendar.quotedLength (minutes : Int) : String :=
  let days := minutes.fdiv 1440
  let seconds := 60 * minutes.fmod 1440
  let parts :=
    (if days = 0 then [] else [s!"days={days}"]) ++
      if seconds = 0 then [] else [s!"seconds={seconds}"]
  "datetime.timedelta(" ++ String.intercalate ", " parts ++ ")"

/-- The wording of a fault. -/
def CalendarFault.message : CalendarFault → String
  | year value => s!"year {value} is out of range"
  | month => "month must be in 1..12"
  | day => "day is out of range for month"
  | hour => "hour must be in 0..23"
  | minute => "minute must be in 0..59"
  | second => "second must be in 0..59"
  | offset minutes =>
    "offset must be a timedelta strictly between -timedelta(hours=24) and timedelta(hours=24), " ++
      s!"not {Calendar.quotedLength minutes}."

namespace Date

/-- Whether a year has a leap day. -/
def isLeap (year : Nat) : Bool := year % 4 == 0 && (year % 100 != 0 || year % 400 == 0)

/-- How many days a month has. -/
def daysIn (year month : Nat) : Nat :=
  match month with
  | 2 => if isLeap year then 29 else 28
  | 4 | 6 | 9 | 11 => 30
  | _ => 31

/-- The day with some parts.  Years have up to four digits and start with one. -/
def ofParts (year month day : Nat) : Except CalendarFault Date :=
  if year < 1 || 9999 < year then .error (.year year)
  else if month < 1 || 12 < month then .error .month
  else if day < 1 || daysIn year month < day then .error .day
  else .ok ⟨year, month, day⟩

/-- A day written out. -/
def display (d : Date) : String :=
  String.intercalate "-"
    [Calendar.digits 4 d.year, Calendar.digits 2 d.month, Calendar.digits 2 d.day]

/-- A day as a part of a message. -/
def quoted (d : Date) : String := s!"datetime.date({d.year}, {d.month}, {d.day})"

/-- How many days lie between the beginning of the calendar and a day. -/
def number (d : Date) : Nat :=
  let before := d.year - 1
  365 * before + before / 4 - before / 100 + before / 400 +
    ((List.range (d.month - 1)).map fun m => daysIn d.year (m + 1)).foldl (· + ·) 0 + d.day

end Date

namespace Moment

/-- The moment with some parts. -/
def ofParts (year month day hour minute second microsecond : Nat) (offset : Option Int) :
    Except CalendarFault Moment := do
  if let some minutes := offset then
    if 1440 ≤ minutes.natAbs then throw (.offset minutes)
  let date ← Date.ofParts year month day
  if 23 < hour then throw .hour
  if 59 < minute then throw .minute
  if 59 < second then throw .second
  return ⟨date, hour, minute, second, microsecond, offset⟩

/-- The offset of a clock written out: hours and minutes behind a sign. -/
def offsetText (minutes : Int) : String :=
  (if minutes < 0 then "-" else "+") ++ Calendar.digits 2 (minutes.natAbs / 60) ++ ":" ++
    Calendar.digits 2 (minutes.natAbs % 60)

/-- A moment written out; parts of a second only if there are any. -/
def display (m : Moment) : String :=
  let clock := String.intercalate ":"
    [Calendar.digits 2 m.hour, Calendar.digits 2 m.minute, Calendar.digits 2 m.second]
  let fraction := if m.microsecond = 0 then "" else "." ++ Calendar.digits 6 m.microsecond
  m.date.display ++ " " ++ clock ++ fraction ++ (m.offset.map offsetText).getD ""

/-- The offset of a clock as a part of a message. -/
def quotedOffset (minutes : Int) : String :=
  if minutes = 0 then "datetime.timezone.utc"
  else s!"datetime.timezone({Calendar.quotedLength minutes})"

/-- A moment as a part of a message; seconds and microseconds only as far as there are any. -/
def quoted (m : Moment) : String :=
  let fine :=
    if m.microsecond ≠ 0 then [m.second, m.microsecond]
    else if m.second ≠ 0 then [m.second]
    else []
  let parts :=
    ([m.date.year, m.date.month, m.date.day, m.hour, m.minute] ++ fine).map toString ++
      (m.offset.map fun minutes => "tzinfo=" ++ quotedOffset minutes).toList
  "datetime.datetime(" ++ String.intercalate ", " parts ++ ")"

/-- The microseconds from the beginning of the calendar on, on the clock of the moment. -/
def microseconds (m : Moment) : Int :=
  let seconds : Nat := ((m.date.number * 24 + m.hour) * 60 + m.minute) * 60 + m.second
  seconds * 1000000 + m.microsecond

/-- Whether two moments are the same. -/
def same (a b : Moment) : Bool :=
  match a.offset, b.offset with
  | some p, some q => a.microseconds - 60000000 * p == b.microseconds - 60000000 * q
  | none, none => a == b
  | _, _ => false

end Moment

end ToolWeave
