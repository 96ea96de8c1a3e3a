import Enhance.Number.Decimal

/-!
# Points in time

A point in time is a day of the calendar and a time of day, with the offset of its clock from
universal time if that is known.
-/

namespace Enhance

/-- A day of the calendar. -/
structure Day where
  year : Nat
  month : Nat
  day : Nat
  deriving DecidableEq, Repr, Inhabited

/-- Whether a year has a day more than the others. -/
def isLeapYear (year : Nat) : Bool :=
  year % 4 = 0 && (year % 100 != 0 || year % 400 = 0)

/-- The number of days of a month. -/
def daysInMonth (year month : Nat) : Nat :=
  match month with
  | 2 => if isLeapYear year then 29 else 28
  | 4 | 6 | 9 | 11 => 30
  | _ => 31

/-- A point in time. -/
structure Timestamp where
  date : Day
  hour : Nat
  minute : Nat
  second : Nat
  microsecond : Nat
  /-- How many seconds the clock is ahead of universal time. -/
  offset : Option Int
  deriving DecidableEq, Repr, Inhabited

/-- A number with zeros in front of it. -/
def padded (width n : Nat) : String :=
  let digits := Nat.toDigits 10 n
  String.ofList (List.replicate (width - digits.length) '0' ++ digits)

/-- The text of a day: year, month and day separated by hyphens. -/
def Day.text (date : Day) : String :=
  s!"{padded 4 date.year}-{padded 2 date.month}-{padded 2 date.day}"

namespace Timestamp

/-- The text of an offset. -/
def offsetText (seconds : Int) : String :=
  let size := seconds.natAbs
  let whole := s!"{padded 2 (size / 3600)}:{padded 2 (size / 60 % 60)}"
  (if seconds < 0 then "-" else "+") ++ whole ++
    (if size % 60 = 0 then "" else ":" ++ padded 2 (size % 60))

/-- The text of a point in time. Parts of a second are written only if there are any. -/
def text (moment : Timestamp) : String :=
  moment.date.text ++
    s!"T{padded 2 moment.hour}:{padded 2 moment.minute}:{padded 2 moment.second}" ++
    (if moment.microsecond = 0 then "" else "." ++ padded 6 moment.microsecond) ++
    (moment.offset.map offsetText).getD ""

end Timestamp

/-- Why numbers are no point in time. -/
inductive TimestampError where
  | year (year : Nat)
  | month
  | day
  | hour
  | minute
  | second
  | offset (seconds : Int)
  deriving DecidableEq, Repr

/-- An interval of time in days and seconds, as messages show it. -/
def shownInterval (seconds : Int) : String :=
  let days := Int.fdiv seconds 86400
  let rest := Int.fmod seconds 86400
  let parts := (if days = 0 then [] else [s!"days={days}"]) ++
    (if rest = 0 then [] else [s!"seconds={rest}"])
  "datetime.timedelta(" ++ (if parts = [] then "0" else ", ".intercalate parts) ++ ")"

/-- Why numbers are no point in time. -/
def TimestampError.message : TimestampError → String
  | .year n => s!"year {n} is out of range"
  | .month => "month must be in 1..12"
  | .day => "day is out of range for month"
  | .hour => "hour must be in 0..23"
  | .minute => "minute must be in 0..59"
  | .second => "second must be in 0..59"
  | .offset seconds =>
    "offset must be a timedelta strictly between -timedelta(hours=24) and " ++
      s!"timedelta(hours=24), not {shownInterval seconds}."

/-- The day with these numbers. -/
def Day.ofNumbers (year month day : Nat) : Except TimestampError Day :=
  if year < 1 || 9999 < year then .error (.year year)
  else if month < 1 || 12 < month then .error .month
  else if day < 1 || daysInMonth year month < day then .error .day
  else .ok ⟨year, month, day⟩

/-- A day as messages show it. -/
def Day.shown (date : Day) : String :=
  s!"datetime.date({date.year}, {date.month}, {date.day})"

/-- An offset as messages show it. -/
def shownOffset (seconds : Int) : String :=
  if seconds = 0 then "datetime.timezone.utc"
  else s!"datetime.timezone({shownInterval seconds})"

/-- A point in time as messages show it. -/
def Timestamp.shown (moment : Timestamp) : String :=
  let date := s!"{moment.date.year}, {moment.date.month}, {moment.date.day}"
  let parts := if moment.microsecond ≠ 0 then s!", {moment.second}, {moment.microsecond}"
    else if moment.second ≠ 0 then s!", {moment.second}" else ""
  s!"datetime.datetime({date}, {moment.hour}, {moment.minute}" ++ parts ++
    (moment.offset.map fun seconds => s!", tzinfo={shownOffset seconds}").getD "" ++ ")"

/-- The point in time with these numbers. -/
def Timestamp.ofNumbers (year month day hour minute second microsecond : Nat)
    (offset : Option Int) : Except TimestampError Timestamp := do
  if let some seconds := offset then
    if 86400 ≤ seconds.natAbs then throw (.offset seconds)
  let date ← Day.ofNumbers year month day
  if 24 ≤ hour then throw .hour
  if 60 ≤ minute then throw .minute
  if 60 ≤ second then throw .second
  return ⟨date, hour, minute, second, microsecond, offset⟩

end Enhance
