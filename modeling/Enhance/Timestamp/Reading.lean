import Enhance.Value.Check

/-!
# Reading points in time

A point in time is written as a day, which may be followed by a letter `T` or a blank, a time of
day and an offset. A number stands for the seconds since the start of 1970, or for milliseconds
if it is too large for seconds.
-/

namespace Enhance

open Enhance.Number

/-- Why a text is no day. -/
inductive DayError where
  | tooShort
  | tooLong
  | noHyphen
  | yearDigits
  | monthDigits
  | dayDigits
  | noSuchMonth
  | noSuchDay
  deriving DecidableEq, Repr

/-- Why a text is no day, in words. -/
def DayError.message : DayError → String
  | .tooShort => "input is too short"
  | .tooLong => "unexpected extra characters at the end of the input"
  | .noHyphen => "invalid date separator, expected `-`"
  | .yearDigits => "invalid character in year"
  | .monthDigits => "invalid character in month"
  | .dayDigits => "invalid character in day"
  | .noSuchMonth => "month value is outside expected range of 1-12"
  | .noSuchDay => "day value is outside expected range"

/-- Why a number of seconds is no point in time. -/
inductive EpochError where
  | tooEarly
  | tooLate
  | notANumber
  deriving DecidableEq, Repr

/-- Why a number of seconds is no point in time, in words. -/
def EpochError.message : EpochError → String
  | .tooEarly => "dates before 0000 are not supported as unix timestamps"
  | .tooLate => "dates after 9999 are not supported as unix timestamps"
  | .notANumber => "NaN values not permitted"

/-- The number at the front of a text that has so many digits. -/
def leadingNumber? (width : Nat) (text : List Char) : Option (Nat × List Char) :=
  let digits := text.take width
  if digits.length = width && digits.all Char.isDigit then
    some (valueOfDigits digits, text.drop width)
  else none

/-- The text after a character. -/
def after? (c : Char) : List Char → Option (List Char)
  | first :: rest => if first = c then some rest else none
  | [] => none

namespace Day

/-- The day at the front of a text, and what follows it. -/
def read (text : List Char) : Except DayError (Day × List Char) := do
  if (String.ofList text).utf8ByteSize < 10 then throw .tooShort
  let some (year, rest) := leadingNumber? 4 text | throw .yearDigits
  let some rest := after? '-' rest | throw .noHyphen
  let some (month, rest) := leadingNumber? 2 rest | throw .monthDigits
  let some rest := after? '-' rest | throw .noHyphen
  let some (day, rest) := leadingNumber? 2 rest | throw .dayDigits
  match ofNumbers year month day with
  | .ok date => return (date, rest)
  | .error .day => throw .noSuchDay
  | .error .month => throw .noSuchMonth
  | .error _ => throw .yearDigits

/-- The day that a text writes. -/
def readAll (text : List Char) : Except DayError Day := do
  match ← read text with
  | (date, []) => return date
  | _ => throw .tooLong

/-- The day that is so many days after the first one of March of the year zero. -/
def ofCount (count : Nat) : Day :=
  let era := count / 146097
  let inEra := count % 146097
  let yearInEra := (inEra - inEra / 1460 + inEra / 36524 - inEra / 146096) / 365
  let inYear := inEra - (365 * yearInEra + yearInEra / 4 - yearInEra / 100)
  let shifted := (5 * inYear + 2) / 153
  let day := inYear - (153 * shifted + 2) / 5 + 1
  let month := if shifted < 10 then shifted + 3 else shifted - 9
  ⟨yearInEra + era * 400 + (if month ≤ 2 then 1 else 0), month, day⟩

end Day

namespace Timestamp

/-- The millionths of a second that a fraction writes. -/
def fraction? : List Char → Option (Nat × List Char)
  | c :: rest =>
    if c = '.' || c = ',' then
      let digits := rest.takeWhile Char.isDigit
      if digits = [] then none
      else some (valueOfDigits ((digits ++ List.replicate 6 '0').take 6), rest.drop digits.length)
    else some (0, c :: rest)
  | [] => some (0, [])

/-- The seconds of a time of day and their fraction, which may be left out. -/
def seconds? : List Char → Option (Nat × Nat × List Char)
  | ':' :: rest => do
    let (second, rest) ← leadingNumber? 2 rest
    let (microsecond, rest) ← fraction? rest
    return (second, microsecond, rest)
  | rest => some (0, 0, rest)

/-- The offset that ends a text. -/
def offset? : List Char → Option (Option Int)
  | [] => some none
  | ['Z'] | ['z'] => some (some 0)
  | sign :: rest => do
    let (hours, rest) ← leadingNumber? 2 rest
    let rest := (after? ':' rest).getD rest
    let (minutes, rest) ← leadingNumber? 2 rest
    if rest ≠ [] || 60 ≤ minutes then none
    else
      let seconds : Int := hours * 3600 + minutes * 60
      if sign = '+' then return some seconds
      else if sign = '-' || sign = '\u2212' then return some (-seconds)
      else none

/-- The point in time that a text writes with a time of day. -/
def read? (text : List Char) : Option Timestamp := do
  let (date, rest) ← (Day.read text).toOption
  let separator ← rest.head?
  if !"Tt _".contains separator then none
  let (hour, rest) ← leadingNumber? 2 rest.tail
  let rest ← after? ':' rest
  let (minute, rest) ← leadingNumber? 2 rest
  let (second, microsecond, rest) ← seconds? rest
  let offset ← offset? rest
  (ofNumbers date.year date.month date.day hour minute second microsecond offset).toOption

/-- The greatest number that stands for seconds. -/
def mostSeconds : Nat := 20000000000

/-- How many days lie between the first one of March of the year zero and the start of 1970. -/
def daysToEpoch : Nat := 719468

/-- The seconds from the start of the year zero to that of 1970. -/
def secondsToEpoch : Int := 62167219200

/-- The last second of the year 9999, counted from the start of 1970. -/
def lastSecond : Int := 253402300799

/-- The point in time for seconds, or milliseconds if there are too many, and millionths of a
second. -/
def ofEpoch (number : Int) (more : Nat) : Except EpochError Timestamp :=
  let (seconds, micros) :=
    if number.natAbs ≤ mostSeconds then (number, more)
    else (Int.fdiv number 1000, (Int.fmod number 1000).toNat * 1000 + more)
  let seconds := seconds + micros / 1000000
  if seconds < -secondsToEpoch then .error .tooEarly
  else if lastSecond < seconds then .error .tooLate
  else
    let days := Int.fdiv seconds 86400
    let inDay := (Int.fmod seconds 86400).toNat
    .ok ⟨Day.ofCount (days + daysToEpoch).toNat, inDay / 3600, inDay / 60 % 60, inDay % 60,
      micros % 1000000, some 0⟩

/-- The point in time for a number of seconds. -/
def ofSeconds (number : Float) : Except EpochError Timestamp :=
  if number.isNaN then .error .notANumber
  else if 1.0e18 < number then .error .tooLate
  else if number < -1.0e18 then .error .tooEarly
  else
    let whole := number.floor
    let part := (number - Float.ofInt (truncated number)).abs
    ofEpoch (truncated whole) (part * 1000000.0).round.toUInt64.toNat

/-- The whole number that a text writes with a sign in front. -/
def wholeSeconds? : List Char → Option Int
  | '-' :: digits => if digits ≠ [] && digits.all Char.isDigit then
      some (-(valueOfDigits digits : Int)) else none
  | digits => if digits ≠ [] && digits.all Char.isDigit then
      some (valueOfDigits digits) else none

/-- The point in time that a value writes or counts. -/
def ofValue : Value → Checked Timestamp
  | .text words =>
    match (read? words.toList).or ((wholeSeconds? words.toList).bind (ofEpoch · 0 |>.toOption)) with
    | some moment => .accepted moment
    | none =>
      match Day.readAll words.toList with
      | .ok date => .accepted ⟨date, 0, 0, 0, 0, none⟩
      | .error error => .refused (.unreadableTime error.message)
  | .int number =>
    match ofEpoch number 0 with
    | .ok moment => .accepted moment
    | .error error => .refused (.timeOutOfRange error.message)
  | .float number =>
    match ofSeconds number with
    | .ok moment => .accepted moment
    | .error error => .refused (.timeOutOfRange error.message)
  | .raw _ => .refused .undecodableText
  | _ => .refused .notTime

end Timestamp

end Enhance
