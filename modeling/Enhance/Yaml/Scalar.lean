import Enhance.Number.Literal
import Enhance.Text.Base64
import Enhance.Value.Basic
import Enhance.Yaml.Node

/-!
# The values of scalars

What the text of a scalar stands for, for each of the common tags. Underscores in numbers are
left out. A scalar may be given a tag that its text does not fit.
-/

namespace Enhance.Yaml.Scalar

open Enhance.Number

/-- Takes a sign off a number, which must have at least one character. -/
def splitNumberSign (text : List Char) : Except ConversionError (Bool × List Char) :=
  if text = [] then .error .empty else .ok (splitSign text)

/-- The most digits that a decimal whole number may have. -/
def maxDigits : Nat := 4300

/-- A whole number to a base. -/
def wholeNumber (base : Nat) (text : List Char) : Except ConversionError Int :=
  match wholeNumber? base text with
  | some value =>
    let count := (splitSign (Text.trimmed text)).2.length
    if base = 10 && maxDigits < count then .error (.tooManyDigits count) else .ok value
  | none => .error (.notInteger base (String.ofList text))

/-- The whole number that a text stands for. -/
def intOf (text : String) : Except ConversionError Int := do
  let (isNegative, bare) ← splitNumberSign (text.toList.filter (· ≠ '_'))
  let magnitude ← match bare with
    | ['0'] => pure 0
    | '0' :: 'b' :: digits => wholeNumber 2 digits
    | '0' :: 'x' :: digits => wholeNumber 16 digits
    | '0' :: _ => wholeNumber 8 bare
    | [] => throw .empty
    | _ =>
      if bare.contains ':' then do
        let parts ← (Tag.clockParts bare).mapM (wholeNumber 10)
        pure (parts.foldl (· * 60 + ·) 0)
      else wholeNumber 10 bare
  return if isNegative then -magnitude else magnitude

/-- A decimal number. -/
def decimal (text : List Char) : Except ConversionError Float :=
  match decimal? text with
  | some value => .ok value
  | none => .error (.notFloat (String.ofList text))

/-- The number with a point that a text stands for. -/
def floatOf (text : String) : Except ConversionError Float := do
  let (isNegative, bare) ← splitNumberSign ((text.toList.filter (· ≠ '_')).map Char.toLower)
  let magnitude ←
    if bare = ".inf".toList then pure (1.0 / 0.0)
    else if bare = ".nan".toList then return 0.0 / 0.0
    else if bare.contains ':' then do
      let parts ← (Tag.clockParts bare).mapM decimal
      let sum := parts.reverse.foldl
        (fun (sum, base) part => (sum + part * Float.ofNat base, base * 60)) (0.0, 1)
      pure sum.1
    else decimal bare
  return if isNegative then -1.0 * magnitude else magnitude

/-- The truth value that a text stands for. -/
def boolOf (text : String) : Except ConversionError Bool :=
  let word := String.ofList (text.toList.map Char.toLower)
  match Tag.boolOf? word with
  | some value => .ok value
  | none => .error (.notBool word)

/-- The number that digits write. -/
def numberOf (digits : List Char) : Nat :=
  valueOfDigits digits

/-- Six digits of a fraction of a second. -/
def microseconds (digits : List Char) : Nat :=
  let six := digits.take 6
  numberOf (six ++ List.replicate (6 - six.length) '0')

/-- The day or the point in time that a text stands for. -/
def timeOf (text : String) : Except ConversionError Value :=
  let chars := text.toList
  let chars := if chars.getLast? = some '\n' then chars.dropLast else chars
  match Tag.timeText? chars with
  | none => .error .notTime
  | some time =>
    let year := numberOf time.year
    let month := numberOf time.month
    let day := numberOf time.day
    match time.clock with
    | none => ((Day.ofNumbers year month day).map Value.date).mapError .time
    | some (hour, minute, second, fraction) =>
      let offset : Option Int := time.offset.map fun offset =>
        match offset with
        | none => 0
        | some (sign, hours, minutes) =>
          let seconds : Int := numberOf hours * 3600 + numberOf minutes * 60
          if sign = '-' then -seconds else seconds
      ((Timestamp.ofNumbers year month day (numberOf hour) (numberOf minute) (numberOf second)
        (microseconds fraction) offset).map Value.time).mapError .time

/-- The first run of characters outside of ASCII and the number of characters before it. -/
def foreignRun (text : List Char) : Nat × List Char :=
  let before := text.takeWhile (·.toNat < 128)
  (before.length, (text.drop before.length).takeWhile (128 ≤ ·.toNat))

/-- What is said about characters outside of ASCII. -/
def foreignMessage (text : List Char) : Option String :=
  let (position, run) := foreignRun text
  match run with
  | [] => none
  | [c] =>
    some (s!"'ascii' codec can't encode character '{String.ofList (Text.numbered c)}' " ++
      s!"in position {position}: ordinal not in range(128)")
  | _ =>
    some (s!"'ascii' codec can't encode characters in position {position}-" ++
      s!"{position + run.length - 1}: ordinal not in range(128)")

/-- The bytes that a text stands for. -/
def bytesOf (text : String) : Except ContentError (List UInt8) :=
  match foreignMessage text.toList with
  | some message => .error (.notAscii message)
  | none => (Text.decodeBase64 text.toList).mapError fun error => .notBase64 error.message

end Enhance.Yaml.Scalar
