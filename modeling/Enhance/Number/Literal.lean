import Enhance.Number.Decimal
import Enhance.Text.Blank
import Enhance.Text.Hex

/-!
# Reading numbers

The numbers that a text may write apart from any document: whole numbers to some base and
decimal numbers with a point or an exponent, with blanks around them and a sign in front.
-/

namespace Enhance.Number

open Enhance.Text

/-- Takes a sign off a text; the flag says that it is a minus. -/
def splitSign (text : List Char) : Bool × List Char :=
  match text with
  | '-' :: rest => (true, rest)
  | '+' :: rest => (false, rest)
  | _ => (false, text)

/-- The value of digits to a base, of which there is at least one. -/
def digits? (base : Nat) (text : List Char) : Option Nat :=
  if text = [] then none
  else
    text.foldlM (fun value c => do
      let digit ← hexValue? c
      if digit < base then some (value * base + digit) else none) 0

/-- The mark that may stand before the digits to a base. -/
def baseMark : Nat → List Char
  | 2 => ['b', 'B']
  | 8 => ['o', 'O']
  | 16 => ['x', 'X']
  | _ => []

/-- A whole number to a base, which may have a zero and a mark for the base in front. -/
def wholeNumber? (base : Nat) (text : List Char) : Option Int := do
  let (isNegative, bare) := splitSign (trimmed text)
  let digits := match bare with
    | '0' :: mark :: rest => if (baseMark base).contains mark then rest else bare
    | _ => bare
  let value ← digits? base digits
  return if isNegative then -(value : Int) else value

/-- The exponent after the digits of a decimal number. -/
def exponent? (text : List Char) : Option Int :=
  match text with
  | [] => some 0
  | c :: rest =>
    if c = 'e' || c = 'E' then
      let (isNegative, digits) := splitSign rest
      if digits.all Char.isDigit then
        (digits? 10 digits).map fun value => if isNegative then -(value : Int) else value
      else none
    else none

/-- A decimal number, or a word for a number that is not finite. -/
def decimal? (text : List Char) : Option Float := do
  let (isNegative, bare) := splitSign (trimmed text)
  let lower := String.ofList (bare.map Char.toLower)
  let magnitude ←
    if lower = "inf" || lower = "infinity" then some (1.0 / 0.0)
    else if lower = "nan" then some (0.0 / 0.0)
    else
      let whole := bare.takeWhile Char.isDigit
      let rest := bare.dropWhile Char.isDigit
      let (fraction, rest) := match rest with
        | '.' :: rest => (rest.takeWhile Char.isDigit, rest.dropWhile Char.isDigit)
        | _ => ([], rest)
      if whole = [] && fraction = [] then none
      else (exponent? rest).map fun exponent =>
        nearestFloat (valueOfDigits (whole ++ fraction)) (exponent - fraction.length)
  return if isNegative then -magnitude else magnitude

end Enhance.Number
