/-!
# Reading decimals

The floating-point number nearest to a decimal. Powers of ten that lie far outside the range
of these numbers give zero or infinity at once, so that no huge power is ever computed.
-/

namespace Enhance.Number

/-- The value of decimal digits, most significant first. -/
def valueOfDigits (digits : List Char) : Nat :=
  digits.foldl (fun value c => value * 10 + (c.toNat - '0'.toNat)) 0

/-- The number nearest to `digits * 10 ^ exponent`. -/
def nearestFloat (digits : Nat) (exponent : Int) : Float :=
  if digits = 0 then 0.0
  else
    let size := (Nat.toDigits 10 digits).length
    if exponent + size > 400 then 1.0 / 0.0
    else if exponent + size < -400 then 0.0
    else if 0 ≤ exponent then Float.ofScientific digits false exponent.toNat
    else Float.ofScientific digits true (-exponent).toNat

/-- Whether a number has no fractional part. -/
def isWhole (number : Float) : Bool :=
  number.isFinite && number.floor == number

/-- The whole part of a number, which has to be finite. -/
def truncated (number : Float) : Int :=
  let magnitude := number.abs.floor
  let whole : Int :=
    if magnitude < 9007199254740992.0 then magnitude.toUInt64.toNat
    else
      let (mantissa, exponent) := magnitude.frExp
      ((mantissa * 9007199254740992.0).toUInt64.toNat <<< (exponent - 53).toNat : Nat)
  if number < 0.0 then -whole else whole

end Enhance.Number
