/-!
# The shortest decimal of a binary number

A binary number `mantissa * 2 ^ exponent` stands for every real number that lies nearer to
it than to its neighbours. `Rounding.shortest` gives the decimal with the fewest digits
among these reals, and of several with that many digits the one nearest to the number.
-/

namespace Enhance.Number

/-- The real numbers that are read as one binary number: those between `low / unit` and
`high / unit`. The number itself is `value / unit`. -/
structure Rounding where
  low : Nat
  value : Nat
  high : Nat
  unit : Nat
  /-- Whether the ends are read as the number too. -/
  closed : Bool
  deriving DecidableEq, Repr

namespace Rounding

/-- The reals around `mantissa * 2 ^ exponent`. The gap below the smallest mantissa of a
binade is half as wide as the gap above it. -/
def around (mantissa : Nat) (exponent : Int) (narrowBelow : Bool) : Rounding :=
  let up := 1 <<< (exponent - 2).toNat
  { low := (4 * mantissa - if narrowBelow then 1 else 2) * up
    value := 4 * mantissa * up
    high := (4 * mantissa + 2) * up
    unit := 1 <<< (2 - exponent).toNat
    closed := mantissa % 2 = 0 }

/-- Whether `digits * 10 ^ place` is one of the reals. -/
def admits (reals : Rounding) (digits : Nat) (place : Int) : Bool :=
  let point := digits * Nat.pow 10 place.toNat * reals.unit
  let low := reals.low * Nat.pow 10 (-place).toNat
  let high := reals.high * Nat.pow 10 (-place).toNat
  if reals.closed then low ≤ point && point ≤ high else low < point && point < high

/-- The number of digits before the point, or minus the number of zeros after it. The fuel
bounds the number of zeros. -/
def leadingPlace (reals : Rounding) : (fuel : Nat) → (scaled : Nat) → Int
  | 0, _ => 0
  | fuel + 1, scaled =>
    if reals.unit ≤ scaled then (Nat.toDigits 10 (scaled / reals.unit)).length
    else leadingPlace reals fuel (scaled * 10) - 1

/-- The neighbours of the number on the grid of multiples of `10 ^ place` that are read as
the number: the nearer one, of two equally near the even one. -/
def onGrid (reals : Rounding) (place : Int) : Option Nat :=
  let numerator := reals.value * Nat.pow 10 (-place).toNat
  let denominator := reals.unit * Nat.pow 10 place.toNat
  let below := numerator / denominator
  let twice := 2 * (numerator % denominator)
  match reals.admits below place && below != 0, reals.admits (below + 1) place with
  | false, false => none
  | true, false => some below
  | false, true => some (below + 1)
  | true, true =>
    if twice < denominator || (twice = denominator && below % 2 = 0) then some below
    else some (below + 1)

/-- The first grid that holds one of the reals, from the coarsest downwards. -/
def firstGrid (reals : Rounding) : (fuel : Nat) → (place : Int) → Nat × Int
  | 0, place => (0, place)
  | fuel + 1, place =>
    match reals.onGrid place with
    | some digits => (digits, place)
    | none => firstGrid reals fuel (place - 1)

/-- The digits of the shortest decimal and the place of the last one. -/
def shortest (reals : Rounding) : Nat × Int :=
  reals.firstGrid 18 (reals.leadingPlace 400 reals.value - 1)

end Rounding

/-- Where the text of a number changes from positional to scientific notation. -/
structure DecimalStyle where
  /-- The least power of ten written positionally. -/
  least : Int
  /-- The first power of ten that is no longer written positionally. -/
  beyond : Int

/-- Numbers are written positionally from 0.0001 up to below 10 ^ 16. -/
def standardStyle : DecimalStyle := ⟨-4, 16⟩

/-- A decimal without trailing zeros. -/
def withoutTrailingZeros : (fuel : Nat) → Nat × Int → Nat × Int
  | 0, decimal => decimal
  | fuel + 1, (digits, place) =>
    if digits ≠ 0 && digits % 10 = 0 then withoutTrailingZeros fuel (digits / 10, place + 1)
    else (digits, place)

/-- The text of `digits * 10 ^ place`. A number written positionally shows that it is no
whole number type by a point, and a power of ten has at least two digits. -/
def decimalText (style : DecimalStyle) (digits : Nat) (place : Int) : String :=
  let (digits, place) := withoutTrailingZeros 400 (digits, place)
  let figures := Nat.toDigits 10 digits
  let power : Int := place + figures.length - 1
  if style.least ≤ power && power < style.beyond then
    if 0 ≤ place then
      String.ofList (figures ++ List.replicate place.toNat '0' ++ ['.', '0'])
    else if 0 ≤ power then
      String.ofList (figures.take (power + 1).toNat ++ '.' :: figures.drop (power + 1).toNat)
    else
      String.ofList ('0' :: '.' :: List.replicate (-power - 1).toNat '0' ++ figures)
  else
    let exponent := Nat.toDigits 10 power.natAbs
    let padded := if exponent.length < 2 then '0' :: exponent else exponent
    let fraction := if figures.length = 1 then [] else '.' :: figures.drop 1
    String.ofList (figures.take 1 ++ fraction ++ 'e' ::
      (if power < 0 then '-' else '+') :: padded)

/-- The parts of a floating-point number. -/
inductive Parts where
  | nan
  | infinite (negative : Bool)
  /-- The number `mantissa * 2 ^ exponent`. -/
  | finite (negative : Bool) (mantissa : Nat) (exponent : Int) (narrowBelow : Bool)

/-- The parts of a number of 64 bits: one of sign, eleven of exponent, 52 of fraction. -/
def partsOfBits (bits : UInt64) : Parts :=
  let n := bits.toNat
  let negative := n.testBit 63
  let biased : Nat := (n >>> 52) % 0x800
  let fraction := n % 0x10000000000000
  if biased = 2047 then if fraction = 0 then .infinite negative else .nan
  else if biased = 0 then .finite negative fraction (-1074) false
  else
    .finite negative (0x10000000000000 + fraction) (Int.ofNat biased - 1075)
      (fraction = 0 && biased != 1)

/-- How numbers that are no finite number are written. -/
structure Spelling where
  nan : String
  infinity : String

/-- The text of a floating-point number with the fewest digits that read back. -/
def floatText (spelling : Spelling) (number : Float) : String :=
  match partsOfBits number.toBits with
  | .nan => spelling.nan
  | .infinite negative => (if negative then "-" else "") ++ spelling.infinity
  | .finite negative mantissa exponent narrowBelow =>
    (if negative then "-" else "") ++
      if mantissa = 0 then "0.0"
      else
        let (digits, place) := (Rounding.around mantissa exponent narrowBelow).shortest
        decimalText standardStyle digits place

end Enhance.Number
