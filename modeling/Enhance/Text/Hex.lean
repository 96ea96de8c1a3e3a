import Enhance.Text.Quoted

/-!
# Bytes as pairs of hexadecimal digits
-/

namespace Enhance.Text

/-- The value of a hexadecimal digit of either case. -/
def hexValue? (c : Char) : Option Nat :=
  if '0' ≤ c && c ≤ '9' then some (c.toNat - '0'.toNat)
  else if 'a' ≤ c && c ≤ 'f' then some (c.toNat - 'a'.toNat + 10)
  else if 'A' ≤ c && c ≤ 'F' then some (c.toNat - 'A'.toNat + 10)
  else none

/-- Two digits a byte, most significant first. -/
def hexOfBytes (bytes : List UInt8) : String :=
  String.ofList (bytes.flatMap fun byte => hexDigits 2 byte.toNat)

/-- The bytes that pairs of digits stand for; none if a digit is missing or is none. -/
def bytesOfHex? : List Char → Option (List UInt8)
  | [] => some []
  | high :: low :: rest => do
    let first ← hexValue? high
    let second ← hexValue? low
    let bytes ← bytesOfHex? rest
    return UInt8.ofNat (16 * first + second) :: bytes
  | [_] => none

end Enhance.Text
