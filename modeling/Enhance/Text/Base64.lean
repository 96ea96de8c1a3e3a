/-!
# Bytes written with sixty-four characters

Four characters stand for three bytes. Characters outside the alphabet are skipped, and the
text ends where enough padding has been read to fill up a group of four.
-/

namespace Enhance.Text

/-- The number that a character stands for. -/
def base64Value? (c : Char) : Option Nat :=
  if 'A' ≤ c && c ≤ 'Z' then some (c.toNat - 'A'.toNat)
  else if 'a' ≤ c && c ≤ 'z' then some (c.toNat - 'a'.toNat + 26)
  else if c.isDigit then some (c.toNat - '0'.toNat + 52)
  else if c = '+' then some 62
  else if c = '/' then some 63
  else none

/-- Why a text stands for no bytes. -/
inductive Base64Error where
  /-- The last group has one character only. `count` is the number of characters. -/
  | lonely (count : Nat)
  | padding
  deriving DecidableEq, Repr

/-- Why a text stands for no bytes. -/
def Base64Error.message : Base64Error → String
  | .lonely count =>
    s!"Invalid base64-encoded string: number of data characters ({count}) cannot be 1 more " ++
      "than a multiple of 4"
  | .padding => "Incorrect padding"

/-- What is left over after the characters of a group that is not full. -/
structure Base64Group where
  /-- How many characters of the group were read. -/
  size : Nat := 0
  /-- The bits that make up no byte yet. -/
  bits : Nat := 0
  /-- The padding after the last character. -/
  pads : Nat := 0

/-- The bytes that a text stands for, after a group that has begun. -/
def decodeBase64From (group : Base64Group) (bytes : List UInt8) :
    List Char → Except Base64Error (List UInt8)
  | [] =>
    if group.size = 0 then .ok bytes.reverse
    else if group.size = 1 then .error (.lonely (bytes.length / 3 * 4 + 1))
    else .error .padding
  | c :: rest =>
    if c = '=' then
      if 2 ≤ group.size then
        if 4 ≤ group.size + group.pads + 1 then .ok bytes.reverse
        else decodeBase64From { group with pads := group.pads + 1 } bytes rest
      else decodeBase64From group bytes rest
    else
      match base64Value? c with
      | none => decodeBase64From group bytes rest
      | some value =>
        match group.size with
        | 0 => decodeBase64From ⟨1, value, 0⟩ bytes rest
        | 1 =>
          decodeBase64From ⟨2, value % 16, 0⟩
            (UInt8.ofNat (group.bits * 4 + value / 16) :: bytes) rest
        | 2 =>
          decodeBase64From ⟨3, value % 4, 0⟩
            (UInt8.ofNat (group.bits * 16 + value / 4) :: bytes) rest
        | _ => decodeBase64From {} (UInt8.ofNat (group.bits * 64 + value) :: bytes) rest

/-- The bytes that a text stands for. -/
def decodeBase64 (text : List Char) : Except Base64Error (List UInt8) :=
  decodeBase64From {} [] text

end Enhance.Text
