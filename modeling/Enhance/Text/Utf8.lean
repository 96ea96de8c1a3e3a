/-!
# Texts as bytes

A text is stored as its UTF-8 encoding. Reading is strict: `decodeUtf8` gives the text, or
the first place that no encoding of a text can have and what is wrong there.
-/

namespace Enhance.Text

/-- The bytes of a text. -/
def encodeUtf8 (text : String) : List UInt8 :=
  text.toUTF8.toList

/-- Why bytes are no text. `position` is the first byte of the faulty character. -/
structure EncodingError where
  position : Nat
  /-- The number of bytes the fault spans. -/
  span : Nat
  /-- The faulty bytes. -/
  bytes : List UInt8
  reason : String
  deriving BEq, DecidableEq, Repr

/-- How many further bytes a character takes after its first byte, and the interval in which
the second one lies; none if no character begins with this byte. -/
def followers (first : Nat) : Option (Nat × Nat × Nat) :=
  if first < 0x80 then some (0, 0, 0)
  else if first < 0xc2 then none
  else if first < 0xe0 then some (1, 0x80, 0xbf)
  else if first = 0xe0 then some (2, 0xa0, 0xbf)
  else if first = 0xed then some (2, 0x80, 0x9f)
  else if first < 0xf0 then some (2, 0x80, 0xbf)
  else if first = 0xf0 then some (3, 0x90, 0xbf)
  else if first < 0xf4 then some (3, 0x80, 0xbf)
  else if first = 0xf4 then some (3, 0x80, 0x8f)
  else none

/-- The payload of a first byte that `count` further bytes follow. -/
def leadBits (first count : Nat) : Nat :=
  match count with
  | 0 => first
  | 1 => first % 0x20
  | 2 => first % 0x10
  | _ => first % 0x08

/-- Takes the further bytes of a character. The error is the number of good bytes and whether
the bytes ended. -/
def takeFollowers : (count low high value : Nat) → List UInt8 → (taken : Nat) →
    Except (Nat × Bool) (Nat × List UInt8)
  | 0, _, _, value, bytes, _ => .ok (value, bytes)
  | _ + 1, _, _, _, [], taken => .error (taken, true)
  | count + 1, low, high, value, byte :: bytes, taken =>
    if low ≤ byte.toNat && byte.toNat ≤ high then
      takeFollowers count 0x80 0xbf (value * 0x40 + byte.toNat % 0x40) bytes (taken + 1)
    else .error (taken, false)

/-- Reads characters until the bytes, of which there are at most `fuel`, are used up. -/
def decodeUtf8From : (fuel : Nat) → (position : Nat) → List UInt8 → List Char →
    Except EncodingError (List Char)
  | _, _, [], text => .ok text.reverse
  | 0, _, _ :: _, text => .ok text.reverse
  | fuel + 1, position, byte :: bytes, text =>
    match followers byte.toNat with
    | none => .error ⟨position, 1, [byte], "invalid start byte"⟩
    | some (count, low, high) =>
      match takeFollowers count low high (leadBits byte.toNat count) bytes 1 with
      | .ok (value, rest) =>
        decodeUtf8From fuel (position + count + 1) rest (Char.ofNat value :: text)
      | .error (taken, ended) =>
        .error ⟨position, taken, (byte :: bytes).take taken,
          if ended then "unexpected end of data" else "invalid continuation byte"⟩

/-- The text that bytes encode. -/
def decodeUtf8 (bytes : List UInt8) : Except EncodingError String :=
  (decodeUtf8From bytes.length 0 bytes []).map String.ofList

end Enhance.Text
