import Enhance.Text.Quoted
import Enhance.Text.Utf8

/-!
# Percent-encoding of file locations

In the text of a location a letter, a digit or one of `_.-~/` stands for itself, and every
other byte for a percent sign and two upper-case hexadecimal digits.
-/

namespace Enhance.Text

/-- Whether a byte stands for itself in the text of a location. -/
def isPlainInLocation (byte : UInt8) : Bool :=
  let c := Char.ofNat byte.toNat
  byte.toNat < 0x80 && (c.isAlphanum || c = '_' || c = '.' || c = '-' || c = '~' || c = '/')

/-- A byte in the text of a location. -/
def percentEncodedByte (byte : UInt8) : List Char :=
  if isPlainInLocation byte then [Char.ofNat byte.toNat]
  else '%' :: (hexDigits 2 byte.toNat).map Char.toUpper

/-- A text with every byte that does not stand for itself encoded. -/
def percentEncoded (text : String) : String :=
  String.ofList ((encodeUtf8 text).flatMap percentEncodedByte)

end Enhance.Text
