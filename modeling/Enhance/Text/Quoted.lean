import Enhance.Text.Printable

/-!
# Quoted texts

Messages show a text between quotes so that its ends and its odd characters can be seen.
The quote is the apostrophe, or the double quote for a text that holds an apostrophe and no
double quote. The quote itself and the backslash are escaped by a backslash, unprintable
characters are shown by their number in hexadecimal digits.
-/

namespace Enhance.Text

/-- The digit of a number below sixteen. -/
def hexDigit (n : Nat) : Char :=
  (['0', '1', '2', '3', '4', '5', '6', '7', '8', '9', 'a', 'b', 'c', 'd', 'e', 'f'][n]?).getD '0'

/-- The lowest `width` hexadecimal digits of a number, most significant first. -/
def hexDigits : Nat → Nat → List Char
  | 0, _ => []
  | width + 1, n => hexDigits width (n / 16) ++ [hexDigit (n % 16)]

@[simp] theorem length_hexDigits (width n : Nat) : (hexDigits width n).length = width := by
  induction width generalizing n with
  | zero => rfl
  | succ width ih => simp [hexDigits, ih]

/-- How an unprintable character is shown: by two, four or eight digits. -/
def numbered (c : Char) : List Char :=
  if c.toNat ≤ 0xff then '\\' :: 'x' :: hexDigits 2 c.toNat
  else if c.toNat ≤ 0xffff then '\\' :: 'u' :: hexDigits 4 c.toNat
  else '\\' :: 'U' :: hexDigits 8 c.toNat

/-- One character between quotes. -/
def quotedChar (quote c : Char) : List Char :=
  if c = quote || c = '\\' then ['\\', c]
  else if c = '\t' then ['\\', 't']
  else if c = '\n' then ['\\', 'n']
  else if c = '\r' then ['\\', 'r']
  else if isPrintable c then [c]
  else numbered c

/-- The quote that needs the fewest escapes, the apostrophe where both would do. -/
def quoteFor (text : List Char) : Char :=
  if text.contains '\'' && !text.contains '"' then '"' else '\''

/-- A text between quotes. -/
def quotedChars (text : List Char) : List Char :=
  let quote := quoteFor text
  quote :: text.flatMap (quotedChar quote) ++ [quote]

/-- A text between quotes. -/
def quoted (text : String) : String :=
  String.ofList (quotedChars text.toList)

/-- Texts between quotes, in square brackets and separated by commas. -/
def quotedList (texts : List String) : String :=
  "[" ++ ", ".intercalate (texts.map quoted) ++ "]"

/-- Bytes between quotes: those of the printable ASCII characters as these, the others by
two hexadecimal digits. -/
def quotedBytes (bytes : List UInt8) : String :=
  let quote := quoteFor (bytes.map fun byte => Char.ofNat byte.toNat)
  let shown (byte : UInt8) : List Char :=
    if byte.toNat < 0x7f then quotedChar quote (Char.ofNat byte.toNat)
    else '\\' :: 'x' :: hexDigits 2 byte.toNat
  String.ofList ('b' :: quote :: bytes.flatMap shown ++ [quote])

end Enhance.Text
