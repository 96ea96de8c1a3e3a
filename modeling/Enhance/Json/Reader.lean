import Enhance.Json.Basic
import Enhance.Number.Decimal
import Enhance.Text.Hex

/-!
# Reading structured values

`read?` gives the value that a text writes, or nothing if the text writes none. Blanks may
stand between any two tokens. A number is an integer unless it has a fraction or an exponent,
and of two fields of one name both are kept. A text may hold halves of characters, the name of a field
may not.
-/

namespace Enhance.Json

open Enhance.Text Enhance.Number

/-- The blanks that may stand between tokens. -/
def isBlank (c : Char) : Bool :=
  c = ' ' || c = '\n' || c = '\r' || c = '\t'

/-- The text from its first character that is no blank. -/
def skipBlanks (text : List Char) : List Char :=
  text.dropWhile isBlank

/-- The number that four hexadecimal digits write. -/
def unit? : List Char → Option (Nat × List Char)
  | a :: b :: c :: d :: rest => do
    let a ← hexValue? a
    let b ← hexValue? b
    let c ← hexValue? c
    let d ← hexValue? d
    return (((a * 16 + b) * 16 + c) * 16 + d, rest)
  | _ => none

/-- The low half that is written at the front of a text, less the first of the low halves. -/
def lowHalf? : List Char → Option (Nat × List Char)
  | '\\' :: 'u' :: rest => do
    let (low, rest) ← unit? rest
    if 0xdc00 ≤ low && low < 0xe000 then return (low - 0xdc00, rest) else none
  | _ => none

/-- The sign of an escape, after the backslash. A high half and a low one after it are one character; one
of them alone stays a half. -/
def escape? : List Char → Option (Sign × List Char)
  | '"' :: rest => some (.whole '"', rest)
  | '\\' :: rest => some (.whole '\\', rest)
  | '/' :: rest => some (.whole '/', rest)
  | 'b' :: rest => some (.whole '\x08', rest)
  | 'f' :: rest => some (.whole '\x0c', rest)
  | 'n' :: rest => some (.whole '\n', rest)
  | 'r' :: rest => some (.whole '\r', rest)
  | 't' :: rest => some (.whole '\t', rest)
  | 'u' :: rest => do
    let (unit, rest) ← unit? rest
    if 0xd800 ≤ unit && unit < 0xe000 then
      match if unit < 0xdc00 then lowHalf? rest else none with
      | some (low, rest) => return (.whole (Char.ofNat (0x10000 + (unit - 0xd800) * 0x400 + low)), rest)
      | none => return (.ofHalf (unit - 0xd800), rest)
    else return (.whole (Char.ofNat unit), rest)
  | _ => none

/-- The signs up to the closing quote, latest first, and what follows it. -/
def readText? : (fuel : Nat) → List Sign → List Char → Option (List Sign × List Char)
  | 0, _, _ => none
  | _ + 1, _, [] => none
  | fuel + 1, seen, c :: rest =>
    if c = '"' then some (seen, rest)
    else if c = '\\' then
      match escape? rest with
      | some (sign, rest) => readText? fuel (sign :: seen) rest
      | none => none
    else readText? fuel (.whole c :: seen) rest

/-- The digits at the front of a text, which has to have one. -/
def digits? (text : List Char) : Option (List Char × List Char) :=
  match text.takeWhile Char.isDigit with
  | [] => none
  | digits => some (digits, text.dropWhile Char.isDigit)

/-- The number at the front of a text. -/
def readNumber? (text : List Char) : Option (Json × List Char) := do
  let (negative, text) := match text with
    | '-' :: rest => (true, rest)
    | _ => (false, text)
  let (whole, rest) ← digits? text
  let (fraction, rest) ← match rest with
    | '.' :: rest => digits? rest
    | _ => some ([], rest)
  let (exponent, rest) ← match rest with
    | c :: rest' =>
      if c = 'e' || c = 'E' then
        match rest' with
        | '-' :: rest' => (digits? rest').map fun (digits, rest) =>
            (some (-(valueOfDigits digits : Int)), rest)
        | '+' :: rest' => (digits? rest').map fun (digits, rest) =>
            (some (valueOfDigits digits : Int), rest)
        | _ => (digits? rest').map fun (digits, rest) =>
            (some (valueOfDigits digits : Int), rest)
      else some (none, rest)
    | [] => some (none, rest)
  if fraction = [] && exponent = none then
    let value : Int := valueOfDigits whole
    return (.int (if negative then -value else value), rest)
  else
    let value := nearestFloat (valueOfDigits (whole ++ fraction))
      (exponent.getD 0 - fraction.length)
    return (.float (if negative then -value else value), rest)

/-- Removes a word from the front of a text. -/
def word? (word : String) (value : Json) (text : List Char) : Option (Json × List Char) :=
  if word.toList.isPrefixOf text then some (value, text.drop word.length) else none

mutual

/-- The value at the front of a text and what follows it. -/
def readValue? : (fuel : Nat) → List Char → Option (Json × List Char)
  | 0, _ => none
  | fuel + 1, text =>
    match skipBlanks text with
    | 'n' :: rest => word? "null" .null ('n' :: rest)
    | 't' :: rest => word? "true" (.bool true) ('t' :: rest)
    | 'f' :: rest => word? "false" (.bool false) ('f' :: rest)
    | 'N' :: rest => word? "NaN" (.float (0.0 / 0.0)) ('N' :: rest)
    | 'I' :: rest => word? "Infinity" (.float (1.0 / 0.0)) ('I' :: rest)
    | '-' :: 'I' :: rest => word? "-Infinity" (.float (-1.0 / 0.0)) ('-' :: 'I' :: rest)
    | '"' :: rest =>
      (readText? fuel [] rest).map fun (seen, rest) => (.ofRaw ⟨seen.reverse⟩, rest)
    | '[' :: rest =>
      match skipBlanks rest with
      | ']' :: rest => some (.arr [], rest)
      | rest => readItems? fuel [] rest
    | '\x7b' :: rest =>
      match skipBlanks rest with
      | '\x7d' :: rest => some (.obj [], rest)
      | rest => readFields? fuel [] rest
    | text => readNumber? text

/-- The items up to the closing bracket; those already read are given latest first. -/
def readItems? : (fuel : Nat) → List Json → List Char → Option (Json × List Char)
  | 0, _, _ => none
  | fuel + 1, seen, text =>
    match readValue? fuel text with
    | none => none
    | some (item, rest) =>
      match skipBlanks rest with
      | ',' :: rest => readItems? fuel (item :: seen) rest
      | ']' :: rest => some (.arr (item :: seen).reverse, rest)
      | _ => none

/-- The fields up to the closing brace; those already read are given latest first. -/
def readFields? : (fuel : Nat) → List (String × Json) → List Char →
    Option (Json × List Char)
  | 0, _, _ => none
  | fuel + 1, seen, text =>
    match skipBlanks text with
    | '"' :: rest =>
      match readText? fuel [] rest with
      | none => none
      | some (name, rest) =>
        match skipBlanks rest with
        | ':' :: rest =>
          match readValue? fuel rest with
          | none => none
          | some (value, rest) =>
            match RawText.text? ⟨name.reverse⟩ with
            | none => none
            | some name =>
              let seen := (name, value) :: seen
              match skipBlanks rest with
              | ',' :: rest => readFields? fuel seen rest
              | '\x7d' :: rest => some (.obj seen.reverse, rest)
              | _ => none
        | _ => none
    | _ => none

end

/-- The value that a text writes. -/
def read? (text : String) : Option Json :=
  match readValue? (text.length + 1) text.toList with
  | some (value, rest) => if skipBlanks rest = [] then some value else none
  | none => none

end Enhance.Json
