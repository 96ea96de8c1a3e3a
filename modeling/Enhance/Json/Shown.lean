import Enhance.Json.Printer

/-!
# Structured values in messages

Messages show a value as it would be written in a program: texts between quotes, the truth
values capitalised, and `None` for nothing. A row of values is shown in round brackets.
-/

namespace Enhance.Json

open Enhance.Text Enhance.Number

/-- How numbers that are no finite number are shown. -/
def shownSpelling : Spelling := ⟨"nan", "inf"⟩

mutual

/-- A value as messages show it. -/
def shownChars : Json → List Char
  | .null => ['N', 'o', 'n', 'e']
  | .bool true => ['T', 'r', 'u', 'e']
  | .bool false => ['F', 'a', 'l', 's', 'e']
  | .int value => intLiteral value
  | .float value => (floatText shownSpelling value).toList
  | .str text => quotedChars text.toList
  | .raw text => text.quotedChars
  | .arr [] => ['[', ']']
  | .arr (item :: items) => '[' :: shownChars item ++ shownItems items ++ [']']
  | .obj [] => ['\x7b', '\x7d']
  | .obj ((name, value) :: fields) =>
    '\x7b' :: quotedChars name.toList ++ [':', ' '] ++ shownChars value ++
      shownFields fields ++ ['\x7d']

/-- The items after the first one. -/
def shownItems : List Json → List Char
  | [] => []
  | item :: items => ',' :: ' ' :: shownChars item ++ shownItems items

/-- The fields after the first one. -/
def shownFields : List (String × Json) → List Char
  | [] => []
  | (name, value) :: fields =>
    ',' :: ' ' :: quotedChars name.toList ++ [':', ' '] ++ shownChars value ++
      shownFields fields

end

/-- A value as messages show it. -/
def shown (value : Json) : String :=
  String.ofList value.shownChars

/-- A value as a message of its own: a text stands for itself. -/
def said : Json → String
  | .str text => text
  | value => value.shown

/-- A row of values as messages show it. -/
def shownRow : List Json → String
  | [item] => "(" ++ item.shown ++ ",)"
  | items => "(" ++ ", ".intercalate (items.map shown) ++ ")"

end Enhance.Json
