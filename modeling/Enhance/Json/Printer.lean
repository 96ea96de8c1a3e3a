import Enhance.Json.Basic
import Enhance.Number.Shortest
import Enhance.Text.Quoted

/-!
# The text of structured values

Printed values are ASCII only: every character outside the printable ASCII characters is
written as an escape, one beyond the first plane as a pair of surrogates. The compact layout
has no line break, the indented one puts each item on a line of its own.
-/

namespace Enhance.Json

open Enhance.Text Enhance.Number

/-- How numbers that are no finite number are written. -/
def spelling : Spelling := ⟨"NaN", "Infinity"⟩

/-- One code unit as an escape. -/
def escapedUnit (unit : Nat) : List Char :=
  '\\' :: 'u' :: hexDigits 4 unit

/-- One character inside a printed text. -/
def escapedChar (c : Char) : List Char :=
  if c = '"' || c = '\\' then ['\\', c]
  else if c = '\n' then ['\\', 'n']
  else if c = '\r' then ['\\', 'r']
  else if c = '\t' then ['\\', 't']
  else if c = '\x0c' then ['\\', 'f']
  else if c = '\x08' then ['\\', 'b']
  else if 0x20 ≤ c.toNat && c.toNat < 0x7f then [c]
  else if c.toNat < 0x10000 then escapedUnit c.toNat
  else
    let offset := c.toNat - 0x10000
    escapedUnit (0xd800 + offset / 0x400) ++ escapedUnit (0xdc00 + offset % 0x400)

/-- A printed text. -/
def textLiteral (text : String) : List Char :=
  '"' :: text.toList.flatMap escapedChar ++ ['"']

/-- A printed text with halves. -/
def rawLiteral (text : RawText) : List Char :=
  let escaped : Sign → List Char
    | .whole c => escapedChar c
    | half => escapedUnit half.code
  '"' :: text.signs.flatMap escaped ++ ['"']

/-- A printed integer. -/
def intLiteral (value : Int) : List Char :=
  if value < 0 then '-' :: Nat.toDigits 10 value.natAbs else Nat.toDigits 10 value.natAbs

/-- Where the items of an array or object stand. -/
structure Layout where
  /-- What stands between the opening bracket and the first item. -/
  first : List Char
  /-- What stands between two items. -/
  between : List Char
  /-- What stands between the last item and the closing bracket. -/
  last : List Char

/-- How values are laid out. -/
inductive Style where
  /-- On one line. -/
  | compact
  /-- One line an item, two blanks of indentation a level. -/
  | indented
  deriving DecidableEq, Repr

/-- The start of a line at a level. -/
def lineStart (level : Nat) : List Char :=
  '\n' :: List.replicate (2 * level) ' '

/-- The layout of the items of a value at a level. -/
def Style.layout (style : Style) (level : Nat) : Layout :=
  match style with
  | .compact => ⟨[], [',', ' '], []⟩
  | .indented => ⟨lineStart (level + 1), ',' :: lineStart (level + 1), lineStart level⟩

mutual

/-- A printed value at a level of nesting. -/
def render (style : Style) (level : Nat) : Json → List Char
  | .null => ['n', 'u', 'l', 'l']
  | .bool true => ['t', 'r', 'u', 'e']
  | .bool false => ['f', 'a', 'l', 's', 'e']
  | .int value => intLiteral value
  | .float value => (floatText spelling value).toList
  | .str text => textLiteral text
  | .raw text => rawLiteral text
  | .arr [] => ['[', ']']
  | .arr (item :: items) =>
    '[' :: (style.layout level).first ++ render style (level + 1) item ++
      renderItems style level items ++ (style.layout level).last ++ [']']
  | .obj [] => ['\x7b', '\x7d']
  | .obj ((name, value) :: fields) =>
    '\x7b' :: (style.layout level).first ++ textLiteral name ++ [':', ' '] ++
      render style (level + 1) value ++ renderFields style level fields ++
      (style.layout level).last ++ ['\x7d']

/-- The items after the first one. -/
def renderItems (style : Style) (level : Nat) : List Json → List Char
  | [] => []
  | item :: items =>
    (style.layout level).between ++ render style (level + 1) item ++
      renderItems style level items

/-- The fields after the first one. -/
def renderFields (style : Style) (level : Nat) : List (String × Json) → List Char
  | [] => []
  | (name, value) :: fields =>
    (style.layout level).between ++ textLiteral name ++ [':', ' '] ++
      render style (level + 1) value ++ renderFields style level fields

end

/-- A value on one line. -/
def compact (value : Json) : String :=
  String.ofList (value.render .compact 0)

/-- A value with an item a line. -/
def indented (value : Json) : String :=
  String.ofList (value.render .indented 0)

end Enhance.Json
