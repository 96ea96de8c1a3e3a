import Enhance.Failure
import Enhance.Json.Shown
import Enhance.Timestamp

/-!
# Values of a document

What settings and reports are read from: a document holds the structured values and a few
kinds of value more, such as bytes and dates. The keys of a mapping may be of any kind.
-/

namespace Enhance

/-- A value of a document. -/
inductive Value where
  | null
  | bool (value : Bool)
  | int (value : Int)
  | float (value : Float)
  | text (value : String)
  /-- A text with half of a character. -/
  | raw (value : Text.RawText)
  | bytes (value : List UInt8)
  | date (value : Day)
  | time (value : Timestamp)
  | list (items : List Value)
  /-- The pairs of an ordered mapping, or any other fixed row of values. -/
  | row (items : List Value)
  | set (items : List Value)
  | mapping (entries : List (Value × Value))
  /-- A failure that is kept as the cause of something. -/
  | failure (value : Failure)
  deriving Inhabited

namespace Value

/-- The name of the kind of a value. -/
def kind : Value → String
  | .null => "NoneType"
  | .bool _ => "bool"
  | .int _ => "int"
  | .float _ => "float"
  | .text _ | .raw _ => "str"
  | .bytes _ => "bytes"
  | .date _ => "date"
  | .time _ => "datetime"
  | .list _ => "list"
  | .row _ => "tuple"
  | .set _ => "set"
  | .mapping _ => "dict"
  | .failure value => value.kind

/-- A text that may hold halves of characters. -/
def ofRaw (raw : Text.RawText) : Value :=
  match raw.text? with
  | some words => .text words
  | none => .raw raw

mutual

/-- A structured value as a value of a document. -/
def ofJson : Json → Value
  | .null => .null
  | .bool value => .bool value
  | .int value => .int value
  | .float value => .float value
  | .str words => .text words
  | .raw words => ofRaw words
  | .arr items => .list (ofItems items)
  | .obj fields => .mapping (ofFields fields)

/-- The items of an array as values of a document. -/
def ofItems : List Json → List Value
  | [] => []
  | item :: items => ofJson item :: ofItems items

/-- The fields of an object as the entries of a mapping. -/
def ofFields : List (String × Json) → List (Value × Value)
  | [] => []
  | (name, value) :: fields => (.text name, ofJson value) :: ofFields fields

end

/-- A text, or null if there is none. -/
def optionalText : Option String → Value
  | some words => .text words
  | none => .null

/-- The value that a mapping has for a name. -/
def field? (name : String) : List (Value × Value) → Option Value
  | [] => none
  | (.text key, value) :: entries => if key = name then some value else field? name entries
  | _ :: entries => field? name entries

@[simp] theorem field?_nil (name : String) : field? name [] = none := rfl

@[simp] theorem field?_text (name key : String) (value : Value)
    (entries : List (Value × Value)) :
    field? name ((.text key, value) :: entries) =
      if key = name then some value else field? name entries := rfl

mutual

/-- Whether a value holds no half of a character. -/
def holdsNoHalf : Value → Bool
  | .raw _ => false
  | .list items | .row items | .set items => itemsHoldNoHalf items
  | .mapping entries => entriesHoldNoHalf entries
  | _ => true

/-- Whether some values hold no half of a character. -/
def itemsHoldNoHalf : List Value → Bool
  | [] => true
  | value :: values => value.holdsNoHalf && itemsHoldNoHalf values

/-- Whether the entries of a mapping hold no half of a character. -/
def entriesHoldNoHalf : List (Value × Value) → Bool
  | [] => true
  | (key, value) :: entries => key.holdsNoHalf && value.holdsNoHalf && entriesHoldNoHalf entries

end

end Value

end Enhance
