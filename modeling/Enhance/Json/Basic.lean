import Enhance.Text.Half

/-!
# Structured values

The values that reports and log entries are made of. The fields of an object keep the order
in which they were put there.
-/

namespace Enhance

/-- A structured value. -/
inductive Json where
  | null
  | bool (value : Bool)
  | int (value : Int)
  | float (value : Float)
  | str (text : String)
  /-- A text with halves of characters. -/
  | raw (text : Text.RawText)
  | arr (items : List Json)
  | obj (fields : List (String × Json))
  deriving Inhabited, Repr

namespace Json

/-- A text, or null if there is none. -/
def optionalText (text : Option String) : Json :=
  match text with
  | some text => .str text
  | none => .null

/-- A text that may hold halves of characters. -/
def ofRaw (text : Text.RawText) : Json :=
  match text.text? with
  | some text => .str text
  | none => .raw text

/-- An array of texts. -/
def texts (items : List String) : Json :=
  .arr (items.map .str)

/-- A natural number. -/
def nat (value : Nat) : Json :=
  .int value

/-- The value of the first field of that name. -/
def field? (name : String) : Json → Option Json
  | .obj fields => fields.lookup name
  | _ => none

/-- The value of a field, null if the object has no such field. -/
def fieldD (value : Json) (name : String) : Json :=
  (value.field? name).getD .null

/-- The text, if the value is one. -/
def text? : Json → Option String
  | .str text => some text
  | _ => none

/-- The items, if the value is an array. -/
def items? : Json → Option (List Json)
  | .arr items => some items
  | _ => none

/-- The integer, if the value is one. -/
def int? : Json → Option Int
  | .int value => some value
  | _ => none

@[simp] theorem text?_str (text : String) : (Json.str text).text? = some text := rfl

@[simp] theorem items?_arr (items : List Json) : (Json.arr items).items? = some items := rfl

@[simp] theorem field?_obj (name : String) (fields : List (String × Json)) :
    (Json.obj fields).field? name = fields.lookup name := rfl

end Json

end Enhance
