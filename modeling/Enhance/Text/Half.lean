import Enhance.Text.Quoted

/-!
# Texts with halves of characters

A text that the system hands over, or that is written with escapes, need not be one of characters: a
half of a pair of surrogates can stand in it alone. The system writes names as bytes. Those that are no
UTF-8 are handed over as halves from a certain range, and are taken back in the same way; the other
halves stand for no byte, so that no call can be about them.
-/

namespace Enhance.Text

/-- A sign of a text: a character, or a half that stands alone. -/
inductive Sign where
  | whole (char : Char)
  /-- The half with this number among the halves. -/
  | half (number : Fin 0x800)
  deriving DecidableEq, Repr

namespace Sign

/-- The half with this number among the halves. -/
def ofHalf (number : Nat) : Sign :=
  .half (Fin.ofNat 0x800 number)

/-- The number of a sign among all signs. -/
def code : Sign → Nat
  | .whole char => char.toNat
  | .half number => 0xd800 + number

/-- The character, if a sign is one. -/
def char? : Sign → Option Char
  | .whole char => some char
  | .half _ => none

/-- Whether a sign is a half that stands for no byte of a name. -/
def isLost : Sign → Bool
  | .whole _ => false
  | .half number => number.val < 0x480 || 0x500 ≤ number.val

/-- A sign between quotes. -/
def quoted (quote : Char) : Sign → List Char
  | .whole char => quotedChar quote char
  | .half number => '\\' :: 'u' :: hexDigits 4 (half number).code

end Sign

/-- A text that may hold halves. -/
structure RawText where
  signs : List Sign
  deriving DecidableEq, Repr, Inhabited

/-- Why no call can be about a text: the place of the first half that stands for no byte, and the halves
from there on. -/
structure UnencodableError where
  position : Nat
  halves : List Sign
  deriving DecidableEq, Repr

namespace UnencodableError

/-- The class of the error. -/
def kind : String := "UnicodeEncodeError"

/-- Why no call can be about a text. -/
def message (error : UnencodableError) : String :=
  let place := match error.halves with
    | [half] =>
      "character '" ++ String.ofList (half.quoted '\'') ++ s!"' in position {error.position}"
    | halves => s!"characters in position {error.position}-{error.position + halves.length - 1}"
  s!"'utf-8' codec can't encode {place}: surrogates not allowed"

end UnencodableError

namespace RawText

/-- A text of characters. -/
def ofString (text : String) : RawText :=
  ⟨text.toList.map .whole⟩

instance : Coe String RawText := ⟨ofString⟩

/-- The text, if it is one of characters. -/
def text? (raw : RawText) : Option String :=
  (raw.signs.mapM Sign.char?).map String.ofList

/-- What keeps calls from being about a text, looked for from a place on. -/
def lostFrom (position : Nat) : List Sign → Option UnencodableError
  | [] => none
  | sign :: rest =>
    if sign.isLost then
      some ⟨position, (sign :: rest).takeWhile fun other => other.char? = none⟩
    else lostFrom (position + 1) rest

/-- What keeps calls from being about a text, if anything does. -/
def lost? (raw : RawText) : Option UnencodableError :=
  lostFrom 0 raw.signs

/-- A text between quotes. -/
def quotedChars (raw : RawText) : List Char :=
  let quote := quoteFor (raw.signs.filterMap Sign.char?)
  quote :: raw.signs.flatMap (Sign.quoted quote) ++ [quote]

theorem mapM_char?_map_whole (text : List Char) : (text.map Sign.whole).mapM Sign.char? = some text := by
  induction text with
  | nil => rfl
  | cons char rest ih => simp [List.mapM_cons, Sign.char?, ih]

@[simp] theorem text?_ofString (text : String) : (ofString text).text? = some text := by
  rw [ofString, text?, mapM_char?_map_whole, Option.map_some, String.ofList_toList]

/-- Calls can be about a text of characters. -/
@[simp] theorem lost?_ofString (text : String) : (ofString text).lost? = none := by
  rw [lost?, ofString]
  generalize text.toList = chars
  generalize 0 = position
  induction chars generalizing position with
  | nil => rfl
  | cons char rest ih => exact ih (position + 1)

end RawText

end Enhance.Text
