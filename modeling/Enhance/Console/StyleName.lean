import Enhance.Console.ColourName
import Enhance.Text.Blank
import Enhance.Text.LowerCase

/-!
# The names of styles

A style is described by words: attributes, a colour, a colour behind `on`, and a link. Two
descriptions name the same style if they say the same in another order or with other words. A
description that makes no sense names itself.
-/

namespace Enhance.Console.StyleName

open ColourName

/-- The attributes in their usual order, and their short names. -/
def attributes : List (String × List String) := [
  ("bold", ["b"]), ("dim", ["d"]), ("italic", ["i"]), ("underline", ["u"]), ("blink", []),
  ("blink2", []), ("reverse", ["r"]), ("conceal", ["c"]), ("strike", ["s"]),
  ("underline2", ["uu"]), ("frame", []), ("encircle", []), ("overline", ["o"])]

/-- The attribute that a word names. -/
def attribute? (word : String) : Option String :=
  (attributes.find? fun entry => entry.1 = word || entry.2.contains word).map (·.1)

/-- A word in small letters. -/
def lower (word : String) : String :=
  String.ofList (Text.small word.toList)

/-- What the words of a style say. -/
structure Style where
  /-- The attributes that are switched on or off. -/
  switches : List (String × Bool) := []
  colour : Option String := none
  background : Option String := none
  link : Option String := none

/-- What words say, if they make sense. -/
def read : Style → List String → Option Style
  | style, [] => some style
  | style, word :: words =>
    match lower word, words with
    | "on", next :: rest =>
      if isColour (lower next) then read { style with background := some (lower next) } rest
      else none
    | "not", next :: rest =>
      (attribute? next).bind fun name =>
        read { style with switches := style.switches ++ [(name, false)] } rest
    | "link", next :: rest => read { style with link := some next } rest
    | "on", [] | "not", [] | "link", [] => none
    | word, words =>
      match attribute? word with
      | some name => read { style with switches := style.switches ++ [(name, true)] } words
      | none => if isColour word then read { style with colour := some word } words else none

/-- The words of a style in their usual order. -/
def Style.words (style : Style) : List String :=
  let switches := attributes.filterMap fun (name, _) =>
    (style.switches.reverse.lookup name).map fun isOn => if isOn then name else "not " ++ name
  switches ++ style.colour.toList ++ (style.background.map ("on " ++ ·)).toList ++
    (style.link.map ("link " ++ ·)).toList

/-- The usual name of the style that a description names. -/
def usual (description : String) : String :=
  let words := (Text.wordsOf description.toList).map String.ofList
  let itself := lower (String.ofList (Text.trimmed description.toList))
  if words = [] || words = ["none"] then "none"
  else
    match read {} words with
    | some style => if style.words = [] then "none" else " ".intercalate style.words
    | none => itself

/-- Whether it takes more than the words of a description to tell what becomes of it: there is a
colour whose numbers are odd, or a capital whose small form depends on the letters around it. -/
def isOdd (description : List Char) : Bool :=
  description.contains 'Σ' ||
    (Text.wordsOf description).any fun word => ColourName.isOdd (lower (String.ofList word))

end Enhance.Console.StyleName
