import Enhance.Console.Emoji
import Enhance.Console.StyleName

/-!
# Marked-up text

Tags in square brackets begin and end styles. They are not shown, whatever they name; what is
shown is the text around them. A backslash before a tag makes it a part of the text, and two
backslashes before a tag are one backslash. Ending a style that has not begun is an error.

A few tags are not read: a name behind an `@` with parameters that have to be evaluated, and the name
of a colour whose numbers are odd. What becomes of a text with such a tag is left open.
-/

namespace Enhance.Console

/-- What is wrong with the tags of a text. -/
inductive MarkupError where
  /-- A tag ends a style that has not begun. -/
  | notOpen (tag : String) (position : Nat)
  /-- A tag ends the last style, and there is none. -/
  | nothingOpen (position : Nat)
  /-- A tag is not read. -/
  | unread (tag : String)
  deriving DecidableEq, Repr

/-- What is wrong with the tags of a text. -/
def MarkupError.message : MarkupError → String
  | .notOpen tag position =>
    s!"closing tag '[{tag}]' at position {position} doesn't match any open tag"
  | .nothingOpen position => s!"closing tag '[/]' at position {position} has nothing to close"
  | .unread tag => s!"tag '[{tag}]' cannot be read"

/-- Whether an error comes of tags that are read. -/
def MarkupError.isRead : MarkupError → Bool
  | .unread _ => false
  | _ => true

/-- A part of a marked-up text. -/
inductive MarkupPart where
  | text (text : List Char)
  /-- A tag and its place. -/
  | tag (name : List Char) (position : Nat)
  deriving DecidableEq, Repr

namespace Markup

/-- The characters that a tag can begin with. -/
def startsTag (c : Char) : Bool :=
  c.isLower || c = '#' || c = '/' || c = '@'

/-- The inside of the tag whose opening bracket has been read. -/
def tagBody? (text : List Char) : Option (List Char) :=
  match text with
  | [] => none
  | c :: rest =>
    let body := rest.takeWhile fun c => c ≠ ']' && c ≠ '['
    if startsTag c && (rest.drop body.length).head? = some ']' then some (c :: body) else none

/-- A tag with the number of backslashes before it. -/
def tagAt? (text : List Char) : Option (Nat × List Char) :=
  let slashes := (text.takeWhile (· = '\\')).length
  match text.drop slashes with
  | '[' :: rest => (tagBody? rest).map (slashes, ·)
  | _ => none

/-- The parts of a text from a position on. `plain` is the text since the last tag, the latest
character first. -/
def partsFrom : (fuel : Nat) → (position : Nat) → (plain : List Char) → List Char →
    List MarkupPart
  | 0, _, _, _ => []
  | fuel + 1, position, plain, text =>
    let before : List MarkupPart := if plain = [] then [] else [.text plain.reverse]
    match text with
    | [] => before
    | c :: rest =>
      match tagAt? text with
      | none =>
        if c = '\\' then
          let slashes := text.takeWhile (· = '\\')
          partsFrom fuel (position + slashes.length) (slashes ++ plain) (text.drop slashes.length)
        else partsFrom fuel (position + 1) (c :: plain) rest
      | some (slashes, body) =>
        let length := slashes + body.length + 2
        let shown : List MarkupPart :=
          if slashes < 2 then [] else [.text (List.replicate (slashes / 2) '\\')]
        let part : MarkupPart :=
          if slashes % 2 = 1 then .text ('[' :: body ++ [']'])
          else .tag body (position + slashes)
        before ++ shown ++ part :: partsFrom fuel (position + length) [] (text.drop length)

/-- The parts of a text. -/
def parts (text : List Char) : List MarkupPart :=
  partsFrom (text.length + 1) 0 [] text

/-- Brackets after a backslash without the backslash. -/
def unescaped : List Char → List Char
  | '\\' :: '[' :: rest => '[' :: unescaped rest
  | c :: rest => c :: unescaped rest
  | [] => []

/-- The name of a tag, without the value behind an equals sign. -/
def nameOf (body : List Char) : String :=
  String.ofList (body.takeWhile (· ≠ '='))

/-- The value behind the equals sign of a tag. -/
def valueOf (body : List Char) : List Char :=
  (body.dropWhile (· ≠ '=')).drop 1

/-- Whether nothing of the parameters of a tag has to be evaluated: they are at most a name. -/
def isBareName (parameters : List Char) : Bool :=
  (Text.trimmed parameters).all fun c => c.isAlphanum || c = '_' || c = '.'

/-- Whether a tag is not read. -/
def isUnread (body : List Char) : Bool :=
  let described := if body.head? = some '/' then body.drop 1 else body
  (body.head? = some '@' && !isBareName (valueOf body)) ||
    StyleName.isOdd (nameOf described).toList || StyleName.isOdd (valueOf described)

/-- Whether all tags among parts are read. -/
def areRead (all : List MarkupPart) : Bool :=
  all.all fun part =>
    match part with
    | .text _ => true
    | .tag body _ => !isUnread body

/-- Whether all tags of a text are read. -/
def isRead (text : String) : Bool :=
  areRead (parts text.toList)

/-- Shows pictographs for the names between colons, reading from the left. -/
def pictured : (fuel : Nat) → List Char → List Char
  | 0, text => text
  | _, [] => []
  | fuel + 1, ':' :: rest =>
    let between := rest.takeWhile fun c => c ≠ ':' && !Text.isBlank c
    if (rest.drop between.length).head? = some ':' then
      match Emoji.ofName? between with
      | some picture => picture ++ pictured fuel (rest.drop (between.length + 1))
      | none => ':' :: between ++ ':' :: pictured fuel (rest.drop (between.length + 1))
    else ':' :: pictured fuel rest
  | fuel + 1, c :: rest => c :: pictured fuel rest

/-- A text as it is shown. -/
def shownText (text : List Char) : List Char :=
  pictured text.length text

/-- The text that the parts show, with the styles that are open. -/
def shownParts : (opened : List String) → List MarkupPart → Except MarkupError (List Char)
  | _, [] => .ok []
  | opened, .text text :: rest => do
    return shownText (unescaped text) ++ (← shownParts opened rest)
  | opened, .tag body position :: rest =>
    if isUnread body then .error (.unread (String.ofList body))
    else
      match body with
      | '/' :: closing =>
        let name := String.ofList (Text.trimmed (nameOf closing).toList)
        if name = "" then
          match opened with
          | [] => .error (.nothingOpen position)
          | _ :: opened => shownParts opened rest
        else
          let name := StyleName.usual name
          if opened.contains name then shownParts (opened.erase name) rest
          else .error (.notOpen (String.ofList body) position)
      | _ => shownParts (StyleName.usual (nameOf body) :: opened) rest

/-- The text that a marked-up text shows. -/
def shown (text : String) : Except MarkupError (List Char) :=
  shownParts [] (parts text.toList)

end Markup

end Enhance.Console
