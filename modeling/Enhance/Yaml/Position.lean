/-!
# Places in a text

A place is counted in characters from the start of the text and also by line and column. A
line ends with a line feed, a next line, a line separator or a paragraph separator. A byte
order mark takes no column.
-/

namespace Enhance.Yaml

/-- Whether a character ends a line. -/
def isBreak (c : Char) : Bool :=
  c = '\n' || c = '\u0085' || c = '\u2028' || c = '\u2029'

/-- Whether a character is a blank or ends a line. -/
def isSpace (c : Char) : Bool :=
  c = ' ' || isBreak c

/-- Whether a character is a blank or a tab or ends a line. -/
def isWhite (c : Char) : Bool :=
  c = '\t' || isSpace c

/-- Whether a class of characters holds the next one, or there is none. -/
def endsAt (stops : Char → Bool) (next : Option Char) : Bool :=
  match next with
  | none => true
  | some c => stops c

/-- A mark that the text may start with and that stands for nothing. -/
def byteOrderMark : Char := '\ufeff'

/-- A place in a text, counted from zero. -/
structure Position where
  index : Nat := 0
  line : Nat := 0
  column : Nat := 0
  deriving DecidableEq, Repr, Inhabited

/-- The place after a character. -/
def Position.after (position : Position) (c : Char) : Position :=
  if isBreak c then ⟨position.index + 1, position.line + 1, 0⟩
  else if c = byteOrderMark then { position with index := position.index + 1 }
  else { position with index := position.index + 1, column := position.column + 1 }

/-- The rest of a text that is being read, and its place. -/
structure Cursor where
  rest : List Char
  position : Position := {}
  deriving DecidableEq, Repr, Inhabited

namespace Cursor

/-- The text behind some characters. -/
def skip (cursor : Cursor) : Nat → Cursor
  | 0 => cursor
  | n + 1 =>
    match cursor.rest with
    | [] => cursor
    | c :: rest => skip ⟨rest, cursor.position.after c⟩ n

/-- What was skipped and what is left make up the text. -/
theorem rest_skip (cursor : Cursor) (n : Nat) : (cursor.skip n).rest = cursor.rest.drop n := by
  induction n generalizing cursor with
  | zero => rfl
  | succ n ih =>
    obtain ⟨rest, position⟩ := cursor
    cases rest with
    | nil => simp [skip]
    | cons c rest => simp [skip, ih]

/-- A character further on. -/
def peekAt (cursor : Cursor) (n : Nat) : Option Char :=
  cursor.rest[n]?

/-- The next character. -/
def peek (cursor : Cursor) : Option Char :=
  cursor.rest.head?

/-- Whether a document indicator, which is three characters at the start of a line and then a
blank, begins here. -/
def startsIndicator (cursor : Cursor) (mark : Char) : Bool :=
  cursor.rest.take 3 = [mark, mark, mark] && endsAt isWhite (cursor.peekAt 3)

/-- Whether the end of a document begins at the start of this line. -/
def startsSeparator (cursor : Cursor) : Bool :=
  cursor.startsIndicator '-' || cursor.startsIndicator '.'

end Cursor

end Enhance.Yaml
