import Enhance.Text.Blank
import Enhance.Text.CellWidth

/-!
# Fitting text into a number of cells

A text is cut into lines at its line feeds. A line that is too long is broken before the first
word that does not fit, where a word takes the blanks behind it along but needs no cells for
them. A word that is too long for a line of its own is folded, or is cut off and ends with an
ellipsis.
-/

namespace Enhance.Console

open Enhance.Text

/-- What becomes of a word that is longer than a line. -/
inductive Overflow where
  | fold
  | ellipsis
  deriving DecidableEq, Repr

/-- How the lines of a text stand in their column. -/
inductive Alignment where
  /-- At the start, without blanks behind them. -/
  | start
  /-- At the start, with blanks behind them. -/
  | left
  | right
  deriving DecidableEq, Repr

/-- Blanks. -/
def blanks (count : Nat) : List Char :=
  List.replicate count ' '

/-- A text without the characters that would move the cursor. -/
def sanitized (text : List Char) : List Char :=
  text.filter fun c => !([7, 8, 11, 12, 13].contains c.toNat)

/-- The longest front of a text that fits into some cells, and the cells it leaves free. -/
def fitting : (free : Nat) → List Char → List Char × Nat
  | free, [] => ([], free)
  | free, c :: rest =>
    if cellWidth c ≤ free then
      let (front, left) := fitting (free - cellWidth c) rest
      (c :: front, left)
    else ([], free)

/-- A text cut or filled up with blanks to take a number of cells. -/
def resized (size : Nat) (text : List Char) : List Char :=
  let (front, free) := fitting size text
  front ++ blanks free

theorem cells_blanks (count : Nat) : cells (blanks count) = count := by
  induction count with
  | zero => rfl
  | succ count ih =>
    rw [blanks, List.replicate_succ, cells_cons]
    change cellWidth ' ' + cells (blanks count) = count + 1
    rw [ih, show cellWidth ' ' = 1 by decide +kernel]
    omega

theorem cells_fitting (free : Nat) (text : List Char) :
    cells (fitting free text).1 + (fitting free text).2 = free := by
  induction text generalizing free with
  | nil => simp [fitting]
  | cons c rest ih =>
    unfold fitting
    split
    · rename_i fits
      simp only [cells_cons]
      have := ih (free - cellWidth c)
      omega
    · simp

/-- A text that was resized takes exactly the cells it was given. -/
theorem cells_resized (size : Nat) (text : List Char) : cells (resized size text) = size := by
  unfold resized
  rw [cells_append, cells_blanks]
  exact cells_fitting size text

/-- A line that is too long, cut off. -/
def truncated (overflow : Overflow) (width : Nat) (line : List Char) : List Char :=
  if cells line ≤ width then line
  else
    match overflow with
    | .fold => resized width line
    | .ellipsis => resized (width - 1) line ++ ['…']

/-- The width of the columns that a tab leads to. -/
def tabWidth : Nat := 8

/-- A line with blanks in place of its tabs, from a column on. -/
def tabsExpanded (column : Nat) : List Char → List Char
  | [] => []
  | '\t' :: rest =>
    let count := tabWidth - column % tabWidth
    blanks count ++ tabsExpanded (column + count) rest
  | c :: rest => c :: tabsExpanded (column + cellWidth c) rest

/-- The words of a line, each with the blanks behind it; the first one has those before it, too.
A line of blanks has no words. -/
def spacedWords : (fuel : Nat) → List Char → List (List Char)
  | 0, _ => []
  | fuel + 1, text =>
    let before := text.takeWhile isBlank
    let rest := text.drop before.length
    let word := rest.takeWhile (!isBlank ·)
    let after := (rest.drop word.length).takeWhile isBlank
    if word = [] then []
    else
      (before ++ word ++ after) ::
        spacedWords fuel (rest.drop (word.length + after.length))

/-- A word cut into pieces that fit into a line. -/
def folded (width : Nat) (used : Nat) (piece : List Char) : List Char → List (List Char)
  | [] => [piece.reverse]
  | c :: rest =>
    if used + cellWidth c ≤ width then folded width (used + cellWidth c) (c :: piece) rest
    else piece.reverse :: folded width (cellWidth c) [c] rest

/-- Lines that are being filled: those that are full, the latest first, the present one and the
cells that it takes. -/
structure Filling where
  full : List (List Char) := []
  line : List Char := []
  used : Nat := 0

namespace Filling

/-- Begins a new line with a text, unless nothing has been read yet. -/
def begin (filling : Filling) (text : List Char) : Filling :=
  if filling.full = [] && filling.line = [] then { filling with line := text, used := cells text }
  else ⟨filling.line :: filling.full, text, cells text⟩

/-- Adds a word. -/
def add (overflow : Overflow) (width : Nat) (filling : Filling) (word : List Char) : Filling :=
  let needed := cells (trimmedEnd word)
  if needed ≤ width - filling.used && filling.used ≤ width then
    { filling with line := filling.line ++ word, used := filling.used + cells word }
  else if width < needed then
    match overflow with
    | .fold => (folded width 0 [] word).foldl begin filling
    | .ellipsis => filling.begin word
  else if filling.used = 0 then { filling with line := filling.line ++ word }
  else filling.begin word

/-- All lines. -/
def lines (filling : Filling) : List (List Char) :=
  (filling.line :: filling.full).reverse

end Filling

/-- The lines that a line is broken into. -/
def broken (overflow : Overflow) (width : Nat) (line : List Char) : List (List Char) :=
  match spacedWords (line.length + 1) line with
  | [] => [line]
  | words => (words.foldl (Filling.add overflow width) {}).lines

/-- A line without the blanks at its end that do not fit. -/
def withoutExcess (width : Nat) (line : List Char) : List Char :=
  let excess := line.length - width
  line.take (line.length - min excess (line.length - (trimmedEnd line).length))

/-- A line in its column. -/
def aligned (alignment : Alignment) (overflow : Overflow) (width : Nat) (line : List Char) :
    List Char :=
  match alignment with
  | .start => truncated overflow width line
  | .left =>
    let line := truncated overflow width line
    line ++ blanks (width - cells line)
  | .right =>
    let line := truncated overflow width (trimmedEnd line)
    blanks (width - cells line) ++ line

/-- The lines of a text in a column. A column without width shows nothing. -/
def wrapped (alignment : Alignment) (overflow : Overflow) (width : Nat) (text : List Char) :
    List (List Char) :=
  if width = 0 then []
  else
    ((sanitized text).splitOn '\n').flatMap fun line =>
      (broken overflow width (tabsExpanded 0 line)).map fun line =>
        aligned alignment overflow width (withoutExcess width line)

/-- The most cells that a line of a text takes, and the most that a word takes. -/
structure Extent where
  word : Nat
  line : Nat
  deriving DecidableEq, Repr

/-- The extent of a text. -/
def extentOf (text : List Char) : Extent :=
  let text := sanitized text
  let longest (runs : List (List Char)) : Nat := (runs.map cells).foldl max 0
  let line := longest (runsWithout isLineEnd text)
  match wordsOf text with
  | [] => ⟨line, line⟩
  | words => ⟨longest words, line⟩

end Enhance.Console
