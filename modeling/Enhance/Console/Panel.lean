import Enhance.Console.Wrap

/-!
# Panels

A panel is a text in a frame that is as wide as the console. Its title stands in the middle of
the upper edge.
-/

namespace Enhance.Console

open Enhance.Text

/-- A text in a frame. -/
structure Panel where
  title : List Char
  body : List Char
  deriving Repr

namespace Panel

/-- An edge of dashes between two corners. -/
def edge (left right : Char) (width : Nat) : List Char :=
  left :: List.replicate width '─' ++ [right]

/-- The upper edge with the title in it. -/
def top (panel : Panel) (inside : Nat) : List Char :=
  if inside ≤ 2 then edge '╭' '╮' inside
  else
    let width := inside - 2
    let title := truncated .fold width (' ' :: panel.title ++ [' '])
    let free := width - cells title
    '╭' :: '─' :: List.replicate (free / 2) '─' ++ title ++
      List.replicate (free - free / 2) '─' ++ ['─', '╮']

/-- The lines of a panel on a console of that width. -/
def lines (panel : Panel) (console : Nat) : List (List Char) :=
  let inside := console - 2
  let body := (wrapped .start .fold (inside - 2) panel.body).map fun line =>
    '│' :: ' ' :: resized (inside - 2) line ++ [' ', '│']
  panel.top inside :: body ++ [edge '╰' '╯' inside]

end Panel

end Enhance.Console
