import Enhance.Console.Markup
import Enhance.Console.Panel
import Enhance.Console.Table

/-!
# What is printed on a console

A console is printed on block by block. A block is a marked-up text, a panel, a table or an empty
line. A block with a text that cannot be read is not printed at all.
-/

namespace Enhance.Console

/-- The text of a cell of a table. -/
inductive Cell where
  /-- A text that may hold tags. -/
  | markup (text : String)
  | plain (text : String)
  deriving DecidableEq, Repr

/-- The text that a cell shows. -/
def Cell.shown : Cell → Except MarkupError (List Char)
  | .markup text => Markup.shown text
  | .plain text => .ok text.toList

/-- Something that is printed at once. -/
inductive Block where
  | empty
  /-- A text that may hold tags. -/
  | markup (text : String)
  | panel (panel : Panel)
  | table (columns : List Column) (rows : List (List Cell))

namespace Block

/-- The texts that the cells of a table show. An error is reported for the first column in which
there is one. -/
def shownRows (rows : List (List Cell)) : Except MarkupError (List (List (List Char))) :=
  rows.mapM fun row => row.mapM Cell.shown

/-- The lines of a block on a console of that width. -/
def lines (width : Nat) : Block → Except MarkupError (List (List Char))
  | .empty => .ok [[]]
  | .markup text => (Markup.shown text).map (wrapped .start .fold width)
  | .panel framed => .ok (framed.lines width)
  | .table columns rows => (shownRows rows).map fun rows => Table.lines ⟨columns, rows⟩ width

/-- The text of a block: its lines, each with its end. -/
def text (width : Nat) (block : Block) : Except MarkupError String :=
  (block.lines width).map fun lines => String.ofList (lines.flatMap (· ++ ['\n']))

end Block

/-- Prints blocks up to the first that cannot be printed: the text, and why it ends there. -/
def printed (width : Nat) : List Block → String × Option MarkupError
  | [] => ("", none)
  | block :: blocks =>
    match block.text width with
    | .error error => ("", some error)
    | .ok text =>
      let (more, error) := printed width blocks
      (text ++ more, error)

end Enhance.Console
