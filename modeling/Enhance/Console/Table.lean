import Enhance.Console.Wrap

/-!
# Tables

A table has a head and rows of cells. Each column is as wide as its widest line, or as it is told
to be, and has a blank on either side. A table that is too wide for the console gives up cells:
first the widest of the columns that may shrink, down to the next widest, then all of them
evenly; but no column gets less than the least width it was given.
-/

namespace Enhance.Console

open Enhance.Text

/-- A column of a table. -/
structure Column where
  header : String
  /-- The width, if it is fixed. -/
  width : Option Nat := none
  /-- The least width of a column that is not fixed. -/
  leastWidth : Nat := 0
  alignment : Alignment := .left
  deriving Repr

/-- A table: the rows hold a text for each column. -/
structure Table where
  columns : List Column
  rows : List (List (List Char))
  deriving Repr

namespace Table

/-- The blanks beside a cell, on both sides together. -/
def padding : Nat := 2

/-- A quotient rounded to the nearest number, and to the even one of two. -/
def roundedQuotient (number divisor : Nat) : Nat :=
  let quotient := number / divisor
  let rest := number % divisor
  if 2 * rest < divisor then quotient
  else if divisor < 2 * rest then quotient + 1
  else if quotient % 2 = 0 then quotient
  else quotient + 1

/-- Takes cells from the columns that take part, evenly and from each at most its limit. -/
def reduced (total shares : Nat) : List (Nat × Nat × Bool) → List Nat
  | [] => []
  | (width, limit, takesPart) :: rest =>
    if takesPart && limit ≠ 0 then
      let taken := min limit (roundedQuotient total shares)
      (width - taken) :: reduced (total - taken) (shares - 1) rest
    else width :: reduced total shares rest

/-- The number of columns from which cells can be taken. -/
def shareCount (columns : List (Nat × Nat × Bool)) : Nat :=
  columns.countP fun (_, limit, takesPart) => takesPart && limit ≠ 0

/-- The number of cells that columns take together. -/
def total (widths : List Nat) : Nat :=
  widths.foldr (· + ·) 0

/-- Shrinks the widest of the columns that may shrink until all columns take `most` cells. -/
def collapsed (mayShrink : List Bool) (most : Nat) : (fuel : Nat) → List Nat → List Nat
  | 0, widths => widths
  | fuel + 1, widths =>
    let excess := total widths - most
    if excess = 0 then widths
    else
      let shrinking := (widths.zip mayShrink).filterMap fun (width, may) =>
        if may then some width else none
      let widest := shrinking.foldl max 0
      let next := (shrinking.filter (· ≠ widest)).foldl max 0
      let difference := widest - next
      if shrinking = [] || difference = 0 then widths
      else
        let columns := (widths.zip mayShrink).map fun (width, may) =>
          (width, min excess difference, may && width = widest)
        collapsed mayShrink most fuel (reduced excess (shareCount columns) columns)

/-- The width of a column with its padding, in at most `most` cells. -/
def measured (most : Nat) (column : Column) (cells : List (List Char)) : Nat :=
  if most = 0 then 0
  else
    match column.width with
    | some width => min (width + padding) most
    | none =>
      let widest := (cells.map fun cell =>
        if most ≤ padding then most
        else min (min (extentOf cell).line most + padding) most).foldl max 0
      let least := if column.leastWidth = 0 then 0 else column.leastWidth + padding
      max widest least

/-- The texts of the columns, the headers first. -/
def texts (table : Table) : List (List (List Char)) :=
  table.columns.zipIdx.map fun (column, n) =>
    column.header.toList :: table.rows.map fun row => row.getD n []

/-- The cells that lines between and around the columns take. -/
def borderWidth (table : Table) : Nat :=
  table.columns.length + 1

/-- The widths of the columns with their padding. -/
def widths (table : Table) (console : Nat) : List Nat :=
  let most := console - table.borderWidth
  let columns := table.columns.zip table.texts
  let wanted := columns.map fun (column, cells) => max 1 (measured most column cells)
  if total wanted ≤ most then wanted
  else
    let mayShrink := table.columns.map fun column => column.width.isNone
    let shrunk := collapsed mayShrink most (total wanted + 1) wanted
    let evenly :=
      if total shrunk ≤ most then shrunk
      else
        let shares := shrunk.map fun width => (width, width, true)
        reduced (total shrunk - most) (shareCount shares) shares
    (columns.zip evenly).map fun ((column, cells), width) => measured width column cells

/-- The lines of a cell with its padding. -/
def cellLines (alignment : Alignment) (width : Nat) (cell : List Char) : List (List Char) :=
  (wrapped alignment .ellipsis (width - padding) cell).map fun line =>
    ' ' :: line ++ [' ']

/-- Lines filled up to a number of lines and cells; those of the head stand at the bottom. -/
def shaped (atBottom : Bool) (height width : Nat) (lines : List (List Char)) : List (List Char) :=
  let missing := List.replicate (height - lines.length) (blanks width)
  let lines := lines.map (resized width)
  if atBottom then missing ++ lines else lines ++ missing

/-- The lines of a row between vertical bars. -/
def rowLines (columns : List Column) (widths : List Nat) (isHead : Bool) (bar : Char)
    (row : List (List Char)) : List (List Char) :=
  let cells := (columns.zip (widths.zip row)).map fun (column, width, cell) =>
    (width, cellLines column.alignment width cell)
  let height := cells.foldl (fun height cell => max height cell.2.length) 1
  let shapes := cells.map fun (width, lines) => shaped isHead height width lines
  (List.range height).map fun n =>
    bar :: List.intercalate [bar] (shapes.map fun lines => lines.getD n []) ++ [bar]

/-- A horizontal line with joints between the columns. -/
def rule (left line joint right : Char) (widths : List Nat) : List Char :=
  left :: List.intercalate [joint] (widths.map fun width => List.replicate width line) ++ [right]

/-- The lines of a table, each cut off at the width of the console. -/
def lines (table : Table) (console : Nat) : List (List Char) :=
  let widths := table.widths console
  let head := rowLines table.columns widths true '┃'
    (table.columns.map fun column => column.header.toList)
  let rows := table.rows.flatMap (rowLines table.columns widths false '│')
  let all := rule '┏' '━' '┳' '┓' widths :: head ++ [rule '┡' '━' '╇' '┩' widths] ++ rows ++
    [rule '└' '─' '┴' '┘' widths]
  all.map fun line => if cells line ≤ console then line else resized console line

end Table

end Enhance.Console
