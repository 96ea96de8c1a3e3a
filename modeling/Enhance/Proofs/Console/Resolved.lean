import Enhance.Proofs.Console.Verbatim

/-!
# Blocks whose texts have been read

Before anything is laid out, the texts of a block are read: what remains is a block of plain texts
(`Block.resolved`).  How a block is printed depends on these texts alone (`Block.lines_eq`), so that
printing blocks that can be read is printing the plain ones (`printed_of_resolved`).
-/

namespace Enhance.Console

open Text

/-- Something that is printed at once, and in which nothing is read. -/
inductive PlainBlock where
  | empty
  | text (text : List Char)
  | panel (panel : Panel)
  | table (columns : List Column) (rows : List (List (List Char)))

namespace PlainBlock

/-- The lines of a block on a console of that width. -/
def lines (width : Nat) : PlainBlock → List (List Char)
  | .empty => [[]]
  | .text words => wrapped .start .fold width words
  | .panel framed => framed.lines width
  | .table columns rows => Table.lines ⟨columns, rows⟩ width

/-- What is printed of blocks on a console of that width. -/
def printed (width : Nat) (blocks : List PlainBlock) : String :=
  String.ofList ((blocks.flatMap (lines width)).flatMap (· ++ ['\n']))

end PlainBlock

/-- The text of a cell that is laid out. -/
def Cell.resolved (cell : Cell) : Except MarkupError (List Char) :=
  cell.shown.map sanitized

/-- A block with its texts as they are laid out. -/
def Block.resolved : Block → Except MarkupError PlainBlock
  | .empty => .ok .empty
  | .markup text => ((Cell.markup text).resolved).map .text
  | .panel framed => .ok (.panel framed)
  | .table columns rows => (rows.mapM (List.mapM Cell.resolved)).map (.table columns)

/-! ## Lists of texts -/

section

variable {α β γ ε : Type} {image : α → Except ε β}

theorem map_eq_ok_iff {next : β → γ} (injective : Function.Injective next) {found : Except ε β}
    {value : β} : found.map next = .ok (next value) ↔ found = .ok value := by
  cases found with
  | error error => exact iff_of_false (fun failed => nomatch failed) fun failed => nomatch failed
  | ok found =>
      constructor
      · exact fun same => congrArg Except.ok (injective (Except.ok.inj same))
      · rintro ⟨⟩
        rfl

theorem mapM_cons_eq_ok_iff {first : α} {rest : List α} {value : β} {values : List β} :
    (first :: rest).mapM image = .ok (value :: values) ↔
      image first = .ok value ∧ rest.mapM image = .ok values := by
  rw [List.mapM_cons]
  cases image first with
  | error error => exact iff_of_false (fun failed => nomatch failed) fun failed => nomatch failed.1
  | ok found =>
      cases rest.mapM image with
      | error error => exact iff_of_false (fun failed => nomatch failed) fun failed => nomatch failed.2
      | ok others =>
          change Except.ok (found :: others) = _ ↔ _
          simp

theorem mapM_eq_ok_map_iff {list : List α} {value : α → β} :
    list.mapM image = .ok (list.map value) ↔ ∀ one ∈ list, image one = .ok (value one) := by
  induction list with
  | nil => exact iff_of_true rfl (by simp)
  | cons first rest ih => rw [List.map_cons, mapM_cons_eq_ok_iff, ih, List.forall_mem_cons]

theorem map_mapM (next : β → γ) (list : List α) :
    (list.mapM image).map (List.map next) = list.mapM fun one => (image one).map next := by
  induction list with
  | nil => rfl
  | cons first rest ih =>
      rw [List.mapM_cons, List.mapM_cons, ← ih]
      cases image first with
      | error error => rfl
      | ok found => cases rest.mapM image <;> rfl

end

/-! ## Layout -/

theorem sanitized_sanitized (text : List Char) : sanitized (sanitized text) = sanitized text := by
  simp [sanitized]

theorem wrapped_sanitized (alignment : Alignment) (overflow : Overflow) (width : Nat)
    (text : List Char) :
    wrapped alignment overflow width (sanitized text) = wrapped alignment overflow width text := by
  rw [wrapped, wrapped, sanitized_sanitized]

theorem extentOf_sanitized (text : List Char) : extentOf (sanitized text) = extentOf text := by
  rw [extentOf, extentOf, sanitized_sanitized]

namespace Table

/-- The width of a column depends on the extents of its cells. -/
theorem measured_congr {most : Nat} {column : Column} {texts texts' : List (List Char)}
    (same : texts.map extentOf = texts'.map extentOf) :
    measured most column texts = measured most column texts' := by
  have line (text : List (List Char)) : (text.map fun cell =>
      if most ≤ padding then most else min (min (extentOf cell).line most + padding) most) =
        (text.map extentOf).map fun extent =>
          if most ≤ padding then most else min (min extent.line most + padding) most := by
    rw [List.map_map]
    rfl
  rw [measured, measured, line, line, same]

/-- The texts of the cells as they are laid out. -/
def sanitizedRows (rows : List (List (List Char))) : List (List (List Char)) :=
  rows.map (List.map sanitized)

/-- The texts of a column, the header first. -/
def cellsOf (rows : List (List (List Char))) (place : Column × Nat) : List (List Char) :=
  place.1.header.toList :: rows.map fun row => row.getD place.2 []

theorem zip_texts (columns : List Column) (rows : List (List (List Char))) :
    columns.zip (texts ⟨columns, rows⟩) =
      (columns.zip columns.zipIdx).map (Prod.map id (cellsOf rows)) := by
  rw [← List.zip_map_right]
  rfl

theorem measured_sanitized (most : Nat) (column : Column) (rows : List (List (List Char)))
    (place : Column × Nat) : measured most column (cellsOf (sanitizedRows rows) place) =
      measured most column (cellsOf rows place) := by
  apply measured_congr
  simp only [cellsOf, sanitizedRows, List.map_cons, List.map_map, List.cons.injEq, true_and]
  apply List.map_congr_left
  intro row _
  have cell : (row.map sanitized).getD place.2 [] = sanitized (row.getD place.2 []) := by
    rw [List.getD_eq_getElem?_getD, List.getD_eq_getElem?_getD, List.getElem?_map]
    cases row[place.2]? <;> rfl
  change extentOf ((row.map sanitized).getD place.2 []) = extentOf (row.getD place.2 [])
  rw [cell, extentOf_sanitized]

/-- The widths of the columns do not depend on the characters that would move the cursor. -/
theorem widths_sanitized (columns : List Column) (rows : List (List (List Char)))
    (console : Nat) :
    widths ⟨columns, sanitizedRows rows⟩ console = widths ⟨columns, rows⟩ console := by
  have wanted (most : Nat) :
      (fun x : Column × List (List Char) => max 1 (measured most x.1 x.2)) ∘
        Prod.map id (cellsOf (sanitizedRows rows)) =
      (fun x => max 1 (measured most x.1 x.2)) ∘ Prod.map id (cellsOf rows) := by
    funext x
    exact congrArg (max 1) (measured_sanitized most x.1 rows x.2)
  have given :
      (fun x : (Column × List (List Char)) × Nat => measured x.2 x.1.1 x.1.2) ∘
        Prod.map (Prod.map id (cellsOf (sanitizedRows rows))) id =
      (fun x => measured x.2 x.1.1 x.1.2) ∘ Prod.map (Prod.map id (cellsOf rows)) id := by
    funext x
    exact measured_sanitized x.2 x.1.1 rows x.1.2
  unfold widths
  dsimp only
  rw [zip_texts, zip_texts]
  simp only [List.map_map, List.zip_map_left, wanted, given]
  rfl

theorem rowLines_sanitized (columns : List Column) (widths : List Nat) (isHead : Bool) (bar : Char)
    (row : List (List Char)) :
    rowLines columns widths isHead bar (row.map sanitized) = rowLines columns widths isHead bar row := by
  have cells :
      (columns.zip (widths.zip (row.map sanitized))).map
        (fun x => (x.2.1, cellLines x.1.alignment x.2.1 x.2.2)) =
      (columns.zip (widths.zip row)).map
        fun x => (x.2.1, cellLines x.1.alignment x.2.1 x.2.2) := by
    rw [List.zip_map_right, List.zip_map_right, List.map_map]
    apply List.map_congr_left
    intro x _
    simp only [Function.comp_apply, Prod.map_fst, Prod.map_snd, id_eq, cellLines, wrapped_sanitized]
  unfold rowLines
  dsimp only
  rw [cells]

/-- How a table is laid out does not depend on the characters that would move the cursor. -/
theorem lines_sanitized (columns : List Column) (rows : List (List (List Char))) (console : Nat) :
    lines ⟨columns, sanitizedRows rows⟩ console = lines ⟨columns, rows⟩ console := by
  unfold lines
  dsimp only
  rw [widths_sanitized, sanitizedRows, List.flatMap_map]
  simp only [rowLines_sanitized]

end Table

namespace Block

/-- The lines of a block are those of its plain texts. -/
theorem lines_eq (width : Nat) (block : Block) :
    block.lines width = block.resolved.map (PlainBlock.lines width) := by
  cases block with
  | empty | panel => rfl
  | markup text =>
      rw [lines, resolved, Cell.resolved, Cell.shown]
      cases Markup.shown text with
      | error error => rfl
      | ok shown => exact congrArg Except.ok (wrapped_sanitized .start .fold width shown).symm
  | table columns rows =>
      have read : rows.mapM (List.mapM Cell.resolved) = (shownRows rows).map Table.sanitizedRows := by
        rw [shownRows]
        unfold Table.sanitizedRows
        rw [map_mapM]
        congr 1
        funext row
        exact (map_mapM sanitized row).symm
      rw [lines, resolved, read]
      cases shownRows rows with
      | error error => rfl
      | ok shown => exact congrArg Except.ok (Table.lines_sanitized columns shown width).symm

end Block

/-- Blocks that can be read are printed as the plain ones. -/
theorem printed_of_resolved {width : Nat} {blocks : List Block} {plain : List PlainBlock}
    (read : blocks.mapM Block.resolved = .ok plain) :
    printed width blocks = (PlainBlock.printed width plain, none) := by
  induction blocks generalizing plain with
  | nil =>
      cases read
      rfl
  | cons block blocks ih =>
      rw [List.mapM_cons] at read
      cases here : block.resolved with
      | error error =>
          rw [here] at read
          contradiction
      | ok first =>
          rw [here] at read
          cases later : blocks.mapM Block.resolved with
          | error error =>
              rw [later] at read
              contradiction
          | ok rest =>
              rw [later] at read
              cases read
              rw [printed, Block.text, Block.lines_eq, here, ih later]
              simp [Except.map, PlainBlock.printed, String.ofList_append]

end Enhance.Console
