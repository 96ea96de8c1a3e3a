import Enhance.Proofs.Console.Resolved
import Enhance.Report.Table

/-!
# Reports whose table says what they say

The table of a report shows severities and messages as they are, but reads the stages and the paths, and
everything about what aborted the run is read, too.  The table shows all of it exactly if and only if there
is nothing to be read in the paths and in these lines (`blocks_exact_iff`).
-/

namespace Enhance

open Console

namespace Console.Markup

/-- Whether a text holds none of the characters that would move the cursor. -/
def isStill (text : List Char) : Bool :=
  text.all fun c => !([7, 8, 11, 12, 13].contains c.toNat)

/-- Whether a text is laid out as it stands: there is nothing to be read in it, and nothing is left
out. -/
def isVerbatim (text : List Char) : Bool :=
  isLiteral text && isStill text

theorem sanitized_eq_iff {text : List Char} : sanitized text = text ↔ isStill text = true := by
  rw [sanitized, List.filter_eq_self, isStill, List.all_eq_true]

/-- A text is laid out exactly if and only if nothing in it is read or left out. -/
theorem resolved_markup_iff (text : String) :
    (Cell.markup text).resolved = .ok text.toList ↔ isVerbatim text.toList = true := by
  have enough := Nat.lt_succ_self text.toList.length
  rw [Cell.resolved, Cell.shown, shown, parts, isVerbatim, Bool.and_eq_true]
  constructor
  · intro exact'
    cases isShown : shownParts [] (partsFrom (text.toList.length + 1) 0 [] text.toList) with
    | error error =>
        rw [isShown] at exact'
        contradiction
    | ok shown =>
        rw [isShown] at exact'
        have same : sanitized shown = text.toList := Except.ok.inj exact'
        have literal := isLiteral_of_marks enough isShown (by rw [← same, marks_sanitized])
        rw [(shownParts_eq_ok_iff [] 0 enough).2 literal] at isShown
        cases isShown
        exact ⟨literal, sanitized_eq_iff.1 same⟩
  · rintro ⟨literal, still⟩
    rw [(shownParts_eq_ok_iff [] 0 enough).2 literal]
    exact congrArg Except.ok (sanitized_eq_iff.2 still)

end Console.Markup

namespace Report

open Markup

/-! ## The table -/

/-- The row of a diagnostic as it is. -/
def plainRow (diagnostic : Diagnostic) : List (List Char) := [
  diagnostic.severity.name.toList,
  diagnostic.stage.name.toList,
  ((diagnostic.path.map Path.toString).getD "-").toList,
  (messageWithCause diagnostic).toList]

theorem row_exact_iff (diagnostic : Diagnostic) :
    (row diagnostic).mapM Cell.resolved = .ok (plainRow diagnostic) ↔
      (∀ path, diagnostic.path = some path → isVerbatim path.toString.toList = true) ∧
        isStill (messageWithCause diagnostic).toList = true := by
  have severity : (Cell.plain diagnostic.severity.name).resolved = .ok diagnostic.severity.name.toList := by
    cases diagnostic.severity <;> decide +kernel
  have stage : (Cell.markup diagnostic.stage.name).resolved = .ok diagnostic.stage.name.toList := by
    cases diagnostic.stage <;> decide +kernel
  have path : (Cell.markup ((diagnostic.path.map Path.toString).getD "-")).resolved =
      .ok ((diagnostic.path.map Path.toString).getD "-").toList ↔
        ∀ path, diagnostic.path = some path → isVerbatim path.toString.toList = true := by
    rw [resolved_markup_iff]
    cases diagnostic.path with
    | none => exact iff_of_true (by decide +kernel) (by simp)
    | some path => simp
  have message : (Cell.plain (messageWithCause diagnostic)).resolved =
      .ok (messageWithCause diagnostic).toList ↔
        isStill (messageWithCause diagnostic).toList = true := by
    rw [← sanitized_eq_iff, Cell.resolved, Cell.shown]
    exact ⟨fun same => Except.ok.inj same, congrArg Except.ok⟩
  rw [row, plainRow, mapM_cons_eq_ok_iff, mapM_cons_eq_ok_iff, mapM_cons_eq_ok_iff,
    mapM_cons_eq_ok_iff, path, message]
  constructor
  · rintro ⟨-, -, isPath, isMessage, -⟩
    exact ⟨isPath, isMessage⟩
  · rintro ⟨isPath, isMessage⟩
    exact ⟨severity, stage, isPath, isMessage, rfl⟩

theorem table_exact_iff (diagnostics : List Diagnostic) :
    Block.resolved (.table columns (diagnostics.map row)) =
        .ok (.table columns (diagnostics.map plainRow)) ↔
      ∀ diagnostic ∈ diagnostics,
        (∀ path, diagnostic.path = some path → isVerbatim path.toString.toList = true) ∧
          isStill (messageWithCause diagnostic).toList = true := by
  have same : (diagnostics.map row).mapM (List.mapM Cell.resolved) =
      diagnostics.mapM fun diagnostic => (row diagnostic).mapM Cell.resolved :=
    List.mapM_map
  rw [Block.resolved, map_eq_ok_iff fun _ _ same => (PlainBlock.table.inj same).2, same,
    mapM_eq_ok_map_iff]
  simp only [row_exact_iff]

/-! ## What aborted the run -/

/-- The class file that a line about a failure begins with. -/
def lineFront (path : String) : List Char :=
  '•' :: ' ' :: path.toList

/-- What a line about a failure ends with. -/
def lineBack (message : String) : List Char :=
  ':' :: ' ' :: message.toList

/-- The line about what aborted a run, as it is. -/
def plainLine (path message : String) : List Char :=
  ' ' :: ' ' :: (lineFront path ++ lineBack message)

theorem isLiteral_lineFront (path : String) :
    isLiteral (lineFront path) = isLiteral path.toList := by
  have front : lineFront path = ['•', ' '] ++ path.toList := rfl
  rw [front]
  exact isLiteral_append (by decide) rfl

theorem isLiteral_lineBack (message : String) :
    isLiteral (lineBack message) = isLiteral message.toList := by
  have back : lineBack message = [':', ' '] ++ message.toList := rfl
  rw [back]
  exact isLiteral_append (by decide) rfl

theorem noSlash_lineFront (path : String) :
    (lineFront path).getLast? ≠ some '\\' ↔ path.toList.getLast? ≠ some '\\' := by
  rw [lineFront, List.getLast?_cons, List.getLast?_cons]
  cases path.toList.getLast? with
  | none => simp
  | some c => simp

theorem isStill_plainLine (path message : String) :
    isStill (plainLine path message) = (isStill path.toList && isStill message.toList) := by
  simp [plainLine, lineFront, lineBack, isStill]

/-- The tag between the class file and the message. -/
def ending : List Char :=
  '/' :: "red".toList

theorem isStyle_red : IsStyle "red".toList "red" :=
  isStyle_of_mem "red" (by decide)

theorem exists_shown_line (path message : String) :
    ∃ fuel position, (lineFront path ++ '[' :: (ending ++ ']' :: lineBack message)).length < fuel ∧
      shown s!"  [red]• {path}[/red]: {message}" =
        (shownParts ["red"] (partsFrom fuel position []
          (lineFront path ++ '[' :: (ending ++ ']' :: lineBack message)))).map (' ' :: ' ' :: ·) := by
  generalize same : lineFront path ++ '[' :: (ending ++ ']' :: lineBack message) = back
  have text : s!"  [red]• {path}[/red]: {message}".toList =
      ' ' :: ' ' :: '[' :: ("red".toList ++ ']' :: back) := by
    have front : "  [red]• ".toList = [' ', ' ', '['] ++ "red".toList ++ [']', '•', ' '] := by
      decide +kernel
    have middle : "[/red]: ".toList = '[' :: ending ++ [']', ':', ' '] := by decide +kernel
    change ("  [red]• " ++ path ++ "[/red]: " ++ message).toList = _
    rw [← same, String.toList_append, String.toList_append, String.toList_append, front, middle]
    simp [lineFront, lineBack]
  have blanks : visible (partBefore [' ', ' ']) = [' ', ' '] := by decide +kernel
  have long : back.length + 3 ≤ (' ' :: ' ' :: '[' :: ("red".toList ++ ']' :: back)).length := by
    simp
  obtain ⟨more, counted⟩ := Nat.exists_eq_add_of_le' (Nat.le_trans (Nat.le_add_left 3 _) long)
  refine ⟨more + 1, 0 + 1 + 1 + "red".toList.length + 2, by omega, ?_⟩
  rw [shown, text, parts, counted, partsFrom_of_plain (by decide), partsFrom_of_plain (by decide),
    partsFrom_of_tag isStyle_red.tag, shownParts_partBefore, isStyle_red.shownParts_opening, blanks]
  rfl

/-- The line about what aborted a run is exact if and only if nothing is read in it or left out, and the
path does not end with a backslash. -/
theorem line_exact_iff (path message : String) :
    (Cell.markup s!"  [red]• {path}[/red]: {message}").resolved = .ok (plainLine path message) ↔
      isVerbatim path.toList = true ∧ path.toList.getLast? ≠ some '\\' ∧
        isVerbatim message.toList = true := by
  obtain ⟨fuel, position, enough, shows⟩ := exists_shown_line path message
  have literal := isLiteral_lineFront path
  have literal' := isLiteral_lineBack message
  have last := noSlash_lineFront path
  have still := isStill_plainLine path message
  have tag : IsTag ending := isStyle_red.ending
  have step : ∀ place parts, shownParts ["red"] (.tag ending place :: parts) = shownParts [] parts :=
    isStyle_red.shownParts_ending []
  rw [Cell.resolved, Cell.shown, shows, isVerbatim, isVerbatim, Bool.and_eq_true, Bool.and_eq_true]
  constructor
  · intro laidOut
    cases read : shownParts ["red"] (partsFrom fuel position []
        (lineFront path ++ '[' :: (ending ++ ']' :: lineBack message))) with
    | error error =>
        rw [read] at laidOut
        contradiction
    | ok shown =>
        rw [read] at laidOut
        have same : sanitized (' ' :: ' ' :: shown) = plainLine path message := Except.ok.inj laidOut
        have unchanged : marks shown = marks (lineFront path ++ lineBack message) := by
          change marks (' ' :: ' ' :: shown) = marks (plainLine path message)
          rw [← same, marks_sanitized]
        obtain ⟨front, ends, back⟩ := isLiteral_of_spliced tag (by decide +kernel) position
          enough read unchanged
        rw [shownParts_spliced tag step position enough front ends back] at read
        cases read
        have both := (still.symm.trans (sanitized_eq_iff.1 same) : (_ && _) = true)
        rw [Bool.and_eq_true] at both
        exact ⟨⟨literal ▸ front, both.1⟩, last.1 ends, literal' ▸ back, both.2⟩
  · rintro ⟨⟨isPath, stillPath⟩, ends, isMessage, stillMessage⟩
    rw [shownParts_spliced tag step position enough (literal.trans isPath) (last.2 ends)
      (literal'.trans isMessage)]
    have whole : isStill (plainLine path message) = true := by
      rw [still, stillPath, stillMessage]
      rfl
    exact congrArg Except.ok (sanitized_eq_iff.2 whole)

theorem cause_exact_iff (cause : String) :
    (Cell.markup s!"    cause: {cause}").resolved = .ok ("    cause: ".toList ++ cause.toList) ↔
      isVerbatim cause.toList = true := by
  have text : s!"    cause: {cause}" = "    cause: " ++ cause := rfl
  have front : "    cause: ".toList = [' ', ' ', ' ', ' ', 'c', 'a', 'u', 's', 'e', ':', ' '] := by
    decide +kernel
  have literal : isLiteral ("    cause: ".toList ++ cause.toList) = isLiteral cause.toList := by
    rw [front]
    exact isLiteral_append (by decide) rfl
  have still : isStill ("    cause: ".toList ++ cause.toList) = isStill cause.toList := by
    simp [front, isStill]
  rw [text, ← String.toList_append, resolved_markup_iff, isVerbatim, isVerbatim,
    String.toList_append, literal, still]

/-- What is laid out about a failure that aborted a run, as it is. -/
def plainAbort (abort : Diagnostic) : List PlainBlock :=
  [.empty, .text "Run aborted:".toList,
    .text (plainLine ((abort.path.map Path.toString).getD "None") abort.message)] ++
    (abort.cause.map fun cause => .text ("    cause: ".toList ++ cause.text.toList)).toList

/-- What is shown about a failure that aborted a run is exact. -/
structure Abort.IsExact (abort : Diagnostic) : Prop where
  path : ∀ path, abort.path = some path →
    isVerbatim path.toString.toList = true ∧ path.toString.toList.getLast? ≠ some '\\'
  message : isVerbatim abort.message.toList = true
  cause : ∀ cause, abort.cause = some cause → isVerbatim cause.text.toList = true

theorem resolved_markup_eq_iff {text : String} {words : List Char} :
    Block.resolved (.markup text) = .ok (.text words) ↔ (Cell.markup text).resolved = .ok words := by
  rw [Block.resolved, map_eq_ok_iff fun _ _ => PlainBlock.text.inj]

theorem abort_exact_iff (abort : Diagnostic) :
    (abortBlocks abort).mapM Block.resolved = .ok (plainAbort abort) ↔ Abort.IsExact abort := by
  have title : Block.resolved (.markup "[bold red]Run aborted:[/bold red]") =
      .ok (.text "Run aborted:".toList) :=
    resolved_markup_eq_iff.2 (by decide +kernel)
  have cause : ((abort.cause.map fun cause => Block.markup s!"    cause: {cause.text}").toList).mapM
        Block.resolved =
      .ok (abort.cause.map fun cause => .text ("    cause: ".toList ++ cause.text.toList)).toList ↔
        ∀ cause, abort.cause = some cause → isVerbatim cause.text.toList = true := by
    cases abort.cause with
    | none => exact iff_of_true rfl (by simp)
    | some cause =>
        simp only [Option.map_some, Option.toList_some, mapM_cons_eq_ok_iff, resolved_markup_eq_iff,
          cause_exact_iff, Option.some.injEq, forall_eq']
        exact and_iff_left rfl
  have path : isVerbatim ((abort.path.map Path.toString).getD "None").toList = true ∧
      ((abort.path.map Path.toString).getD "None").toList.getLast? ≠ some '\\' ↔
        ∀ path, abort.path = some path →
          isVerbatim path.toString.toList = true ∧ path.toString.toList.getLast? ≠ some '\\' := by
    cases abort.path with
    | none => exact iff_of_true (by decide +kernel) (by simp)
    | some path => simp
  have line := resolved_markup_eq_iff.trans
    (line_exact_iff ((abort.path.map Path.toString).getD "None") abort.message)
  rw [abortBlocks, plainAbort, List.cons_append, List.cons_append, List.cons_append,
    List.cons_append, List.cons_append, List.cons_append, List.nil_append, List.nil_append,
    mapM_cons_eq_ok_iff, mapM_cons_eq_ok_iff, mapM_cons_eq_ok_iff, line, cause]
  constructor
  · rintro ⟨-, -, ⟨isPath, ends, isMessage⟩, isCause⟩
    exact ⟨path.1 ⟨isPath, ends⟩, isMessage, isCause⟩
  · rintro ⟨isPath, isMessage, isCause⟩
    obtain ⟨isPath, ends⟩ := path.2 isPath
    exact ⟨rfl, title, ⟨isPath, ends, isMessage⟩, isCause⟩

/-! ## All of it -/

/-- What is laid out about a report, as it is. -/
def plainBlocks (report : Report) : List PlainBlock :=
  [.panel ⟨"Enhancement Results".toList, report.summaryText.toList⟩] ++
    (if report.diagnostics = [] then []
      else [.table columns (report.diagnostics.map plainRow)]) ++
    (report.abort.map plainAbort).getD []

/-- What is shown about a report is exact: the paths and everything about the failure that aborted the
run are laid out as they stand, and nothing is left out of the messages. -/
structure IsExact (report : Report) : Prop where
  path : ∀ diagnostic ∈ report.diagnostics, ∀ path, diagnostic.path = some path →
    isVerbatim path.toString.toList = true
  message : ∀ diagnostic ∈ report.diagnostics, isStill (messageWithCause diagnostic).toList = true
  abort : ∀ abort, report.abort = some abort → Abort.IsExact abort

/-- A report is printed with its paths, messages and causes as they are if and only if there is nothing
to be read in them or to be left out. -/
theorem blocks_exact_iff (report : Report) :
    (report.blocks.mapM Block.resolved = .ok report.plainBlocks ∧
      ∀ width, Console.printed width report.blocks =
        (PlainBlock.printed width report.plainBlocks, none)) ↔ report.IsExact := by
  have abort : ((report.abort.map abortBlocks).getD []).mapM Block.resolved =
      .ok ((report.abort.map plainAbort).getD []) ↔
        ∀ abort, report.abort = some abort → Abort.IsExact abort := by
    cases report.abort with
    | none => exact iff_of_true rfl (by simp)
    | some abort => simp [abort_exact_iff]
  have resolved : report.blocks.mapM Block.resolved = .ok report.plainBlocks ↔ report.IsExact := by
    rw [blocks, plainBlocks, List.append_assoc, List.append_assoc, List.singleton_append,
      List.singleton_append, mapM_cons_eq_ok_iff]
    by_cases none : report.diagnostics = []
    · rw [if_pos none, if_pos none, List.nil_append, List.nil_append, abort]
      constructor
      · rintro ⟨-, isAbort⟩
        exact ⟨by simp [none], by simp [none], isAbort⟩
      · exact fun isExact => ⟨rfl, isExact.abort⟩
    · rw [if_neg none, if_neg none, List.singleton_append, List.singleton_append,
        mapM_cons_eq_ok_iff, abort, table_exact_iff]
      constructor
      · rintro ⟨-, isTable, isAbort⟩
        exact ⟨fun diagnostic member => (isTable diagnostic member).1,
          fun diagnostic member => (isTable diagnostic member).2, isAbort⟩
      · rintro ⟨isPath, isMessage, isAbort⟩
        exact ⟨rfl, fun diagnostic member => ⟨isPath diagnostic member, isMessage diagnostic member⟩,
          isAbort⟩
  rw [← resolved]
  exact and_iff_left_of_imp fun read _ => printed_of_resolved read

/-- A completed run with a warning about a class file. -/
def Sample.warned (file : String) : Report where
  status := .completed
  finalState := .done
  classesDir := Path.ofString "a"
  diagnostics := [⟨some (Path.ofString file), .warning, .transform, "boom", none⟩]
  startedAt := ⟨⟨2024, 1, 2⟩, 3, 4, 5, 0, some 0⟩

/-- A class file whose name reads like the end of a style keeps the table from being printed, and of one
whose name reads like a tag the table shows another path. -/
theorem blocks_exact_bracketed :
    (Console.printed 80 (Sample.warned "a[/b]").blocks).2 = some (.notOpen "/b" 1) ∧
      (Sample.warned "a/[b]/C.class").diagnostics.map
        (fun diagnostic => (row diagnostic).mapM Cell.resolved) =
          [.ok ["warning".toList, "transform".toList, "a//C.class".toList, "boom".toList]] := by
  decide +kernel

end Report

end Enhance
