import Enhance.Console.Message
import Enhance.Report.Basic

/-!
# Reports on the console

A report is shown as a panel that sums it up, a table of its diagnostics and, if the run was
aborted, what aborted it.
-/

namespace Enhance.Report

open Enhance.Console

/-- The text of the panel. -/
def summaryText (report : Report) : String :=
  "WEAVER ENHANCEMENT REPORT\n\nStatus: " ++ report.status.name.toUpper ++
    s!"\nClasses directory: {report.classesDir}" ++
    (match report.skipReason.filter (· ≠ "") with
      | some reason => s!"\nSkipped: {reason}"
      | none =>
        s!"\nClasses: {report.scanned.length} scanned, {report.enhanced.length} enhanced, " ++
          s!"{report.unchanged.length} unchanged") ++
    (if 0 < report.milliseconds then s!"\nDuration: {report.milliseconds}ms" else "")

/-- The columns of the table of diagnostics. -/
def columns : List Column := [
  { header := "Severity", width := some 8 }, { header := "Kind", width := some 12 },
  { header := "Path", leastWidth := 20 }, { header := "Message", leastWidth := 30 }]

/-- The message of a diagnostic with its cause. -/
def messageWithCause (diagnostic : Diagnostic) : String :=
  diagnostic.message ++ ((diagnostic.cause.map fun cause => s!" ({cause.text})").getD "")

/-- The row of a diagnostic. -/
def row (diagnostic : Diagnostic) : List Cell := [
  .plain diagnostic.severity.name,
  .markup diagnostic.stage.name,
  .markup ((diagnostic.path.map Path.toString).getD "-"),
  .plain (messageWithCause diagnostic)]

/-- What is printed about a diagnostic that aborted the run. -/
def abortBlocks (abort : Diagnostic) : List Block :=
  let path := (abort.path.map Path.toString).getD "None"
  [.empty, .markup "[bold red]Run aborted:[/bold red]",
    .markup s!"  [red]• {path}[/red]: {abort.message}"] ++
    (abort.cause.map fun cause => Block.markup s!"    cause: {cause.text}").toList

/-- What is printed about a report. -/
def blocks (report : Report) : List Block :=
  [.panel ⟨"Enhancement Results".toList, report.summaryText.toList⟩] ++
    (if report.diagnostics = [] then [] else [.table columns (report.diagnostics.map row)]) ++
    (report.abort.map abortBlocks).getD []

end Enhance.Report
