import Enhance.Json.Printer
import Enhance.Report.Basic

/-!
# Reports as structured values
-/

namespace Enhance.Report

/-- The numbers of a report. -/
def summary (report : Report) : Json :=
  .obj [
    ("scanned", .nat report.scanned.length),
    ("enhanced", .nat report.enhanced.length),
    ("unchanged", .nat report.unchanged.length),
    ("warnings", .nat (report.count .warning)),
    ("errors", .nat (report.count .error))]

/-- A report as a structured value. -/
def toJson (report : Report) : Json :=
  .obj [
    ("status", .str report.status.name),
    ("passed", .bool report.passed),
    ("state", .str report.finalState.name),
    ("skip_reason", .optionalText report.skipReason),
    ("classes_dir", .str report.classesDir.toString),
    ("summary", report.summary),
    ("enhanced", .texts (report.enhanced.map Path.toString)),
    ("duration_ms", .int report.milliseconds),
    ("started_at", .str report.startedAt.text),
    ("finished_at", .optionalText (report.finishedAt.map Timestamp.text)),
    ("diagnostics", .arr (report.diagnostics.map Diagnostic.toJson)),
    ("abort", (report.abort.map Diagnostic.toJson).getD .null)]

/-- The text of a report, with an item a line or on one line. -/
def jsonText (report : Report) (pretty : Bool) : String :=
  if pretty then report.toJson.indented else report.toJson.compact

end Enhance.Report
