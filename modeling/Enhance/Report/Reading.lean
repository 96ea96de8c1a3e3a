import Enhance.Report.Basic
import Enhance.Timestamp.Reading

/-!
# Reading reports

A report can be read from a mapping. It may leave out what is usual of a report: lists that are
empty and the time at which it began.
-/

namespace Enhance

namespace Report

/-- A duration, which is not negative. -/
def duration (value : Value) : Checked Int :=
  value.intOf.andThen fun n => if n < 0 then .refused (.below 0) else .accepted n

/-- The names of the fields of a report. -/
def names : List String :=
  ["status", "final_state", "skip_reason", "classes_dir", "scanned", "enhanced", "unchanged",
    "diagnostics", "abort", "started_at", "finished_at", "total_duration_ms"]

/-- The report that a mapping describes, for the present time. -/
def ofValue (now : Timestamp) : Value → Checked Report :=
  Value.recordOf "EnhancementReport" names fun entries =>
    Report.mk
      <$> Value.required "status" (Value.choiceOf RunStatus.choices) entries
      <*> Value.required "final_state" (Value.choiceOf RunState.choices) entries
      <*> Value.defaulting "skip_reason" none (Value.optional Value.textOf) entries
      <*> Value.required "classes_dir" Value.pathOf entries
      <*> Value.defaulting "scanned" [] (Value.listOf Value.pathOf) entries
      <*> Value.defaulting "enhanced" [] (Value.listOf Value.pathOf) entries
      <*> Value.defaulting "unchanged" [] (Value.listOf Value.pathOf) entries
      <*> Value.defaulting "diagnostics" [] (Value.listOf Diagnostic.ofValue) entries
      <*> Value.defaulting "abort" none (Value.optional Diagnostic.ofValue) entries
      <*> Value.defaulting "started_at" now Timestamp.ofValue entries
      <*> Value.defaulting "finished_at" none (Value.optional Timestamp.ofValue) entries
      <*> Value.defaulting "total_duration_ms" 0 duration entries

end Report

end Enhance
