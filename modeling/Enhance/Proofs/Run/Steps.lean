import Enhance.Proofs.Run.Processing
import Enhance.Proofs.Scan.Discovery

/-!
# What a run inherits from its steps

What holds of looking at files and at the clock holds of all that a run does apart from its class
files, and what holds of changing files, too, holds of processing class files if it holds of the
transformer (`Run.processAll_working`).
-/

namespace Enhance

open Program

/-- A property holds of whatever a transformer does. -/
def Transformer.Has (transformer : Transformer) (holds : (α : Type) → Program α → Prop) : Prop :=
  ∀ file classpath capabilities, holds Answer (transformer.transform file classpath capabilities)

namespace Invocation

variable {holds : (α : Type) → Program α → Prop} {invocation : Invocation}

theorem failed_lawful (lawful : Lawful holds) (event : String) (path : Path) (failure : Failure) :
    holds Outcome (failed event path failure) :=
  lawful.bind (lawful.log nofun) fun _ => lawful.pure _

theorem call_recording (recording : Recording holds) (has : invocation.transformer.Has holds)
    (path : Path) (given : List UInt8) : holds Answer (invocation.call path given) :=
  recording.bind (recording.record _) fun _ => recording.apart (has _ _ _)

/-- What holds of calling the transformer holds of transforming a class file. -/
theorem run_of_calls (recording : Recording holds) {path : Path}
    (calls : ∀ given, holds Answer (invocation.call path given)) :
    holds Outcome (invocation.run path) := by
  have lawful := recording.toLawful
  have reads : holds (List UInt8) (readClass path) :=
    lawful.bind (lawful.strike _ _) fun _ => lawful.ask _
  apply lawful.bind (lawful.catchSystem reads)
  intro found
  cases found with
  | error error => exact failed_lawful lawful _ _ _
  | ok given =>
      apply lawful.bind (recording.catchOrdinary (calls given))
      intro result
      cases result with
      | error failure => exact failed_lawful lawful _ _ _
      | ok answer =>
          cases answer with
          | nothing | bytes => exact lawful.pure _
          | other kind => exact failed_lawful lawful _ _ _
          | unreadable failure | wordless failure => exact lawful.throw _

theorem run_recording (recording : Recording holds) (has : invocation.transformer.Has holds)
    (path : Path) : holds Outcome (invocation.run path) :=
  run_of_calls recording fun given => call_recording recording has path given

end Invocation

namespace Run

variable {holds : (α : Type) → Program α → Prop}

/-! ## The frame of a run -/

theorem enter_lawful (lawful : Lawful holds) (progress : Progress) (state : RunState) :
    holds Progress (enter progress state) :=
  lawful.bind (lawful.log nofun) fun _ => lawful.pure _

theorem refuse_reporting (reporting : Reporting holds) (run : Run) (diagnostic : Diagnostic) :
    holds Verdict (run.refuse diagnostic) := by
  have lawful := reporting.toLawful
  apply lawful.bind (reporting.report _ _)
  intro _
  split
  · exact lawful.bind (lawful.log nofun) fun _ => lawful.pure _
  · exact lawful.pure _

section

variable (timed : Timed holds)

include timed

theorem begin_timed : holds Progress begin :=
  timed.bind timed.readClock fun time => timed.now fun now =>
    timed.pure ({ startedAt := now, startTime := time } : Progress)

theorem report_timed (run : Run) (progress : Progress) (status : RunStatus)
    (skipReason : Option String) (abort : Option Diagnostic) :
    holds Report (run.report progress status skipReason abort) := by
  apply timed.bind timed.readClock
  intro finish
  exact timed.now fun now => timed.pure ({
    status
    finalState := progress.state
    skipReason
    classesDir := run.settings.classesDir
    scanned := progress.scanned
    enhanced := progress.enhanced
    unchanged := progress.unchanged
    diagnostics := progress.diagnostics
    abort
    startedAt := progress.startedAt
    finishedAt := some now
    milliseconds := milliseconds progress.startTime finish } : Report)

theorem finish_timed (run : Run) (progress : Progress) (status : RunStatus)
    (skipReason : Option String) : holds Ending (run.finish progress status skipReason) :=
  timed.bind (enter_lawful timed.toLawful _ _) fun _ =>
    timed.bind (report_timed timed _ _ _ _ _) fun _ => timed.pure _

theorem stop_timed (run : Run) (progress : Progress) (diagnostic : Option Diagnostic) :
    holds Ending (run.stop progress diagnostic) :=
  timed.bind (enter_lawful timed.toLawful _ _) fun _ =>
    timed.bind (report_timed timed _ _ _ _ _) fun _ => timed.pure _

theorem skip_timed (run : Run) (progress : Progress) (level : Level) (reason words : String)
    (fields : List (String × Json)) :
    holds Ending (run.skip progress level reason fields words) :=
  timed.bind (timed.log nofun) fun _ => finish_timed timed _ _ _ _

end

/-! ## The class files -/

variable {invocation : Invocation}

theorem judge_working (working : Working holds) (has : invocation.transformer.Has holds) (run : Run)
    (path : Path) : holds Verdict (run.judge invocation path) := by
  have lawful := working.toLawful
  apply lawful.bind (working.traced _ _ (Invocation.run_recording working.toRecording has path))
  intro outcome
  cases outcome with
  | unchanged => exact lawful.bind (lawful.log nofun) fun _ => lawful.pure _
  | failed message cause => exact refuse_reporting working.toReporting _ _
  | transformed data =>
      apply lawful.bind (Replacement.write_changing working.toChanging _ _ _)
      intro problem
      cases problem with
      | some diagnostic => exact refuse_reporting working.toReporting _ _
      | none => exact lawful.bind (lawful.log nofun) fun _ => lawful.pure _

theorem processAll_working (working : Working holds) (has : invocation.transformer.Has holds)
    (run : Run) (progress : Progress) (paths : List Path) :
    holds (Progress × Option Diagnostic) (run.processAll invocation progress paths) := by
  have lawful := working.toLawful
  induction paths generalizing progress with
  | nil => exact lawful.pure _
  | cons path paths ih =>
      have processes : holds (Progress × Option Diagnostic) (run.process invocation progress path) := by
        rw [process_eq, map_eq_pure_bind]
        exact lawful.bind (judge_working working has run path) fun _ => lawful.pure _
      apply lawful.bind processes
      rintro ⟨next, abort⟩
      cases abort with
      | some diagnostic => exact lawful.pure _
      | none => exact ih next

end Run

end Enhance
