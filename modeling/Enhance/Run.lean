import Enhance.Classpath.Build
import Enhance.Number.Decimal
import Enhance.Replacement
import Enhance.Scan
import Enhance.Transformer.Invocation

/-!
# Runs

A run finds the class files, builds the class path once and then takes the class files in the
order in which they were found: each is transformed and, if there are new bytes, written. What
goes wrong becomes a diagnostic, and the failure policy decides whether the run goes on after
it. A run passes through the states of `RunState.Step` and ends with a report.
-/

namespace Enhance

/-- What a run has done so far. -/
structure Progress where
  /-- The states the run was in, the present one last. -/
  history : List RunState := [.idle]
  scanned : List Path := []
  enhanced : List Path := []
  unchanged : List Path := []
  diagnostics : List Diagnostic := []
  startedAt : Timestamp
  /-- The reading of the clock at the start. -/
  startTime : Float

namespace Progress

/-- The state a run is in. -/
def state (progress : Progress) : RunState :=
  progress.history.getLast?.getD .idle

end Progress

/-- What a run is made with. -/
structure Run where
  settings : Settings
  transformer : Transformer
  sink : Sink

namespace Run

/-- How the run treats failures. -/
def policy (run : Run) : FailurePolicy :=
  run.settings.policy

/-- An entry that a run writes into the log. -/
def logEntry (level : Level) (event : String) (fields : List (String × Json)) : LogEntry :=
  { source := .run
    level
    event
    fields := ("component", .str "enhancement_runner") :: fields }

/-- Goes over to the next state. -/
def enter (progress : Progress) (next : RunState) : Program Progress := do
  Program.log (logEntry .debug "run_state_changed"
    [("previous", .str progress.state.name), ("state", .str next.name)])
  pure { progress with history := progress.history ++ [next] }

/-- The number of whole milliseconds between two readings of the clock. -/
def milliseconds (start finish : Float) : Int :=
  Number.truncated ((finish - start) * 1000.0)

/-- What a run has done at its beginning. -/
def begin : Program Progress := do
  let startTime ← Program.readClock
  pure { startedAt := (← get).now, startTime }

/-- The report of what a run has done. -/
def report (run : Run) (progress : Progress) (status : RunStatus) (skipReason : Option String)
    (abort : Option Diagnostic) : Program Report := do
  let finish ← Program.readClock
  pure {
    status
    finalState := progress.state
    skipReason
    classesDir := run.settings.classesDir
    scanned := progress.scanned
    enhanced := progress.enhanced
    unchanged := progress.unchanged
    diagnostics := progress.diagnostics
    abort
    startedAt := progress.startedAt
    finishedAt := some (← get).now
    milliseconds := milliseconds progress.startTime finish }

/-- The end of a run: its report and what it has done. -/
abbrev Ending := Report × Progress

/-- Ends a run that no failure ended. -/
def finish (run : Run) (progress : Progress) (status : RunStatus) (skipReason : Option String) :
    Program Ending := do
  let progress ← enter progress .done
  pure (← run.report progress status skipReason none, progress)

/-- Ends a run because of a failure. -/
def stop (run : Run) (progress : Progress) (diagnostic : Option Diagnostic) : Program Ending := do
  let progress ← enter progress .aborted
  pure (← run.report progress .aborted none diagnostic, progress)

/-- Ends a run because there is nothing to do. -/
def skip (run : Run) (progress : Progress) (level : Level) (reason : String)
    (fields : List (String × Json)) (skipReason : String) : Program Ending := do
  Program.log (logEntry level "enhancement_skipped" (("reason", .str reason) :: fields))
  run.finish progress .skipped (some skipReason)

/-- Records a failure; the diagnostic comes back if it ends the run. -/
def recordFailure (run : Run) (progress : Progress) (diagnostic : Diagnostic) :
    Program (Progress × Option Diagnostic) := do
  let progress := { progress with diagnostics := progress.diagnostics ++ [diagnostic] }
  run.sink.report diagnostic
  match run.policy.decide diagnostic with
  | .abort =>
    Program.log (logEntry .warning "fail_fast_triggered"
      [("path", .str (diagnostic.pathText.getD "None")), ("kind", .str diagnostic.stage.name)])
    pure (progress, some diagnostic)
  | .proceed => pure (progress, none)

/-- The diagnostic about a class file that could not be transformed. -/
def transformDiagnostic (path : Path) (message : String) (cause : Option Failure) : Diagnostic :=
  { path := some path, severity := .warning, stage := .transform, message, cause }

/-- Transforms one class file and writes it if there are new bytes. A diagnostic comes back if
it ends the run. -/
def process (run : Run) (invocation : Invocation) (progress : Progress) (path : Path) :
    Program (Progress × Option Diagnostic) := do
  let outcome ← Program.traced "weaver.enhance_class" [("weaver.class", .str path.toString)]
    (invocation.run path)
  match outcome with
  | .unchanged =>
    Program.log (logEntry .debug "class_unchanged" [("path", .str path.toString)])
    pure ({ progress with unchanged := progress.unchanged ++ [path] }, none)
  | .failed message cause =>
    run.recordFailure progress (transformDiagnostic path message cause)
  | .transformed data =>
    match ← run.settings.writeStrategy.write path data with
    | some diagnostic => run.recordFailure progress diagnostic
    | none =>
      Program.log (logEntry .info "class_enhanced" [("path", .str path.toString)])
      pure ({ progress with enhanced := progress.enhanced ++ [path] }, none)

/-- Processes class files in order until one ends the run. -/
def processAll (run : Run) (invocation : Invocation) :
    Progress → List Path → Program (Progress × Option Diagnostic)
  | progress, [] => pure (progress, none)
  | progress, path :: paths => do
    let (progress, abort) ← run.process invocation progress path
    match abort with
    | some diagnostic => pure (progress, some diagnostic)
    | none => run.processAll invocation progress paths

/-- What the log says about extended enhancement. -/
def extendedNotice : String :=
  "Classes other than entities may be modified. Consider accessing " ++
    "entities through getter/setter methods and disabling this property."

/-- Processes the class files on a class path. -/
def enhance (run : Run) (progress : Progress) (classpath : Classpath) : Program Ending := do
  let progress ← enter progress .contextBuilt
  if run.settings.capabilities.extendedEnhancement then
    Program.log (logEntry .warning "extended_enhancement_enabled"
      [("detail", .str extendedNotice)])
  let progress ← enter progress .processing
  let invocation : Invocation := ⟨run.transformer, classpath, run.settings.capabilities⟩
  match ← run.processAll invocation progress progress.scanned with
  | (progress, some diagnostic) => run.stop progress (some diagnostic)
  | (progress, none) => run.finish progress .completed none

/-- Builds the class path for the class files that were found and processes them. -/
def prepare (run : Run) (progress : Progress) : Program Ending := do
  let settings := run.settings
  Program.log (logEntry .info "enhancement_started" [
    ("classes_dir", .str settings.classesDir.toString),
    ("classes", .nat progress.scanned.length),
    ("features", .texts settings.capabilities.names),
    ("fail_fast", .bool (run.policy = .failFast))])
  let built ← Classpath.build run.policy run.sink settings.classesDir settings.dependencies
  let progress := { progress with diagnostics := progress.diagnostics ++ built.diagnostics }
  match built.abort, built.classpath with
  | none, some classpath => run.enhance progress classpath
  | abort, _ => run.stop progress abort

/-- Looks for class files and processes them. -/
def execute (run : Run) (progress : Progress) : Program Ending := do
  let root := run.settings.classesDir
  let progress ← enter progress .configChecked
  if !run.settings.capabilities.any then
    run.skip progress .warning "no feature is enabled" [] "No enhancement feature is enabled"
  else
    let progress ← enter progress .scanning
    if !(← Program.askSystem fun disk cwd => Disk.isThere disk cwd root) then
      run.skip progress .info "classes directory does not exist"
        [("classes_dir", .str root.toString)] s!"There is no classes directory {root}"
    else
      let artifacts ← Scanner.scan ⟨run.settings.extension⟩ root
      let progress := { progress with scanned := artifacts.paths }
      if artifacts.paths = [] then
        run.skip progress .info "no classes to enhance"
          [("classes_dir", .str root.toString)] s!"There are no classes to enhance in {root}"
      else run.prepare progress

/-- Goes through a run that has begun. -/
def complete (run : Run) (progress : Progress) : Program Ending := do
  let (report, progress) ← Program.traced "weaver.enhance"
    [("weaver.classes_dir", .str run.settings.classesDir.toString)] (run.execute progress)
  Program.log (logEntry .info "enhancement_completed" [
    ("status", .str report.status.name),
    ("enhanced", .nat report.enhanced.length),
    ("unchanged", .nat report.unchanged.length),
    ("warnings", .nat (report.count .warning)),
    ("errors", .nat (report.count .error)),
    ("total_duration_ms", .int report.milliseconds)])
  pure (report, progress)

/-- A whole run. -/
def start (run : Run) : Program Ending := do
  run.complete (← begin)

/-- Makes a run ready, for which the clock is read once, and starts it. -/
def startNew (run : Run) : Program Ending := do
  let _ ← Program.readClock
  run.start

end Run

/-- A runner goes through one run after the other. It holds what runs are made with and what the
latest of them has done. -/
structure Runner where
  run : Run
  progress : Progress

namespace Runner

/-- Makes a runner forget its latest run. -/
def reset (runner : Runner) : Program Runner := do
  let startTime ← Program.readClock
  let startedAt := (← get).now
  pure { runner with
    progress := { runner.progress with
      history := [.idle], scanned := [], enhanced := [], unchanged := [], diagnostics := []
      startedAt, startTime } }

/-- Lets a runner go through a run. -/
def call (runner : Runner) : Program (Report × Runner) := do
  let runner ← runner.reset
  let (report, progress) ← runner.run.complete runner.progress
  pure (report, { runner with progress })

end Runner

end Enhance
