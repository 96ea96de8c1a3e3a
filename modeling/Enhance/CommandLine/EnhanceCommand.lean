import Enhance.CommandLine.Configuration
import Enhance.CommandLine.Ending
import Enhance.CommandLine.Options
import Enhance.Report.Rendering
import Enhance.Report.Table
import Enhance.Run
import Enhance.Transformer.Selection

/-!
# Enhancing the class files

The command makes the settings, selects the transformer, runs it and prints the report. A run
that was aborted ends it with the code 1. An error that is not expected is printed as a message.
-/

namespace Enhance.CommandLine.EnhanceCommand

open Enhance.Console

/-- The flag that switches a feature on. -/
def featureFlag (feature : Feature) : OptionSpec :=
  flag ["--" ++ feature.name.map fun c => if c = '_' then '-' else c]

/-- The option that says whether the first failure ends the run. -/
def failOnErrorOption : OptionSpec :=
  { names := ["--fail-on-error"], offNames := ["--no-fail-on-error"] }

/-- The options of the command. -/
def options : List OptionSpec :=
  [{ names := ["-c", "--config"], takesValue := true, suitability := .file },
    dirOption none] ++ Feature.all.map featureFlag ++
  [failOnErrorOption,
    { names := ["-d", "--dependency"], takesValue := true },
    { names := ["--transformer"], takesValue := true },
    { names := ["--write-strategy"], takesValue := true,
      suitability := .oneOf (WriteStrategy.choices.map (·.1)) false },
    extensionOption none, formatOption, logLevelOption, flag ["--log-json"],
    flag ["-v", "--verbose"], helpOption]

/-- What the command is asked to do. -/
structure Request where
  file : Option Path
  overrides : Overrides
  format : Format
  verbose : Bool

/-- The request that options make. -/
def Request.ofGiven (given : List Given) : Request :=
  { file := (valueOf? given "--config").map Path.ofString
    overrides := {
      classesDir := (valueOf? given "--dir").map Path.ofString
      failOnError := (lastGiven? given "--fail-on-error").map (!·.isOff)
      transformer := valueOf? given "--transformer"
      writeStrategy := valueOf? given "--write-strategy"
      extension := valueOf? given "--extension"
      features := (Feature.all.filter fun feature =>
        (featureFlag feature).names.any (isGiven given)).map Feature.name
      dependencies := valuesOf given "--dependency" }
    format := formatOf given
    verbose := isGiven given "--verbose" }

/-- Says what the settings are. -/
def printSettings (settings : Settings) : Program Unit := do
  Program.print (message .info s!"Classes directory: {settings.classesDir}")
  let names := settings.capabilities.names
  Program.print (message .info
    ("Capabilities: " ++ if names = [] then "none" else ", ".intercalate names))

/-- The message that sums up a report. There is none if a failure is said to have ended the run
and nothing tells which. -/
def summary? (report : Report) : Option Block :=
  let problems := report.count .warning + report.count .error
  if report.isAborted then
    report.abort.map fun abort =>
      let path := (abort.path.map Path.toString).getD "None"
      message .error s!"Enhancement aborted at {path}: {abort.message}"
  else
    match report.skipReason.filter (· ≠ "") with
    | some reason => message .warning s!"Enhancement skipped: {reason}"
    | none =>
      if problems ≠ 0 then
        message .warning s!"Enhanced {report.enhanced.length} classes with {problems} problems"
      else
        message .success
          s!"Enhanced {report.enhanced.length} classes ({report.unchanged.length} unchanged)"

/-- Prints the message that sums up a report; that there is one is taken for granted. -/
def printSummary (report : Report) : Program Unit := do
  match summary? report with
  | some block => Program.print block
  | none => throw (.raised "AssertionError" "")

/-- Prints a report. -/
def printReport (format : Format) (report : Report) : Program Unit := do
  match format with
  | .json => Program.write (report.jsonText true ++ "\n")
  | .table =>
    report.blocks.forM Program.print
    printSummary report

/-- The ending of a run that there is a report about. -/
def endingOf (report : Report) : Ending :=
  .exit (if report.isAborted then 1 else 0)

/-- Runs a transformer with settings. -/
def enhance (settings : Settings) (transformer : Transformer) : Program Report := do
  let (report, _) ← Run.startNew ⟨settings, transformer, .logging⟩
  return report

/-- Does what is asked for. -/
def perform (plugins : Plugins) (request : Request) : Program Ending := do
  match ← settings request.file request.overrides with
  | .error stop => return .ofStop stop
  | .ok settings =>
    if request.verbose then printSettings settings
    let selection := plugins.resolve settings.transformer
    selection.log.forM Program.log
    match selection.result with
    | .error (.absent name available _) =>
      return .refused ⟨(UserError.noTransformer name available).message, 1⟩
    | .error (.reference error) => return .escaped error.kind error.message
    | .error (.failed failure) => throw failure
    | .ok transformer =>
      let report ← enhance settings transformer
      printReport request.format report
      return endingOf report

/-- Prints an error that is not expected. -/
def printUnexpected (text : String) : Program Ending := do
  Program.print (message .error s!"Enhancement error: {text}")
  return .exit 1

/-- Runs the command. -/
def run (plugins : Plugins) (arguments : List String) : Program Ending := do
  match ← readCommand options arguments with
  | .error error => return .misused error
  | .ok given =>
    if isGiven given "--log-json" then
      modify fun world => { world with shownFrom := some (rankOf given) }
    match ← Program.catchOrdinary (perform plugins (.ofGiven given)) with
    | .ok (.escaped _ text) => printUnexpected text
    | .ok ending => return ending
    | .error failure => printUnexpected failure.message

end Enhance.CommandLine.EnhanceCommand
