import Enhance.Log
import Enhance.Report.Basic

/-!
# Errors meant for the user

Errors at the boundaries of a run. Their text is safe to show; technical details go to the
log only.
-/

namespace Enhance

/-- An error meant for the user. -/
inductive UserError where
  | general (message : String)
  /-- The settings are wrong, perhaps at a known place. -/
  | configuration (message : String) (file field : Option String) (line : Option Int)
  /-- There is no such transformer; these are the ones to choose from. -/
  | noTransformer (name : String) (available : List String)
  /-- A failure ended the run. -/
  | aborted (run : AbortedRun)
  deriving DecidableEq, Repr

namespace UserError

/-- The class of an error. -/
def kind : UserError → String
  | .general _ => "WeaverError"
  | .configuration .. => "ConfigurationError"
  | .noTransformer .. => "TransformerNotFoundError"
  | .aborted _ => "EnhancementAbortedError"

/-- The place of a wrong setting, as far as it is known. -/
def placeText (file field : Option String) (line : Option Int) : String :=
  let file := (file.filter (· ≠ "")).map fun file => s!"in {file}"
  let line := (line.filter (· ≠ 0)).map fun line => s!"line {line}"
  let field := (field.filter (· ≠ "")).map fun field => s!"field '{field}'"
  match file.toList ++ line.toList ++ field.toList with
  | [] => ""
  | parts => " (" ++ ", ".intercalate parts ++ ")"

/-- The text of an error. -/
def message : UserError → String
  | .general message => message
  | .configuration message file field line => message ++ placeText file field line
  | .noTransformer name available =>
    let names := if available = [] then "none" else ", ".intercalate available
    s!"Transformer '{name}' not found. Available: {names}"
  | .aborted run => run.message

/-- The entry that technical details about an error leave in the log. -/
def logEntry (error : UserError) (details : String) : LogEntry :=
  { source := .errors
    level := .error
    event := "weaver_error"
    fields := [
      ("error_type", .str error.kind),
      ("user_message", .str error.message),
      ("internal_details", .str details)] }

end UserError

/-- The entry that reports a diagnostic in the log. -/
def Diagnostic.logEntry (diagnostic : Diagnostic) : LogEntry :=
  { source := .diagnostics
    level := if diagnostic.severity = .error then .error else .warning
    event := "diagnostic_reported"
    fields := [
      ("component", .str "diagnostics"),
      ("path", .optionalText diagnostic.pathText),
      ("kind", .str diagnostic.stage.name),
      ("message", .str diagnostic.message),
      ("cause", .optionalText diagnostic.causeText)] }

/-- The diagnostics about one path. -/
def Diagnostic.about (path : Path) (diagnostics : List Diagnostic) : List Diagnostic :=
  diagnostics.filter (·.path = some path)

end Enhance
