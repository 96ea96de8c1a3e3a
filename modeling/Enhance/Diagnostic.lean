import Enhance.Value.Check

/-!
# Diagnostics

A diagnostic is a problem with one class file or one entry of the class path. It tells how
severe the problem is, which stage of the run it comes from and what caused it. The failure
policy of a run decides whether the run goes on after a diagnostic.
-/

namespace Enhance

/-- How severe a problem is. -/
inductive Severity where
  /-- The class file is as it was before the run. -/
  | warning
  /-- The class file may be damaged, or could not be replaced. -/
  | error
  deriving DecidableEq, Repr, Inhabited

/-- The name of a severity. -/
def Severity.name : Severity → String
  | .warning => "warning"
  | .error => "error"

/-- The stage of a run that a problem comes from. -/
inductive Stage where
  /-- Building the class path. -/
  | classpath
  /-- Reading or transforming a class file. -/
  | transform
  /-- Writing a transformed class file. -/
  | persistence
  deriving DecidableEq, Repr, Inhabited

/-- The name of a stage. -/
def Stage.name : Stage → String
  | .classpath => "classpath"
  | .transform => "transform"
  | .persistence => "persistence"

/-- A problem with a class file or an entry of the class path. -/
structure Diagnostic where
  path : Option Path
  severity : Severity
  stage : Stage
  message : String
  cause : Option Failure
  deriving DecidableEq, Repr

namespace Diagnostic

/-- The class and the text of the cause. -/
def causeText (diagnostic : Diagnostic) : Option String :=
  diagnostic.cause.map Failure.text

/-- The text of the path. -/
def pathText (diagnostic : Diagnostic) : Option String :=
  diagnostic.path.map Path.toString

/-- The names of the severities. -/
def severities : List (String × Severity) :=
  [Severity.warning, .error].map fun severity => (severity.name, severity)

/-- The names of the stages. -/
def stages : List (String × Stage) :=
  [Stage.classpath, .transform, .persistence].map fun stage => (stage.name, stage)

/-- The diagnostic that a mapping describes. -/
def ofValue : Value → Checked Diagnostic :=
  Value.recordOf "Diagnostic" ["path", "severity", "kind", "message", "cause"] fun entries =>
    Diagnostic.mk
      <$> Value.defaulting "path" none (Value.optional Value.pathOf) entries
      <*> Value.required "severity" (Value.choiceOf severities) entries
      <*> Value.required "kind" (Value.choiceOf stages) entries
      <*> Value.required "message" (Value.textOfLength 1) entries
      <*> Value.defaulting "cause" none (Value.optional Value.failureOf) entries

/-- A diagnostic as part of a report. -/
def toJson (diagnostic : Diagnostic) : Json :=
  .obj [
    ("path", .optionalText diagnostic.pathText),
    ("severity", .str diagnostic.severity.name),
    ("kind", .str diagnostic.stage.name),
    ("message", .str diagnostic.message),
    ("cause", .optionalText diagnostic.causeText)]

end Diagnostic

/-- What a run does after a diagnostic. -/
inductive Decision where
  | proceed
  | abort
  deriving DecidableEq, Repr

/-- The name of a decision. -/
def Decision.name : Decision → String
  | .proceed => "continue"
  | .abort => "abort"

/-- How a run treats failures. -/
inductive FailurePolicy where
  /-- The first failure ends the run. -/
  | failFast
  /-- Failures are recorded and the run goes on. -/
  | tolerant
  deriving DecidableEq, Repr, Inhabited

namespace FailurePolicy

/-- The name of a policy. -/
def name : FailurePolicy → String
  | .failFast => "fail_fast"
  | .tolerant => "continue"

/-- The policy of that name. -/
def ofName? (words : String) : Option FailurePolicy :=
  [failFast, tolerant].find? (·.name = words)

/-- The policy for a switch that tells whether failures end the run. -/
def ofFlag (failOnError : Bool) : FailurePolicy :=
  if failOnError then .failFast else .tolerant

/-- What a run does after a diagnostic. Every diagnostic is a failure, so that the policy
alone decides. -/
def decide (policy : FailurePolicy) (_ : Diagnostic) : Decision :=
  match policy with
  | .failFast => .abort
  | .tolerant => .proceed

end FailurePolicy

end Enhance
