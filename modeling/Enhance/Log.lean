import Enhance.Json.Printer
import Enhance.Text.Quoted

/-!
# The log

The log is a list of entries. An entry has a level, the name of the event, the fields that
belong to it and the part of the program that it comes from. A log is shown from a level on.
-/

namespace Enhance

/-- How important an entry is. -/
inductive Level where
  | debug
  | info
  | warning
  | error
  | critical
  deriving DecidableEq, Repr, Inhabited

namespace Level

/-- The name of a level. -/
def name : Level → String
  | .debug => "debug"
  | .info => "info"
  | .warning => "warning"
  | .error => "error"
  | .critical => "critical"

/-- The number that orders the levels. -/
def rank : Level → Nat
  | .debug => 10
  | .info => 20
  | .warning => 30
  | .error => 40
  | .critical => 50

/-- The level that a word stands for in the calls that write entries. -/
def ofMethod? : String → Option Level
  | "debug" => some .debug
  | "info" => some .info
  | "warning" | "warn" => some .warning
  | "error" | "exception" => some .error
  | "critical" | "fatal" => some .critical
  | _ => none

end Level

/-- The part of the program that an entry comes from. -/
inductive LogSource where
  | classpath
  | diagnostics
  | errors
  | invocation
  | run
  | scan
  | transformers
  | replacement
  deriving DecidableEq, Repr, Inhabited

/-- The name under which a part of the program writes its entries. -/
def LogSource.name : LogSource → String
  | .classpath => "weaver_core.classpath"
  | .diagnostics => "weaver_core.diagnostics"
  | .errors => "weaver_core.errors"
  | .invocation => "weaver_core.invoker"
  | .run => "weaver_core.runner"
  | .scan => "weaver_core.scanner"
  | .transformers => "weaver_core.transformers"
  | .replacement => "weaver_core.writer"

/-- An entry of the log. -/
structure LogEntry where
  source : LogSource
  level : Level
  event : String
  /-- The fields of the entry, those of the component that writes it first. -/
  fields : List (String × Json)

namespace LogEntry

/-- Adds a field to others. A field that is there keeps its place and is given the new value. -/
def put (fields : List (String × Json)) (field : String × Json) : List (String × Json) :=
  if fields.any (·.1 = field.1) then
    fields.map fun other => if other.1 = field.1 then field else other
  else fields ++ [field]

/-- A line of the log: the fields, the event, the level and the source. -/
def line (fields : List (String × Json)) (event : String) (level : Level) (source : String) :
    Json :=
  .obj ([("event", .str event), ("level", .str level.name), ("logger", .str source)].foldl put
    fields)

/-- An entry as a line of the log. -/
def toJson (entry : LogEntry) : Json :=
  line entry.fields entry.event entry.level entry.source.name

end LogEntry

/-- Why a word does not say from which level on a log is shown. -/
inductive ThresholdError where
  | unknown (word : String)
  /-- The word names a text of the log instead of a level. -/
  | format (text : String)
  deriving DecidableEq, Repr

/-- The class of the error. -/
def ThresholdError.kind : ThresholdError → String
  | .unknown _ => "AttributeError"
  | .format _ => "ValueError"

/-- Why a word does not say from which level on a log is shown. -/
def ThresholdError.message : ThresholdError → String
  | .unknown word => s!"module 'logging' has no attribute '{word}'"
  | .format text => s!"Unknown level: {Text.quoted text}"

/-- The rank from which on a log is shown. -/
def threshold (upper : String) : Except ThresholdError Nat :=
  match upper with
  | "NOTSET" => .ok 0
  | "DEBUG" => .ok 10
  | "INFO" => .ok 20
  | "WARNING" | "WARN" => .ok 30
  | "ERROR" => .ok 40
  | "CRITICAL" | "FATAL" => .ok 50
  | "BASIC_FORMAT" => .error (.format "%(levelname)s:%(name)s:%(message)s")
  | word => .error (.unknown word)

end Enhance
