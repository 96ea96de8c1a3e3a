import Enhance.Outcome
import Enhance.Transformer.Basic

/-!
# Transforming one class file

The class file is read and handed to the transformer once. What goes wrong with either becomes
the cause of a failed outcome. What passes through is a request to stop the program, and what goes
wrong in looking at the answer or in asking an error of the transformer for its words.
-/

namespace Enhance

/-- What the transformer is called with besides the class. -/
structure Invocation where
  transformer : Transformer
  classpath : Classpath
  capabilities : Capabilities

namespace Invocation

/-- An entry about a class file that could not be transformed. -/
def logEntry (event : String) (path : Path) (failure : Failure) : LogEntry :=
  { source := .invocation
    level := .warning
    event
    fields := [
      ("component", .str "enhancement_invoker"),
      ("path", .str path.toString),
      ("error", .str failure.message)] }

/-- The message about a class file that could not be transformed. -/
def message (path : Path) : String :=
  s!"Unable to enhance class: {path.name}"

/-- The outcome of a failure, which is also noted in the log. -/
def failed (event : String) (path : Path) (failure : Failure) : Program Outcome := do
  Program.log (logEntry event path failure)
  pure (.failed (message path) (some failure))

/-- Reads a class file. -/
def readClass (path : Path) : Program (List UInt8) := do
  Program.strike .readClass path.name
  Program.ask fun disk cwd => Classpath.readFile disk cwd path

/-- Calls the transformer with the bytes of a class file and keeps a record of the call, which the
transformer does not see to itself. -/
def call (invocation : Invocation) (path : Path) (data : List UInt8) : Program Answer := do
  modify fun world =>
    { world with calls := ⟨path, data, invocation.capabilities.names⟩ :: world.calls }
  Program.apart
    (invocation.transformer.transform ⟨data, path.name⟩ invocation.classpath
      invocation.capabilities)

/-- What an answer makes of a class: bytes that are the same as before change nothing. -/
def outcome (path : Path) (given : List UInt8) : Answer → Program Outcome
  | .nothing => pure .unchanged
  | .bytes data => pure (if data = given then .unchanged else .transformed data)
  | .other kind => failed "class_enhancement_failed" path (.notBytes kind)
  | .unreadable failure | .wordless failure => throw failure

/-- Transforms one class file. -/
def run (invocation : Invocation) (path : Path) : Program Outcome := do
  match ← Program.catchSystem (readClass path) with
  | .error error => failed "class_read_failed" path (.system error)
  | .ok given =>
    match ← Program.catchOrdinary (invocation.call path given) with
    | .error failure => failed "class_enhancement_failed" path failure
    | .ok answer => outcome path given answer

end Invocation

end Enhance
