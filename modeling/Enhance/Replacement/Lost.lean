import Enhance.Replacement

/-!
# Class files that no system call can be about

A program can put a path together that holds a half of a character for which no byte stands. No file has
such a path, and a system call about it fails before it is made. This is no error of the system.
-/

namespace Enhance

/-- A path that no system call can be about, by its text. -/
structure LostPath where
  text : Text.RawText
  error : Text.UnencodableError
  isLost : text.lost? = some error

/-- A problem with the class file that a lost path should lead to. -/
structure LostDiagnostic where
  path : LostPath
  severity : Severity
  stage : Stage
  message : String
  cause : SystemError

/-- A diagnostic of a lost path as part of a report. -/
def LostDiagnostic.toJson (diagnostic : LostDiagnostic) : Json :=
  .obj [
    ("path", .raw diagnostic.path.text),
    ("severity", .str diagnostic.severity.name),
    ("kind", .str diagnostic.stage.name),
    ("message", .str diagnostic.message),
    ("cause", .str (Failure.system diagnostic.cause).text)]

namespace Replacement

/-- Removes the file that a lost path should lead to. A fault can strike before the path is looked at. -/
def removeLost (path : LostPath) : Program Unit := do
  Program.strike .unlink none
  throw (.unencodable path.error)

/-- Deletes the class file that a lost path should lead to, to make it anew. It never comes to that. -/
def recreateLost (path : LostPath) : Program (Option LostDiagnostic) := do
  match ← Program.catchSystem (removeLost path) with
  | .error cause =>
    let problem : LostDiagnostic :=
      { path, severity := .error, stage := .persistence, message := "Unable to delete class file", cause }
    Program.log (WriteStrategy.recreate.logEntry .warning "class_write_failed"
      [("path", .raw path.text), ("severity", .str problem.severity.name),
        ("message", .str problem.message)])
    pure (some problem)
  | .ok () => pure none

end Replacement

end Enhance
