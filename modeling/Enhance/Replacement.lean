import Enhance.Settings.Basic
import Enhance.World

/-!
# Writing transformed class files

The bytes of a transformed class replace those of the class file by one of two strategies. The
atomic one writes a temporary file, gives it the permissions of the class file and renames it,
so that the class file is either the old one or the new one at every moment. The other one
deletes the class file, makes it anew and writes it.

A failure becomes a diagnostic. It is an error if the class file could not be replaced or may
be damaged, and a warning if it is known to be as before.
-/

namespace Enhance

namespace Replacement

/-- The diagnostic about a class file that could not be written. -/
def diagnostic (path : Path) (severity : Severity) (message : String) (cause : SystemError) :
    Diagnostic :=
  { path := some path, severity, stage := .persistence, message, cause := some (.system cause) }

/-- The message about an error in writing. -/
def writeErrorMessage (path : Path) (cwd : List String) : String :=
  s!"Error writing enhanced class [{path.name}] to file [{path.absolute (Disk.cwdPath cwd)}]"

/-- The directory in which the temporary file for a class file is made. -/
def temporaryDir (cwd : List String) (path : Path) : Path :=
  (path.parent.absolute (Disk.cwdPath cwd)).folded

/-- Whether nothing is at a path. -/
def isFree (disk : Listing) (cwd : List String) (path : Path) : Bool :=
  match Disk.lookup disk cwd false path with
  | .found .. => false
  | _ => true

/-- A path for a temporary file in a directory, at which nothing is. -/
def temporaryPath (disk : Listing) (cwd : List String) (directory : Path) : Path :=
  let count := disk.entryCount + 1
  let free := (List.range count).find? fun n =>
    isFree disk cwd (directory.child (Temporary.nameOf n))
  directory.child (Temporary.nameOf (free.getD count))

/-- Makes a temporary file for a class file. -/
def makeTemporary (path : Path) : Program Path := do
  Program.strike .makeTemporary none
  let world ← get
  let temporary := temporaryPath world.disk world.cwd (temporaryDir world.cwd path)
  Program.change temporary fun disk cwd => Disk.create disk cwd temporary Disk.privateMode
  pure temporary

/-- Writes all bytes of a file and waits until they are stored. -/
def writeAll (path : Path) (data : List UInt8) : Program Unit := do
  Program.change path fun disk cwd => Disk.write disk cwd path data
  Program.strike .sync none

/-- Gives a file the permissions of another one. -/
def copyMode (source target : Path) : Program Unit := do
  Program.strike .copyMode source.name
  let mode ← Program.ask fun disk cwd =>
    if Disk.hasNul source then .error .embeddedNul
    else (Disk.modeOf disk cwd source).mapError fun code => .system (Disk.errorAt code source)
  Program.change target fun disk cwd => Disk.setMode disk cwd target mode

/-- Renames the temporary file. -/
def replace (temporary path : Path) : Program Unit := do
  Program.strike .replace path.name
  Program.alter fun disk cwd =>
    if Disk.hasNul path then .error .embeddedNul
    else (Disk.rename disk cwd temporary path).mapError fun code =>
      .system { code, file := temporary.toString, target := some path.toString }

/-- Removes a file. -/
def remove (path : Path) : Program Unit := do
  Program.strike .unlink path.name
  Program.change path fun disk cwd => Disk.unlink disk cwd path

/-- Removes a temporary file if the system lets it be removed, and notes it otherwise. -/
def discard (temporary : Path) : Program Unit := do
  match ← Program.catchSystem (remove temporary) with
  | .ok () => pure ()
  | .error _ => Program.strand temporary

/-- Writes a temporary file and renames it over the class file. -/
def replaceAtomically (path : Path) (data : List UInt8) : Program (Option Diagnostic) := do
  let cwd := (← get).cwd
  match ← Program.catchSystem (makeTemporary path) with
  | .error error =>
    pure (some (diagnostic path .warning
      "Problem preparing class file for writing out enhancements" error))
  | .ok temporary =>
    match ← Program.catchSystem (do writeAll temporary data; copyMode path temporary) with
    | .error error =>
      discard temporary
      pure (some (diagnostic path .warning (writeErrorMessage path cwd) error))
    | .ok () =>
      match ← Program.catchSystem (replace temporary path) with
      | .error error =>
        discard temporary
        pure (some (diagnostic path .error "Unable to replace class file" error))
      | .ok () => pure none

/-- Makes a file that was not there. -/
def makeAnew (path : Path) : Program Unit := do
  Program.strike .create path.name
  Program.change path fun disk cwd => Disk.create disk cwd path Disk.defaultMode

/-- Deletes the class file, makes it anew and writes it. -/
def deleteAndRecreate (path : Path) (data : List UInt8) : Program (Option Diagnostic) := do
  let cwd := (← get).cwd
  match ← Program.catchSystem (remove path) with
  | .error error => pure (some (diagnostic path .error "Unable to delete class file" error))
  | .ok () =>
    match ← Program.catchSystem (makeAnew path) with
    | .error error => pure (some (diagnostic path .error "Unable to recreate class file" error))
    | .ok () =>
      match ← Program.catchSystem (writeAll path data) with
      | .error error =>
        pure (some (diagnostic path .error (writeErrorMessage path cwd) error))
      | .ok () => pure none

end Replacement

namespace WriteStrategy

/-- An entry that writing a class file leaves in the log. -/
def logEntry (strategy : WriteStrategy) (level : Level) (event : String)
    (fields : List (String × Json)) : LogEntry :=
  { source := .replacement
    level
    event
    fields := ("component", .str "result_writer") :: ("strategy", .str strategy.name) :: fields }

/-- Replaces the bytes of a class file. The diagnostic tells what went wrong, if anything
did. -/
def write (strategy : WriteStrategy) (path : Path) (data : List UInt8) :
    Program (Option Diagnostic) := do
  let problem ← match strategy with
    | .atomic => Replacement.replaceAtomically path data
    | .recreate => Replacement.deleteAndRecreate path data
  match problem with
  | none =>
    Program.log (strategy.logEntry .debug "class_written"
      [("path", .str path.toString), ("size", .nat data.length)])
  | some diagnostic =>
    Program.log (strategy.logEntry .warning "class_write_failed"
      [("path", .str path.toString), ("severity", .str diagnostic.severity.name),
        ("message", .str diagnostic.message)])
  pure problem

end WriteStrategy

end Enhance
