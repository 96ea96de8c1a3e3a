import Enhance.CommandLine.Ending
import Enhance.CommandLine.Options
import Enhance.Console.Message
import Enhance.Scan

/-!
# Listing the class files

The command lists the class files that a run would visit, in the order in which it would visit
them, by their paths from the directory of the class files.
-/

namespace Enhance.CommandLine.ScanCommand

open Enhance.Console

/-- The options of the command. -/
def options : List OptionSpec := [
  dirOption (some defaultClassesDir.toString), extensionOption (some classExtension),
  formatOption, logLevelOption, helpOption]

/-- The paths of artifacts from their root. -/
def relativeNames (artifacts : Artifacts) (root : Path) : List String :=
  artifacts.paths.map fun path => ((path.relativeTo? root).getD path).toString

/-- The list as a document. -/
def document (root : Path) (names : List String) : Json :=
  .obj [("classes_dir", .str root.toString), ("count", .nat names.length),
    ("artifacts", .texts names)]

/-- The columns of the table. -/
def columns : List Column := [
  { header := "#", width := some 5, alignment := .right },
  { header := "Class file", leastWidth := 30 }]

/-- The list as a table. -/
def table (names : List String) : Block :=
  .table columns (names.zipIdx.map fun (name, n) => [.markup (toString (n + 1)), .markup name])

/-- Prints the list as a table, or says that there is nothing to list. -/
def printTable (root : Path) (names : List String) : Program Unit := do
  if !(← Program.askSystem fun disk cwd => Disk.isDir disk cwd root) then
    Program.print (message .warning s!"There is no classes directory {root}")
  else if names = [] then
    Program.print (message .warning s!"There are no classes to enhance in {root}")
  else
    Program.print (table names)
    Program.print (message .info s!"{names.length} classes in {root}")

/-- Lists the class files. -/
def list (root : Path) (extension : Text.RawText) (format : Format) : Program Unit := do
  let artifacts ← Scanner.scan ⟨extension⟩ root
  let names := relativeNames artifacts root
  match format with
  | .json => Program.write ((document root names).indented ++ "\n")
  | .table => printTable root names

/-- Runs the command. -/
def run (arguments : List String) : Program Ending := do
  match ← readCommand options arguments with
  | .error error => return .misused error
  | .ok given =>
    let root := Path.ofString ((valueOf? given "--dir").getD defaultClassesDir.toString)
    list root ((valueOf? given "--extension").getD classExtension) (formatOf given)
    return .exit 0

end Enhance.CommandLine.ScanCommand
