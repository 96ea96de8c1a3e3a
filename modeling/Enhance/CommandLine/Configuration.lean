import Enhance.CommandLine.Stop
import Enhance.Settings.Overrides

/-!
# The settings of a command

The settings come from the file that is named, or else from the usual file if there is one, or
else they are the usual ones. What is given on the command line overrides them.
-/

namespace Enhance.CommandLine

/-- The file that settings are read from if none is named. -/
def usualFile : Path := Path.ofString "weaver.yaml"

/-- Loads the settings in a file. -/
def loadFile (path : Path) : Program (Except Stop Settings) := do
  return (← Settings.load path).mapError (Stop.ofLoadError path)

/-- The settings before anything overrides them. -/
def baseSettings (file : Option Path) : Program (Except Stop Settings) := do
  match file with
  | some path => loadFile path
  | none =>
    let world ← get
    match Disk.isFile world.disk world.cwd usualFile with
    | .ok true => loadFile usualFile
    | .ok false => return .ok {}
    | .error error => return .error (.escaped error.kind error.message)

/-- What the settings of a command become by what is given on the command line. -/
def settingsBy (file : Option Path) (merge : Settings → Checked Settings) :
    Program (Except Stop Settings) := do
  match ← baseSettings file with
  | .error stop => return .error stop
  | .ok base =>
    match merge base with
    | .accepted settings => return .ok settings
    | .rejected issues => return .error (.refused (.ofIssues issues "command line options"))

/-- The settings of a command. -/
def settings (file : Option Path) (overrides : Overrides) : Program (Except Stop Settings) :=
  settingsBy file overrides.merge

/-- The settings of a command that is given an ending as the system hands it over. -/
def settingsFor (file : Option Path) (overrides : Overrides) (ending : Text.RawText) :
    Program (Except Stop Settings) :=
  settingsBy file (overrides.mergeEnding ending)

end Enhance.CommandLine
