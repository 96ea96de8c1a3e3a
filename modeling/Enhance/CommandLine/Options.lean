import Enhance.CommandLine.Arguments
import Enhance.Settings.Basic

/-!
# Options that commands share

The directory of the class files, the ending of their names, the format of the output and the
level from which on the log is shown.
-/

namespace Enhance.CommandLine

/-- How results are printed. -/
inductive Format where
  | table
  | json
  deriving DecidableEq, Repr

/-- The names of the formats. -/
def formatNames : List String := ["table", "json"]

/-- The option for the directory of the class files. -/
def dirOption (usual : Option String) : OptionSpec :=
  { names := ["--dir"], takesValue := true, suitability := .directory, usual }

/-- The option for the ending of the names of the class files. -/
def extensionOption (usual : Option String) : OptionSpec :=
  { names := ["--extension"], takesValue := true, usual }

/-- The option for the format. -/
def formatOption : OptionSpec :=
  { names := ["--format"], takesValue := true, suitability := .oneOf formatNames false,
    usual := some "table" }

/-- The option for the level of the log. -/
def logLevelOption : OptionSpec :=
  { names := ["--log-level"], takesValue := true, usual := some "WARNING",
    suitability := .oneOf ["DEBUG", "INFO", "WARNING", "ERROR"] true }

/-- A flag. -/
def flag (names : List String) : OptionSpec :=
  { names }

/-- The option that asks for help. -/
def helpOption : OptionSpec := flag ["--help"]

/-- The format that is asked for. -/
def formatOf (given : List Given) : Format :=
  if valueOf? given "--format" = some "json" then .json else .table

/-- The rank from which on the log is shown. -/
def rankOf (given : List Given) : Nat :=
  (threshold ((valueOf? given "--log-level").getD "WARNING").toUpper).toOption.getD
    Level.warning.rank

end Enhance.CommandLine
