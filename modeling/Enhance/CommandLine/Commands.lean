import Enhance.CommandLine.EnhanceCommand
import Enhance.CommandLine.ScanCommand

/-!
# The program

The program is a group of commands. Its own options stand before the name of the command, the
options of the command behind it.
-/

namespace Enhance.CommandLine.Commands

/-- The version of the program. -/
def version : String := "0.1.0"

/-- The options of the program. -/
def options : List OptionSpec := [flag ["--version"], flag ["--no-color"], helpOption]

/-- The commands. -/
inductive Command where
  | enhance
  | scan
  deriving DecidableEq, Repr

namespace Command

/-- The name of a command. -/
def name : Command → String
  | .enhance => "enhance"
  | .scan => "scan"

/-- All commands. -/
def all : List Command := [.enhance, .scan]

/-- The command with a name. -/
def ofName? (name : String) : Option Command :=
  all.find? fun command => command.name = name

/-- Runs a command. -/
def run (plugins : Plugins) (arguments : List String) : Command → Program Ending
  | .enhance => EnhanceCommand.run plugins arguments
  | .scan => ScanCommand.run arguments

end Command

/-- The names of the commands together with further ones, in order and each once. -/
def listed (further : List String) : List String :=
  ((Command.all.map Command.name ++ further).mergeSort (· ≤ ·)).eraseDups

/-- The name under which a command is found among the commands and further ones. -/
def lookup? (further : List String) (name : String) : Option String :=
  (listed further).find? (· = name)

/-- Runs the program. -/
def perform (plugins : Plugins) (arguments : List String) : Program Ending := do
  match readArguments options true arguments with
  | .error error => return .misused error
  | .ok (given, left) =>
    if isGiven given "--version" then
      Program.write s!"weaver, version {version}\n"
      return .exit 0
    match left with
    | [] => return .misused .commandMissing
    | name :: rest =>
      match Command.ofName? name with
      | some command => command.run plugins rest
      | none =>
        return .misused (.unknownCommand name (Text.similarNames name (listed [])))

/-- Runs the program to its end. -/
def run (plugins : Plugins) (arguments : List String) (world : World) : Ending × World :=
  match (perform plugins arguments).run world with
  | .ok ending world => (ending, world)
  | .error failure world => (.ofFailure failure, world)

end Enhance.CommandLine.Commands
