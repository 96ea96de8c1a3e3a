import Enhance.Console.Message
import Enhance.Settings.Loading

/-!
# How a command stops

A command that cannot do its work says why and gives a code to the caller: 1 if something is
wrong with what it was given, 2 if the system is in the way. Anything that no command expects
escapes it.
-/

namespace Enhance.CommandLine

/-- Why a command does not do its work. -/
structure Refusal where
  message : String
  exitCode : Nat := 1
  deriving DecidableEq, Repr

/-- The code for what the system is in the way of. -/
def systemErrorCode : Nat := 2

namespace Refusal

/-- The refusal of settings with issues; `source` says where the settings come from. -/
def ofIssues (issues : List Issue) (source : String) : Refusal :=
  { message := s!"Invalid configuration in {source}:\n{issuesText issues}" }

/-- The refusal of a document that breaks the rules of its format. -/
def ofDocument (name message : String) : Refusal :=
  { message := s!"Invalid YAML in {name}: {message}" }

/-- The refusal of a file that is not there. -/
def ofMissing (name : String) : Refusal :=
  { message := s!"File not found: {name}\n\nUse --config to point at an existing weaver.yaml, " ++
      "or pass options on the command line."
    exitCode := systemErrorCode }

/-- The refusal of a file that the system does not read, with its own words for the reason or else
the text of the error. -/
def ofUnreadable (name reason : String) : Refusal :=
  { message := s!"Cannot read {name}: {reason}", exitCode := systemErrorCode }

/-- What the caller is shown of a refusal. -/
def notice (refusal : Refusal) : Console.Block :=
  Console.message .error refusal.message

end Refusal

/-- How a command ends before its end. -/
inductive Stop where
  | refused (refusal : Refusal)
  /-- An error that no command expects. -/
  | escaped (kind message : String)
  deriving DecidableEq, Repr

/-- How a command ends that cannot load its settings. -/
def Stop.ofLoadError (path : Path) : LoadError → Stop
  | .missing _ => .refused (.ofMissing path.toString)
  | .unreadable error =>
    if error.code = SystemError.noEntry then .refused (.ofMissing path.toString)
    else .refused (.ofUnreadable path.toString (SystemError.meaning error.code))
  | .encoding error => .escaped "UnicodeDecodeError" error.message
  | .document file error =>
    if error.isSyntax then .refused (.ofDocument path.toString (error.message file.toString))
    else .escaped error.kind (error.message file.toString)
  | .configuration error => .refused ⟨error.message, 1⟩
  | .invalid issues => .refused (.ofIssues issues path.toString)
  | .unread => .escaped LoadError.unread.kind LoadError.unread.message

end Enhance.CommandLine
