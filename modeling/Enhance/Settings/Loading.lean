import Enhance.Settings.Basic
import Enhance.World
import Enhance.Yaml.Document

/-!
# Loading settings

Settings are loaded from a file that holds a document with a mapping, or nothing at all. The
relative paths in it are meant from the directory of the file.

The bytes of a file are decoded block by block while the document is read, so that in a long file an
error in the document can be found before bytes that are no text. Which of the two is found first is left
open here. So is what a document with half of a character comes to, unless the half is in the ending, where
it is refused.
-/

namespace Enhance

/-- Why settings cannot be loaded from a file. -/
inductive LoadError where
  | missing (path : Path)
  | unreadable (error : SystemError)
  /-- The bytes of the file are no text. -/
  | encoding (error : Text.EncodingError)
  | document (path : Path) (error : Yaml.Error)
  /-- The document is not a mapping. -/
  | configuration (error : UserError)
  | invalid (issues : List Issue)
  /-- What the file comes to is left open. -/
  | unread
  deriving DecidableEq

namespace LoadError

/-- The class of the error. -/
def kind : LoadError → String
  | .missing _ => "FileNotFoundError"
  | .unreadable error => error.kind
  | .encoding _ => "UnicodeDecodeError"
  | .document _ error => error.kind
  | .configuration error => error.kind
  | .invalid _ => "ValidationError"
  | .unread => "Unread"

/-- Why the settings cannot be loaded. -/
def message : LoadError → String
  | .missing path => s!"File not found: {path}"
  | .unreadable error => error.message
  | .encoding error => error.message
  | .document path error => error.message path.toString
  | .configuration error => error.message
  | .invalid issues => issuesText issues
  | .unread => "what the file comes to is left open"

end LoadError

namespace Settings

/-- How deep settings look into a document: at the fields of an item of a list. -/
def documentDepth : Nat := 4

/-- The number of bytes of a file that are decoded before anything is made of them. -/
def blockSize : Nat := 4096

/-- The entries of the mapping that a document of settings holds. Where there is nothing, nothing is
set. -/
def entries? : Value → Option (List (Value × Value))
  | .null => some []
  | .mapping entries => some entries
  | _ => none

/-- Whether an entry is read here: halves of characters are in it only if it is that of the ending. -/
def isReadEntry : Value × Value → Bool
  | (.text name, value) => name = "artifact_extension" || value.holdsNoHalf
  | (key, value) => key.holdsNoHalf && value.holdsNoHalf

/-- The settings that the entries of a mapping describe. -/
def ofEntries (path : Path) (entries : List (Value × Value)) : Except LoadError Settings :=
  if entries.all isReadEntry then
    match ofValue (.mapping entries) with
    | .accepted settings => .ok (settings.relativeTo path.parent)
    | .rejected issues => .error (.invalid issues)
  else .error .unread

/-- The settings that a file with these bytes describes. A document that holds something else
than a mapping is also noted in the log. -/
def ofBytes (path : Path) (bytes : List UInt8) : Program (Except LoadError Settings) := do
  match Text.decodeUtf8 bytes with
  | .error error => return .error (if bytes.length ≤ blockSize then .encoding error else .unread)
  | .ok text =>
    match Yaml.valueOf documentDepth text with
    | .error .half => return .error .unread
    | .error error => return .error (.document path error)
    | .ok value =>
      match entries? value with
      | none =>
        let error : UserError :=
          .configuration "Configuration must be a mapping of settings" path.toString none none
        Program.log (error.logEntry s!"top-level YAML node is {value.kind}")
        return .error (.configuration error)
      | some entries => return ofEntries path entries

/-- Reads the bytes of a file of settings. -/
def readFile (path : Path) : Program (List UInt8) := do
  Program.strike .openSettings path.name
  Program.askSystem fun disk cwd => (Disk.read disk cwd path).mapError (Disk.errorAt · path)

/-- Loads the settings in a file. -/
def load (path : Path) : Program (Except LoadError Settings) := do
  let disk := (← get).disk
  let cwd := (← get).cwd
  match Disk.isThere disk cwd path with
  | .error error => return .error (.unreadable error)
  | .ok false => return .error (.missing path)
  | .ok true =>
    match ← Program.catchSystem (readFile path) with
    | .error error => return .error (.unreadable error)
    | .ok bytes => ofBytes path bytes

end Settings

end Enhance
