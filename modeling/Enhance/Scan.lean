import Enhance.Artifacts
import Enhance.World

/-!
# Finding class files

A scan collects every file below a root whose name has a given ending. Directories are visited
before the files beside them, so that nested classes come first, and links to directories are
not followed. A directory that cannot be listed is passed over; what a link with the ending
leads to has to be asked of the system, which may refuse to answer.
-/

namespace Enhance

/-- A scan for files with an ending. -/
structure Scanner where
  extension : Text.RawText := ".class"
  deriving DecidableEq, Repr

namespace Scanner

/-- An entry that a scan writes into the log. -/
def entry (scanner : Scanner) (level : Level) (event : String) (fields : List (String × Json)) :
    LogEntry :=
  { source := .scan
    level
    event
    fields := ("component", .str "artifact_scanner") ::
      ("extension", .ofRaw scanner.extension) :: fields }

/-- Whether a name has the ending. -/
def matchesName (scanner : Scanner) (name : String) : Bool :=
  scanner.extension.signs.isSuffixOf (Text.RawText.ofString name).signs

/-- The text of the path of an entry of a directory, as the system reports it. -/
def entryText (directory : Path) (name : String) : String :=
  let front := directory.toString
  if front.toList.getLast? = some '/' then front ++ name else front ++ "/" ++ name

/-- Whether a link leads to a file. Only a link that leads to a missing entry is known not to
do so. -/
def linkLeadsToFile (directory : Path) (name : String) : Program Bool :=
  Program.askSystem fun disk cwd =>
    match Disk.stat disk cwd (directory.child name) with
    | .ok node => .ok node.isFile
    | .error code =>
      if code = SystemError.noEntry then .ok false
      else .error { code, file := some (entryText directory name) }

/-- The files of a directory that have the ending. -/
def filesIn (scanner : Scanner) (directory : Path) : Listing → Program (List Path)
  | .empty => pure []
  | .file name _ rest => do
    let more ← scanner.filesIn directory rest
    pure (if scanner.matchesName name then directory.child name :: more else more)
  | .link name _ rest => do
    let found ← if scanner.matchesName name then linkLeadsToFile directory name else pure false
    let more ← scanner.filesIn directory rest
    pure (if found then directory.child name :: more else more)
  | .dir _ _ rest => scanner.filesIn directory rest

/-- Asks the system for the entries of a directory. -/
def openDirectory (directory : Path) : Program Unit := do
  Program.strike .listDirectory directory.name
  if Disk.pathLimit < directory.toString.utf8ByteSize then
    Program.fail (Disk.errorAt SystemError.nameTooLong directory)

/-- Runs the search of a directory, unless the directory cannot be listed. -/
def visiting (scanner : Scanner) (directory : Path) (search : Program (List Path)) :
    Program (List Path) := do
  match ← Program.catchSystem (openDirectory directory) with
  | .ok () => search
  | .error error =>
    Program.log (scanner.entry .warning "scan_directory_unreadable"
      [("directory", .str directory.toString), ("error", .str error.message)])
    pure []

/-- The files below the subdirectories of a directory. -/
def below (scanner : Scanner) (directory : Path) : Listing → Program (List Path)
  | .empty => pure []
  | .file _ _ rest => scanner.below directory rest
  | .link _ _ rest => scanner.below directory rest
  | .dir name inside rest => do
    let here := directory.child name
    let found ← scanner.visiting here do
      let nested ← scanner.below here inside
      let direct ← scanner.filesIn here inside
      pure (nested ++ direct)
    let more ← scanner.below directory rest
    pure (found ++ more)

/-- The files below a directory with these entries. -/
def walk (scanner : Scanner) (directory : Path) (listing : Listing) : Program (List Path) :=
  scanner.visiting directory do
    let nested ← scanner.below directory listing
    let direct ← scanner.filesIn directory listing
    pure (nested ++ direct)

/-- The entries of the directory that a path leads to. -/
def listing? (root : Path) : Program (Option Listing) := do
  if ← Program.askSystem fun disk cwd => Disk.isDir disk cwd root then
    let world ← get
    match Disk.stat world.disk world.cwd root with
    | .ok (.dir inside) => pure (some inside)
    | _ => pure none
  else pure none

/-- The class files below a root, none if the root is no directory. -/
def scan (scanner : Scanner) (root : Path) : Program Artifacts := do
  match ← listing? root with
  | none =>
    Program.log (scanner.entry .debug "scan_root_missing" [("root", .str root.toString)])
    pure ⟨root, []⟩
  | some inside =>
    let found ← scanner.walk root inside
    Program.log (scanner.entry .debug "scan_completed"
      [("root", .str root.toString), ("count", .nat found.length)])
    pure ⟨root, found⟩

end Scanner

end Enhance
