import Enhance.Archive.Member
import Enhance.Classpath.Resource
import Enhance.Disk.Change

/-!
# The class path

The class path is an ordered list of directories and archives. A class is provided by the first
of them that has its file.
-/

namespace Enhance

/-- The ordered list of places that classes are looked up in. -/
structure Classpath where
  entries : List Path
  deriving DecidableEq, Repr

namespace Classpath

/-- A short description. -/
def description (classpath : Classpath) : String :=
  s!"LoadingContext({Text.quotedList (classpath.entries.map Path.toString)})"

/-- The first entry. A class path without entries has none. -/
def root? (classpath : Classpath) : Option Path :=
  classpath.entries.head?

/-- The locations of the entries. A relative entry has none. -/
def locations (classpath : Classpath) : Except Failure (List String) :=
  classpath.entries.mapM fun entry =>
    match entry.location? with
    | some location => .ok location
    | none => .error .relativeLocation

/-- Whether an archive has the file of a class. What cannot be read is no archive. -/
def archiveProvides (disk : Listing) (cwd : List String) (entry : Path) (resource : String) :
    Except Failure Bool :=
  if Disk.hasNul entry then .error .embeddedNul
  else
    match Disk.read disk cwd entry with
    | .error _ => .ok false
    | .ok bytes => (Archive.hasClass bytes resource).mapError .archive

/-- Whether an entry has the file of a class. -/
def provides (disk : Listing) (cwd : List String) (resource : String) (entry : Path) :
    Except Failure Bool := do
  if ← (Disk.isDir disk cwd entry).mapError .system then
    (Disk.isFile disk cwd (entry / Path.ofString resource)).mapError .system
  else archiveProvides disk cwd entry resource

/-- The first entry that a question has an affirmative answer for. -/
def firstWith {ε : Type} (question : Path → Except ε Bool) : List Path → Except ε (Option Path)
  | [] => .ok none
  | entry :: entries => do
    if ← question entry then return some entry
    else firstWith question entries

/-- The entry that provides a class. -/
def locate (classpath : Classpath) (disk : Listing) (cwd : List String) (className : String) :
    Except Failure (Option Path) :=
  firstWith (provides disk cwd (resource className)) classpath.entries

/-- The bytes of a file that a path leads to. -/
def readFile (disk : Listing) (cwd : List String) (path : Path) : Except Failure (List UInt8) :=
  if Disk.hasNul path then .error .embeddedNul
  else (Disk.read disk cwd path).mapError fun code => .system (Disk.errorAt code path)

/-- The bytes of a class from the entry that provides it. -/
def readFrom (disk : Listing) (cwd : List String) (resource : String) (entry : Path) :
    Except Failure (List UInt8) := do
  if ← (Disk.isDir disk cwd entry).mapError .system then
    readFile disk cwd (entry / Path.ofString resource)
  else
    let bytes ← readFile disk cwd entry
    Archive.readClass bytes resource

/-- The bytes of a class, if an entry provides it. -/
def readClass (classpath : Classpath) (disk : Listing) (cwd : List String) (className : String) :
    Except Failure (Option (List UInt8)) := do
  match ← classpath.locate disk cwd className with
  | none => return none
  | some entry => return some (← readFrom disk cwd (resource className) entry)

end Classpath

end Enhance
