import Enhance.Disk.Change
import Enhance.Text.Hex

/-!
# Setting up trees of files

A tree is set up by a list of items, each of which makes, removes or changes one entry. The
directories on the way to an entry are made where they are missing.
-/

namespace Enhance.Disk

/-- One step of setting up a tree. -/
inductive Item where
  | file (path : Path) (bytes : List UInt8) (mode : Nat)
  | dir (path : Path)
  | link (path : Path) (target : String)
  | remove (path : Path)
  | mode (path : Path) (bits : Nat)
  deriving DecidableEq, Repr

/-- The item that a line describes: the path of a file, a tab and the bytes as hexadecimal digits;
or the path of a directory alone. -/
def Item.ofLine? (line : List Char) : Option Item :=
  match line.span (· ≠ '\t') with
  | ([], _) => none
  | (path, []) => some (.dir (Path.ofString (String.ofList path)))
  | (path, _ :: digits) =>
    (Text.bytesOfHex? digits).map fun bytes =>
      .file (Path.ofString (String.ofList path)) bytes defaultMode

/-- The paths that lead along the names of a path, shortest first. -/
def fronts (path : Path) : List Path :=
  (List.range path.names.length).map fun n =>
    Path.ofString (String.ofList path.anchor.text ++ "/".intercalate (path.names.take (n + 1)))

/-- Makes the directories on a path, outermost first, where they are missing. -/
def makeDirs (disk : Listing) (cwd : List String) (path : Path) : Except SystemError Listing :=
  (fronts path).foldlM (fun disk front =>
    match lookup disk cwd true front with
    | .absent names name => .ok (put disk names name (.dir .empty))
    | .found _ (.dir _) => .ok disk
    | .found .. => .error (errorAt SystemError.alreadyThere front)
    | .failed code => .error (errorAt code path)) disk

/-- Writes a file, which is made if it is not there. -/
def writeFile (disk : Listing) (cwd : List String) (path : Path) (data : FileData) :
    Except SystemError Listing :=
  match lookup disk cwd true path with
  | .absent names name => .ok (put disk names name (.file data))
  | .found _ (.dir _) => .error (errorAt SystemError.isDirectory path)
  | .found names _ => .ok (replaceAt disk names (.file data))
  | .failed code => .error (errorAt code path)

/-- Makes a link where nothing is. -/
def makeLink (disk : Listing) (cwd : List String) (path : Path) (target : String) :
    Except SystemError Listing :=
  let failed (code : Nat) : SystemError := ⟨code, some target, some path.toString⟩
  match lookup disk cwd false path with
  | .absent names name => .ok (put disk names name (.link target))
  | .found .. => .error (failed SystemError.alreadyThere)
  | .failed code => .error (failed code)

/-- Removes an entry with all that is inside it. -/
def remove (disk : Listing) (cwd : List String) (path : Path) : Except SystemError Listing :=
  match lookup disk cwd false path with
  | .found names _ =>
    match names.getLast? with
    | some name => .ok (take disk names.dropLast name)
    | none => .error (errorAt SystemError.busy path)
  | .absent .. => .error (errorAt SystemError.noEntry path)
  | .failed code => .error (errorAt code path)

/-- The tree after one step, unless the tree does not allow it. What was written in setting up
a tree does not count as touched. -/
def Item.apply (disk : Listing) (cwd : List String) : Item → Except SystemError Listing
  | .file path bytes bits => do
    writeFile (← makeDirs disk cwd path.parent) cwd path ⟨bytes, bits, false⟩
  | .dir path => makeDirs disk cwd path
  | .link path target => do makeLink (← makeDirs disk cwd path.parent) cwd path target
  | .remove path => Disk.remove disk cwd path
  | .mode path bits => (setMode disk cwd path bits).mapError (errorAt · path)

/-- The tree after all steps, or after those before the first one that the tree does not
allow. -/
def setUp (disk : Listing) (cwd : List String) : List Item → Listing × Option SystemError
  | [] => (disk, none)
  | item :: items =>
    match item.apply disk cwd with
    | .ok disk => setUp disk cwd items
    | .error error => (disk, some error)

end Enhance.Disk

namespace Enhance.Listing

/-- All entries of a tree with the names that lead to them. -/
def all : Listing → List (List String × Node)
  | .empty => []
  | .file name data rest => ([name], .file data) :: rest.all
  | .link name target rest => ([name], .link target) :: rest.all
  | .dir name inside rest =>
    ([name], .dir inside) :: inside.all.map (fun entry => (name :: entry.1, entry.2)) ++ rest.all

end Enhance.Listing
