import Enhance.Disk.Lookup

/-!
# Changing trees of files

The calls that change a tree. A call that fails changes nothing; the error is its number.
-/

namespace Enhance.Disk

/-- The permission bits of files that are made without asking for special ones. -/
def defaultMode : Nat := 0o644

/-- The permission bits of temporary files. -/
def privateMode : Nat := 0o600

/-- Puts an entry into the directory that names lead to. -/
def put (disk : Listing) (names : List String) (name : String) (node : Node) : Listing :=
  disk.modify (·.insert name node) names

/-- Takes an entry out of the directory that names lead to. -/
def take (disk : Listing) (names : List String) (name : String) : Listing :=
  disk.modify (·.erase name) names

/-- Replaces the entry that names lead to, if they lead anywhere. -/
def replaceAt (disk : Listing) (names : List String) (node : Node) : Listing :=
  match names.getLast? with
  | some name => put disk names.dropLast name node
  | none => disk

/-- The contents of a file. -/
def read (disk : Listing) (cwd : List String) (path : Path) : Except Nat (List UInt8) :=
  match stat disk cwd path with
  | .ok (.file data) => .ok data.bytes
  | .ok _ => .error SystemError.isDirectory
  | .error code => .error code

/-- Whether a path ends in `..` or has no names at all, so that it names no entry of a
directory. -/
def namesNoEntry (path : Path) : Bool :=
  match path.names.getLast? with
  | none => true
  | some name => name = ".."

/-- Makes a file that was not there. A link at the end of the path is not followed. -/
def create (disk : Listing) (cwd : List String) (path : Path) (mode : Nat) :
    Except Nat Listing :=
  match lookup disk cwd false path with
  | .absent names name => .ok (put disk names name (.file ⟨[], mode, true⟩))
  | .found .. => .error SystemError.alreadyThere
  | .failed code => .error code

/-- Replaces the contents of a file. -/
def write (disk : Listing) (cwd : List String) (path : Path) (bytes : List UInt8) :
    Except Nat Listing :=
  match lookup disk cwd true path with
  | .found names (.file data) => .ok (replaceAt disk names (.file ⟨bytes, data.mode, true⟩))
  | .found .. => .error SystemError.isDirectory
  | .absent .. => .error SystemError.noEntry
  | .failed code => .error code

/-- Changes the permission bits of a file. Those of directories are not kept. -/
def setMode (disk : Listing) (cwd : List String) (path : Path) (mode : Nat) :
    Except Nat Listing :=
  match lookup disk cwd true path with
  | .found names (.file data) => .ok (replaceAt disk names (.file { data with mode }))
  | .found .. => .ok disk
  | .absent .. => .error SystemError.noEntry
  | .failed code => .error code

/-- The permission bits of the entry that a path leads to. -/
def modeOf (disk : Listing) (cwd : List String) (path : Path) : Except Nat Nat :=
  match stat disk cwd path with
  | .ok (.file data) => .ok data.mode
  | .ok _ => .ok 0o755
  | .error code => .error code

/-- Removes a file or a link. -/
def unlink (disk : Listing) (cwd : List String) (path : Path) : Except Nat Listing :=
  match lookup disk cwd false path with
  | .found names node =>
    if node.isDir || namesNoEntry path then .error SystemError.isDirectory
    else
      match names.getLast? with
      | some name => .ok (take disk names.dropLast name)
      | none => .error SystemError.isDirectory
  | .absent .. => .error SystemError.noEntry
  | .failed code => .error code

/-- Moves a file to another place, where it replaces a file or a link. -/
def rename (disk : Listing) (cwd : List String) (source target : Path) : Except Nat Listing :=
  match lookup disk cwd false source with
  | .found names node =>
    if namesNoEntry target then
      match lookup disk cwd false target with
      | .failed code => .error code
      | _ => .error SystemError.busy
    else
      match names.getLast?, lookup disk cwd false target with
      | some name, .found places old =>
        if old.isDir then .error SystemError.isDirectory
        else if places = names then .ok disk
        else .ok (replaceAt (take disk names.dropLast name) places node)
      | some name, .absent places new =>
        .ok (put (take disk names.dropLast name) places new node)
      | none, _ => .error SystemError.busy
      | _, .failed code => .error code
  | .absent .. => .error SystemError.noEntry
  | .failed code => .error code

end Enhance.Disk
