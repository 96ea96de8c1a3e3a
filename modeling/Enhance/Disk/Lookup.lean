import Enhance.Disk.Basic
import Enhance.Path.Basic
import Enhance.SystemError

/-!
# Following paths

A path is followed from the working directory, or from the root, one name after the other.
Links on the way are followed, at most forty of them; a link at the end is followed if that is
asked for. Nothing is found through a file.
-/

namespace Enhance

open Enhance.Text

/-- Where a path leads. -/
inductive Place where
  /-- To an entry; the names lead to it from the root without links. -/
  | found (names : List String) (node : Node)
  /-- To a directory that has no entry of that name. -/
  | absent (names : List String) (name : String)
  /-- Nowhere; following it fails with this error. -/
  | failed (code : Nat)
  deriving Repr

namespace Disk

/-- The number of bytes that a name may have. -/
def nameLimit : Nat := 255

/-- The number of bytes that a whole path may have. -/
def pathLimit : Nat := 4095

/-- The number of links that are followed on the way. -/
def linkLimit : Nat := 40

/-- The names that the target of a link leads along. A target that ends in a slash leads into
a directory, which the name `.` after it stands for. -/
def targetNames (target : String) : List String :=
  let names := ((pieces '/' target.toList).map String.ofList).filter (· ≠ "")
  if target.toList.getLast? = some '/' then names ++ ["."] else names

/-- Follows names from a directory. `jump` continues where a link leads. -/
def walk (disk : Listing) (followLast : Bool) (jump : List String → List String → Place) :
    (here : List String) → List String → Place
  | here, [] =>
    match disk.at? here with
    | some node => .found here node
    | none => .failed SystemError.noEntry
  | here, name :: names =>
    if name = "." then walk disk followLast jump here names
    else if name = ".." then walk disk followLast jump here.dropLast names
    else if nameLimit < name.utf8ByteSize then .failed SystemError.nameTooLong
    else
      match disk.at? (here ++ [name]) with
      | none =>
        if names = [] then .absent here name else .failed SystemError.noEntry
      | some (.dir _) => walk disk followLast jump (here ++ [name]) names
      | some (.file data) =>
        if names = [] then .found (here ++ [name]) (.file data)
        else .failed SystemError.notDirectory
      | some (.link target) =>
        if names = [] && !followLast then .found (here ++ [name]) (.link target)
        else jump (if target.toList.head? = some '/' then [] else here)
          (targetNames target ++ names)

/-- Follows names and at most so many links. -/
def follow (disk : Listing) (followLast : Bool) :
    (links : Nat) → (here : List String) → List String → Place
  | 0 => walk disk followLast fun _ _ => .failed SystemError.tooManyLinks
  | links + 1 => walk disk followLast (follow disk followLast links)

/-- Where a path leads, for a working directory. -/
def lookup (disk : Listing) (cwd : List String) (followLast : Bool) (path : Path) : Place :=
  if pathLimit < path.toString.utf8ByteSize then .failed SystemError.nameTooLong
  else follow disk followLast linkLimit (if path.isAbsolute then [] else cwd) path.names

/-- The entry that a path leads to, links followed. -/
def stat (disk : Listing) (cwd : List String) (path : Path) : Except Nat Node :=
  match lookup disk cwd true path with
  | .found _ node => .ok node
  | .absent .. => .error SystemError.noEntry
  | .failed code => .error code

/-- The entry that a path leads to, a link at the end not followed. -/
def linkStat (disk : Listing) (cwd : List String) (path : Path) : Except Nat Node :=
  match lookup disk cwd false path with
  | .found _ node => .ok node
  | .absent .. => .error SystemError.noEntry
  | .failed code => .error code

/-- Whether a path holds the character that ends texts in system calls. -/
def hasNul (path : Path) : Bool :=
  path.names.any fun name => name.toList.contains '\x00'

/-- Errors that only say that a path leads nowhere. -/
def leadsNowhere (code : Nat) : Bool :=
  code = SystemError.noEntry || code = SystemError.notDirectory || code = 9 ||
    code = SystemError.tooManyLinks

/-- Asks about the entry that a path leads to. A path that leads nowhere has no such entry;
the system may refuse to answer for other reasons. -/
def ask (disk : Listing) (cwd : List String) (path : Path) (question : Node → Bool) :
    Except SystemError Bool :=
  if hasNul path then .ok false
  else
    match stat disk cwd path with
    | .ok node => .ok (question node)
    | .error code =>
      if leadsNowhere code then .ok false
      else .error { code, file := some path.toString }

/-- Whether a path leads to an entry. -/
def isThere (disk : Listing) (cwd : List String) (path : Path) : Except SystemError Bool :=
  ask disk cwd path fun _ => true

/-- Whether a path leads to a directory. -/
def isDir (disk : Listing) (cwd : List String) (path : Path) : Except SystemError Bool :=
  ask disk cwd path Node.isDir

/-- Whether a path leads to a file. -/
def isFile (disk : Listing) (cwd : List String) (path : Path) : Except SystemError Bool :=
  ask disk cwd path Node.isFile

/-- A system error about a path. -/
def errorAt (code : Nat) (path : Path) : SystemError :=
  { code, file := some path.toString }

end Disk

end Enhance
