import Enhance.Disk.Lookup
import Enhance.Failure

/-!
# Resolving paths

The real path of a path leads to the same place from the root without links and without `..`.
Names for which there is no entry are kept as they are, so that a path can be resolved before
it exists. A path whose links lead in a circle cannot be resolved.

This is how resolving is documented. A link whose target leads back to the link is a circle also if there
are slashes in a row in the target, which a comparison of texts does not see through. Paths are texts of
characters: a path with a half for which no byte stands (`Text.RawText.lost?`) cannot be resolved either, and
fails like one with a null character, with an error of its own.
-/

namespace Enhance.Disk

open Enhance.Text

/-- What is known about the links met so far: where each leads, once that is known. -/
abbrev Seen := List (Path × Option Path)

/-- How far a path could be resolved. -/
structure Resolution where
  path : Path
  seen : Seen
  /-- Whether no circle of links was met. -/
  complete : Bool

/-- The path one level up. A path that leads up from the working directory leads further up. -/
def up (path : Path) : Path :=
  if path.names.getLast? = some ".." || (path.names = [] && !path.isAbsolute) then
    path / Path.ofString ".."
  else path.parent

/-- Resolves names from a resolved path on. `jump` resolves the target of a link. -/
def resolveNames (disk : Listing) (cwd : List String)
    (jump : Path → List String → Seen → Resolution) :
    Path → List String → Seen → Resolution
  | path, [], seen => ⟨path, seen, true⟩
  | path, name :: names, seen =>
    if name = ".." then resolveNames disk cwd jump (up path) names seen
    else
      let next := path.child name
      let rest := Path.ofString ("/".intercalate names)
      match linkStat disk cwd next with
      | .ok (.link target) =>
        match seen.lookup next with
        | some (some known) => resolveNames disk cwd jump known names seen
        | some none => ⟨next / rest, seen, false⟩
        | none =>
          let steps := ((pieces '/' target.toList).map String.ofList).filter isName
          let start := if target.toList.head? = some '/' then Path.ofString "/" else path
          let inner := jump start steps ((next, none) :: seen)
          if inner.complete then
            resolveNames disk cwd jump inner.path names ((next, some inner.path) :: inner.seen)
          else ⟨inner.path / rest, inner.seen, false⟩
      | _ => resolveNames disk cwd jump next names seen

/-- Resolves names through at most so many links that lie inside each other. -/
def resolveFrom (disk : Listing) (cwd : List String) :
    (depth : Nat) → Path → List String → Seen → Resolution
  | 0 => resolveNames disk cwd fun path names seen =>
    ⟨path / Path.ofString ("/".intercalate names), seen, false⟩
  | depth + 1 => resolveNames disk cwd (resolveFrom disk cwd depth)

/-- The working directory as a path. -/
def cwdPath (cwd : List String) : Path :=
  Path.ofString ("/" ++ "/".intercalate cwd)

/-- The real path of a path. -/
def realPath (disk : Listing) (cwd : List String) (path : Path) : Path :=
  let start := if path.isAbsolute then Path.ofString "/" else Path.here
  let resolved := resolveFrom disk cwd (4 * disk.linkCount + 4) start path.names []
  (cwdPath cwd / resolved.path).folded

/-- The real path of a path, if its links do not lead in a circle. -/
def resolve (disk : Listing) (cwd : List String) (path : Path) : Except Failure Path :=
  if hasNul path then .error .embeddedNul
  else
    let real := realPath disk cwd path
    match stat disk cwd real with
    | .error code =>
      if code = SystemError.tooManyLinks then .error (.linkLoop real) else .ok real
    | .ok _ => .ok real

end Enhance.Disk
