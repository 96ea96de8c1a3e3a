import Enhance.Path.Basic

/-!
# Sets of class files

The class files found under a root, in the order in which they were found.
-/

namespace Enhance

/-- The class files found under a root. -/
structure Artifacts where
  root : Path
  paths : List Path
  deriving DecidableEq, Repr

/-- Why a position does not name a class file. -/
inductive IndexError where
  | outOfRange
  /-- The number is no number of positions at all. -/
  | tooLarge
  | zeroStep
  | absent
  deriving DecidableEq, Repr

namespace IndexError

/-- The class of an error. -/
def kind : IndexError → String
  | .outOfRange | .tooLarge => "IndexError"
  | .zeroStep | .absent => "ValueError"

/-- Why a position does not name a class file. -/
def message : IndexError → String
  | .outOfRange => "tuple index out of range"
  | .tooLarge => "cannot fit 'int' into an index-sized integer"
  | .zeroStep => "slice step cannot be zero"
  | .absent => ""

end IndexError

namespace Artifacts

/-- A short description. -/
def description (artifacts : Artifacts) : String :=
  s!"ArtifactSet(root={Text.quoted artifacts.root.toString}, count={artifacts.paths.length})"

/-- The class file at a position; negative positions count from the end. -/
def get (artifacts : Artifacts) (position : Int) : Except IndexError Path :=
  if position < -0x8000000000000000 || 0x8000000000000000 ≤ position then .error .tooLarge
  else
    let fromStart := if position < 0 then position + artifacts.paths.length else position
    if fromStart < 0 then .error .outOfRange
    else
      match artifacts.paths[fromStart.toNat]? with
      | some path => .ok path
      | none => .error .outOfRange

/-- A position of a stretch, moved into the bounds. -/
def clamped (size low high position : Int) : Int :=
  let fromStart := if position < 0 then position + size else position
  max low (min high fromStart)

/-- Every `step`-th class file from a first position on up to but not including a last one. A
negative step goes backwards. -/
def slice (artifacts : Artifacts) (first last step : Option Int) : Except IndexError (List Path) :=
  let size : Int := artifacts.paths.length
  let step := step.getD 1
  if step = 0 then .error .zeroStep
  else if 0 < step then
    let first := clamped size 0 size (first.getD 0)
    let last := clamped size 0 size (last.getD size)
    let count := ((last - first + step - 1) / step).toNat
    .ok ((List.range count).filterMap fun (n : Nat) =>
      artifacts.paths[(first + n * step).toNat]?)
  else
    let first := (first.map (clamped size (-1) (size - 1))).getD (size - 1)
    let last := (last.map (clamped size (-1) (size - 1))).getD (-1)
    let count := ((first - last - step - 1) / -step).toNat
    .ok ((List.range count).filterMap fun (n : Nat) =>
      artifacts.paths[(first + n * step).toNat]?)

/-- The first position of a class file. -/
def positionOf (artifacts : Artifacts) (path : Path) : Except IndexError Nat :=
  match artifacts.paths.findIdx? (· = path) with
  | some n => .ok n
  | none => .error .absent

end Artifacts

end Enhance
