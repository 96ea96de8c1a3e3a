import Enhance.Text.Pieces
import Enhance.Text.Percent

/-!
# Paths

A path is an anchor and the names that lead away from it. Empty names and the name `.` lead
nowhere and are dropped when a text is read as a path; the name `..` is kept, because what it
leads to depends on the links on the way. Two slashes in front of a path are kept apart from
one, three or more count as one. Names are texts of characters.

The main statements are that joining paths is associative (`Path.append_assoc`) and that
joining and `Path.relativeTo?` undo each other.
-/

namespace Enhance

open Enhance.Text

/-- What a path starts from. -/
inductive Anchor where
  /-- The working directory. -/
  | relative
  /-- The root. -/
  | root
  /-- The root, written with two slashes. -/
  | doubleRoot
  deriving DecidableEq, Repr, Inhabited

/-- The slashes in front of a path. -/
def Anchor.text : Anchor → List Char
  | .relative => []
  | .root => ['/']
  | .doubleRoot => ['/', '/']

/-- Whether a text can be one of the names of a path. -/
def isName (text : String) : Bool :=
  text.toList ≠ [] && text.toList ≠ ['.'] && !text.toList.contains '/'

/-- The way to a place in the file system. -/
structure Path where
  anchor : Anchor
  /-- The names on the way, outermost first. -/
  names : List String
  proper : ∀ name ∈ names, isName name = true
  deriving DecidableEq, Repr

namespace Path

@[ext] theorem ext {first second : Path} (anchors : first.anchor = second.anchor)
    (names : first.names = second.names) : first = second := by
  cases first
  cases second
  simp_all

/-- The working directory. -/
def here : Path := ⟨.relative, [], by simp⟩

instance : Inhabited Path := ⟨here⟩

/-- The names in a text without its leading slashes. -/
def namesOf (text : List Char) : List String :=
  ((pieces '/' text).map String.ofList).filter isName

theorem isName_of_mem_namesOf {text : List Char} {name : String} (member : name ∈ namesOf text) :
    isName name = true :=
  (List.mem_filter.1 member).2

/-- The anchor that leading slashes write. -/
def anchorOf : List Char → Anchor
  | '/' :: '/' :: '/' :: _ => .root
  | '/' :: '/' :: _ => .doubleRoot
  | '/' :: _ => .root
  | _ => .relative

/-- The path that a text writes. -/
def ofString (text : String) : Path :=
  ⟨anchorOf text.toList, namesOf text.toList, fun _ member => isName_of_mem_namesOf member⟩

/-- The text of a path: a dot for the working directory. -/
def chars (path : Path) : List Char :=
  match path.anchor, path.names with
  | .relative, [] => ['.']
  | anchor, names => anchor.text ++ joined ['/'] (names.map String.toList)

/-- The text of a path. -/
def toString (path : Path) : String :=
  String.ofList path.chars

instance : ToString Path := ⟨toString⟩

/-- Whether a path leads away from the root. -/
def isAbsolute (path : Path) : Bool :=
  path.anchor ≠ .relative

/-- The path that leads from the end of the first path along the second one. An absolute
second path leads away from the root all the same. -/
def append (first second : Path) : Path :=
  match second.anchor with
  | .relative =>
    ⟨first.anchor, first.names ++ second.names, by
      intro name member
      rcases List.mem_append.1 member with h | h
      · exact first.proper name h
      · exact second.proper name h⟩
  | _ => second

instance : HDiv Path Path Path := ⟨append⟩

/-- The path of an entry of a directory. -/
def child (path : Path) (name : String) : Path :=
  path / ofString name

/-- The last name of a path, empty if it has none. -/
def name (path : Path) : String :=
  path.names.getLast?.getD ""

/-- The path without its last name; a path without names is its own parent. -/
def parent (path : Path) : Path :=
  ⟨path.anchor, path.names.dropLast, fun name member =>
    path.proper name (List.dropLast_subset _ member)⟩

/-- The path that leads from `base` to `path`, if `path` leads through `base`. -/
def relativeTo? (path base : Path) : Option Path :=
  if path.anchor = base.anchor && base.names.isPrefixOf path.names then
    some ⟨.relative, path.names.drop base.names.length, fun name member =>
      path.proper name (List.drop_subset _ _ member)⟩
  else none

/-- The path seen from the root, for a working directory. -/
def absolute (path cwd : Path) : Path :=
  cwd / path

/-- Names with each `..` taken back together with the name before it, given latest first. At
the root `..` leads nowhere. -/
def foldBack (seen : List String) : List String → List String
  | [] => seen.reverse
  | name :: rest => foldBack (if name = ".." then seen.tail else name :: seen) rest

theorem foldBack_subset {names seen : List String} {name : String}
    (member : name ∈ foldBack seen names) : name ∈ seen ∨ name ∈ names := by
  induction names generalizing seen with
  | nil => exact Or.inl (List.mem_reverse.1 member)
  | cons first rest ih =>
    rcases ih member with h | h
    · split at h
      · exact Or.inl (List.mem_of_mem_tail h)
      · rcases List.mem_cons.1 h with rfl | h
        · exact Or.inr List.mem_cons_self
        · exact Or.inl h
    · exact Or.inr (List.mem_cons_of_mem _ h)

/-- An absolute path without `..`, found without looking at the file system. -/
def folded (path : Path) : Path :=
  ⟨path.anchor, foldBack [] path.names, fun name member => by
    rcases foldBack_subset member with h | h
    · simp at h
    · exact path.proper name h⟩

/-- The location of an absolute path; a relative path has none. -/
def location? (path : Path) : Option String :=
  if path.isAbsolute then some ("file://" ++ percentEncoded path.toString) else none

theorem append_relative (first : Path) {second : Path} (relative : second.anchor = .relative) :
    (first / second).anchor = first.anchor ∧
      (first / second).names = first.names ++ second.names := by
  change (append first second).anchor = _ ∧ (append first second).names = _
  unfold append
  split
  · exact ⟨rfl, rfl⟩
  · contradiction

theorem append_absolute {first second : Path} (absolute : second.anchor ≠ .relative) :
    first / second = second := by
  change append first second = _
  unfold append
  split
  · contradiction
  · rfl

@[simp] theorem append_here (path : Path) : path / here = path := by
  have h := @append_relative path here rfl
  exact ext h.1 (by simpa [here] using h.2)

/-- It does not matter which of two joints is made first. -/
theorem append_assoc (first second third : Path) :
    first / second / third = first / (second / third) := by
  by_cases h3 : third.anchor = .relative
  · have right := append_relative second h3
    by_cases h2 : second.anchor = .relative
    · have inner := append_relative first h2
      have outer := append_relative (first / second) h3
      have whole := @append_relative first (second / third) (by rw [right.1, h2])
      exact ext (by rw [outer.1, inner.1, whole.1])
        (by rw [outer.2, inner.2, whole.2, right.2, List.append_assoc])
    · rw [append_absolute h2, @append_absolute first (second / third)]
      rw [right.1]
      exact h2
  · rw [append_absolute h3, append_absolute h3, append_absolute h3]

theorem isAbsolute_append {first second : Path} (absolute : first.isAbsolute = true) :
    (first / second).isAbsolute = true := by
  by_cases h : second.anchor = .relative
  · simpa [isAbsolute, (append_relative first h).1] using absolute
  · rw [append_absolute h]
    simpa [isAbsolute] using h

/-- The part of a path that leads on from a base leads there again. -/
theorem append_relativeTo? {path base rest : Path} (found : path.relativeTo? base = some rest) :
    base / rest = path := by
  unfold relativeTo? at found
  split at found
  · rename_i h
    simp only [Bool.and_eq_true, decide_eq_true_eq, List.isPrefixOf_iff_prefix] at h
    obtain rfl := Option.some.inj found
    have joint := @append_relative base
      (⟨.relative, path.names.drop base.names.length, fun name member =>
        path.proper name (List.drop_subset _ _ member)⟩) rfl
    refine ext (by rw [joint.1, h.1]) ?_
    rw [joint.2]
    exact List.prefix_iff_eq_append.1 h.2
  · exact absurd found (by simp)

/-- A path leads from its base on along what was joined to it. -/
theorem relativeTo?_append {base rest : Path} (relative : rest.anchor = .relative) :
    (base / rest).relativeTo? base = some rest := by
  have joint := append_relative base relative
  unfold relativeTo?
  rw [if_pos (by simp [joint.1, joint.2])]
  congr 1
  exact ext relative.symm (by simp [joint.2])

end Path

end Enhance
