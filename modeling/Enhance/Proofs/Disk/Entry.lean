import Enhance.Disk.Change
import Enhance.Path.Text

/-!
# Single entries of a tree

What a row of names leads to, seen by itself: of a directory it only counts that it is one.  So a
change of a tree can be described by the rows of names that lead to something else than before.
The calls that put a file or a link into a directory or take one out of it change a single row.
-/

namespace Enhance

/-- Whether an entry of a directory can have a name. -/
def isEntryName (name : String) : Bool :=
  isName name && name ≠ ".."

namespace Node

/-- An entry without what is inside it. -/
def bare : Node → Node
  | .file data => .file data
  | .link target => .link target
  | .dir _ => .dir .empty

/-- What names lead to from an entry on. -/
def at? : Node → List String → Option Node
  | .dir inside, names => inside.at? names
  | node, [] => some node
  | _, _ :: _ => none

/-- An entry with a change made inside it if it is a directory. -/
def changed (change : Listing → Listing) : Node → Node
  | .dir inside => .dir (change inside)
  | node => node

/-- Nothing is found through an entry that is no directory. -/
theorem at?_of_not_isDir {node : Node} (plain : node.isDir = false) {names : List String}
    (more : names ≠ []) : node.at? names = none := by
  cases names with
  | nil => contradiction
  | cons name rest =>
      cases node with
      | file | link => rfl
      | dir inside => simp [isDir] at plain

end Node

namespace Listing

/-- Whether every entry has a name that an entry can have and that no other entry of its directory
has. -/
def isProper : Listing → Bool
  | .empty => true
  | .file name _ rest | .link name _ rest =>
      isEntryName name && (rest.find? name).isNone && rest.isProper
  | .dir name inside rest =>
      isEntryName name && (rest.find? name).isNone && inside.isProper && rest.isProper

/-- The entry that a row of names leads to, by itself. -/
def bareAt? (listing : Listing) (row : List String) : Option Node :=
  (listing.at? row).map Node.bare

theorem at?_cons (listing : Listing) (name : String) (names : List String) :
    listing.at? (name :: names) = (listing.find? name).bind (·.at? names) := by
  cases found : listing.find? name with
  | none => simp [at?, found]
  | some node =>
      cases node with
      | dir inside => simp [at?, found, Node.at?]
      | file | link => cases names <;> simp [at?, found, Node.at?]

/-- Names lead on from what names before them lead to. -/
theorem at?_append (listing : Listing) (front rest : List String) :
    listing.at? (front ++ rest) = (listing.at? front).bind (·.at? rest) := by
  induction front generalizing listing with
  | nil => rfl
  | cons name names ih =>
      rw [List.cons_append, at?_cons, at?_cons]
      cases listing.find? name with
      | none => rfl
      | some node =>
          cases node with
          | dir inside => exact ih inside
          | file | link =>
              cases names with
              | nil => rfl
              | cons => simp [Node.at?]

theorem at?_append_of_dir {listing inside : Listing} {front : List String}
    (found : listing.at? front = some (.dir inside)) (rest : List String) :
    listing.at? (front ++ rest) = inside.at? rest := by
  rw [at?_append, found]
  rfl

/-- Nothing is found through a name that stands for no directory. -/
theorem bind_at?_eq_none {found : Option Node} (plain : ∀ inside, found ≠ some (.dir inside))
    {names : List String} (more : names ≠ []) : (found.bind (·.at? names)) = none := by
  cases found with
  | none => rfl
  | some node =>
      apply Node.at?_of_not_isDir _ more
      cases node with
      | file | link => rfl
      | dir inside => exact absurd rfl (plain inside)

/-- A row of names leads only through directories. -/
theorem exists_dir_of_at?_append {listing : Listing} {front rest : List String} {node : Node}
    (found : listing.at? (front ++ rest) = some node) (more : rest ≠ []) :
    ∃ inside, listing.at? front = some (.dir inside) := by
  rw [at?_append] at found
  cases here : listing.at? front with
  | none => simp [here] at found
  | some first =>
      cases first with
      | dir inside => exact ⟨inside, rfl⟩
      | file | link =>
          rw [here, bind_at?_eq_none (by simp) more] at found
          contradiction

theorem exists_dir_dropLast {listing inside : Listing} {row : List String}
    (found : listing.at? row = some (.dir inside)) :
    ∃ above, listing.at? row.dropLast = some (.dir above) := by
  by_cases empty : row = []
  · exact ⟨listing, by simp [empty]⟩
  · rw [← List.dropLast_concat_getLast empty] at found
    exact exists_dir_of_at?_append found (by simp)

theorem bareAt?_eq_none_iff {listing : Listing} {row : List String} :
    listing.bareAt? row = none ↔ listing.at? row = none := by
  simp [bareAt?]

theorem bareAt?_eq_dir_iff {listing : Listing} {row : List String} :
    listing.bareAt? row = some (.dir .empty) ↔ ∃ inside, listing.at? row = some (.dir inside) := by
  unfold bareAt?
  cases listing.at? row with
  | none => simp
  | some node => cases node <;> simp [Node.bare]

/-- What is no directory is shown whole. -/
theorem bareAt?_eq_some_iff {listing : Listing} {row : List String} {node : Node}
    (plain : node.isDir = false) : listing.bareAt? row = some node ↔ listing.at? row = some node := by
  unfold bareAt?
  cases listing.at? row with
  | none => simp
  | some other =>
      cases other with
      | file | link => simp [Node.bare]
      | dir inside =>
          have different : Node.dir .empty ≠ node := by
            rintro rfl
            simp [Node.isDir] at plain
          have different' : Node.dir inside ≠ node := by
            rintro rfl
            simp [Node.isDir] at plain
          simp [Node.bare, different, different']

/-- What is no directory and is as before is still there. -/
theorem at?_of_bareAt?_eq {before after : Listing} {row : List String} {node : Node}
    (same : after.bareAt? row = before.bareAt? row) (plain : node.isDir = false)
    (there : before.at? row = some node) : after.at? row = some node := by
  rw [← bareAt?_eq_some_iff plain, same, bareAt?_eq_some_iff plain]
  exact there

/-! ## Changes inside a directory -/

/-- A change inside the directory of a name is seen under that name. -/
theorem find?_inside (name : String) (change : Listing → Listing) (listing : Listing) :
    (listing.inside name change).find? name = (listing.find? name).map (Node.changed change) := by
  induction listing with
  | empty => rfl
  | file other data rest ih | link other target rest ih =>
      by_cases same : other = name
      · simp [inside, find?, same, Node.changed]
      · simp [inside, find?, same, ih]
  | dir other inner rest _ ih =>
      by_cases same : other = name
      · simp [inside, find?, same, Node.changed]
      · simp [inside, find?, same, ih]

/-- In the directory that is changed the change is seen. -/
theorem at?_modify_append {listing inside : Listing} {front : List String}
    (found : listing.at? front = some (.dir inside)) (change : Listing → Listing)
    (rest : List String) :
    (listing.modify change front).at? (front ++ rest) = (change inside).at? rest := by
  induction front generalizing listing with
  | nil =>
      simp only [at?_nil, Option.some.injEq, Node.dir.injEq] at found
      rw [found]
      rfl
  | cons name names ih =>
      rw [at?_cons] at found
      rw [List.cons_append, at?_cons, modify, find?_inside]
      cases here : listing.find? name with
      | none => simp [here] at found
      | some node =>
          cases node with
          | dir inner =>
              simp only [here, Option.bind_some, Node.at?] at found
              exact ih found
          | file data | link target =>
              cases names with
              | nil => simp [here, Node.at?] at found
              | cons => simp [here, Node.at?] at found

/-- Outside the directory that is changed nothing is different. -/
theorem bareAt?_modify_of_outside {listing : Listing} {front row : List String}
    (change : Listing → Listing) (outside : ∀ rest, rest ≠ [] → row ≠ front ++ rest) :
    (listing.modify change front).bareAt? row = listing.bareAt? row := by
  induction front generalizing listing row with
  | nil =>
      cases row with
      | nil => rfl
      | cons name rest => exact absurd rfl (outside (name :: rest) (by simp))
  | cons name names ih =>
      cases row with
      | nil => rfl
      | cons first others =>
          unfold bareAt?
          rw [at?_cons, at?_cons, modify]
          by_cases same : name = first
          · subst same
            have outside' : ∀ rest, rest ≠ [] → others ≠ names ++ rest := by
              rintro rest more rfl
              exact outside rest more rfl
            rw [find?_inside]
            cases listing.find? name with
            | none => rfl
            | some node =>
                cases node with
                | dir inner => exact ih outside'
                | file | link => rfl
          · rw [find?_inside_of_ne same]

end Listing

namespace Disk

open Listing

variable {disk : Listing} {front row : List String} {name : String}

/-! ## The calls that change a single row -/

/-- The entry that is put into a directory is there. -/
theorem at?_put_same {inside : Listing} (found : disk.at? front = some (.dir inside))
    (node : Node) : (put disk front name node).at? (front ++ [name]) = some node := by
  rw [put, at?_modify_append found, at?_singleton, find?_insert_same]

/-- The entry that is taken out of a directory is no longer there. -/
theorem at?_take_same {inside : Listing} (found : disk.at? front = some (.dir inside)) :
    (take disk front name).at? (front ++ [name]) = none := by
  rw [take, at?_modify_append found, at?_singleton, find?_erase_same]

/-- A change of the entry of one name in a directory leaves the other rows alone if that entry is
no directory, neither before nor after. -/
theorem bareAt?_modify_of_ne {inside : Listing} {change : Listing → Listing}
    (found : disk.at? front = some (.dir inside))
    (others : ∀ other, other ≠ name → (change inside).find? other = inside.find? other)
    (before : ∀ inner, inside.find? name ≠ some (.dir inner))
    (after : ∀ inner, (change inside).find? name ≠ some (.dir inner))
    (ne : row ≠ front ++ [name]) : (disk.modify change front).bareAt? row = disk.bareAt? row := by
  by_cases within : ∃ first rest, row = front ++ first :: rest
  · obtain ⟨first, rest, rfl⟩ := within
    unfold bareAt?
    rw [at?_modify_append found, at?_append_of_dir found, at?_cons, at?_cons]
    by_cases same : first = name
    · subst same
      have more : rest ≠ [] := by
        rintro rfl
        exact ne rfl
      rw [bind_at?_eq_none before more, bind_at?_eq_none after more]
    · rw [others first same]
  · apply bareAt?_modify_of_outside
    rintro (_ | ⟨first, rest⟩) more same
    · contradiction
    · exact within ⟨first, rest, same⟩

/-- Putting a file or a link into a directory, where no directory of its name is, leaves the other
rows alone. -/
theorem bareAt?_put_of_ne {inside : Listing} {node : Node}
    (found : disk.at? front = some (.dir inside)) (plain : node.isDir = false)
    (before : ∀ inner, disk.at? (front ++ [name]) ≠ some (.dir inner))
    (ne : row ≠ front ++ [name]) : (put disk front name node).bareAt? row = disk.bareAt? row := by
  apply bareAt?_modify_of_ne found _ _ _ ne
  · intro other different
    exact find?_insert_of_ne (Ne.symm different) _ _
  · simpa only [at?_append_of_dir found, at?_singleton] using before
  · rintro inner same
    rw [find?_insert_same] at same
    cases same
    contradiction

/-- Taking a file or a link out of a directory leaves the other rows alone. -/
theorem bareAt?_take_of_ne {inside : Listing} (found : disk.at? front = some (.dir inside))
    (before : ∀ inner, disk.at? (front ++ [name]) ≠ some (.dir inner))
    (ne : row ≠ front ++ [name]) : (take disk front name).bareAt? row = disk.bareAt? row := by
  apply bareAt?_modify_of_ne found _ _ _ ne
  · intro other different
    exact find?_erase_of_ne (Ne.symm different) _
  · simpa only [at?_append_of_dir found, at?_singleton] using before
  · rintro inner same
    rw [find?_erase_same] at same
    contradiction

end Disk

end Enhance
