import Enhance.Path.Basic

/-!
# The text of a path

The text of a path writes that path: nothing of a path is lost by printing it, and no two
paths have the same text.
-/

namespace Enhance.Path

open Enhance.Text

theorem isName_iff {text : String} :
    isName text = true ↔ text.toList ≠ [] ∧ text.toList ≠ ['.'] ∧ '/' ∉ text.toList := by
  simp [isName, and_assoc]

theorem namesOf_joined {names : List String} (proper : ∀ name ∈ names, isName name = true) :
    namesOf (joined ['/'] (names.map String.toList)) = names := by
  cases names with
  | nil => simp [namesOf, joined, isName]
  | cons first more =>
    unfold namesOf
    rw [pieces_joined (by simp)]
    · simp only [List.map_map]
      have : (String.ofList ∘ String.toList) = id := by
        funext text
        simp
      rw [this, List.map_id]
      exact List.filter_eq_self.2 proper
    · intro text member
      obtain ⟨name, isMember, rfl⟩ := List.mem_map.1 member
      exact (isName_iff.1 (proper name isMember)).2.2

theorem namesOf_slash (rest : List Char) : namesOf ('/' :: rest) = namesOf rest := by
  simp [namesOf, isName]

/-- A joined list of names does not start with a slash. -/
theorem joined_names_ne_slash {names : List String}
    (proper : ∀ name ∈ names, isName name = true) (rest : List Char) :
    joined ['/'] (names.map String.toList) ≠ '/' :: rest := by
  cases names with
  | nil => simp [joined]
  | cons first more =>
    obtain ⟨nonempty, -, free⟩ := isName_iff.1 (proper first List.mem_cons_self)
    cases shown : first.toList with
    | nil => exact absurd shown nonempty
    | cons c others =>
      have start : c ≠ '/' := by
        rintro rfl
        exact free (shown ▸ List.mem_cons_self)
      cases more with
      | nil => simp [joined, shown, start]
      | cons _ _ => simp [joined, shown, start]

theorem anchorOf_of_ne_slash {text : List Char} (h : ∀ rest, text ≠ '/' :: rest) :
    anchorOf text = .relative := by
  unfold anchorOf
  split <;> first | rfl | exact absurd rfl (h _)

theorem anchorOf_slash {text : List Char} (h : ∀ rest, text ≠ '/' :: rest) :
    anchorOf ('/' :: text) = .root := by
  cases text with
  | nil => rfl
  | cons c rest =>
    have start : c ≠ '/' := by
      rintro rfl
      exact h rest rfl
    simp [anchorOf, start]

theorem anchorOf_two_slashes {text : List Char} (h : ∀ rest, text ≠ '/' :: rest) :
    anchorOf ('/' :: '/' :: text) = .doubleRoot := by
  cases text with
  | nil => rfl
  | cons c rest =>
    simp [anchorOf]

/-- Reading the text of a path gives the path again. -/
theorem ofString_toString (path : Path) : ofString path.toString = path := by
  obtain ⟨anchor, names, proper⟩ := path
  have noSlash := joined_names_ne_slash proper
  have same := namesOf_joined proper
  refine ext ?_ ?_
  · simp only [ofString, toString, String.toList_ofList]
    cases anchor with
    | relative =>
      cases names with
      | nil => rfl
      | cons first more => exact anchorOf_of_ne_slash noSlash
    | root => exact anchorOf_slash noSlash
    | doubleRoot => exact anchorOf_two_slashes noSlash
  · simp only [ofString, toString, String.toList_ofList]
    cases anchor with
    | relative =>
      cases names with
      | nil => simp [chars, namesOf, pieces, isName]
      | cons first more => exact same
    | root => simpa [chars, Anchor.text, namesOf_slash] using same
    | doubleRoot => simpa [chars, Anchor.text, namesOf_slash] using same

/-- No two paths have the same text. -/
theorem toString_injective {first second : Path} (same : first.toString = second.toString) :
    first = second := by
  rw [← ofString_toString first, same, ofString_toString]

end Enhance.Path
