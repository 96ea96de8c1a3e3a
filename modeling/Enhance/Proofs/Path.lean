import Enhance.Path.Text

/-!
# Paths of entries

The path of an entry of a directory goes on from the path of the directory by the name of the
entry.
-/

namespace Enhance

namespace Path

variable {path : Path} {name : String}

theorem ofString_of_isName (proper : isName name = true) :
    ofString name = ⟨.relative, [name], by simpa using proper⟩ := by
  have written : (⟨.relative, [name], by simpa using proper⟩ : Path).toString = name := by
    simp [toString, chars, Anchor.text, Text.joined]
  rw [← ofString_toString ⟨.relative, [name], by simpa using proper⟩, written]

theorem anchor_child (proper : isName name = true) : (path.child name).anchor = path.anchor := by
  rw [child, ofString_of_isName proper]
  exact (append_relative path rfl).1

theorem names_child (proper : isName name = true) :
    (path.child name).names = path.names ++ [name] := by
  rw [child, ofString_of_isName proper]
  exact (append_relative path rfl).2

/-- The path that leads on from a path along names. -/
def descend (path : Path) (names : List String) : Path :=
  names.foldl child path

@[simp] theorem descend_nil (path : Path) : path.descend [] = path := rfl

@[simp] theorem descend_cons (path : Path) (name : String) (names : List String) :
    path.descend (name :: names) = (path.child name).descend names := rfl

theorem anchor_descend {names : List String} (proper : ∀ name ∈ names, isName name = true) :
    (path.descend names).anchor = path.anchor := by
  induction names generalizing path with
  | nil => rfl
  | cons name names ih =>
      rw [descend_cons, ih fun other member => proper other (List.mem_cons_of_mem _ member),
        anchor_child (proper name List.mem_cons_self)]

theorem names_descend {names : List String} (proper : ∀ name ∈ names, isName name = true) :
    (path.descend names).names = path.names ++ names := by
  induction names generalizing path with
  | nil => simp
  | cons name names ih =>
      rw [descend_cons, ih fun other member => proper other (List.mem_cons_of_mem _ member),
        names_child (proper name List.mem_cons_self)]
      simp

/-- The path of an entry of an absolute path is absolute. -/
theorem isAbsolute_child (proper : isName name = true) (absolute : path.isAbsolute = true) :
    (path.child name).isAbsolute = true := by
  rw [isAbsolute, anchor_child proper]
  exact absolute

theorem anchorOf_slash_ne (text : List Char) : anchorOf ('/' :: text) ≠ .relative := by
  rw [anchorOf.eq_def]
  grind

/-! ## The texts of paths -/

theorem intercalate_eq_joined (sep : List Char) (pieces : List (List Char)) :
    sep.intercalate pieces = Text.joined sep pieces := by
  induction pieces with
  | nil => rfl
  | cons piece more ih =>
      cases more with
      | nil => simp [List.intercalate, Text.joined]
      | cons second others =>
          rw [Text.joined_cons (by simp), ← ih]
          simp [List.intercalate]

theorem joined_concat {sep : List Char} {pieces : List (List Char)} (nonempty : pieces ≠ [])
    (last : List Char) : Text.joined sep (pieces ++ [last]) = Text.joined sep pieces ++ sep ++ last := by
  induction pieces with
  | nil => contradiction
  | cons piece more ih =>
      rw [List.cons_append, Text.joined_cons (by simp)]
      cases more with
      | nil => simp [Text.joined]
      | cons second others =>
          have whole : Text.joined sep (piece :: second :: others) =
              piece ++ sep ++ Text.joined sep (second :: others) := Text.joined_cons (by simp)
          rw [ih (by simp), whole]
          simp

theorem length_le_utf8ByteSize (chars : List Char) :
    chars.length ≤ (String.ofList chars).utf8ByteSize := by
  induction chars with
  | nil => simp
  | cons c rest ih =>
      have size := c.utf8Size_pos
      rw [String.ofList_cons, String.utf8ByteSize_append, String.utf8ByteSize_singleton,
        List.length_cons]
      omega

theorem chars_of_isAbsolute (absolute : path.isAbsolute = true) :
    path.chars = path.anchor.text ++ Text.joined ['/'] (path.names.map String.toList) := by
  unfold chars
  split
  · next relative _ => simp [isAbsolute, relative] at absolute
  · rfl

/-- The path of an entry has a longer text than that of its directory. -/
theorem utf8ByteSize_le_child (proper : isName name = true) (absolute : path.isAbsolute = true) :
    path.toString.utf8ByteSize ≤ (path.child name).toString.utf8ByteSize := by
  have longer : ∃ rest, (path.child name).chars = path.chars ++ rest := by
    rw [chars_of_isAbsolute absolute, chars_of_isAbsolute (isAbsolute_child proper absolute),
      anchor_child proper, names_child proper, List.map_append]
    by_cases top : path.names = []
    · exact ⟨name.toList, by simp [top, Text.joined]⟩
    · refine ⟨['/'] ++ name.toList, ?_⟩
      rw [List.map_singleton, joined_concat (by simpa using top)]
      simp
  obtain ⟨rest, longer⟩ := longer
  rw [toString, toString, longer, String.ofList_append, String.utf8ByteSize_append]
  exact Nat.le_add_right _ _

/-- Each name on the way of an absolute path takes at least two bytes: itself and a slash. -/
theorem two_mul_length_names_le (absolute : path.isAbsolute = true) :
    2 * path.names.length ≤ path.toString.utf8ByteSize := by
  have counted (texts : List (List Char)) (proper : ∀ text ∈ texts, text ≠ []) :
      2 * texts.length ≤ (Text.joined ['/'] texts).length + 1 := by
    induction texts with
    | nil => simp
    | cons text texts ih =>
        have more := ih fun other member => proper other (List.mem_cons_of_mem _ member)
        have some := List.length_pos_iff.2 (proper text List.mem_cons_self)
        cases texts with
        | nil => simp [Text.joined]; omega
        | cons second others =>
            rw [Text.joined_cons (by simp)]
            simp only [List.length_cons, List.length_append, List.length_nil] at more ⊢
            omega
  have anchored : 1 ≤ path.anchor.text.length := by
    cases anchor : path.anchor with
    | relative => simp [isAbsolute, anchor] at absolute
    | root | doubleRoot => simp [Anchor.text]
  have named := counted (path.names.map String.toList) (by
    intro text member
    obtain ⟨name, isMember, rfl⟩ := List.mem_map.1 member
    exact (isName_iff.1 (path.proper name isMember)).1)
  have whole := length_le_utf8ByteSize path.chars
  rw [List.length_map] at named
  rw [chars_of_isAbsolute absolute, List.length_append, ← chars_of_isAbsolute absolute] at whole
  rw [toString]
  omega

/-- Names without `..` are taken as they are. -/
theorem foldBack_of_plain {names : List String} (plain : ".." ∉ names) (seen : List String) :
    foldBack seen names = seen.reverse ++ names := by
  induction names generalizing seen with
  | nil => simp [foldBack]
  | cons name names ih =>
      rw [List.mem_cons, not_or] at plain
      rw [foldBack, if_neg (Ne.symm plain.1), ih plain.2]
      simp

end Path

end Enhance
