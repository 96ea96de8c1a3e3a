/-!
# Cutting a text at a separator

`pieces` cuts a text at every occurrence of a separator and `joined` puts the pieces back.
Joining what was cut gives the text again, and a text has one piece more than it has
separators. A text can also be cut in two, at the first separator or at the last one
(`splitFirst_eq_some_iff`, `splitLast_eq_some_iff`).
-/

namespace Enhance.Text

/-- The stretches of a text between the occurrences of a separator. -/
def pieces (sep : Char) : List Char → List (List Char)
  | [] => [[]]
  | c :: rest =>
    if c = sep then [] :: pieces sep rest
    else match pieces sep rest with
      | [] => [[c]]
      | piece :: more => (c :: piece) :: more

/-- The texts one after the other with a separator between neighbours. -/
def joined (sep : List Char) : List (List Char) → List Char
  | [] => []
  | [piece] => piece
  | piece :: more => piece ++ sep ++ joined sep more

theorem pieces_ne_nil (sep : Char) (text : List Char) : pieces sep text ≠ [] := by
  cases text with
  | nil => simp [pieces]
  | cons c rest =>
    simp only [pieces]
    split
    · simp
    · split <;> simp

@[simp] theorem pieces_nil (sep : Char) : pieces sep [] = [[]] := rfl

@[simp] theorem pieces_sep (sep : Char) (rest : List Char) :
    pieces sep (sep :: rest) = [] :: pieces sep rest := by
  simp [pieces]

theorem joined_cons {sep : List Char} {piece : List Char} {more : List (List Char)}
    (nonempty : more ≠ []) : joined sep (piece :: more) = piece ++ sep ++ joined sep more := by
  cases more with
  | nil => exact absurd rfl nonempty
  | cons _ _ => rfl

/-- No character is lost by cutting. -/
theorem joined_pieces (sep : Char) (text : List Char) : joined [sep] (pieces sep text) = text := by
  induction text with
  | nil => rfl
  | cons c rest ih =>
    by_cases h : c = sep
    · subst h
      rw [pieces_sep, joined_cons (pieces_ne_nil _ _), ih]
      rfl
    · simp only [pieces, h, ↓reduceIte]
      cases cut : pieces sep rest with
      | nil => exact absurd cut (pieces_ne_nil _ _)
      | cons piece more =>
        rw [cut] at ih
        cases more with
        | nil => simpa [joined] using ih
        | cons second others => simpa [joined] using ih

/-- A piece holds no separator. -/
theorem sep_notMem_of_mem_pieces {sep : Char} {text piece : List Char}
    (member : piece ∈ pieces sep text) : sep ∉ piece := by
  induction text generalizing piece with
  | nil => simp_all
  | cons c rest ih =>
    by_cases h : c = sep
    · subst h
      rw [pieces_sep, List.mem_cons] at member
      rcases member with rfl | member
      · simp
      · exact ih member
    · simp only [pieces, h, ↓reduceIte] at member
      cases cut : pieces sep rest with
      | nil => exact absurd cut (pieces_ne_nil _ _)
      | cons first more =>
        rw [cut, List.mem_cons] at member
        rcases member with rfl | member
        · have := ih (cut ▸ List.mem_cons_self)
          simp [this, Ne.symm h]
        · exact ih (cut ▸ List.mem_cons_of_mem _ member)

/-- Cutting undoes joining when no piece holds the separator. -/
theorem pieces_joined {sep : Char} {texts : List (List Char)} (nonempty : texts ≠ [])
    (free : ∀ text ∈ texts, sep ∉ text) : pieces sep (joined [sep] texts) = texts := by
  have single : ∀ text : List Char, sep ∉ text → pieces sep text = [text] := by
    intro text h
    induction text with
    | nil => rfl
    | cons c rest ih =>
      simp only [List.mem_cons, not_or] at h
      simp [pieces, Ne.symm h.1, ih h.2]
  have front : ∀ (text rest : List Char), sep ∉ text →
      pieces sep (text ++ sep :: rest) = text :: pieces sep rest := by
    intro text rest h
    induction text with
    | nil => simp
    | cons c more ih =>
      simp only [List.mem_cons, not_or] at h
      simp [pieces, Ne.symm h.1, ih h.2]
  induction texts with
  | nil => exact absurd rfl nonempty
  | cons text more ih =>
    cases more with
    | nil => exact single text (free text List.mem_cons_self)
    | cons second others =>
      rw [joined_cons (by simp), List.append_assoc, List.singleton_append,
        front text _ (free text List.mem_cons_self), ih (by simp)]
      exact fun other member => free other (List.mem_cons_of_mem _ member)

/-- The text before the last separator and the text after it, when there is a separator. -/
def splitLast (sep : Char) : List Char → Option (List Char × List Char)
  | [] => none
  | c :: rest =>
    match splitLast sep rest with
    | some (front, back) => some (c :: front, back)
    | none => if c = sep then some ([], rest) else none

/-- The text before the first separator and the text after it, when there is a separator. -/
def splitFirst (sep : Char) : List Char → Option (List Char × List Char)
  | [] => none
  | c :: rest =>
    if c = sep then some ([], rest)
    else (splitFirst sep rest).map fun parts => (c :: parts.1, parts.2)

@[simp] theorem splitLast_eq_none_iff {sep : Char} {text : List Char} :
    splitLast sep text = none ↔ sep ∉ text := by
  induction text with
  | nil => simp [splitLast]
  | cons c rest ih =>
    cases cut : splitLast sep rest with
    | none =>
      have free := ih.1 cut
      by_cases h : c = sep
      · simp [splitLast, cut, h]
      · simp [splitLast, cut, h, free, Ne.symm h]
    | some parts =>
      have found : sep ∈ rest := by
        apply Decidable.by_contra
        intro free
        simp [ih.2 free] at cut
      simp [splitLast, cut, found]

theorem splitLast_append {sep : Char} {back : List Char} (free : sep ∉ back)
    (front : List Char) : splitLast sep (front ++ sep :: back) = some (front, back) := by
  induction front with
  | nil => simp [splitLast, splitLast_eq_none_iff.2 free]
  | cons c front ih => simp [splitLast, ih]

/-- What stands behind the last separator holds none. -/
theorem splitLast_eq_some_iff {sep : Char} {text front back : List Char} :
    splitLast sep text = some (front, back) ↔ text = front ++ sep :: back ∧ sep ∉ back := by
  constructor
  · intro cut
    induction text generalizing front with
    | nil => simp [splitLast] at cut
    | cons c rest ih =>
      cases inner : splitLast sep rest with
      | none =>
        have free := splitLast_eq_none_iff.1 inner
        simp only [splitLast, inner, Option.ite_none_right_eq_some, Option.some.injEq,
          Prod.mk.injEq] at cut
        obtain ⟨rfl, rfl, rfl⟩ := cut
        exact ⟨rfl, free⟩
      | some parts =>
        simp only [splitLast, inner, Option.some.injEq, Prod.mk.injEq] at cut
        obtain ⟨rfl, rfl⟩ := cut
        obtain ⟨same, free⟩ := ih inner
        exact ⟨congrArg (c :: ·) same, free⟩
  · rintro ⟨rfl, free⟩
    exact splitLast_append free front

@[simp] theorem splitFirst_eq_none_iff {sep : Char} {text : List Char} :
    splitFirst sep text = none ↔ sep ∉ text := by
  induction text with
  | nil => simp [splitFirst]
  | cons c rest ih =>
    by_cases h : c = sep
    · simp [splitFirst, h]
    · simp [splitFirst, h, ih, Ne.symm h]

theorem splitFirst_append {sep : Char} {front : List Char} (free : sep ∉ front)
    (back : List Char) : splitFirst sep (front ++ sep :: back) = some (front, back) := by
  induction front with
  | nil => simp [splitFirst]
  | cons c front ih =>
    simp only [List.mem_cons, not_or] at free
    simp [splitFirst, Ne.symm free.1, ih free.2]

/-- What stands before the first separator holds none. -/
theorem splitFirst_eq_some_iff {sep : Char} {text front back : List Char} :
    splitFirst sep text = some (front, back) ↔ text = front ++ sep :: back ∧ sep ∉ front := by
  constructor
  · intro cut
    induction text generalizing front with
    | nil => simp [splitFirst] at cut
    | cons c rest ih =>
      by_cases h : c = sep
      · subst h
        simp only [splitFirst, ↓reduceIte, Option.some.injEq, Prod.mk.injEq] at cut
        obtain ⟨rfl, rfl⟩ := cut
        simp
      · simp only [splitFirst, h, ↓reduceIte, Option.map_eq_some_iff, Prod.mk.injEq] at cut
        obtain ⟨⟨before, after⟩, inner, rfl, rfl⟩ := cut
        obtain ⟨same, free⟩ := ih inner
        exact ⟨congrArg (c :: ·) same, by simp [Ne.symm h, free]⟩
  · rintro ⟨rfl, free⟩
    exact splitFirst_append free back

/-- A text is cut behind the characters of a kind that it begins with. -/
theorem takeWhile_append_drop (isKind : Char → Bool) (text : List Char) :
    text.takeWhile isKind ++ text.drop (text.takeWhile isKind).length = text := by
  have front : text.takeWhile isKind <+: text := List.takeWhile_prefix isKind
  exact List.prefix_iff_eq_append.1 front

end Enhance.Text
