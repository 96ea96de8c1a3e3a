import Enhance.Proofs.Console

/-!
# How a printed message begins

A message may be broken into lines, its tags are left out and the names of pictographs are replaced, but
a first letter stays where it is: what is printed begins with it (`message_begins`).
-/

namespace Enhance.Console

open Text

/-- A character that is shown as it stands, whatever stands behind it. -/
structure IsSteady (c : Char) : Prop where
  plain : Markup.isPlain c = true
  noColon : c ≠ ':'
  kept : sanitized [c] = [c]
  visible : isBlank c = false
  narrow : cellWidth c = 1

/-- The first line begins with a character. -/
def LedBy (c : Char) (lines : List (List Char)) : Prop :=
  ∃ line rest, lines = (c :: line) :: rest

variable {c : Char}

/-! ## Tags and pictographs -/

namespace Markup

theorem exists_partBefore {before : List Char} (first : before.getLast? = some c) :
    ∃ shown, partBefore before = [.text (c :: shown)] := by
  rcases List.eq_nil_or_concat before with rfl | ⟨front, other, rfl⟩
  · contradiction
  · rw [List.concat_eq_append, List.getLast?_concat] at first
    obtain rfl := Option.some.inj first
    exact ⟨front.reverse, by simp [partBefore]⟩

/-- The first part of a text begins with the character that was read first. -/
theorem exists_partsFrom {fuel : Nat} {before text : List Char} (position : Nat)
    (enough : text.length < fuel) (first : before.getLast? = some c) :
    ∃ shown rest, partsFrom fuel position before text = .text (c :: shown) :: rest := by
  induction fuel generalizing position before text with
  | zero => contradiction
  | succ fuel ih =>
      obtain ⟨shown, part⟩ := exists_partBefore first
      unfold partBefore at part
      unfold partsFrom
      cases text with
      | nil => exact ⟨shown, [], part⟩
      | cons d text =>
          have behind (more : List Char) : (more ++ before).getLast? = some c := by
            rw [List.getLast?_append, first]
            rfl
          have shorter : text.length < fuel := Nat.lt_of_succ_lt_succ enough
          cases tagAt? (d :: text) with
          | none =>
              dsimp only
              split
              · next slash =>
                  apply ih
                  · simp only [slash, List.takeWhile_cons, decide_true, ↓reduceIte,
                      List.length_cons, List.drop_succ_cons, List.length_drop]
                    omega
                  · exact behind _
              · apply ih
                · exact shorter
                · exact behind [d]
          | some tagged =>
              simp only [part, List.append_assoc, List.cons_append]
              exact ⟨_, _, rfl⟩

/-- What is shown begins as the text does. -/
theorem exists_shown {text shownAs : List Char} (steady : IsSteady c)
    (isShown : shown (String.ofList (c :: text)) = .ok shownAs) : ∃ rest, shownAs = c :: rest := by
  obtain ⟨c_ne, c_ne'⟩ : c ≠ '[' ∧ c ≠ '\\' := by simpa [isPlain] using steady.plain
  have first : [c].getLast? = some c := List.getLast?_singleton
  obtain ⟨part, parts', same⟩ := exists_partsFrom 1 (Nat.lt_succ_self text.length) first
  rw [shown, parts, String.toList_ofList, List.length_cons, partsFrom_of_plain steady.plain, same,
    shownParts] at isShown
  cases later : shownParts [] parts' with
  | error error =>
      rw [later] at isShown
      contradiction
  | ok others =>
      rw [later] at isShown
      cases isShown
      have plain : unescaped (c :: part) = c :: unescaped part := by
        rw [unescaped]
        simp [c_ne']
      rw [plain, shownText, List.length_cons, pictured]
      · exact ⟨_, rfl⟩
      · simp [steady.noColon]

end Markup

/-! ## Lines -/

theorem LedBy.append {lines : List (List Char)} (begun : LedBy c lines) (more : List (List Char)) :
    LedBy c (lines ++ more) := by
  obtain ⟨line, rest, rfl⟩ := begun
  exact ⟨line, rest ++ more, rfl⟩

/-- The first word is the first to be put on a line. -/
theorem spacedWords_ledBy (visible : isBlank c = false) (text : List Char) (fuel : Nat) :
    LedBy c (spacedWords (fuel + 1) (c :: text)) := by
  simp [spacedWords, visible, LedBy]

/-- A word that is folded begins on the first of its pieces. -/
theorem folded_ledBy {piece : List Char} (width used : Nat) (first : piece.getLast? = some c)
    (word : List Char) : LedBy c (folded width used piece word) := by
  have already {piece : List Char} (first : piece.getLast? = some c) :
      ∃ line, piece.reverse = c :: line := by
    rw [← List.head?_reverse] at first
    exact List.head?_eq_some_iff.1 first
  induction word generalizing used piece with
  | nil =>
      obtain ⟨line, same⟩ := already first
      exact ⟨line, [], by rw [folded, same]⟩
  | cons d word ih =>
      rw [folded]
      split
      · apply ih
        rw [List.getLast?_cons, first]
        rfl
      · obtain ⟨line, same⟩ := already first
        exact ⟨line, _, by rw [same]⟩

namespace Filling

variable {filling : Filling} {width : Nat}

theorem begin_ledBy (begun : LedBy c filling.lines) (text : List Char) :
    LedBy c (filling.begin text).lines := by
  unfold begin
  split
  · next empty =>
      obtain ⟨line, rest, same⟩ := begun
      simp at empty
      simp [lines, empty] at same
  · have same : lines ⟨filling.line :: filling.full, text, cells text⟩ = filling.lines ++ [text] := by
      simp [lines]
    rw [same]
    exact begun.append [text]

theorem foldl_begin_ledBy (begun : LedBy c filling.lines) (texts : List (List Char)) :
    LedBy c (texts.foldl begin filling).lines := by
  induction texts generalizing filling with
  | nil => exact begun
  | cons text texts ih => exact ih (begin_ledBy begun text)

/-- What is on the first line stays there. -/
theorem add_ledBy (begun : LedBy c filling.lines) (word : List Char) :
    LedBy c (filling.add .fold width word).lines := by
  have continues (used : Nat) : LedBy c (lines ⟨filling.full, filling.line ++ word, used⟩) := by
    obtain ⟨line, rest, same⟩ := begun
    obtain ⟨full, line', used'⟩ := filling
    rcases List.eq_nil_or_concat full with rfl | ⟨full, first, rfl⟩
    · simp [lines] at same
      simp [lines, same, LedBy]
    · simp [lines] at same
      simp [lines, same, LedBy]
  unfold add
  dsimp only
  split
  · exact continues _
  split
  · exact foldl_begin_ledBy begun _
  split
  · exact continues _
  · exact begin_ledBy begun word

/-- The first word begins the first line. -/
theorem add_ledBy_of_empty (narrow : cellWidth c = 1) (wide : 0 < width) (word : List Char) :
    LedBy c (add .fold width {} (c :: word)).lines := by
  unfold add
  dsimp only
  split
  · exact ⟨word, [], rfl⟩
  split
  · rw [folded, if_pos (by omega)]
    have first : [c].getLast? = some c := List.getLast?_singleton
    obtain ⟨line, rest, same⟩ := folded_ledBy width (0 + cellWidth c) first word
    rw [same]
    have begun : LedBy c (begin {} (c :: line)).lines := ⟨line, [], rfl⟩
    exact foldl_begin_ledBy begun rest
  · exact ⟨word, [], rfl⟩

end Filling

section

variable {width : Nat} (wide : 0 < width)

theorem broken_ledBy (steady : IsSteady c) (wide : 0 < width) (line : List Char) :
    LedBy c (broken .fold width (c :: line)) := by
  obtain ⟨word, words, same⟩ := spacedWords_ledBy steady.visible line (c :: line).length
  have lines : broken .fold width (c :: line) =
      (((c :: word) :: words).foldl (Filling.add .fold width) {}).lines := by
    rw [broken, same]
  rw [lines, List.foldl_cons]
  generalize filled : Filling.add .fold width {} (c :: word) = filling
  have begun : LedBy c filling.lines := filled ▸ Filling.add_ledBy_of_empty steady.narrow wide word
  clear same lines filled
  induction words generalizing filling with
  | nil => exact begun
  | cons word words ih => exact ih _ (Filling.add_ledBy begun word)

/-- A line that does not begin with a blank keeps its first character. -/
theorem exists_withoutExcess (width : Nat) (visible : isBlank c = false) (line : List Char) :
    ∃ rest, withoutExcess width (c :: line) = c :: rest := by
  have kept : trimmedEnd (c :: line) ≠ [] := by
    intro empty
    rw [trimmedEnd, List.reverse_eq_nil_iff, List.dropWhile_eq_nil_iff] at empty
    rw [empty c (by simp)] at visible
    contradiction
  have long := List.length_pos_iff.2 kept
  rw [withoutExcess]
  obtain ⟨count, same⟩ : ∃ count, (c :: line).length - min ((c :: line).length - width)
      ((c :: line).length - (trimmedEnd (c :: line)).length) = count + 1 :=
    Nat.exists_eq_succ_of_ne_zero (by rw [List.length_cons]; omega)
  rw [same]
  exact ⟨_, rfl⟩

theorem exists_aligned (narrow : cellWidth c = 1) (wide : 0 < width) (line : List Char) :
    ∃ rest, aligned .start .fold width (c :: line) = c :: rest := by
  rw [aligned, truncated]
  split
  · exact ⟨line, rfl⟩
  · rw [resized, fitting, if_pos (by omega)]
    exact ⟨_, rfl⟩

theorem tabsExpanded_cons (visible : isBlank c = false) (column : Nat) (line : List Char) :
    tabsExpanded column (c :: line) = c :: tabsExpanded (column + cellWidth c) line := by
  rw [tabsExpanded]
  rintro rfl
  contradiction

theorem splitOn_ledBy (visible : isBlank c = false) (text : List Char) :
    LedBy c ((c :: text).splitOn '\n') := by
  have noFeed : (c == '\n') = false := by
    rw [beq_eq_false_iff_ne]
    rintro rfl
    contradiction
  cases rest : text.splitOn '\n' with
  | nil => exact absurd rest (List.splitOnP_ne_nil _ _)
  | cons line lines =>
    refine ⟨line, lines, ?_⟩
    rw [List.splitOn] at rest ⊢
    rw [List.splitOnP_cons_eq_if_modifyHead, noFeed, rest]
    rfl

theorem wrapped_ledBy (steady : IsSteady c) (wide : 0 < width) (text : List Char) :
    LedBy c (wrapped .start .fold width (c :: text)) := by
  have kept : sanitized (c :: text) = c :: sanitized text := by
    change sanitized ([c] ++ text) = [c] ++ sanitized text
    conv => rhs; rw [← steady.kept]
    exact List.filter_append _ _
  obtain ⟨line, lines, split⟩ := splitOn_ledBy steady.visible (sanitized text)
  obtain ⟨first, rest, broke⟩ := broken_ledBy steady wide (tabsExpanded (0 + cellWidth c) line)
  obtain ⟨trimmed, keeps⟩ := exists_withoutExcess width steady.visible first
  obtain ⟨shown, shows⟩ := exists_aligned steady.narrow wide trimmed
  rw [wrapped, if_neg (Nat.ne_of_gt wide), kept, split, List.flatMap_cons,
    tabsExpanded_cons steady.visible, broke, List.map_cons, keeps, shows]
  exact ⟨shown, _, rfl⟩

end

/-- What is printed of a message without a mark begins as its text does. -/
theorem message_begins {width : Nat} (steady : IsSteady c) (wide : 0 < width) {words : List Char}
    {text printed : String} (begins : text.toList = c :: words)
    (prints : (message .info text).text width = .ok printed) :
    ∃ rest, printed.toList = c :: rest := by
  obtain rfl : String.ofList (c :: words) = text := by rw [← begins, String.ofList_toList]
  have unmarked : MessageKind.info.mark ++ String.ofList (c :: words) = String.ofList (c :: words) :=
    String.empty_append
  rw [message, Block.text, Block.lines, unmarked] at prints
  cases isShown : Markup.shown (String.ofList (c :: words)) with
  | error error =>
      rw [isShown] at prints
      contradiction
  | ok shownAs =>
      rw [isShown] at prints
      cases prints
      obtain ⟨rest, rfl⟩ := Markup.exists_shown steady isShown
      obtain ⟨line, lines, same⟩ := wrapped_ledBy steady wide rest
      rw [same, String.toList_ofList]
      exact ⟨_, rfl⟩

end Enhance.Console
