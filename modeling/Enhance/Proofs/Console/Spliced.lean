import Enhance.Proofs.Console.Literal
import Mathlib.Data.List.DropRight

/-!
# Texts that are spliced into a line with tags

A text before a tag is read as it is read alone, and so is the text behind the tag, except that
backslashes at the end of the first belong to the tag (`exists_partsFrom_of_tag`).
-/

namespace Enhance.Console.Markup

variable {slashes : Nat} {front body rest : List Char}

theorem tagText_append (slashes : Nat) (body rest : List Char) : tagText slashes body ++ rest =
    List.replicate slashes '\\' ++ '[' :: (body ++ ']' :: rest) := by
  simp [tagText]

/-! ## The text before the tag -/

/-- A tag that is not closed before an opening bracket is none. -/
theorem tagBody?_before (text more : List Char) (slashes : Nat) :
    tagBody? (text ++ (List.replicate slashes '\\' ++ '[' :: more)) = tagBody? text := by
  cases text with
  | nil =>
      cases slashes with
      | zero => simp [tagBody?, startsTag]
      | succ slashes => simp [tagBody?, startsTag, List.replicate_succ]
  | cons c text =>
      have behind : (List.replicate slashes '\\' ++ '[' :: more).takeWhile
          (fun d => d ≠ ']' && d ≠ '[') = List.replicate slashes '\\' := by
        rw [List.takeWhile_append_of_pos (by simp)]
        simp
      have front : text.takeWhile (fun d => d ≠ ']' && d ≠ '[') <+: text := List.takeWhile_prefix _
      have short := front.length_le
      rw [List.cons_append, tagBody?, tagBody?, List.takeWhile_append, behind]
      split
      · next whole =>
          rw [front.eq_of_length whole]
          simp [List.drop_append]
      · next part =>
          have closed : text.drop (text.takeWhile fun d => d ≠ ']' && d ≠ '[').length ≠ [] := by
            rw [ne_eq, List.drop_eq_nil_iff]
            omega
          obtain ⟨d, behind, same⟩ := List.exists_cons_of_ne_nil closed
          rw [List.drop_append_of_le_length short, same]
          rfl

/-- Something stands behind the backslashes that a text begins with. -/
theorem length_slashes_lt (nonempty : front ≠ []) (noSlash : front.getLast? ≠ some '\\') :
    (front.takeWhile (· = '\\')).length < front.length := by
  have slashes : front.takeWhile (· = '\\') <+: front := List.takeWhile_prefix _
  apply Nat.lt_of_le_of_ne slashes.length_le
  intro whole
  have all := slashes.eq_of_length whole
  apply noSlash
  rw [List.getLast?_eq_some_getLast nonempty]
  have member : front.getLast nonempty ∈ front.takeWhile (· = '\\') := by
    rw [all]
    exact List.getLast_mem nonempty
  simpa using List.mem_takeWhile_imp member

theorem takeWhile_slash (nonempty : front ≠ []) (noSlash : front.getLast? ≠ some '\\')
    (rest : List Char) : (front ++ rest).takeWhile (· = '\\') = front.takeWhile (· = '\\') := by
  rw [List.takeWhile_append, if_neg (Nat.ne_of_lt (length_slashes_lt nonempty noSlash))]

theorem noSlash_drop (noSlash : front.getLast? ≠ some '\\') (count : Nat) :
    (front.drop count).getLast? ≠ some '\\' := by
  rw [List.getLast?_drop]
  split
  · simp
  · exact noSlash

theorem tagAt?_append (nonempty : front ≠ []) (noSlash : front.getLast? ≠ some '\\')
    (slashes : Nat) (body rest : List Char) :
    tagAt? (front ++ (tagText slashes body ++ rest)) = tagAt? front := by
  have short := length_slashes_lt nonempty noSlash
  rw [tagText_append, tagAt?, tagAt?, takeWhile_slash nonempty noSlash,
    List.drop_append_of_le_length (Nat.le_of_lt short)]
  cases behind : front.drop (front.takeWhile (· = '\\')).length with
  | nil =>
      rw [List.drop_eq_nil_iff] at behind
      omega
  | cons c text =>
      by_cases bracket : c = '['
      · subst bracket
        simp only [List.cons_append, tagBody?_before]
      · simp [bracket]

theorem skipLength_append (nonempty : front ≠ []) (noSlash : front.getLast? ≠ some '\\')
    (rest : List Char) : skipLength (front ++ rest) = skipLength front := by
  rw [skipLength, skipLength, takeWhile_slash nonempty noSlash]

theorem skipLength_le (nonempty : front ≠ []) : skipLength front ≤ front.length := by
  have short : (front.takeWhile (· = '\\')).length ≤ front.length := (List.takeWhile_sublist _).length_le
  have long := List.length_pos_iff.2 nonempty
  rw [skipLength]
  omega

/-! ## The tag -/

theorem tagAt?_tagText (tag : IsTag body) (slashes : Nat) (rest : List Char) :
    tagAt? (tagText slashes body ++ rest) = some (slashes, body) := by
  have counted : (List.replicate slashes '\\' ++ '[' :: (body ++ ']' :: rest)).takeWhile
      (· = '\\') = List.replicate slashes '\\' := by
    rw [List.takeWhile_append_of_pos (by simp)]
    simp
  rw [tagText_append, tagAt?, counted, List.length_replicate, List.drop_left' (by simp)]
  simp only [tagBody?_append tag, Option.map_some]

theorem drop_tagText (slashes : Nat) (body rest : List Char) :
    (tagText slashes body ++ rest).drop (slashes + body.length + 2) = rest := by
  apply List.drop_left'
  simp [tagText]
  omega

section

variable {fuel : Nat}

/-- A text before a tag, the tag and the text behind it are read one after the other. -/
theorem exists_partsFrom_of_tag (tag : IsTag body) (position : Nat) (before : List Char)
    (noSlash : front.getLast? ≠ some '\\')
    (enough : (front ++ (tagText slashes body ++ rest)).length < fuel) :
    ∃ fuel' position' place, rest.length < fuel' ∧
      partsFrom fuel position before (front ++ (tagText slashes body ++ rest)) =
        partsFrom fuel position before front ++ tagParts slashes body place ++
          partsFrom fuel' position' [] rest := by
  induction fuel generalizing front position before with
  | zero => contradiction
  | succ fuel ih =>
      by_cases nonempty : front = []
      · subst nonempty
        refine ⟨fuel, position + (slashes + body.length + 2), position, ?_, ?_⟩
        · simp [tagText] at enough
          omega
        · rw [List.nil_append, partsFrom_of_tagAt (tagAt?_tagText tag slashes rest), drop_tagText]
          rfl
      have nonempty' : front ++ (tagText slashes body ++ rest) ≠ [] := by simp [nonempty]
      have same := tagAt?_append nonempty noSlash slashes body rest
      cases found : tagAt? front with
      | none =>
          have skips := skipLength_append nonempty noSlash (tagText slashes body ++ rest)
          have short := skipLength_le nonempty
          have shorter := length_drop_lt nonempty' enough
          rw [skips, List.drop_append_of_le_length short] at shorter
          obtain ⟨fuel', position', place, enough', read⟩ := ih
            (position + skipLength front) ((front.take (skipLength front)).reverse ++ before)
            (noSlash_drop noSlash _) shorter
          refine ⟨fuel', position', place, enough', ?_⟩
          rw [partsFrom_of_skipped nonempty' (same.trans found), partsFrom_of_skipped nonempty found,
            skips, List.drop_append_of_le_length short, List.take_append_of_le_length short, read]
      | some tagged =>
          obtain ⟨slashes', body'⟩ := tagged
          obtain ⟨-, isTag⟩ := eq_of_tagAt? found
          have short : slashes' + body'.length + 2 ≤ front.length := by
            rw [isTag]
            simp [tagText]
            omega
          have shorter : (front.drop (slashes' + body'.length + 2) ++
              (tagText slashes body ++ rest)).length < fuel := by
            simp only [List.length_append, List.length_drop] at enough ⊢
            omega
          obtain ⟨fuel', position', place, enough', read⟩ := ih
            (position + (slashes' + body'.length + 2)) [] (noSlash_drop noSlash _) shorter
          refine ⟨fuel', position', place, enough', ?_⟩
          rw [partsFrom_of_tagAt (same.trans found), partsFrom_of_tagAt found,
            List.drop_append_of_le_length short, read]
          simp only [List.append_assoc]

/-- Backslashes at the end of a text. -/
theorem exists_slashes (text : List Char) :
    ∃ front count, front.getLast? ≠ some '\\' ∧ text = front ++ List.replicate count '\\' := by
  refine ⟨text.rdropWhile (· = '\\'), (text.rtakeWhile (· = '\\')).length, ?_, ?_⟩
  · intro last
    have nonempty : text.rdropWhile (· = '\\') ≠ [] := by
      intro empty
      rw [empty] at last
      contradiction
    have other := List.rdropWhile_last_not (· = '\\') text nonempty
    rw [List.getLast?_eq_some_getLast nonempty] at last
    exact other (by simpa using last)
  · have slashes : text.rtakeWhile (· = '\\') =
        List.replicate (text.rtakeWhile (· = '\\')).length '\\' := by
      apply List.eq_replicate_of_mem
      intro c member
      simpa using List.mem_rtakeWhile_imp member
    rw [← slashes, List.rdropWhile_append_rtakeWhile]

theorem shownParts_partBefore (opened : List String) (before : List Char)
    (parts : List MarkupPart) : shownParts opened (partBefore before ++ parts) =
      (shownParts opened parts).map (visible (partBefore before) ++ ·) := by
  unfold partBefore
  split
  · rw [List.nil_append]
    cases shownParts opened parts <;> rfl
  · rw [List.singleton_append, shownParts]
    cases shownParts opened parts <;> simp [visible] <;> rfl

/-- Marks are missing of two texts with a tag between them if there is something to be read in one of
them, or if the first ends with a backslash, which belongs to the tag then. -/
theorem isLiteral_of_spliced {opened : List String} {shown : List Char} (tag : IsTag body)
    (noSlash : '\\' ∉ body) (position : Nat)
    (enough : (front ++ '[' :: (body ++ ']' :: rest)).length < fuel)
    (isShown : shownParts opened (partsFrom fuel position [] (front ++ '[' :: (body ++ ']' :: rest))) =
      .ok shown) (same : marks shown = marks (front ++ rest)) :
    isLiteral front = true ∧ front.getLast? ≠ some '\\' ∧ isLiteral rest = true := by
  obtain ⟨front, slashes, ends, rfl⟩ := exists_slashes front
  rw [List.append_assoc, ← tagText_append] at isShown enough
  obtain ⟨fuel', position', place, enough', read⟩ := exists_partsFrom_of_tag tag position [] ends enough
  rw [eq_visible isShown, read] at same
  have shorter : front.length < fuel := by
    rw [List.length_append] at enough
    omega
  have sheds := visible_sheds position front shorter
  have sheds' := visible_sheds position' rest enough'
  rcases Nat.eq_zero_or_pos slashes with rfl | some
  · have nothing : visible (tagParts 0 body place) = [] := rfl
    rw [visible_append, visible_append, nothing, List.append_nil, List.replicate_zero,
      List.append_nil] at same
    rw [List.replicate_zero, List.append_nil]
    have literal : (!isLiteral front || !isLiteral rest) = false := by
      by_contra cause
      have fewer := (sheds.append sheds').fewer (eq_true_of_ne_false cause)
      rw [same] at fewer
      exact Nat.lt_irrefl _ fewer
    simp only [Bool.or_eq_false_iff, Bool.not_eq_false'] at literal
    exact ⟨literal.1, ends, literal.2⟩
  · -- All backslashes would have to be shown.
    have counted := congrArg (List.count '\\') same
    have few := sheds.left.count_le '\\'
    have few' := sheds'.left.count_le '\\'
    have fewer := count_tagParts_lt some noSlash place
    simp only [count_marks, visible_append, List.count_append, List.count_replicate_self] at counted
    rw [count_marks, count_marks] at few few'
    omega

/-- Two texts with a tag between them are shown as they stand if there is nothing to be read in either,
and the first does not end with a backslash. -/
theorem shownParts_spliced {opened next : List String} (tag : IsTag body)
    (step : ∀ place parts, shownParts opened (.tag body place :: parts) = shownParts next parts)
    (position : Nat) (enough : (front ++ '[' :: (body ++ ']' :: rest)).length < fuel)
    (literal : isLiteral front = true) (ends : front.getLast? ≠ some '\\')
    (literal' : isLiteral rest = true) :
    shownParts opened (partsFrom fuel position [] (front ++ '[' :: (body ++ ']' :: rest))) =
      .ok (front ++ rest) := by
  have untagged := untagged_of_literal literal
  have plain := tagText_append 0 body rest
  rw [List.replicate_zero, List.nil_append] at plain
  rw [← plain] at enough ⊢
  obtain ⟨fuel', position', place, enough', read⟩ := exists_partsFrom_of_tag tag position [] ends enough
  have shorter : front.length < fuel := by
    rw [List.length_append] at enough
    omega
  have shows := (visible_sheds position front shorter).kept (by rw [literal]; rfl)
  rw [partsFrom_of_untagged untagged shorter] at shows
  have isTag : tagParts 0 body place = [.tag body (place + 0)] := rfl
  rw [read, partsFrom_of_untagged untagged shorter, isTag, List.append_assoc, shownParts_partBefore,
    List.singleton_append, step, (shownParts_eq_ok_iff next position' enough').2 literal', shows]
  rfl

end

end Enhance.Console.Markup
