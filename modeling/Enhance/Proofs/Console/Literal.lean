import Enhance.Proofs.Console
import Enhance.Text.Pieces

/-!
# Texts that are shown as they stand

A console reads three things in a text: tags, backslashes before brackets and the names of pictographs
between colons.  Whatever it reads it does not show, and at least one of the characters that it was read
from is missing then (`Sheds`).  So a text is shown as it stands if and only if there is nothing to be
read in it (`shownParts_eq_ok_iff`).
-/

namespace Enhance.Console.Markup

open Text

/-! ## What a console reads in a text -/

/-- Whether a text holds a tag. -/
def hasTag : List Char → Bool
  | [] => false
  | c :: rest => (c = '[' && (tagBody? rest).isSome) || hasTag rest

/-- Whether a text holds a bracket behind a backslash. -/
def hasEscape : List Char → Bool
  | '\\' :: '[' :: _ => true
  | _ :: rest => hasEscape rest
  | [] => false

/-- The names between colons, read from the left: what has been read since a colon that may begin a
name, the latest character first. -/
def namesFrom : Option (List Char) → List Char → List (List Char)
  | _, [] => []
  | none, c :: rest => namesFrom (if c = ':' then some [] else none) rest
  | some name, c :: rest =>
    if c = ':' then name.reverse :: namesFrom none rest
    else namesFrom (if isBlank c then none else some (c :: name)) rest

/-- Whether a text holds the name of a pictograph. -/
def hasPicture (text : List Char) : Bool :=
  (namesFrom none text).any fun name => (Emoji.ofName? name).isSome

/-- Whether there is nothing to be read in a text. -/
def isLiteral (text : List Char) : Bool :=
  !hasTag text && !hasEscape text && !hasPicture text

/-! ## Marks -/

/-- The characters that something is read from. -/
def isMark (c : Char) : Bool :=
  c = ':' || c = '[' || c = '\\'

/-- The marks of a text. -/
def marks (text : List Char) : List Char :=
  text.filter isMark

@[simp] theorem marks_append (front rest : List Char) :
    marks (front ++ rest) = marks front ++ marks rest :=
  List.filter_append front rest

/-- What is shown of a text: it has no other marks, has fewer of them if there is a cause, and is the
text itself if there is none. -/
structure Sheds (cause : Bool) (shown text : List Char) : Prop where
  left : (marks shown).Sublist (marks text)
  fewer : cause = true → (marks shown).length < (marks text).length
  kept : cause = false → shown = text

namespace Sheds

variable {cause other : Bool} {shown text shown' text' : List Char}

theorem refl (text : List Char) : Sheds false text text :=
  ⟨List.Sublist.refl _, by simp, fun _ => rfl⟩

theorem of_fewer (left : (marks shown).Sublist (marks text))
    (fewer : (marks shown).length < (marks text).length) : Sheds true shown text :=
  ⟨left, fun _ => fewer, by simp⟩

theorem append (front : Sheds cause shown text) (back : Sheds other shown' text') :
    Sheds (cause || other) (shown ++ shown') (text ++ text') := by
  have short := front.left.length_le
  have short' := back.left.length_le
  constructor
  · simpa using front.left.append back.left
  · intro isCause
    simp only [marks_append, List.length_append]
    rcases (Bool.or_eq_true_iff.1 isCause) with isCause | isCause
    · have := front.fewer isCause
      omega
    · have := back.fewer isCause
      omega
  · intro noCause
    obtain ⟨none, none'⟩ := Bool.or_eq_false_iff.1 noCause
    rw [front.kept none, back.kept none']

theorem trans {middle : List Char} (first : Sheds cause middle text)
    (second : Sheds other shown middle) : Sheds (cause || other) shown text := by
  have short := first.left.length_le
  have short' := second.left.length_le
  constructor
  · exact second.left.trans first.left
  · intro isCause
    rcases (Bool.or_eq_true_iff.1 isCause) with isCause | isCause
    · have := first.fewer isCause
      omega
    · have := second.fewer isCause
      omega
  · intro noCause
    obtain ⟨none, none'⟩ := Bool.or_eq_false_iff.1 noCause
    rw [second.kept none', first.kept none]

end Sheds

/-! ## Backslashes -/

theorem unescaped_sheds (text : List Char) : Sheds (hasEscape text) (unescaped text) text := by
  fun_induction unescaped text with
  | case1 rest ih =>
      have gone : marks ('\\' :: '[' :: rest) = '\\' :: '[' :: marks rest := rfl
      have stays : marks ('[' :: unescaped rest) = '[' :: marks (unescaped rest) := rfl
      apply Sheds.of_fewer
      · rw [gone, stays]
        exact (ih.left.cons_cons '[').cons '\\'
      · rw [gone, stays]
        have := ih.left.length_le
        simp only [List.length_cons]
        omega
  | case2 c rest apart ih =>
      have same : hasEscape (c :: rest) = hasEscape rest := by
        rw [hasEscape]
        exact apart
      rw [same]
      exact (Sheds.refl [c]).append ih
  | case3 => exact Sheds.refl []

/-! ## Pictographs -/

set_option maxRecDepth 20000 in
/-- No picture holds a mark. -/
theorem unmarked_of_table :
    (Emoji.table.all fun entry => entry.2.all fun c => !isMark c) = true := by
  decide +kernel

theorem marks_ofName? {name picture : List Char} (found : Emoji.ofName? name = some picture) :
    marks picture = [] := by
  have listed : (Emoji.table.lookup (Emoji.smallName (Emoji.splitLook name).1)).map
      (· ++ (Emoji.splitLook name).2) = some picture := found
  obtain ⟨shown, known, rfl⟩ := Option.map_eq_some_iff.1 listed
  obtain ⟨front, rest, same, -⟩ := List.lookup_eq_some_iff.1 known
  have member : (Emoji.smallName (Emoji.splitLook name).1, shown) ∈ Emoji.table := by
    rw [same]
    exact List.mem_append_right front List.mem_cons_self
  have unmarked := List.all_eq_true.1 unmarked_of_table _ member
  have look : marks (Emoji.splitLook name).2 = [] := by
    unfold Emoji.splitLook
    split
    · rfl
    · split <;> rfl
  rw [marks_append, look, List.append_nil, marks, List.filter_eq_nil_iff]
  simpa using unmarked

/-- A character that may stand in a name between colons. -/
abbrev mayName (c : Char) : Bool :=
  c ≠ ':' && !isBlank c

/-- A name that has begun ends with the next colon, unless there is a blank before it. -/
theorem namesFrom_some (name rest : List Char) :
    namesFrom (some name) rest =
      if (rest.drop (rest.takeWhile mayName).length).head? = some ':' then
        (name.reverse ++ rest.takeWhile mayName) ::
          namesFrom none (rest.drop ((rest.takeWhile mayName).length + 1))
      else namesFrom none rest := by
  induction rest generalizing name with
  | nil => rfl
  | cons c rest ih =>
      by_cases colon : c = ':'
      · subst colon
        simp [namesFrom]
      by_cases blank : isBlank c = true
      · simp [namesFrom, colon, blank]
      · simp [namesFrom, colon, blank, ih]

theorem eq_of_ends {rest : List Char}
    (ends : (rest.drop (rest.takeWhile mayName).length).head? = some ':') :
    ':' :: rest = (':' :: rest.takeWhile mayName ++ [':']) ++
      rest.drop ((rest.takeWhile mayName).length + 1) := by
  obtain ⟨behind, same⟩ := List.head?_eq_some_iff.1 ends
  have cut := takeWhile_append_drop mayName rest
  have later : rest.drop ((rest.takeWhile mayName).length + 1) = behind := by
    rw [← List.drop_drop, same, List.drop_one, List.tail_cons]
  rw [later, List.append_assoc, List.singleton_append, List.cons_append, ← same, cut]

theorem hasPicture_of_ends {rest : List Char}
    (ends : (rest.drop (rest.takeWhile mayName).length).head? = some ':') :
    hasPicture (':' :: rest) = ((Emoji.ofName? (rest.takeWhile mayName)).isSome ||
      hasPicture (rest.drop ((rest.takeWhile mayName).length + 1))) := by
  rw [hasPicture, namesFrom, if_pos rfl, namesFrom_some, if_pos ends]
  rfl

theorem pictured_sheds {fuel : Nat} {text : List Char} (enough : text.length ≤ fuel) :
    Sheds (hasPicture text) (pictured fuel text) text := by
  fun_induction pictured fuel text with
  | case1 text =>
      obtain rfl := List.length_eq_zero_iff.1 (Nat.le_zero.1 enough)
      exact Sheds.refl []
  | case2 => exact Sheds.refl []
  | case3 fuel rest between ends picture found ih =>
      have drawn : Sheds true picture (':' :: between ++ [':']) := by
        have unmarked := marks_ofName? found
        apply Sheds.of_fewer
        · rw [unmarked]
          exact List.nil_sublist _
        · rw [unmarked]
          exact Nat.succ_pos _
      rw [hasPicture_of_ends ends, eq_of_ends ends, found]
      apply drawn.append
      apply ih
      simp at enough ⊢
      omega
  | case4 fuel rest between ends unknown ih =>
      have apart (shown : List Char) :
          ':' :: between ++ ':' :: shown = (':' :: between ++ [':']) ++ shown := by
        simp
      rw [hasPicture_of_ends ends, eq_of_ends ends, unknown, apart]
      apply (Sheds.refl (':' :: between ++ [':'])).append
      apply ih
      simp at enough ⊢
      omega
  | case5 fuel rest between unended ih =>
      have cause : hasPicture (':' :: rest) = hasPicture rest := by
        rw [hasPicture, namesFrom, if_pos rfl, namesFrom_some, if_neg unended]
        rfl
      rw [cause]
      apply (Sheds.refl [':']).append
      apply ih
      exact Nat.le_of_succ_le_succ enough
  | case6 fuel c rest other ih =>
      have cause : hasPicture (c :: rest) = hasPicture rest := by
        rw [hasPicture, namesFrom, if_neg]
        · rfl
        · exact other
      rw [cause]
      apply (Sheds.refl [c]).append
      apply ih
      exact Nat.le_of_succ_le_succ enough

theorem text_sheds (text : List Char) :
    Sheds (hasEscape text || hasPicture text) (shownText (unescaped text)) text := by
  have sheds : Sheds (hasEscape text || hasPicture (unescaped text)) (shownText (unescaped text)) text :=
    (unescaped_sheds text).trans (pictured_sheds (Nat.le_refl _))
  cases escape : hasEscape text with
  | true => simpa [escape] using sheds
  | false =>
      have same := (unescaped_sheds text).kept escape
      simpa [escape, same] using sheds

/-! ## Tags -/

/-- What the parts of a text show, if they are shown. -/
def visible (parts : List MarkupPart) : List Char :=
  parts.flatMap fun
    | .text text => shownText (unescaped text)
    | .tag _ _ => []

@[simp] theorem visible_append (front rest : List MarkupPart) :
    visible (front ++ rest) = visible front ++ visible rest :=
  List.flatMap_append

theorem eq_visible {opened : List String} {parts : List MarkupPart} {shown : List Char}
    (isShown : shownParts opened parts = .ok shown) : shown = visible parts := by
  fun_induction shownParts opened parts generalizing shown with
  | case1 opened =>
      cases isShown
      rfl
  | case2 opened text rest ih =>
      cases later : shownParts opened rest with
      | error error =>
          rw [later] at isShown
          contradiction
      | ok others =>
          rw [later] at isShown
          cases isShown
          rw [ih later]
          rfl
  | case3 | case4 | case7 => cases isShown
  | case5 | case6 | case8 =>
      rename_i later
      exact later isShown

/-- The parts that a tag behind backslashes is read as. -/
def tagParts (slashes : Nat) (body : List Char) (position : Nat) : List MarkupPart :=
  (if slashes < 2 then [] else [.text (List.replicate (slashes / 2) '\\')]) ++
    [if slashes % 2 = 1 then .text ('[' :: body ++ [']']) else .tag body (position + slashes)]

/-- A tag behind backslashes. -/
def tagText (slashes : Nat) (body : List Char) : List Char :=
  List.replicate slashes '\\' ++ ('[' :: body ++ [']'])

theorem eq_of_tagBody? {text body : List Char} (found : tagBody? text = some body) :
    text = body ++ ']' :: text.drop (body.length + 1) := by
  cases text with
  | nil => contradiction
  | cons c rest =>
      rw [tagBody?] at found
      split at found
      · next ends =>
          obtain rfl := Option.some.inj found
          obtain ⟨-, closed⟩ := Bool.and_eq_true_iff.1 ends
          obtain ⟨behind, same⟩ := List.head?_eq_some_iff.1 (of_decide_eq_true closed)
          have cut := takeWhile_append_drop (fun d => d ≠ ']' && d ≠ '[') rest
          have later : (c :: rest).drop ((c :: rest.takeWhile fun d => d ≠ ']' && d ≠ '[').length + 1) =
              behind := by
            rw [List.length_cons, List.drop_succ_cons, ← List.drop_drop, same, List.drop_one,
              List.tail_cons]
          rw [later, List.cons_append, ← same, cut]
      · contradiction

theorem eq_of_tagAt? {text body : List Char} {slashes : Nat}
    (found : tagAt? text = some (slashes, body)) :
    IsTag body ∧ text = tagText slashes body ++ text.drop (slashes + body.length + 2) := by
  rw [tagAt?] at found
  split at found
  · next rest same =>
      obtain ⟨inside, isInside, same'⟩ := Option.map_eq_some_iff.1 found
      cases same'
      refine ⟨isTag_of_tagBody? isInside, ?_⟩
      have slashes : text.takeWhile (· = '\\') =
          List.replicate (text.takeWhile (· = '\\')).length '\\' := by
        apply List.eq_replicate_of_mem
        intro c member
        simpa using List.mem_takeWhile_imp member
      have cut := takeWhile_append_drop (· = '\\') text
      have behind : text.drop ((text.takeWhile (· = '\\')).length + body.length + 2) =
          rest.drop (body.length + 1) := by
        rw [Nat.add_assoc, ← List.drop_drop, same]
        rfl
      rw [tagText, behind, ← slashes]
      conv => lhs; rw [← cut, same, eq_of_tagBody? isInside]
      simp
  · contradiction

theorem marks_replicate (count : Nat) :
    marks (List.replicate count '\\') = List.replicate count '\\' := by
  simp [marks, isMark]

/-- Half of the backslashes before a tag are shown. -/
theorem slashes_sublist (slashes : Nat) :
    (marks (visible (if slashes < 2 then []
      else [.text (List.replicate (slashes / 2) '\\')]))).Sublist
        (List.replicate (slashes / 2) '\\') := by
  split
  · exact List.nil_sublist _
  · have left := (text_sheds (List.replicate (slashes / 2) '\\')).left
    rw [marks_replicate] at left
    simpa [visible] using left

/-- A tag behind backslashes is shown, or is not. -/
theorem tag_sublist (slashes : Nat) (body : List Char) (position : Nat) :
    (marks (visible [if slashes % 2 = 1 then .text ('[' :: body ++ [']'])
      else .tag body (position + slashes)])).Sublist (marks ('[' :: body ++ [']'])) := by
  split
  · simpa [visible] using (text_sheds ('[' :: body ++ [']'])).left
  · exact List.nil_sublist _

/-- Less is shown of a tag than stands there: of an even number of backslashes the tag is missing, of an
odd one a backslash. -/
theorem tagParts_sheds (slashes : Nat) (body : List Char) (position : Nat) :
    Sheds true (visible (tagParts slashes body position)) (tagText slashes body) := by
  have half := slashes_sublist slashes
  have tag := tag_sublist slashes body position
  have short := half.length_le
  rw [List.length_replicate] at short
  have fewer : slashes / 2 + (marks (visible [if slashes % 2 = 1 then .text ('[' :: body ++ [']'])
      else .tag body (position + slashes)])).length <
        slashes + (marks ('[' :: body ++ [']'])).length := by
    have short' := tag.length_le
    split at short'
    · next odd =>
        rw [if_pos odd]
        omega
    · next even =>
        have none : marks (visible [.tag body (position + slashes)]) = [] := rfl
        have some : 0 < (marks ('[' :: body ++ [']'])).length := by simp [marks, isMark]
        rw [if_neg even, none, List.length_nil]
        omega
  rw [tagParts, tagText, visible_append]
  apply Sheds.of_fewer
  · rw [marks_append, marks_append, marks_replicate]
    have whole := List.replicate_sublist_replicate '\\' |>.2 (Nat.div_le_self slashes 2)
    exact (half.trans whole).append tag
  · rw [marks_append, marks_append, marks_replicate, List.length_append, List.length_append,
      List.length_replicate]
    omega

theorem count_marks (text : List Char) : (marks text).count '\\' = text.count '\\' := by
  rw [marks, List.count_filter rfl]

/-- Not all backslashes before a tag are shown. -/
theorem count_tagParts_lt {slashes : Nat} {body : List Char} (some : 0 < slashes)
    (noSlash : '\\' ∉ body) (position : Nat) :
    (visible (tagParts slashes body position)).count '\\' < slashes := by
  have half := (slashes_sublist slashes).count_le '\\'
  have tag := (tag_sublist slashes body position).count_le '\\'
  have none : ('[' :: body ++ [']']).count '\\' = 0 := by
    rw [List.count_eq_zero]
    simp [noSlash]
  rw [count_marks, List.count_replicate_self] at half
  rw [count_marks, count_marks, none] at tag
  rw [tagParts, visible_append, List.count_append]
  omega

/-- A tag is in a text wherever it stands. -/
theorem hasTag_iff {text : List Char} : hasTag text = true ↔
    ∃ front body rest, IsTag body ∧ text = front ++ '[' :: (body ++ ']' :: rest) := by
  constructor
  · intro has
    induction text with
    | nil => contradiction
    | cons c rest ih =>
        rw [hasTag, Bool.or_eq_true, Bool.and_eq_true] at has
        rcases has with ⟨opens, found⟩ | later
        · obtain rfl := of_decide_eq_true opens
          obtain ⟨body, isBody⟩ := Option.isSome_iff_exists.1 found
          refine ⟨[], body, rest.drop (body.length + 1), isTag_of_tagBody? isBody, ?_⟩
          rw [List.nil_append, ← eq_of_tagBody? isBody]
        · obtain ⟨front, body, behind, tag, rfl⟩ := ih later
          exact ⟨c :: front, body, behind, tag, rfl⟩
  · rintro ⟨front, body, rest, tag, rfl⟩
    induction front with
    | nil => simp [hasTag, tagBody?_append tag]
    | cons c front ih => simp [hasTag, ih]

theorem tagAt?_of_untagged {text : List Char} (untagged : hasTag text = false) :
    tagAt? text = none := by
  cases found : tagAt? text with
  | none => rfl
  | some tagged =>
      obtain ⟨slashes, body⟩ := tagged
      obtain ⟨tag, same⟩ := eq_of_tagAt? found
      have has : hasTag text = true := by
        refine hasTag_iff.2 ⟨List.replicate slashes '\\', body,
          text.drop (slashes + body.length + 2), tag, ?_⟩
        conv => lhs; rw [same]
        simp [tagText]
      rw [has] at untagged
      contradiction

theorem hasTag_append {front : List Char} (closed : '[' ∉ front) (rest : List Char) :
    hasTag (front ++ rest) = hasTag rest := by
  induction front with
  | nil => rfl
  | cons c front ih =>
      rw [List.mem_cons, not_or] at closed
      rw [List.cons_append, hasTag, ih closed.2, decide_eq_false (Ne.symm closed.1)]
      rfl

section

variable {fuel position : Nat} {before rest text : List Char} {c : Char}

/-- How much of a text that begins with no tag is read at once: the backslashes, or one character. -/
def skipLength (text : List Char) : Nat :=
  max 1 (text.takeWhile (· = '\\')).length

theorem skipLength_of_slash : ('\\' :: rest).take (skipLength ('\\' :: rest)) =
    ('\\' :: rest).takeWhile (· = '\\') := by
  have cut := takeWhile_append_drop (· = '\\') ('\\' :: rest)
  have longer : 1 ≤ (('\\' :: rest).takeWhile (· = '\\')).length := by simp
  rw [skipLength, Nat.max_eq_right longer]
  conv => lhs; rw [← cut]
  rw [List.take_left' (by rw [cut])]

theorem skipLength_of_ne (other : c ≠ '\\') : skipLength (c :: rest) = 1 := by
  simp [skipLength, other]

/-- What is no tag is a part of the text before the next one. -/
theorem partsFrom_of_skipped (nonempty : text ≠ []) (untagged : tagAt? text = none) :
    partsFrom (fuel + 1) position before text =
      partsFrom fuel (position + skipLength text) ((text.take (skipLength text)).reverse ++ before)
        (text.drop (skipLength text)) := by
  obtain ⟨c, rest, rfl⟩ := List.exists_cons_of_ne_nil nonempty
  by_cases slash : c = '\\'
  · subst slash
    have longer : 1 ≤ (('\\' :: rest).takeWhile (· = '\\')).length := by simp
    have mirrored : (('\\' :: rest).takeWhile (· = '\\')).reverse =
        ('\\' :: rest).takeWhile (· = '\\') := by
      have slashes : ∀ d ∈ ('\\' :: rest).takeWhile (· = '\\'), d = '\\' := by
        intro d member
        simpa using List.mem_takeWhile_imp member
      rw [List.eq_replicate_of_mem slashes, List.reverse_replicate]
    rw [skipLength_of_slash, mirrored, skipLength, Nat.max_eq_right longer]
    conv => lhs; unfold partsFrom
    simp only [untagged, ↓reduceIte]
  · rw [skipLength_of_ne slash]
    conv => lhs; unfold partsFrom
    simp only [untagged, if_neg slash]
    rfl

/-- No tag begins in what is read at once. -/
theorem hasTag_drop (untagged : tagAt? text = none) :
    hasTag (text.drop (skipLength text)) = hasTag text := by
  cases text with
  | nil => rfl
  | cons c rest =>
      by_cases slash : c = '\\'
      · subst slash
        have cut := List.take_append_drop (skipLength ('\\' :: rest)) ('\\' :: rest)
        conv => rhs; rw [← cut]
        rw [skipLength_of_slash, hasTag_append]
        intro member
        simpa using List.mem_takeWhile_imp member
      · rw [skipLength_of_ne slash, List.drop_one, List.tail_cons, hasTag]
        by_cases bracket : c = '['
        · subst bracket
          have nobody : tagBody? rest = none := by simpa [tagAt?] using untagged
          simp [nobody]
        · simp [bracket]

theorem partsFrom_of_tagAt {body : List Char} {slashes : Nat}
    (found : tagAt? text = some (slashes, body)) :
    partsFrom (fuel + 1) position before text =
      partBefore before ++ tagParts slashes body position ++
        partsFrom fuel (position + (slashes + body.length + 2)) []
          (text.drop (slashes + body.length + 2)) := by
  cases text with
  | nil => contradiction
  | cons c rest =>
      conv => lhs; unfold partsFrom
      simp only [found]
      simp [partBefore, tagParts]

theorem length_drop_lt (nonempty : text ≠ []) (enough : text.length < fuel + 1) :
    (text.drop (skipLength text)).length < fuel := by
  have skips : 1 ≤ skipLength text := Nat.le_max_left _ _
  have long := List.length_pos_iff.2 nonempty
  rw [List.length_drop]
  omega

/-- A text without tags is one part. -/
theorem partsFrom_of_untagged (untagged : hasTag text = false) (enough : text.length < fuel) :
    partsFrom fuel position before text = partBefore (text.reverse ++ before) := by
  induction fuel generalizing position before text with
  | zero => contradiction
  | succ fuel ih =>
      cases text with
      | nil => rfl
      | cons c rest =>
          have nothing := tagAt?_of_untagged untagged
          have shorter := length_drop_lt (List.cons_ne_nil c rest) enough
          rw [partsFrom_of_skipped (List.cons_ne_nil c rest) nothing,
            ih ((hasTag_drop nothing).trans untagged) shorter,
            ← List.append_assoc, ← List.reverse_append, List.take_append_drop]

theorem partBefore_sheds (before : List Char) :
    Sheds (hasEscape before.reverse || hasPicture before.reverse) (visible (partBefore before))
      before.reverse := by
  have sheds := text_sheds before.reverse
  unfold partBefore
  split
  · next empty =>
      subst empty
      exact sheds
  · simpa [visible] using sheds

/-- What is shown of the parts of a text, if they are shown. -/
theorem exists_visible_sheds (position : Nat) (before text : List Char)
    (enough : text.length < fuel) :
    ∃ cause, Sheds cause (visible (partsFrom fuel position before text)) (before.reverse ++ text) ∧
      (hasTag text = true → cause = true) := by
  induction fuel generalizing position before text with
  | zero => contradiction
  | succ fuel ih =>
      cases text with
      | nil =>
          refine ⟨hasEscape before.reverse || hasPicture before.reverse, ?_, by simp [hasTag]⟩
          rw [List.append_nil]
          exact partBefore_sheds before
      | cons c rest =>
          cases found : tagAt? (c :: rest) with
          | none =>
              have shorter := length_drop_lt (List.cons_ne_nil c rest) enough
              obtain ⟨cause, sheds, because⟩ :=
                ih (position + skipLength (c :: rest))
                  (((c :: rest).take (skipLength (c :: rest))).reverse ++ before) _ shorter
              refine ⟨cause, ?_, (hasTag_drop found) ▸ because⟩
              rw [partsFrom_of_skipped (List.cons_ne_nil c rest) found]
              rwa [List.reverse_append, List.reverse_reverse, List.append_assoc,
                List.take_append_drop] at sheds
          | some tagged =>
              obtain ⟨slashes, body⟩ := tagged
              obtain ⟨-, same⟩ := eq_of_tagAt? found
              have shorter : ((c :: rest).drop (slashes + body.length + 2)).length < fuel := by
                rw [List.length_drop]
                rw [List.length_cons] at enough ⊢
                omega
              obtain ⟨cause, sheds, -⟩ := ih (position + (slashes + body.length + 2)) [] _ shorter
              have whole := ((partBefore_sheds before).append
                (tagParts_sheds slashes body position)).append sheds
              refine ⟨true, ?_, fun _ => rfl⟩
              rw [partsFrom_of_tagAt found]
              conv => right; rw [same]
              simpa using whole

theorem untagged_of_literal (literal : isLiteral text = true) : hasTag text = false := by
  simp only [isLiteral, Bool.and_eq_true, Bool.not_eq_true'] at literal
  exact literal.1.1

/-- What a text shows, if it is shown, is less than the text unless there is nothing to be read in it. -/
theorem visible_sheds (position : Nat) (text : List Char) (enough : text.length < fuel) :
    Sheds (!isLiteral text) (visible (partsFrom fuel position [] text)) text := by
  cases tagged : hasTag text with
  | true =>
      obtain ⟨cause, sheds, because⟩ := exists_visible_sheds position [] text enough
      rw [because tagged] at sheds
      simpa [isLiteral, tagged] using sheds
  | false =>
      have sheds := partBefore_sheds text.reverse
      rw [partsFrom_of_untagged tagged enough]
      simpa [isLiteral, tagged] using sheds

/-- A text without tags is shown whatever styles are open. -/
theorem shownParts_of_untagged (opened : List String) (position : Nat)
    (untagged : hasTag text = false) (enough : text.length < fuel) :
    shownParts opened (partsFrom fuel position [] text) =
      .ok (visible (partsFrom fuel position [] text)) := by
  rw [partsFrom_of_untagged untagged enough, partBefore]
  split
  · rfl
  · simp [shownParts, visible]

/-- Marks are missing of a text in which there is something to be read. -/
theorem isLiteral_of_marks {opened : List String} {position : Nat} {shown : List Char}
    (enough : text.length < fuel)
    (isShown : shownParts opened (partsFrom fuel position [] text) = .ok shown)
    (same : marks shown = marks text) : isLiteral text = true := by
  cases read : isLiteral text with
  | true => rfl
  | false =>
      have fewer := (visible_sheds position text enough).fewer (by rw [read]; rfl)
      rw [← eq_visible isShown, same] at fewer
      exact absurd fewer (Nat.lt_irrefl _)

/-- A text is shown as it stands if and only if there is nothing to be read in it. -/
theorem shownParts_eq_ok_iff (opened : List String) (position : Nat) (enough : text.length < fuel) :
    shownParts opened (partsFrom fuel position [] text) = .ok text ↔ isLiteral text = true := by
  constructor
  · exact fun isShown => isLiteral_of_marks enough isShown rfl
  · intro literal
    rw [shownParts_of_untagged opened position (untagged_of_literal literal) enough,
      (visible_sheds position text enough).kept (by rw [literal]; rfl)]

end

/-! ## Words before a text -/

theorem hasEscape_append {front : List Char} (closed : '\\' ∉ front) (rest : List Char) :
    hasEscape (front ++ rest) = hasEscape rest := by
  induction front with
  | nil => rfl
  | cons c front ih =>
      rw [List.mem_cons, not_or] at closed
      rw [List.cons_append, hasEscape, ih closed.2]
      rintro rest rfl
      exact absurd rfl closed.1

/-- Words without brackets, before a text, in which no name begins that goes on in it. -/
theorem isLiteral_append {front text : List Char} (plain : front.all isPlain = true)
    (apart : namesFrom none (front ++ text) = namesFrom none text) :
    isLiteral (front ++ text) = isLiteral text := by
  have closed : '[' ∉ front := by
    intro member
    exact absurd (List.all_eq_true.1 plain _ member) (by decide)
  have closed' : '\\' ∉ front := by
    intro member
    exact absurd (List.all_eq_true.1 plain _ member) (by decide)
  rw [isLiteral, isLiteral, hasTag_append closed, hasEscape_append closed', hasPicture, apart]
  rfl

end Enhance.Console.Markup
