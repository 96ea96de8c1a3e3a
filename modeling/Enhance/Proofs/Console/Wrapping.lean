import Enhance.Console.Wrap
import Enhance.Text.Pieces
import Mathlib.Data.List.DropRight
import Mathlib.Data.List.Forall2

/-!
# Lines that show a text

A text that is too long for a line is cut into pieces, and each piece is shown on a line of its own,
where blanks at its end may be missing and others may stand behind it.  On a console on which every
character of the text has room, nothing else happens to it (`wrapped_shows`), so that the lines hold
exactly the characters of the text that are no white space (`Shows.visible`).
-/

namespace Enhance.Console

open Text

/-- Two lines are the same but for blanks at their ends. -/
def SameLine (piece line : List Char) : Prop :=
  trimmedEnd line = trimmedEnd piece

/-- Lines that show a text: each line of the text, with blanks in place of its tabs, is cut into pieces,
and each piece has a line of its own on which it has room. -/
def Shows (width : Nat) (text : List Char) (lines : List (List Char)) : Prop :=
  ∃ pieces : List (List (List Char)),
    pieces.map List.flatten = (text.splitOn '\n').map (tabsExpanded 0) ∧ [] ∉ pieces ∧
      List.Forall₂ SameLine pieces.flatten lines ∧ ∀ line ∈ lines, cells line ≤ width

/-! ## Blanks at the end of a line -/

theorem trimmedEnd_eq (text : List Char) : trimmedEnd text = text.rdropWhile isBlank := rfl

theorem trimmedEnd_isFront (text : List Char) : trimmedEnd text <+: text :=
  List.rdropWhile_prefix isBlank text

theorem exists_blanks (text : List Char) :
    ∃ behind, text = trimmedEnd text ++ behind ∧ ∀ c ∈ behind, isBlank c = true :=
  ⟨text.rtakeWhile isBlank, List.rdropWhile_append_rtakeWhile.symm,
    fun _ member => List.mem_rtakeWhile_imp member⟩

theorem trimmedEnd_append_of_blank {behind : List Char} (blank : ∀ c ∈ behind, isBlank c = true)
    (text : List Char) : trimmedEnd (text ++ behind) = trimmedEnd text := by
  induction behind using List.reverseRecOn with
  | nil => rw [List.append_nil]
  | append_singleton behind c ih =>
      have last := blank c (List.mem_append_right behind List.mem_cons_self)
      rw [← List.append_assoc, trimmedEnd_eq, List.rdropWhile_concat_pos _ _ _ last, ← trimmedEnd_eq]
      exact ih fun d member => blank d (List.mem_append_left _ member)

theorem trimmedEnd_append (front text : List Char) :
    trimmedEnd (front ++ text) = trimmedEnd (front ++ trimmedEnd text) := by
  obtain ⟨behind, same, blank⟩ := exists_blanks text
  conv => lhs; rw [same, ← List.append_assoc]
  exact trimmedEnd_append_of_blank blank _

/-- A line of which only blanks at its end are missing. -/
theorem sameLine_of_front {piece line : List Char} (long : trimmedEnd piece <+: line)
    (short : line <+: piece) : SameLine piece line := by
  obtain ⟨behind, same, blank⟩ := exists_blanks piece
  obtain ⟨kept, rfl⟩ := long
  have blank' : ∀ c ∈ kept, isBlank c = true := by
    have whole : piece <+: trimmedEnd piece ++ behind := ⟨[], by rw [List.append_nil]; exact same⟩
    have rest := (List.prefix_append_right_inj _).1 (short.trans whole)
    exact fun c member => blank c (rest.subset member)
  rw [SameLine, trimmedEnd_append_of_blank blank', trimmedEnd_eq, trimmedEnd_eq,
    List.rdropWhile_idempotent]

theorem cells_le_of_front {front text : List Char} (short : front <+: text) :
    cells front ≤ cells text := by
  obtain ⟨rest, rfl⟩ := short
  rw [cells_append]
  exact Nat.le_add_right _ _

theorem cells_trimmedEnd_append_le (front text : List Char) :
    cells (trimmedEnd (front ++ text)) ≤ cells front + cells (trimmedEnd text) := by
  rw [trimmedEnd_append, ← cells_append]
  exact cells_le_of_front (trimmedEnd_isFront _)

theorem cells_trimmedEnd_le (text : List Char) : cells (trimmedEnd text) ≤ cells text :=
  cells_le_of_front (trimmedEnd_isFront _)

/-! ## A line on the console -/

theorem fitting_isFront (free : Nat) (text : List Char) : (fitting free text).1 <+: text := by
  induction text generalizing free with
  | nil => exact List.prefix_rfl
  | cons c rest ih =>
      rw [fitting]
      split
      · exact List.cons_prefix_cons.2 ⟨rfl, ih _⟩
      · exact List.nil_prefix

/-- What has room is among what fits. -/
theorem front_of_fitting {free : Nat} {front text : List Char} (short : front <+: text)
    (room : cells front ≤ free) : front <+: (fitting free text).1 := by
  induction text generalizing free front with
  | nil => exact short
  | cons c rest ih =>
      cases front with
      | nil => exact List.nil_prefix
      | cons d front =>
          obtain ⟨rfl, short'⟩ := List.cons_prefix_cons.1 short
          rw [cells_cons] at room
          rw [fitting, if_pos (Nat.le_trans (Nat.le_add_right _ _) room)]
          apply List.cons_prefix_cons.2 ⟨rfl, ih short' _⟩
          omega

theorem withoutExcess_sameLine (width : Nat) (line : List Char) :
    SameLine line (withoutExcess width line) := by
  apply sameLine_of_front
  · rw [withoutExcess, List.prefix_take_iff]
    have short : (trimmedEnd line).length ≤ line.length :=
      (trimmedEnd_isFront line).length_le
    exact ⟨trimmedEnd_isFront line, by omega⟩
  · exact List.take_prefix _ _

theorem blank_of_mem_blanks {count : Nat} : ∀ c ∈ blanks count, isBlank c = true := by
  intro c member
  rw [List.eq_of_mem_replicate member]
  rfl

theorem truncated_sameLine {width : Nat} {line : List Char}
    (room : cells (trimmedEnd line) ≤ width) :
    SameLine line (truncated .fold width line) ∧ cells (truncated .fold width line) ≤ width := by
  rw [truncated]
  split
  · next fits => exact ⟨rfl, fits⟩
  · constructor
    · rw [resized, SameLine, trimmedEnd_append_of_blank blank_of_mem_blanks]
      exact sameLine_of_front (front_of_fitting (trimmedEnd_isFront _) room)
        (fitting_isFront width line)
    · rw [cells_resized]

/-- A line on which all but the blanks at its end have room is shown whole. -/
theorem aligned_sameLine {width : Nat} {line : List Char}
    (room : cells (trimmedEnd line) ≤ width) :
    SameLine line (aligned .start .fold width (withoutExcess width line)) ∧
      cells (aligned .start .fold width (withoutExcess width line)) ≤ width := by
  have same := withoutExcess_sameLine width line
  have room' : cells (trimmedEnd (withoutExcess width line)) ≤ width := by rwa [same]
  obtain ⟨same', fits⟩ := truncated_sameLine room'
  exact ⟨same'.trans same, fits⟩

/-! ## Words -/

/-- What stands behind the blanks that a text begins with begins with none. -/
theorem visible_behind_blanks (text : List Char) :
    ∀ c ∈ (text.drop (text.takeWhile isBlank).length).head?, isBlank c = false := by
  induction text with
  | nil => simp
  | cons d text ih =>
      cases blank : isBlank d with
      | true => simpa [blank] using ih
      | false => simp [blank]

/-- A line is blank, or it is a first word with the blanks around it and what goes on behind them. -/
theorem spacedWords_cases (fuel : Nat) (text : List Char) :
    (spacedWords (fuel + 1) text = [] ∧ ∀ c ∈ text, isBlank c = true) ∨
      ∃ word rest, spacedWords (fuel + 1) text = word :: spacedWords fuel rest ∧
        text = word ++ rest ∧ word ≠ [] ∧ ∀ c ∈ rest.head?, isBlank c = false := by
  have cut := takeWhile_append_drop isBlank text
  have starts := visible_behind_blanks text
  have before {c : Char} : c ∈ text.takeWhile isBlank → isBlank c = true := List.mem_takeWhile_imp
  rw [spacedWords]
  generalize text.takeWhile isBlank = blanks at cut starts before ⊢
  generalize text.drop blanks.length = rest at cut starts ⊢
  split
  · next wordless =>
      left
      cases rest with
      | nil =>
          rw [List.append_nil] at cut
          exact ⟨rfl, fun c member => before (cut ▸ member)⟩
      | cons c rest => simp [starts c rfl] at wordless
  · next worded =>
      right
      have cut' := takeWhile_append_drop (!isBlank ·) rest
      have cut'' := takeWhile_append_drop isBlank
        (rest.drop (rest.takeWhile (!isBlank ·)).length)
      refine ⟨_, _, rfl, ?_, ?_, ?_⟩
      · rw [← List.drop_drop, List.append_assoc, List.append_assoc, cut'', cut', cut]
      · simp [worded]
      · rw [← List.drop_drop]
        exact visible_behind_blanks _

/-- The words of a line make it up, unless it has none. -/
theorem spacedWords_flatten {fuel : Nat} {text : List Char} (enough : text.length < fuel) :
    (spacedWords fuel text).flatten = text ∨
      spacedWords fuel text = [] ∧ ∀ c ∈ text, isBlank c = true := by
  induction fuel generalizing text with
  | zero => contradiction
  | succ fuel ih =>
      rcases spacedWords_cases fuel text with blank | ⟨word, rest, words, rfl, some, visible⟩
      · exact .inr blank
      · have longer := List.length_pos_iff.2 some
        rw [List.length_append] at enough
        have shorter : rest.length < fuel := by omega
        rw [words, List.flatten_cons]
        left
        rcases ih shorter with flat | ⟨none, blank⟩
        · rw [flat]
        · cases rest with
          | nil => rw [none, List.flatten_nil]
          | cons c rest =>
              have clash := visible c rfl
              rw [blank c List.mem_cons_self] at clash
              contradiction

theorem folded_flatten (width used : Nat) (piece word : List Char) :
    (folded width used piece word).flatten = piece.reverse ++ word := by
  induction word generalizing used piece with
  | nil => simp [folded]
  | cons c word ih =>
      rw [folded]
      split
      · rw [ih]
        simp
      · rw [List.flatten_cons, ih]
        simp

theorem cells_reverse (text : List Char) : cells text.reverse = cells text := by
  induction text with
  | nil => rfl
  | cons c text ih =>
      rw [List.reverse_cons, cells_append, ih, cells_cons, cells_cons, cells_nil]
      omega

/-- The pieces of a word fit if its characters do. -/
theorem folded_fits {width used : Nat} {piece word : List Char}
    (narrow : ∀ c ∈ word, cellWidth c ≤ width) (counted : used = cells piece)
    (fits : cells piece ≤ width) : ∀ part ∈ folded width used piece word, cells part ≤ width := by
  induction word generalizing used piece with
  | nil => simpa [folded, cells_reverse] using fits
  | cons c word ih =>
      have narrow' : ∀ d ∈ word, cellWidth d ≤ width :=
        fun d member => narrow d (List.mem_cons_of_mem c member)
      rw [folded]
      split
      · next room =>
          apply ih narrow'
          · rw [cells_cons, counted, Nat.add_comm]
          · rw [cells_cons]
            omega
      · intro part member
        rcases List.mem_cons.1 member with rfl | member
        · rwa [cells_reverse]
        · have single : cellWidth c = cells [c] := by simp
          have room : cells [c] ≤ width := single ▸ narrow c List.mem_cons_self
          exact ih narrow' single room part member

/-! ## Lines that are filled -/

namespace Filling

variable {filling : Filling} {width : Nat}

theorem lines_flatten (filling : Filling) :
    filling.lines.flatten = filling.full.reverse.flatten ++ filling.line := by
  simp [lines]

theorem begin_flatten (filling : Filling) (text : List Char) :
    (filling.begin text).lines.flatten = filling.lines.flatten ++ text := by
  unfold begin
  split
  · next empty =>
      simp only [Bool.and_eq_true, decide_eq_true_eq] at empty
      simp [lines, empty]
  · simp [lines]

theorem foldl_begin_flatten (filling : Filling) (texts : List (List Char)) :
    (texts.foldl begin filling).lines.flatten = filling.lines.flatten ++ texts.flatten := by
  induction texts generalizing filling with
  | nil => simp
  | cons text texts ih => rw [List.foldl_cons, ih, begin_flatten, List.flatten_cons, List.append_assoc]

/-- A word is put behind what has been read. -/
theorem add_flatten (width : Nat) (filling : Filling) (word : List Char) :
    (filling.add .fold width word).lines.flatten = filling.lines.flatten ++ word := by
  unfold add
  dsimp only
  split
  · simp [lines_flatten]
  split
  · rw [foldl_begin_flatten, folded_flatten, List.reverse_nil, List.nil_append]
  split
  · simp [lines_flatten]
  · exact begin_flatten filling word

/-- Lines on which all but the blanks at the ends have room. -/
structure Fits (width : Nat) (filling : Filling) : Prop where
  room : ∀ line ∈ filling.lines, cells (trimmedEnd line) ≤ width
  counted : filling.used = cells filling.line

theorem begin_fits (fits : filling.Fits width) {text : List Char}
    (room : cells (trimmedEnd text) ≤ width) : (filling.begin text).Fits width := by
  unfold begin
  split
  · next empty =>
      simp only [Bool.and_eq_true, decide_eq_true_eq] at empty
      refine ⟨?_, rfl⟩
      simpa [lines, empty] using room
  · refine ⟨?_, rfl⟩
    intro line member
    have either : line ∈ filling.lines ∨ line = text := by
      simpa [lines, or_comm, or_assoc] using member
    rcases either with old | rfl
    · exact fits.room line old
    · exact room

theorem foldl_begin_fits (fits : filling.Fits width) {texts : List (List Char)}
    (room : ∀ text ∈ texts, cells text ≤ width) : (texts.foldl begin filling).Fits width := by
  induction texts generalizing filling with
  | nil => exact fits
  | cons text texts ih =>
      have first := Nat.le_trans (cells_trimmedEnd_le text) (room text List.mem_cons_self)
      exact ih (begin_fits fits first) fun other member => room other (List.mem_cons_of_mem text member)

/-- Lines that have room are still there when a word is added whose characters have room. -/
theorem add_fits (fits : filling.Fits width) {word : List Char}
    (narrow : ∀ c ∈ word, cellWidth c ≤ width) : (filling.add .fold width word).Fits width := by
  unfold add
  dsimp only
  split
  · next room =>
      simp only [Bool.and_eq_true, decide_eq_true_eq] at room
      have joined := cells_trimmedEnd_append_le filling.line word
      constructor
      · intro line member
        have either : line ∈ filling.full ∨ line = filling.line ++ word := by
          simpa [lines] using member
        rcases either with old | rfl
        · exact fits.room line (by simp [lines, old])
        · have counted := fits.counted
          omega
      · rw [cells_append, fits.counted]
  next full =>
  split
  · exact foldl_begin_fits fits (folded_fits narrow rfl (Nat.zero_le _))
  next room =>
  split
  · next unused => exact absurd full (by simp [unused, Nat.le_of_not_lt room])
  · exact begin_fits fits (Nat.le_of_not_lt room)

theorem foldl_add {words : List (List Char)} (fits : filling.Fits width)
    (narrow : ∀ word ∈ words, ∀ c ∈ word, cellWidth c ≤ width) :
    (words.foldl (add .fold width) filling).Fits width ∧
      (words.foldl (add .fold width) filling).lines.flatten =
        filling.lines.flatten ++ words.flatten := by
  induction words generalizing filling with
  | nil => exact ⟨fits, by simp⟩
  | cons word words ih =>
      have fits' := add_fits fits (narrow word List.mem_cons_self)
      obtain ⟨room, flat⟩ := ih fits' fun other member => narrow other (List.mem_cons_of_mem word member)
      refine ⟨room, ?_⟩
      rw [List.foldl_cons, flat, add_flatten, List.flatten_cons, List.append_assoc]

end Filling

/-! ## Texts -/

/-- A line is cut into pieces that have room but for blanks at their ends. -/
theorem broken_flatten {width : Nat} {line : List Char} (narrow : ∀ c ∈ line, cellWidth c ≤ width) :
    (broken .fold width line).flatten = line ∧ broken .fold width line ≠ [] ∧
      ∀ piece ∈ broken .fold width line, cells (trimmedEnd piece) ≤ width := by
  have words := spacedWords_flatten (Nat.lt_succ_self line.length)
  unfold broken
  split
  · next none =>
      refine ⟨List.flatten_singleton, List.cons_ne_nil _ _, ?_⟩
      have blank : ∀ c ∈ line, isBlank c = true := by
        rcases words with flat | ⟨-, blank⟩
        · rw [none, List.flatten_nil] at flat
          simp [← flat]
        · exact blank
      have empty : trimmedEnd line = [] := by rwa [trimmedEnd_eq, List.rdropWhile_eq_nil_iff]
      simp [empty]
  · next some =>
      have flat := words.resolve_right fun none => some none.1
      have narrow' : ∀ word ∈ spacedWords (line.length + 1) line, ∀ c ∈ word, cellWidth c ≤ width := by
        intro word member c inside
        apply narrow
        rw [← flat]
        exact List.mem_flatten_of_mem member inside
      have start : Filling.Fits width {} := ⟨by simp [Filling.lines, trimmedEnd], rfl⟩
      obtain ⟨fits, flat'⟩ := Filling.foldl_add start narrow'
      refine ⟨?_, by simp [Filling.lines], fits.room⟩
      rw [flat', flat]
      rfl

theorem narrow_tabsExpanded {width : Nat} {line : List Char} (wide : 0 < width)
    (narrow : ∀ c ∈ line, cellWidth c ≤ width) (column : Nat) :
    ∀ c ∈ tabsExpanded column line, cellWidth c ≤ width := by
  fun_induction tabsExpanded column line with
  | case1 => simp
  | case2 column rest count ih =>
      intro c member
      rcases List.mem_append.1 member with blank | member
      · rw [List.eq_of_mem_replicate blank]
        exact Nat.le_trans (by decide +kernel) wide
      · exact ih (fun d inside => narrow d (List.mem_cons_of_mem _ inside)) c member
  | case3 column c rest noTab ih =>
      intro d member
      rcases List.mem_cons.1 member with rfl | member
      · exact narrow d List.mem_cons_self
      · exact ih (fun e inside => narrow e (List.mem_cons_of_mem _ inside)) d member

/-- The lines of a text are the text without its line feeds. -/
theorem flatten_splitOn (text : List Char) :
    (text.splitOn '\n').flatten = text.filter (· ≠ '\n') := by
  rw [List.splitOn_eq_splitOnP]
  induction text with
  | nil => rfl
  | cons c text ih =>
      rw [List.splitOnP_cons_eq_if_modifyHead]
      split
      · next feed =>
          rw [List.flatten_cons, List.nil_append, ih, List.filter_cons_of_neg (by simpa using feed)]
      · next other =>
          obtain ⟨line, lines, same⟩ :=
            List.exists_cons_of_ne_nil (List.splitOnP_ne_nil (fun d => d == '\n') text)
          rw [same, List.flatten_cons] at ih
          rw [same, List.modifyHead_cons, List.flatten_cons, List.cons_append, ih,
            List.filter_cons_of_pos (by simpa using other)]

/-- A text is shown on the lines into which it is wrapped. -/
theorem wrapped_shows {width : Nat} {text : List Char} (wide : 0 < width)
    (narrow : ∀ c ∈ text, cellWidth c ≤ width) :
    Shows width (sanitized text) (wrapped .start .fold width text) := by
  have narrow' : ∀ line ∈ (sanitized text).splitOn '\n', ∀ c ∈ tabsExpanded 0 line,
      cellWidth c ≤ width := by
    intro line member
    apply narrow_tabsExpanded wide
    intro c inside
    have among := List.mem_flatten_of_mem member inside
    rw [flatten_splitOn] at among
    exact narrow c (List.mem_of_mem_filter (List.mem_of_mem_filter among))
  have lines : wrapped .start .fold width text =
      (((sanitized text).splitOn '\n').flatMap fun line =>
        broken .fold width (tabsExpanded 0 line)).map fun line =>
          aligned .start .fold width (withoutExcess width line) := by
    rw [wrapped, if_neg (Nat.ne_of_gt wide), List.map_flatMap]
  have room : ∀ piece ∈ ((sanitized text).splitOn '\n').flatMap fun line =>
      broken .fold width (tabsExpanded 0 line), cells (trimmedEnd piece) ≤ width := by
    intro piece member
    obtain ⟨line, inside, isPiece⟩ := List.mem_flatMap.1 member
    exact (broken_flatten (narrow' line inside)).2.2 piece isPiece
  refine ⟨((sanitized text).splitOn '\n').map fun line => broken .fold width (tabsExpanded 0 line),
    ?_, ?_, ?_, ?_⟩
  · rw [List.map_map]
    apply List.map_congr_left
    intro line member
    exact (broken_flatten (narrow' line member)).1
  · intro member
    obtain ⟨line, inside, empty⟩ := List.mem_map.1 member
    exact (broken_flatten (narrow' line inside)).2.1 empty
  · rw [lines, ← List.flatMap_def, List.forall₂_map_right_iff, List.forall₂_same]
    exact fun piece member => (aligned_sameLine (room piece member)).1
  · rw [lines]
    intro line member
    obtain ⟨piece, inside, rfl⟩ := List.mem_map.1 member
    exact (aligned_sameLine (room piece inside)).2

/-! ## Visible characters -/

/-- The characters of a text that are no white space. -/
def visibleChars (text : List Char) : List Char :=
  text.filter (!isBlank ·)

theorem visibleChars_append (front rest : List Char) :
    visibleChars (front ++ rest) = visibleChars front ++ visibleChars rest :=
  List.filter_append front rest

theorem visibleChars_of_blank {text : List Char} (blank : ∀ c ∈ text, isBlank c = true) :
    visibleChars text = [] := by
  rw [visibleChars, List.filter_eq_nil_iff]
  simpa using blank

theorem visibleChars_trimmedEnd (text : List Char) :
    visibleChars (trimmedEnd text) = visibleChars text := by
  obtain ⟨behind, same, blank⟩ := exists_blanks text
  conv => rhs; rw [same, visibleChars_append, visibleChars_of_blank blank, List.append_nil]

theorem visibleChars_tabsExpanded (column : Nat) (line : List Char) :
    visibleChars (tabsExpanded column line) = visibleChars line := by
  fun_induction tabsExpanded column line with
  | case1 => rfl
  | case2 column rest count ih =>
      rw [visibleChars_append, visibleChars_of_blank blank_of_mem_blanks, ih]
      rfl
  | case3 column c rest noTab ih =>
      simp only [visibleChars] at ih ⊢
      rw [List.filter_cons, List.filter_cons, ih]

theorem visibleChars_flatten (texts : List (List Char)) :
    visibleChars texts.flatten = (texts.map visibleChars).flatten :=
  List.filter_flatten

/-- The lines that show a text hold exactly its characters that are no white space. -/
theorem Shows.visible {width : Nat} {text : List Char} {lines : List (List Char)}
    (shows : Shows width text lines) : visibleChars lines.flatten = visibleChars text := by
  obtain ⟨pieces, cut, -, same, -⟩ := shows
  have chars : pieces.flatten.map visibleChars = lines.map visibleChars := by
    clear cut
    generalize pieces.flatten = cuts at same
    induction same with
    | nil => rfl
    | cons same _ ih =>
        rw [List.map_cons, List.map_cons, ih, ← visibleChars_trimmedEnd, ← same, visibleChars_trimmedEnd]
  have whole : visibleChars pieces.flatten.flatten =
      visibleChars ((text.splitOn '\n').map (tabsExpanded 0)).flatten := by
    rw [← cut, List.flatten_flatten]
  have noFeed : visibleChars (text.filter (· ≠ '\n')) = visibleChars text := by
    rw [visibleChars, visibleChars, List.filter_filter]
    apply List.filter_congr
    intro c _
    by_cases feed : c = '\n'
    · subst feed
      rfl
    · simp [feed]
  calc visibleChars lines.flatten
      = visibleChars pieces.flatten.flatten := by
        rw [visibleChars_flatten, visibleChars_flatten, chars]
    _ = visibleChars (text.splitOn '\n').flatten := by
        rw [whole, visibleChars_flatten, visibleChars_flatten, List.map_map]
        congr 1
        exact List.map_congr_left fun line _ => visibleChars_tabsExpanded 0 line
    _ = visibleChars text := by rw [flatten_splitOn, noFeed]

end Enhance.Console
