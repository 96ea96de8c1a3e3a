import Enhance.CommandLine.Stop
import Enhance.Proofs.Console.Spliced
import Enhance.Proofs.Console.Wrapping

/-!
# Messages that are printed as they are given

A message is a text behind a sign, and so is what the caller is shown of a refusal.  The lines that are
printed show exactly the sign and the text if and only if there is nothing to be read in the text
(`message_prints_iff`).  Texts come from outside, so that this is not always so: a name that reads like
the end of a style keeps the message from being printed at all (`message_prints_bracketed`).
-/

namespace Enhance.Console

open Text

namespace Markup

/-! ## Styles -/

/-- A style that a tag begins and another one ends. -/
structure IsStyle (body : List Char) (name : String) : Prop where
  tag : IsTag body
  read : isUnread body = false
  begins : body.head? ≠ some '/'
  ending : IsTag ('/' :: body)
  endingRead : isUnread ('/' :: body) = false
  opens : StyleName.usual (nameOf body) = name
  closes : StyleName.usual (closedName body) = name
  named : closedName body ≠ ""

namespace IsStyle

variable {body rest : List Char} {name : String} {c : Char}

theorem shownParts_opening (style : IsStyle body name) (opened : List String) (place : Nat)
    (parts : List MarkupPart) :
    shownParts opened (.tag body place :: parts) = shownParts (name :: opened) parts := by
  rw [shownParts, if_neg (by rw [style.read]; decide), style.opens]
  rintro closing rfl
  exact style.begins rfl

theorem shownParts_ending (style : IsStyle body name) (opened : List String) (place : Nat)
    (parts : List MarkupPart) :
    shownParts (name :: opened) (.tag ('/' :: body) place :: parts) = shownParts opened parts := by
  have named := style.named
  have closes := style.closes
  rw [closedName] at named closes
  simp [shownParts, style.endingRead, named, closes]

/-- A character in a style of its own is shown before the text behind it. -/
theorem exists_shown (style : IsStyle body name) (plain : isPlain c = true)
    (steady : visible (partBefore [c]) = [c]) (rest : List Char) :
    ∃ fuel position, rest.length < fuel ∧
      shownParts [] (parts ('[' :: (body ++ ']' :: c :: '[' :: ('/' :: body ++ ']' :: rest)))) =
        (shownParts [] (partsFrom fuel position [] rest)).map (c :: ·) := by
  have long : rest.length + 3 ≤
      ('[' :: (body ++ ']' :: c :: '[' :: ('/' :: body ++ ']' :: rest))).length := by
    simp
    omega
  obtain ⟨more, counted⟩ := Nat.exists_eq_add_of_le' (Nat.le_trans (Nat.le_add_left 3 _) long)
  refine ⟨more + 1, 0 + body.length + 2 + 1 + ('/' :: body).length + 2, by omega, ?_⟩
  rw [parts, counted, partsFrom_of_tag style.tag, partsFrom_of_plain plain,
    partsFrom_of_tag style.ending, partBefore, if_pos rfl, List.nil_append,
    style.shownParts_opening, shownParts_partBefore, style.shownParts_ending, steady]
  rfl

end IsStyle

theorem isStyle_of_mem : ∀ word ∈ ["green", "red", "yellow"], IsStyle word.toList word := by
  have style (word : String) (tag : IsTag word.toList) (read : isUnread word.toList = false)
      (begins : word.toList.head? ≠ some '/') (endingRead : isUnread ('/' :: word.toList) = false)
      (opens : StyleName.usual (nameOf word.toList) = word)
      (closes : StyleName.usual (closedName word.toList) = word)
      (named : closedName word.toList ≠ "") : IsStyle word.toList word :=
    ⟨tag, read, begins, ⟨rfl, by simpa using tag.plain⟩, endingRead, opens, closes, named⟩
  simp only [List.forall_mem_cons, List.not_mem_nil, false_implies, implies_true, and_true]
  refine ⟨style "green" ⟨?_, by simp⟩ ?_ ?_ ?_ ?_ ?_ ?_, style "red" ⟨?_, by simp⟩ ?_ ?_ ?_ ?_ ?_ ?_,
    style "yellow" ⟨?_, by simp⟩ ?_ ?_ ?_ ?_ ?_ ?_⟩
  all_goals decide +kernel

end Markup

/-! ## Messages -/

/-- The sign before a message. -/
def MessageKind.sign : MessageKind → List Char
  | .success => ['✓', ' ']
  | .error => ['✗', ' ']
  | .warning => ['⚠', ' ']
  | .info => []

namespace Markup

section

variable (kind : MessageKind) (text : String)

/-- A kind of messages whose sign has a colour. -/
structure IsColoured (kind : MessageKind) (word : String) (c : Char) : Prop where
  known : word ∈ ["green", "red", "yellow"]
  plain : isPlain c = true
  steady : visible (partBefore [c]) = [c]
  unmarked : isMark c = false
  sign : kind.sign = [c, ' ']
  mark : kind.mark.toList =
    '[' :: (word.toList ++ ']' :: c :: '[' :: ('/' :: word.toList ++ [']', ' ']))

theorem exists_coloured : kind = .info ∨ ∃ word c, IsColoured kind word c := by
  cases kind with
  | success =>
      exact .inr ⟨"green", '✓', by decide, by decide, by decide +kernel, by decide, rfl, by decide +kernel⟩
  | error =>
      exact .inr ⟨"red", '✗', by decide, by decide, by decide +kernel, by decide, rfl, by decide +kernel⟩
  | warning =>
      exact .inr ⟨"yellow", '⚠', by decide, by decide, by decide +kernel, by decide, rfl, by decide +kernel⟩
  | info => exact .inl rfl

/-- What a message shows: a sign, and a text that is read as if it stood alone. -/
theorem exists_shown_mark : ∃ lead blank fuel position, kind.sign = lead ++ blank ∧
    marks lead = [] ∧ isLiteral (blank ++ text.toList) = isLiteral text.toList ∧
      (blank ++ text.toList).length < fuel ∧ shown (kind.mark ++ text) =
        (shownParts [] (partsFrom fuel position [] (blank ++ text.toList))).map (lead ++ ·) := by
  rcases exists_coloured kind with rfl | ⟨word, c, coloured⟩
  · refine ⟨[], [], text.toList.length + 1, 0, rfl, rfl, rfl, Nat.lt_succ_self _, ?_⟩
    have unmarked : MessageKind.info.mark ++ text = text := String.empty_append
    rw [unmarked, shown, parts, List.nil_append]
    cases shownParts [] (partsFrom (text.toList.length + 1) 0 [] text.toList) <;> rfl
  · obtain ⟨fuel, position, enough, shows⟩ := (isStyle_of_mem word coloured.known).exists_shown
      coloured.plain coloured.steady ([' '] ++ text.toList)
    refine ⟨[c], [' '], fuel, position, coloured.sign, by simp [marks, coloured.unmarked],
      isLiteral_append (by decide) rfl, enough, ?_⟩
    rw [shown, String.toList_append, coloured.mark]
    simpa using shows

end

end Markup

/-! ## What is printed -/

namespace Markup

/-- A filter that lets all marks pass does not change those of a text. -/
theorem marks_filter {keeps : Char → Bool} (kept : [':', '[', '\\'].all keeps = true)
    (text : List Char) : marks (text.filter keeps) = marks text := by
  rw [marks, marks, List.filter_filter]
  apply List.filter_congr
  intro c _
  cases mark : isMark c with
  | false => rfl
  | true =>
      have isOne : c ∈ [':', '[', '\\'] := by simpa [isMark, or_assoc] using mark
      rw [List.all_eq_true.1 kept c isOne]
      rfl

/-- Marks are visible. -/
theorem marks_visibleChars (text : List Char) : marks (visibleChars text) = marks text :=
  marks_filter rfl text

/-- The characters that would move the cursor are no marks. -/
theorem marks_sanitized (text : List Char) : marks (sanitized text) = marks text :=
  marks_filter rfl text

end Markup

theorem cellWidth_le_two (c : Char) : cellWidth c ≤ 2 := by
  unfold cellWidth
  repeat' split
  all_goals omega

/-- The printed lines of a block show exactly a text, but for the characters that would move the
cursor. -/
def Block.Prints (width : Nat) (block : Block) (text : List Char) : Prop :=
  ∃ lines, block.lines width = .ok lines ∧ Shows width (sanitized text) lines

/-- On a console on which every character has room, every text is shown on the lines into which it is
wrapped. -/
theorem wrapped_shows_of_wide {width : Nat} (wide : 2 ≤ width) (text : List Char) :
    Shows width (sanitized text) (wrapped .start .fold width text) :=
  wrapped_shows (Nat.lt_of_lt_of_le Nat.two_pos wide) fun c _ =>
    Nat.le_trans (cellWidth_le_two c) wide

/-- Lines show the marks of the text that is wrapped into them. -/
theorem Shows.marks {width : Nat} {text other : List Char} (wide : 2 ≤ width)
    (shows : Shows width (sanitized text) (wrapped .start .fold width other)) :
    Markup.marks text = Markup.marks other := by
  have shows' := wrapped_shows_of_wide wide other
  have same := congrArg Markup.marks (shows.visible.symm.trans shows'.visible)
  rwa [Markup.marks_visibleChars, Markup.marks_visibleChars, Markup.marks_sanitized,
    Markup.marks_sanitized] at same

/-- A message is printed as its sign and its text if and only if there is nothing to be read in the
text, and so is a refusal.  Texts are texts of characters: a half of one cannot be printed at all. -/
theorem message_prints_iff {width : Nat} (wide : 2 ≤ width) (text : String) :
    (∀ kind, (message kind text).Prints width (kind.sign ++ text.toList) ↔
      Markup.isLiteral text.toList = true) ∧
    ∀ code, (CommandLine.Refusal.notice ⟨text, code⟩).Prints width
      (MessageKind.error.sign ++ text.toList) ↔ Markup.isLiteral text.toList = true := by
  have prints (kind : MessageKind) : (message kind text).Prints width (kind.sign ++ text.toList) ↔
      Markup.isLiteral text.toList = true := by
    obtain ⟨lead, blank, fuel, position, sign, unmarked, literal, enough, shows⟩ :=
      Markup.exists_shown_mark kind text
    constructor
    · rintro ⟨lines, printed, isShown⟩
      rw [message, Block.lines, shows] at printed
      cases read : Markup.shownParts [] (Markup.partsFrom fuel position [] (blank ++ text.toList)) with
      | error error =>
          rw [read] at printed
          contradiction
      | ok shown =>
          rw [read] at printed
          cases printed
          have same : Markup.marks (blank ++ text.toList) = Markup.marks shown := by
            simpa [sign, unmarked] using isShown.marks wide
          rw [← literal]
          exact Markup.isLiteral_of_marks enough read same.symm
    · intro isLiteral
      have shown := (Markup.shownParts_eq_ok_iff [] position enough).2 (literal.trans isLiteral)
      refine ⟨wrapped .start .fold width (kind.sign ++ text.toList), ?_, ?_⟩
      · rw [message, Block.lines, shows, shown, sign, List.append_assoc]
        rfl
      · exact wrapped_shows_of_wide wide _
  exact ⟨prints, fun code => prints .error⟩

theorem message_prints_indexed : 2 ≤ 80 ∧
    (message .success "Enhanced a[0]: 3 classes").Prints 80
      (MessageKind.success.sign ++ "Enhanced a[0]: 3 classes".toList) := by
  have wide : 2 ≤ 80 := by decide
  have prints := (message_prints_iff wide "Enhanced a[0]: 3 classes").1 .success
  exact ⟨wide, prints.2 (by decide +kernel)⟩

/-- A part of a path that reads like a tag is missing, and if it reads like the end of a style, nothing is
printed. -/
theorem message_prints_bracketed :
    (message .info "a/[b]/C.class").lines 80 = .ok ["a//C.class".toList] ∧
      (CommandLine.Refusal.ofMissing "a[/b]").notice.lines 80 = .error (.notOpen "/b" 30) := by
  decide +kernel

end Enhance.Console
