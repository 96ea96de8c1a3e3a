import Enhance.Console.Message
import Mathlib.Data.List.TakeWhile

/-!
# Texts that cannot be shown

A marked-up text, if all its tags are read, cannot be shown if a tag ends a style that has not begun.  The
words about such an error hold the tag itself, so that a message with these words cannot be shown either
(`Markup.exists_error_of_message`).  A block can be printed if all its marked-up texts can be shown, on a
console of any width (`Block.isOk_text`).
-/

namespace Enhance.Console

namespace Markup

/-- The inside of a tag. -/
structure IsTag (body : List Char) : Prop where
  starts : body.head?.any startsTag = true
  plain : ∀ c ∈ body, c ≠ ']' ∧ c ≠ '['

theorem plain_of_startsTag {c : Char} (starts : startsTag c = true) : c ≠ ']' ∧ c ≠ '[' := by
  constructor
  · rintro rfl
    exact absurd starts (by decide)
  · rintro rfl
    exact absurd starts (by decide)

theorem isTag_of_tagBody? {text body : List Char} (found : tagBody? text = some body) :
    IsTag body := by
  cases text with
  | nil => contradiction
  | cons c rest =>
      rw [tagBody?] at found
      split at found
      · next ends =>
          obtain rfl := Option.some.inj found
          obtain ⟨starts, -⟩ := Bool.and_eq_true_iff.1 ends
          constructor
          · exact starts
          · intro d member
            rcases List.mem_cons.1 member with rfl | member
            · exact plain_of_startsTag starts
            · simpa using List.mem_takeWhile_imp member
      · contradiction

theorem tagBody?_append {body : List Char} (tag : IsTag body) (rest : List Char) :
    tagBody? (body ++ ']' :: rest) = some body := by
  obtain ⟨starts, plain⟩ := tag
  cases body with
  | nil => contradiction
  | cons c body =>
      have inside : ∀ d ∈ body, (decide (d ≠ ']') && decide (d ≠ '[')) = true := by
        intro d member
        simpa using plain d (List.mem_cons_of_mem c member)
      have taken : (body ++ ']' :: rest).takeWhile (fun d => d ≠ ']' && d ≠ '[') = body := by
        rw [List.takeWhile_append_of_pos inside]
        simp
      rw [List.cons_append, tagBody?, taken]
      simpa using starts

section

variable {fuel position : Nat} {before rest body : List Char} {c : Char}

/-- A character that tags are not made with. -/
def isPlain (c : Char) : Bool :=
  c ≠ '[' && c ≠ '\\'

/-- The text that stands before a tag is a part of its own. -/
def partBefore (before : List Char) : List MarkupPart :=
  if before = [] then [] else [.text before.reverse]

theorem partsFrom_of_plain (plain : isPlain c = true) :
    partsFrom (fuel + 1) position before (c :: rest) =
      partsFrom fuel (position + 1) (c :: before) rest := by
  obtain ⟨c_ne, c_ne'⟩ : c ≠ '[' ∧ c ≠ '\\' := by simpa [isPlain] using plain
  have untagged : tagAt? (c :: rest) = none := by
    simp [tagAt?, c_ne, c_ne']
  conv => lhs; unfold partsFrom
  simp only [untagged, if_neg c_ne']

theorem partsFrom_of_tag (tag : IsTag body) :
    partsFrom (fuel + 1) position before ('[' :: (body ++ ']' :: rest)) =
      partBefore before ++
        .tag body position :: partsFrom fuel (position + body.length + 2) [] rest := by
  have tagged : tagAt? ('[' :: (body ++ ']' :: rest)) = some (0, body) := by
    simp [tagAt?, tagBody?_append tag]
  have behind : ('[' :: (body ++ ']' :: rest)).drop (0 + body.length + 2) = rest := by
    simp [List.drop_append]
  conv => lhs; unfold partsFrom
  simp only [tagged, behind]
  simp [partBefore, Nat.add_assoc]

/-- Every tag among the parts of a text is the inside of a tag. -/
theorem isTag_of_mem_partsFrom {text : List Char} {place : Nat}
    (member : .tag body place ∈ partsFrom fuel position before text) : IsTag body := by
  induction fuel generalizing position before text with
  | zero => contradiction
  | succ fuel ih =>
      have notBefore : .tag body place ∉ partBefore before := by
        unfold partBefore
        split <;> simp
      unfold partsFrom at member
      cases text with
      | nil => exact absurd member notBefore
      | cons c rest =>
          cases found : tagAt? (c :: rest) with
          | none =>
              simp only [found] at member
              split at member
              · exact ih member
              · exact ih member
          | some tagged =>
              obtain ⟨slashes, inside⟩ := tagged
              simp only [found] at member
              rcases List.mem_append.1 member with member | member
              · rcases List.mem_append.1 member with member | member
                · exact absurd member notBefore
                · split at member <;> simp at member
              · rcases List.mem_cons.1 member with same | member
                · split at same
                  · contradiction
                  · cases same
                    rw [tagAt?] at found
                    split at found
                    · obtain ⟨body', isBody, same⟩ := Option.map_eq_some_iff.1 found
                      cases same
                      exact isTag_of_tagBody? isBody
                    · contradiction
                · exact ih member

end

/-- The name of the style that a tag ends, which is empty if it ends the latest one. -/
def closedName (closing : List Char) : String :=
  String.ofList (Text.trimmed (nameOf closing).toList)

/-- What is wrong with a tag that ends a style that has not begun. -/
inductive IsErrorOf (closing : List Char) : MarkupError → Prop
  | nothingOpen (position : Nat) (nameless : closedName closing = "") :
      IsErrorOf closing (.nothingOpen position)
  | notOpen (position : Nat) (named : closedName closing ≠ "") :
      IsErrorOf closing (.notOpen (String.ofList ('/' :: closing)) position)

/-- An error is about a tag in the text, if all tags are read. -/
theorem exists_of_shownParts_error {opened : List String} {all : List MarkupPart}
    {error : MarkupError} (read : areRead all = true) (failed : shownParts opened all = .error error) :
    ∃ closing place, .tag ('/' :: closing) place ∈ all ∧ IsErrorOf closing error := by
  have later {part : MarkupPart} {rest : List MarkupPart}
      (found : ∃ closing place, .tag ('/' :: closing) place ∈ rest ∧ IsErrorOf closing error) :
      ∃ closing place, .tag ('/' :: closing) place ∈ part :: rest ∧ IsErrorOf closing error := by
    obtain ⟨closing, place, member, isError⟩ := found
    exact ⟨closing, place, List.mem_cons_of_mem _ member, isError⟩
  have behind {part : MarkupPart} {rest : List MarkupPart} (read : areRead (part :: rest) = true) :
      areRead rest = true := (Bool.and_eq_true_iff.1 read).2
  fun_induction shownParts opened all with
  | case1 opened => contradiction
  | case2 opened text rest ih =>
      cases ended : shownParts opened rest with
      | ok shown =>
          rw [ended] at failed
          contradiction
      | error other =>
          rw [ended] at failed
          cases failed
          exact later (ih (behind read) ended)
  | case3 opened body position rest unread =>
      simp [areRead, unread] at read
  | case4 position rest closing name nameless unread =>
      cases failed
      exact ⟨closing, position, List.mem_cons_self, .nothingOpen position nameless⟩
  | case5 position rest closing name nameless latest opened unread ih =>
      exact later (ih (behind read) failed)
  | case6 opened position rest closing name named usual isOpen unread ih =>
      exact later (ih (behind read) failed)
  | case7 opened position rest closing name named usual notOpen unread =>
      cases failed
      exact ⟨closing, position, List.mem_cons_self, .notOpen position named⟩
  | case8 opened body position rest unread noEnd ih => exact later (ih (behind read) failed)

/-! ## Texts with a tag that ends nothing -/

/-- Parts cannot be shown where styles are open, because of a tag that is read. -/
def FailsAt (opened : List String) (all : List MarkupPart) : Prop :=
  ∃ error : MarkupError, error.isRead = true ∧ shownParts opened all = .error error

/-- A text cannot be shown where styles are open, whatever stands before it. -/
def Fails (opened : List String) (text : List Char) : Prop :=
  ∀ fuel position before, text.length < fuel → FailsAt opened (partsFrom fuel position before text)

theorem FailsAt.behind_text {opened : List String} {text : List Char} {rest : List MarkupPart}
    (fails : FailsAt opened rest) : FailsAt opened (.text text :: rest) := by
  obtain ⟨error, read, failed⟩ := fails
  refine ⟨error, read, ?_⟩
  rw [shownParts, failed]
  rfl

theorem FailsAt.behind {opened : List String} {before : List Char} {rest : List MarkupPart}
    (fails : FailsAt opened rest) : FailsAt opened (partBefore before ++ rest) := by
  unfold partBefore
  split
  · exact fails
  · exact fails.behind_text

namespace Fails

variable {opened : List String} {text rest body closing : List Char}

theorem append_plain (plain : text.all isPlain = true) (fails : Fails opened rest) :
    Fails opened (text ++ rest) := by
  induction text with
  | nil => exact fails
  | cons c text ih =>
      rw [List.all_cons, Bool.and_eq_true] at plain
      intro fuel position before enough
      cases fuel with
      | zero => contradiction
      | succ fuel =>
          rw [List.cons_append, partsFrom_of_plain plain.1]
          apply ih plain.2
          simpa using enough

/-- What stands behind a tag cannot be shown with the styles that are open then. -/
theorem of_tag (tag : IsTag body) (next : List String)
    (step : ∀ position rest, shownParts opened (.tag body position :: rest) = shownParts next rest)
    (fails : Fails next rest) : Fails opened ('[' :: (body ++ ']' :: rest)) := by
  intro fuel position before enough
  cases fuel with
  | zero => contradiction
  | succ fuel =>
      rw [partsFrom_of_tag tag]
      apply FailsAt.behind
      rw [FailsAt, step]
      apply fails
      simp at enough
      omega

/-- A tag that ends a style cannot be shown where none is open. -/
theorem of_closing (tag : IsTag ('/' :: closing)) (read : isUnread ('/' :: closing) = false)
    (rest : List Char) : Fails [] ('[' :: ('/' :: closing ++ ']' :: rest)) := by
  intro fuel position before enough
  cases fuel with
  | zero => contradiction
  | succ fuel =>
      rw [partsFrom_of_tag tag]
      apply FailsAt.behind
      rw [FailsAt, shownParts, read]
      simp only [Bool.false_eq_true, ↓reduceIte]
      split
      · exact ⟨_, rfl, rfl⟩
      · exact ⟨_, rfl, rfl⟩

end Fails

/-- The words about an error hold the tag that is wrong. -/
theorem IsErrorOf.message_eq {closing : List Char} {error : MarkupError}
    (isError : IsErrorOf closing error) (tag : IsTag ('/' :: closing))
    (read : isUnread ('/' :: closing) = false) :
    ∃ closing rest, IsTag ('/' :: closing) ∧ isUnread ('/' :: closing) = false ∧
      error.message.toList =
        "closing tag '".toList ++ '[' :: ('/' :: closing ++ ']' :: rest) := by
  cases isError with
  | nothingOpen position nameless =>
      have words : (MarkupError.nothingOpen position).message =
          "closing tag '[/]' at position " ++ toString position ++ " has nothing to close" := rfl
      have front : "closing tag '[/]' at position ".toList =
          "closing tag '".toList ++ '[' :: ('/' :: [] ++ ']' :: "' at position ".toList) := by
        decide +kernel
      refine ⟨[], "' at position ".toList ++ ((toString position).toList ++
        " has nothing to close".toList), ⟨by decide, by simp⟩, by decide +kernel, ?_⟩
      rw [words, String.toList_append, String.toList_append, front]
      simp only [List.append_assoc, List.cons_append]
  | notOpen position named =>
      have words : (MarkupError.notOpen (String.ofList ('/' :: closing)) position).message =
          "closing tag '[" ++ String.ofList ('/' :: closing) ++ "]' at position " ++
            toString position ++ " doesn't match any open tag" := rfl
      have front : "closing tag '[".toList = "closing tag '".toList ++ ['['] := by decide +kernel
      have middle : "]' at position ".toList = ']' :: "' at position ".toList := by decide +kernel
      refine ⟨closing, "' at position ".toList ++ ((toString position).toList ++
        " doesn't match any open tag".toList), tag, read, ?_⟩
      simp only [words, String.toList_append, String.toList_ofList, front, middle, List.append_assoc,
        List.cons_append, List.nil_append]

/-- A text of which a part cannot be shown behind a message's mark cannot be shown behind it. -/
theorem fails_of_error_mark {text : List Char} (fails : Fails [] text) :
    Fails [] (MessageKind.error.mark.toList ++ text) := by
  have mark : MessageKind.error.mark.toList =
      '[' :: (['r', 'e', 'd'] ++ ']' :: (['✗'] ++ '[' :: (['/', 'r', 'e', 'd'] ++ [']', ' ']))) := by
    decide +kernel
  have red : StyleName.usual (nameOf ['r', 'e', 'd']) = "red" := by decide +kernel
  have named : closedName ['r', 'e', 'd'] = "red" := by decide +kernel
  have usual : StyleName.usual "red" = "red" := by decide +kernel
  have isRead : isUnread ['r', 'e', 'd'] = false := by decide +kernel
  have isRead' : isUnread ['/', 'r', 'e', 'd'] = false := by decide +kernel
  have opening : IsTag ['r', 'e', 'd'] := ⟨by decide, by simp⟩
  have ending : IsTag ['/', 'r', 'e', 'd'] := ⟨by decide, by simp⟩
  have cross : ['✗'].all isPlain = true := by decide
  have blank : [' '].all isPlain = true := by decide
  rw [mark]
  simp only [List.cons_append, List.nil_append]
  apply Fails.of_tag opening ["red"]
  · intro position rest
    rw [shownParts, red]
    · simp [isRead]
    · simp
  · apply Fails.append_plain cross
    apply Fails.of_tag ending []
    · intro position rest
      rw [closedName] at named
      simp [shownParts, isRead', named, usual]
    · exact Fails.append_plain blank fails

theorem isUnread_of_mem {all : List MarkupPart} {body : List Char} {place : Nat}
    (read : areRead all = true) (member : .tag body place ∈ all) : isUnread body = false := by
  simpa using List.all_eq_true.1 read _ member

/-- A text that cannot be shown brings up an error whose words cannot be shown behind a mark. -/
theorem exists_error_of_message {text : String} {error : MarkupError} (read : isRead text = true)
    (failed : shown text = .error error) (words : String)
    (plain : words.toList.all isPlain = true) :
    ∃ other : MarkupError, other.isRead = true ∧
      shown (MessageKind.error.mark ++ (words ++ error.message)) = .error other := by
  obtain ⟨closing, place, member, isError⟩ := exists_of_shownParts_error read failed
  obtain ⟨closing', rest, tag, read', message⟩ :=
    isError.message_eq (isTag_of_mem_partsFrom member) (isUnread_of_mem read member)
  have introduction : "closing tag '".toList.all isPlain = true := by decide +kernel
  have fails : Fails [] (MessageKind.error.mark ++ (words ++ error.message)).toList := by
    rw [String.toList_append, String.toList_append, message]
    apply fails_of_error_mark
    apply Fails.append_plain plain
    exact Fails.append_plain introduction (.of_closing tag read' rest)
  exact fails _ _ _ (Nat.lt_succ_self _)

end Markup

/-! ## Blocks -/

/-- All tags in the marked-up text of a cell are read. -/
def Cell.isRead : Cell → Bool
  | .markup text => Markup.isRead text
  | .plain _ => true

/-- All tags in the marked-up texts of a block are read. -/
def Block.isRead : Block → Bool
  | .empty | .panel _ => true
  | .markup text => Markup.isRead text
  | .table _ rows => rows.all fun row => row.all Cell.isRead

/-- All marked-up texts of a block can be shown. -/
def Block.isSound : Block → Bool
  | .empty | .panel _ => true
  | .markup text => (Markup.shown text).isOk
  | .table _ rows => rows.all fun row => row.all fun cell => cell.shown.isOk

section

variable {α β ε : Type} {image : α → Except ε β}

theorem isOk_map (next : α → β) (found : Except ε α) : (found.map next).isOk = found.isOk := by
  cases found <;> rfl

theorem of_map_error {next : α → β} {found : Except ε α} {error : ε}
    (failed : found.map next = .error error) : found = .error error := by
  cases found with
  | ok value => contradiction
  | error other =>
      cases failed
      rfl

theorem isOk_mapM (list : List α) : (list.mapM image).isOk = list.all fun one => (image one).isOk := by
  induction list with
  | nil => rfl
  | cons first rest ih =>
      rw [List.mapM_cons, List.all_cons, ← ih]
      cases image first with
      | error error => rfl
      | ok found => cases rest.mapM image <;> rfl

theorem exists_of_mapM_error {list : List α} {error : ε} (failed : list.mapM image = .error error) :
    ∃ one ∈ list, image one = .error error := by
  induction list with
  | nil => contradiction
  | cons first rest ih =>
      rw [List.mapM_cons] at failed
      cases here : image first with
      | error other =>
          rw [here] at failed
          cases failed
          exact ⟨first, List.mem_cons_self, here⟩
      | ok found =>
          rw [here] at failed
          cases later : rest.mapM image with
          | error other =>
              rw [later] at failed
              cases failed
              obtain ⟨one, member, isError⟩ := ih later
              exact ⟨one, List.mem_cons_of_mem first member, isError⟩
          | ok others =>
              rw [later] at failed
              contradiction

end

namespace Block

/-- Whether a block can be printed does not depend on the console. -/
theorem isOk_text (width : Nat) (block : Block) : (block.text width).isOk = block.isSound := by
  rw [text, isOk_map]
  cases block with
  | empty | panel => rfl
  | markup text => exact isOk_map _ _
  | table columns rows =>
      rw [lines, isOk_map, shownRows, isOk_mapM]
      simp only [isOk_mapM, isSound]

theorem exists_text_of_sound {block : Block} (width : Nat) (sound : block.isSound = true) :
    ∃ text, block.text width = .ok text := by
  have isOk := isOk_text width block
  rw [sound] at isOk
  cases written : block.text width with
  | ok text => exact ⟨text, rfl⟩
  | error error =>
      rw [written] at isOk
      contradiction

/-- Why a block cannot be printed: one of its texts cannot be shown. -/
theorem exists_text_of_error {width : Nat} {block : Block} {error : MarkupError}
    (read : block.isRead = true) (failed : block.text width = .error error) :
    ∃ text, Markup.isRead text = true ∧ Markup.shown text = .error error := by
  have broken := of_map_error failed
  cases block with
  | empty | panel => contradiction
  | markup text => exact ⟨text, read, of_map_error broken⟩
  | table columns rows =>
      obtain ⟨row, known, inRow⟩ := exists_of_mapM_error (of_map_error broken)
      obtain ⟨cell, known', inCell⟩ := exists_of_mapM_error inRow
      cases cell with
      | plain text => contradiction
      | markup text =>
          exact ⟨text, List.all_eq_true.1 (List.all_eq_true.1 read row known) _ known', inCell⟩

end Block

end Enhance.Console
