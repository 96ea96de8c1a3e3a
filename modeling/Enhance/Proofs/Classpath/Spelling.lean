import Enhance.Proofs.Classpath.Interchange

/-!
# Spellings of the name of a class

The name of a class is written with points or with slashes between its parts, with the ending or without
it.  Two names have the same class file exactly if they have the same parts (`resource_eq_iff`), and every
spelling of a name has the parts that it was written from (`parts_text`).  So all spellings of a name stand
for one class file, and the names of different classes for different ones (`resource_spellings`).
-/

namespace Enhance

namespace Text

theorem map_joined (image : Char → Char) (sep : List Char) (texts : List (List Char)) :
    (joined sep texts).map image = joined (sep.map image) (texts.map (List.map image)) := by
  induction texts with
  | nil => rfl
  | cons text more ih =>
      cases more with
      | nil => rfl
      | cons second others =>
          have front : joined sep (text :: second :: others) =
              text ++ sep ++ joined sep (second :: others) := joined_cons (List.cons_ne_nil _ _)
          rw [front, List.map_append, List.map_append, ih]
          exact (joined_cons (List.cons_ne_nil _ _)).symm

end Text

namespace Classpath

open Text

variable {className other : String} {segments : List String}

/-! ## The parts of a name -/

/-- The parts of the name of a class, between points and slashes, its ending left away. -/
def parts (className : String) : List (List Char) :=
  pieces '/' (slashed className)

theorem toList_resource_joined (className : String) :
    (resource className).toList = joined ['/'] (parts className) ++ ending := by
  rw [toList_resource, parts, joined_pieces]

/-- The class files of two names are the same exactly if the names have the same parts. -/
theorem resource_eq_iff : resource className = resource other ↔ parts className = parts other := by
  constructor
  · intro same
    have texts := congrArg String.toList same
    rw [toList_resource, toList_resource, List.append_cancel_right_eq] at texts
    rw [parts, parts, texts]
  · intro same
    rw [← String.toList_inj, toList_resource_joined, toList_resource_joined, same]

/-- Lookups see nothing of the name of a class but its parts. -/
theorem lookups_of_parts (same : parts className = parts other) (classpath : Classpath) (disk : Listing)
    (cwd : List String) :
    classpath.locate disk cwd className = classpath.locate disk cwd other ∧
      classpath.readClass disk cwd className = classpath.readClass disk cwd other := by
  have sameFile := resource_eq_iff.2 same
  have located : classpath.locate disk cwd className = classpath.locate disk cwd other := by
    rw [locate, locate, sameFile]
  exact ⟨located, by rw [readClass, readClass, located, sameFile]⟩

/-! ## Names and their spellings -/

/-- The parts of a name that a class can have: there is one at least, no part has a point or a slash in it,
and the last one is not the word of the ending.  That a part is not empty is not asked for. -/
structure NamesClass (segments : List String) : Prop where
  nonempty : segments ≠ []
  plain : ∀ segment ∈ segments, '.' ∉ segment.toList ∧ '/' ∉ segment.toList
  last : segments.getLast? ≠ some "class"

/-- A way to write the name of a class: with points or with slashes between its parts, and with the ending or
without it. -/
structure Spelling where
  isDotted : Bool
  isEnded : Bool
  deriving DecidableEq, Repr

namespace Spelling

/-- What stands between the parts of a name. -/
def separator (spelling : Spelling) : String :=
  if spelling.isDotted then "." else "/"

/-- A name without the ending. -/
def bare (spelling : Spelling) (segments : List String) : String :=
  spelling.separator.intercalate segments

/-- A name as it is written. -/
def text (spelling : Spelling) (segments : List String) : String :=
  spelling.bare segments ++ if spelling.isEnded then ".class" else ""

end Spelling

/-- With slashes for the points, both ways to set the parts of a name apart are the same. -/
theorem map_bare (named : NamesClass segments) (spelling : Spelling) :
    (spelling.bare segments).toList.map (fun c => if c = '.' then '/' else c) =
      joined ['/'] (segments.map String.toList) := by
  have between : spelling.separator.toList.map (fun c => if c = '.' then '/' else c) = ['/'] := by
    rw [Spelling.separator]
    cases spelling.isDotted <;> rfl
  have unchanged : (segments.map String.toList).map (List.map fun c => if c = '.' then '/' else c) =
      segments.map String.toList := by
    refine (List.map_congr_left fun text member => ?_).trans (List.map_id _)
    obtain ⟨segment, isSegment, rfl⟩ := List.mem_map.1 member
    exact map_of_point_notMem (named.plain segment isSegment).1
  rw [Spelling.bare, String.toList_intercalate, Path.intercalate_eq_joined, map_joined, between, unchanged]

/-- The parts of a name are found again between the slashes. -/
theorem pieces_map_bare (named : NamesClass segments) (spelling : Spelling) :
    pieces '/' ((spelling.bare segments).toList.map fun c => if c = '.' then '/' else c) =
      segments.map String.toList := by
  rw [map_bare named]
  refine pieces_joined (by simpa using named.nonempty) fun text member => ?_
  obtain ⟨segment, isSegment, rfl⟩ := List.mem_map.1 member
  exact (named.plain segment isSegment).2

/-- A name without the ending does not end like one with it: the word of the ending would be its last
part. -/
theorem not_suffix_bare (named : NamesClass segments) (spelling : Spelling) :
    ¬ ending <:+ (spelling.bare segments).toList := by
  rintro ⟨front, whole⟩
  -- With slashes for the points, the ending is a slash and its word.
  have cut := pieces_map_bare named spelling
  rw [← whole, pieces_append_ending] at cut
  have last := congrArg List.getLast? cut
  rw [List.getLast?_concat, List.getLast?_map] at last
  obtain ⟨segment, isLast, word⟩ := Option.map_eq_some_iff.1 last.symm
  have isWord : segment = "class" := String.toList_inj.1 word
  exact named.last (isWord ▸ isLast)

/-- Every spelling of a name has the parts that it was written from. -/
theorem parts_text (named : NamesClass segments) (spelling : Spelling) :
    parts (spelling.text segments) = segments.map String.toList := by
  have left : withoutEnding (spelling.text segments).toList = (spelling.bare segments).toList := by
    rw [Spelling.text, String.toList_append]
    cases spelling.isEnded with
    | true => exact withoutEnding_append _
    | false =>
        rw [if_neg Bool.false_ne_true, String.toList_empty, List.append_nil]
        exact withoutEnding_of_not_suffix (not_suffix_bare named spelling)
  rw [parts, slashed, left, pieces_map_bare named]

/-- Every spelling of the name of a class stands for the class file that has slashes between the parts and
the ending; names of different classes stand for different class files, in whatever way they are written;
and the name of a class file, taken for the name of a class, stands for itself, whatever text it was made
from. -/
theorem resource_spellings :
    (∀ segments, NamesClass segments → ∀ spelling : Spelling,
      resource (spelling.text segments) = "/".intercalate segments ++ ".class") ∧
    (∀ segments others, NamesClass segments → NamesClass others → ∀ spelling spelling' : Spelling,
      resource (spelling.text segments) = resource (spelling'.text others) ↔ segments = others) ∧
    ∀ className, resource (resource className) = resource className := by
  refine ⟨?_, ?_, resource_resource⟩
  · intro segments named spelling
    rw [← String.toList_inj, toList_resource_joined, parts_text named, String.toList_append,
      String.toList_intercalate, Path.intercalate_eq_joined]
    rfl
  · intro segments others named named' spelling spelling'
    rw [resource_eq_iff, parts_text named, parts_text named']
    exact List.map_inj_right fun one two => String.toList_inj.1

/-- A name with the word of the ending in the middle and at the end of a longer word. -/
theorem resource_spellings_subclass :
    NamesClass ["com", "class", "Subclass"] ∧ NamesClass ["com"] ∧
      Spelling.text ⟨true, false⟩ ["com", "class", "Subclass"] = "com.class.Subclass" ∧
      Spelling.text ⟨false, true⟩ ["com", "class", "Subclass"] = "com/class/Subclass.class" ∧
      Spelling.text ⟨true, true⟩ ["com"] = "com.class" ∧
      resource "com.class.Subclass" = "com/class/Subclass.class" ∧
      resource "com.class.Subclass" = resource "com/class/Subclass.class" ∧
      resource "com.class.Subclass" ≠ resource "com.class" ∧
      resource (resource "com.class.class") = resource "com.class.class" := by
  obtain ⟨named, agree, again⟩ := resource_spellings
  have long : NamesClass ["com", "class", "Subclass"] :=
    ⟨by decide, by decide +kernel, by decide⟩
  have short : NamesClass ["com"] := ⟨by decide, by decide +kernel, by decide⟩
  have dotted : Spelling.text ⟨true, false⟩ ["com", "class", "Subclass"] = "com.class.Subclass" := by
    decide +kernel
  have slashed : Spelling.text ⟨false, true⟩ ["com", "class", "Subclass"] =
      "com/class/Subclass.class" := by
    decide +kernel
  have ended : Spelling.text ⟨true, true⟩ ["com"] = "com.class" := by decide +kernel
  refine ⟨long, short, dotted, slashed, ended, ?_, ?_, ?_, again _⟩
  · have file := named _ long ⟨true, false⟩
    rw [dotted] at file
    exact file
  · rw [← dotted, ← slashed]
    exact (agree _ _ long long _ _).2 rfl
  · rw [← dotted, ← ended]
    exact fun same => absurd ((agree _ _ long short _ _).1 same) (by decide)

/-- The word of the ending as the last part would be taken for the ending behind a point, but not behind a
slash. -/
example : resource "com.class" = "com.class" ∧ resource "com/class" = "com/class.class" := by
  decide +kernel

end Classpath

end Enhance
