import Enhance.Proofs.Classpath
import Enhance.Proofs.Disk.LinkFree
import Enhance.Proofs.Path
import Mathlib.Data.List.Basic

/-!
# Lookups that stay inside

The file of a class has a path made of names of entries.  It is a relative path, unless the name of the
class starts with a point or a slash.  So in trees without links a class that a directory provides is found
below that directory, and what is answered about it depends on what stands at the entries alone.  The name
of a class that starts with a point or a slash leads away from the entries (`lookups_confined`).
-/

namespace Enhance

namespace Text

/-- Appending a text without separators makes the last piece longer. -/
theorem exists_pieces_append {sep : Char} (text : List Char) {tail : List Char} (free : sep ∉ tail) :
    ∃ front last, pieces sep text = front ++ [last] ∧
      pieces sep (text ++ tail) = front ++ [last ++ tail] := by
  induction text with
  | nil =>
      refine ⟨[], [], rfl, ?_⟩
      have whole := pieces_joined (List.cons_ne_nil tail []) (by simpa using free)
      rwa [joined] at whole
  | cons c rest ih =>
      obtain ⟨front, last, cut, cut'⟩ := ih
      by_cases isSep : c = sep
      · subst isSep
        exact ⟨[] :: front, last, by rw [pieces_sep, cut]; rfl, by
          rw [List.cons_append, pieces_sep, cut']; rfl⟩
      · rw [List.cons_append, pieces, pieces, if_neg isSep, if_neg isSep, cut, cut']
        cases front with
        | nil => exact ⟨[], c :: last, rfl, rfl⟩
        | cons piece more => exact ⟨(c :: piece) :: more, last, rfl, rfl⟩

/-- Cutting adds no characters. -/
theorem mem_of_mem_pieces {sep c : Char} {text piece : List Char} (member : piece ∈ pieces sep text)
    (inside : c ∈ piece) : c ∈ text := by
  induction text generalizing piece with
  | nil => simp_all
  | cons first rest ih =>
      rw [pieces] at member
      split at member
      · rcases List.mem_cons.1 member with rfl | later
        · contradiction
        · exact List.mem_cons_of_mem _ (ih later inside)
      · split at member
        · next none => exact absurd none (pieces_ne_nil _ _)
        · next piece' more cut =>
            rcases List.mem_cons.1 member with rfl | later
            · rcases List.mem_cons.1 inside with rfl | within
              · exact List.mem_cons_self
              · exact List.mem_cons_of_mem _ (ih (cut ▸ List.mem_cons_self) within)
            · exact List.mem_cons_of_mem _ (ih (cut ▸ List.mem_cons_of_mem _ later) inside)

end Text

namespace Path

theorem anchor_ofString (text : String) : (ofString text).anchor = anchorOf text.toList := rfl

theorem names_ofString (text : String) : (ofString text).names = namesOf text.toList := rfl

end Path

namespace Classpath

open Disk Text

variable {classpath : Classpath} {disk disk' inside : Listing} {cwd : List String} {className : String}
  {entry : Path}

/-! ## Paths of class files -/

/-- The path of the file of a class, from an entry on. -/
def classFile (className : String) : Path :=
  Path.ofString (resource className)

/-- Whether the name of a class starts with a point or a slash, its ending left away. -/
def isRooted (className : String) : Bool :=
  match withoutEnding className.toList with
  | c :: _ => c = '.' || c = '/'
  | [] => false

/-- A name of a class without its ending, with slashes between the parts. -/
def slashed (className : String) : List Char :=
  (withoutEnding className.toList).map fun c => if c = '.' then '/' else c

theorem toList_resource (className : String) :
    (resource className).toList = slashed className ++ ending := by
  rw [resource, String.toList_ofList, resourceChars, slashed]

theorem anchor_classFile (className : String) :
    (classFile className).anchor = Path.anchorOf (slashed className ++ ending) := by
  rw [classFile, Path.anchor_ofString, toList_resource]

theorem names_classFile (className : String) :
    (classFile className).names = Path.namesOf (slashed className ++ ending) := by
  rw [classFile, Path.names_ofString, toList_resource]

theorem dot_notMem_slashed (className : String) : '.' ∉ slashed className :=
  point_notMem_map _

/-- The path of the file of a class leads from an entry on, unless the name of the class starts with a point
or a slash. -/
theorem isAbsolute_classFile (className : String) :
    (classFile className).isAbsolute = isRooted className := by
  rw [Path.isAbsolute, anchor_classFile, slashed, isRooted]
  cases withoutEnding className.toList with
  | nil => rfl
  | cons c rest =>
      rw [List.map_cons, List.cons_append]
      by_cases slash : c = '.' ∨ c = '/'
      · have replaced : (if c = '.' then '/' else c) = '/' := by grind
        simp [replaced, Path.anchorOf_slash_ne, slash]
      · obtain ⟨noDot, noSlash⟩ := not_or.1 slash
        have relative : Path.anchorOf
            (c :: (rest.map (fun c => if c = '.' then '/' else c) ++ ending)) = .relative :=
          Path.anchorOf_of_ne_slash (by simp [noSlash])
        rw [if_neg noDot, relative]
        simp [noDot, noSlash]

/-- The path of the file of a class has a name. -/
theorem names_classFile_ne_nil (className : String) : (classFile className).names ≠ [] := by
  obtain ⟨front, last, -, cut⟩ := exists_pieces_append (slashed className)
    (show '/' ∉ ending by decide)
  have isPiece : last ++ ending ∈ pieces '/' (slashed className ++ ending) := by
    rw [cut]
    exact List.mem_append_right _ List.mem_cons_self
  have named : isName (String.ofList (last ++ ending)) = true := by
    rw [Path.isName_iff, String.toList_ofList]
    refine ⟨by simp [ending], ?_, sep_notMem_of_mem_pieces isPiece⟩
    intro same
    simpa [ending] using congrArg List.length same
  have member : String.ofList (last ++ ending) ∈ (classFile className).names := by
    rw [names_classFile, Path.namesOf, List.mem_filter]
    exact ⟨List.mem_map_of_mem isPiece, named⟩
  exact List.ne_nil_of_mem member

/-- The names in the path of the file of a class are names of entries: the points in the name of the class
have become slashes, so that none is left for the name that leads upwards. -/
theorem isEntryName_of_mem_classFile {name : String} (member : name ∈ (classFile className).names) :
    isEntryName name = true := by
  refine isEntryName_iff.2 ⟨(classFile className).proper name member, ?_⟩
  rintro rfl
  rw [names_classFile, Path.namesOf, List.mem_filter, List.mem_map] at member
  obtain ⟨⟨piece, isPiece, same⟩, -⟩ := member
  obtain rfl : piece = ['.', '.'] := by
    simpa using congrArg String.toList same
  obtain ⟨front, last, cut, cut'⟩ := exists_pieces_append (slashed className)
    (show '/' ∉ ending by decide)
  rw [cut', List.mem_append, List.mem_singleton] at isPiece
  -- Only the last piece has points, those of the ending, and it is too long.
  rcases isPiece with earlier | isLast
  · have isPiece : ['.', '.'] ∈ pieces '/' (slashed className) := by
      rw [cut]
      exact List.mem_append_left _ earlier
    exact dot_notMem_slashed className (mem_of_mem_pieces isPiece List.mem_cons_self)
  · have longer := congrArg List.length isLast
    simp [ending] at longer

/-! ## Asking entries one after the other -/

section

variable {question question' : Path → Except Failure Bool} {entries : List Path} {entry : Path}
  {failure : Failure}

theorem firstWith_congr (same : ∀ entry ∈ entries, question' entry = question entry) :
    firstWith question' entries = firstWith question entries := by
  induction entries with
  | nil => rfl
  | cons entry entries ih =>
      rw [List.forall_mem_cons] at same
      rw [firstWith, firstWith, same.1, ih same.2]

theorem firstWith_of_true (affirmed : question entry = .ok true) :
    firstWith question (entry :: entries) = .ok (some entry) := by
  rw [firstWith, affirmed]
  rfl

theorem firstWith_of_false (denied : question entry = .ok false) :
    firstWith question (entry :: entries) = firstWith question entries := by
  rw [firstWith, denied]
  rfl

theorem firstWith_of_error (failed : question entry = .error failure) :
    firstWith question (entry :: entries) = .error failure := by
  rw [firstWith, failed]
  rfl

/-- What asking entries comes to: the first one without a negative answer decides. -/
inductive Search (question : Path → Except Failure Bool) (entries : List Path) :
    Except Failure (Option Path) → Prop
  /-- All answers are negative. -/
  | nowhere (denied : ∀ entry ∈ entries, question entry = .ok false) : Search question entries (.ok none)
  /-- An entry has an affirmative answer. -/
  | found {front back : List Path} {entry : Path} (split : entries = front ++ entry :: back)
      (denied : ∀ earlier ∈ front, question earlier = .ok false)
      (affirmed : question entry = .ok true) : Search question entries (.ok (some entry))
  /-- An entry does not answer. -/
  | failed {front back : List Path} {entry : Path} {failure : Failure}
      (split : entries = front ++ entry :: back)
      (denied : ∀ earlier ∈ front, question earlier = .ok false)
      (fails : question entry = .error failure) : Search question entries (.error failure)

theorem Search.behind {answer : Except Failure (Option Path)} (denied : question entry = .ok false)
    (search : Search question entries answer) : Search question (entry :: entries) answer := by
  cases search with
  | nowhere others => exact .nowhere (List.forall_mem_cons.2 ⟨denied, others⟩)
  | found split others affirmed =>
      rw [split]
      exact .found (List.cons_append ..).symm (List.forall_mem_cons.2 ⟨denied, others⟩) affirmed
  | failed split others fails =>
      rw [split]
      exact .failed (List.cons_append ..).symm (List.forall_mem_cons.2 ⟨denied, others⟩) fails

theorem search_firstWith (question : Path → Except Failure Bool) (entries : List Path) :
    Search question entries (firstWith question entries) := by
  induction entries with
  | nil => exact .nowhere (by simp)
  | cons entry entries ih =>
      cases answer : question entry with
      | error failure =>
          rw [firstWith_of_error answer]
          exact .failed (List.nil_append _).symm (by simp) answer
      | ok affirmed =>
          cases affirmed with
          | true =>
              rw [firstWith_of_true answer]
              exact .found (List.nil_append _).symm (by simp) answer
          | false =>
              rw [firstWith_of_false answer]
              exact ih.behind answer

/-- Entries with negative answers are passed over. -/
theorem firstWith_of_denied {front : List Path} (back : List Path)
    (denied : ∀ earlier ∈ front, question earlier = .ok false) :
    firstWith question (front ++ back) = firstWith question back := by
  induction front with
  | nil => rfl
  | cons entry front ih =>
      rw [List.forall_mem_cons] at denied
      rw [List.cons_append, firstWith_of_false denied.1, ih denied.2]

theorem Search.firstWith_eq {answer : Except Failure (Option Path)}
    (search : Search question entries answer) : firstWith question entries = answer := by
  cases search with
  | nowhere denied =>
      rw [← List.append_nil entries, firstWith_of_denied [] denied]
      rfl
  | found split denied affirmed =>
      rw [split, firstWith_of_denied _ denied, firstWith_of_true affirmed]
  | failed split denied fails =>
      rw [split, firstWith_of_denied _ denied, firstWith_of_error fails]

theorem firstWith_eq_iff {answer : Except Failure (Option Path)} :
    firstWith question entries = answer ↔ Search question entries answer := by
  constructor
  · rintro rfl
    exact search_firstWith question entries
  · exact Search.firstWith_eq

/-- The entry that is found is one of the entries and has an affirmative answer. -/
theorem of_firstWith (found : firstWith question entries = .ok (some entry)) :
    entry ∈ entries ∧ question entry = .ok true := by
  cases firstWith_eq_iff.1 found with
  | found split denied affirmed => exact ⟨by rw [split]; simp, affirmed⟩

end

/-! ## What answers depend on -/

section

variable {wanted : String} (same : stat disk' cwd entry = stat disk cwd entry)

include same

/-- Trees that tell the same about an entry agree whether it is a directory, so that the same is done with
it. -/
theorem bind_isDir_congr {α : Type} {one one' other other' : Except Failure α}
    (directory : ∀ inside, stat disk cwd entry = .ok (.dir inside) → one' = one)
    (archive : other' = other) :
    ((isDir disk' cwd entry).mapError Failure.system >>= fun answer => if answer then one' else other') =
      ((isDir disk cwd entry).mapError Failure.system >>= fun answer =>
        if answer then one else other) := by
  have told : isDir disk' cwd entry = isDir disk cwd entry := ask_congr same Node.isDir
  rw [told]
  cases answer : isDir disk cwd entry with
  | error failure => rfl
  | ok isDirectory =>
      cases isDirectory with
      | false => exact archive
      | true =>
          obtain ⟨-, inside, found⟩ := isDir_iff.1 answer
          exact directory inside found

theorem readFile_congr : readFile disk' cwd entry = readFile disk cwd entry := by
  rw [readFile, readFile, read_congr same]

variable (below : ∀ inside, stat disk cwd entry = .ok (.dir inside) →
  stat disk' cwd (entry / Path.ofString wanted) = stat disk cwd (entry / Path.ofString wanted))

include below

/-- Trees that tell the same about an entry, and about the class file below it if it is a directory, agree
whether the entry has the class. -/
theorem provides_congr : provides disk' cwd wanted entry = provides disk cwd wanted entry := by
  apply bind_isDir_congr same
  · intro inside found
    rw [isFile, isFile, ask_congr (below inside found)]
  · rw [archiveProvides, archiveProvides, read_congr same]

/-- They agree on what is read from it, too. -/
theorem readFrom_congr : readFrom disk' cwd wanted entry = readFrom disk cwd wanted entry := by
  apply bind_isDir_congr same
  · intro inside found
    exact readFile_congr (below inside found)
  · rw [readFile_congr same]

end

section

variable (linkFree : disk.linkCount = 0)
  (same : ∀ entry ∈ classpath.entries, stat disk' cwd entry = stat disk cwd entry)
  (away : isRooted className = true →
    stat disk' cwd (classFile className) = stat disk cwd (classFile className))

include linkFree same away

/-- The class file of a directory is below it or at a place that does not depend on it. -/
theorem stat_classFile_congr (member : entry ∈ classpath.entries)
    (found : stat disk cwd entry = .ok (.dir inside)) :
    stat disk' cwd (entry / classFile className) = stat disk cwd (entry / classFile className) := by
  have isRooted := isAbsolute_classFile className
  by_cases relative : (classFile className).anchor = .relative
  · obtain ⟨place, leads⟩ := lookup_of_stat found
    have free := Listing.linkCount_of_at? linkFree (at?_of_lookup leads)
    exact stat_join free relative (names_classFile_ne_nil className)
      (fun _ member => isEntryName_of_mem_classFile member) found ((same entry member).trans found)
  · rw [Path.append_absolute relative]
    apply away
    rw [← isRooted]
    simpa [Path.isAbsolute] using relative

theorem locate_congr : classpath.locate disk' cwd className = classpath.locate disk cwd className := by
  apply firstWith_congr
  intro entry member
  exact provides_congr (same entry member) fun _ found =>
    stat_classFile_congr linkFree same away member found

theorem readClass_congr :
    classpath.readClass disk' cwd className = classpath.readClass disk cwd className := by
  rw [readClass, readClass, locate_congr linkFree same away]
  cases located : classpath.locate disk cwd className with
  | error failure => rfl
  | ok answer =>
      cases answer with
      | none => rfl
      | some entry =>
          have member := (of_firstWith located).1
          change (readFrom _ _ _ _ >>= _) = (readFrom _ _ _ _ >>= _)
          rw [readFrom_congr (same entry member) fun _ found =>
            stat_classFile_congr linkFree same away member found]

end

/-! ## What is found -/

section

variable {wanted : String} (affirmed : provides disk cwd wanted entry = .ok true)
  (found : stat disk cwd entry = .ok (.dir inside))

include affirmed found

/-- A directory that provides a class has a file at the path of the class. -/
theorem isFile_of_provides :
    isDir disk cwd entry = .ok true ∧ isFile disk cwd (entry / Path.ofString wanted) = .ok true := by
  rw [provides] at affirmed
  cases answer : isDir disk cwd entry with
  | error failure =>
      rw [answer] at affirmed
      contradiction
  | ok isDirectory =>
      rw [answer] at affirmed
      cases isDirectory with
      | false =>
          change archiveProvides disk cwd entry wanted = .ok true at affirmed
          rw [archiveProvides, Disk.read, found] at affirmed
          split at affirmed <;> cases affirmed
      | true =>
          change (isFile disk cwd (entry / Path.ofString wanted)).mapError _ = .ok true at affirmed
          cases told : isFile disk cwd (entry / Path.ofString wanted) with
          | ok isOne =>
              rw [told] at affirmed
              cases affirmed
              exact ⟨rfl, rfl⟩
          | error failure =>
              rw [told] at affirmed
              contradiction

/-- What is read from a directory that provides a class are the bytes of this file. -/
theorem readFrom_of_provides : ∃ data,
    stat disk cwd (entry / Path.ofString wanted) = .ok (.file data) ∧
      readFrom disk cwd wanted entry = .ok data.bytes := by
  obtain ⟨isDirectory, isOne⟩ := isFile_of_provides affirmed found
  obtain ⟨noNul, data, there⟩ := stat_of_isFile isOne
  refine ⟨data, there, ?_⟩
  rw [readFrom, isDirectory]
  change readFile disk cwd (entry / Path.ofString wanted) = .ok data.bytes
  rw [readFile, noNul, Disk.read, there]
  rfl

end

/-- What is read of a class is what the entry that provides it holds. -/
theorem readClass_of_readFrom {bytes : List UInt8}
    (located : classpath.locate disk cwd className = .ok (some entry))
    (reads : readFrom disk cwd (resource className) entry = .ok bytes) :
    classpath.readClass disk cwd className = .ok (some bytes) := by
  rw [readClass, located]
  change (readFrom disk cwd (resource className) entry >>= _) = _
  rw [reads]
  rfl

/-- Where the class file of a directory is, in a tree without links. -/
theorem row_of_lookup_classFile {place row : List String} {data : FileData}
    (linkFree : disk.linkCount = 0) (leads : lookup disk cwd true entry = .found place (.dir inside))
    (leadsOn : lookup disk cwd true (entry / classFile className) = .found row (.file data)) :
    (isRooted className = false → row = place ++ (classFile className).names ∧
        inside.at? (classFile className).names = some (.file data)) ∧
      (isRooted className = true → row = (classFile className).names) := by
  rw [← isAbsolute_classFile]
  have more := names_classFile_ne_nil className
  have proper : ∀ name ∈ (classFile className).names, isEntryName name = true :=
    fun _ member => isEntryName_of_mem_classFile member
  generalize classFile className = file at leadsOn more proper ⊢
  constructor
  · intro relative
    rw [Path.isAbsolute, decide_eq_false_iff_not, Decidable.not_not] at relative
    exact row_of_lookup_join linkFree relative more proper leads leadsOn
  · intro rooted
    have absolute : file.anchor ≠ .relative := by
      simpa [Path.isAbsolute] using rooted
    rw [Path.append_absolute absolute, lookup, rooted] at leadsOn
    split at leadsOn
    · contradiction
    · exact follow_row linkFree proper leadsOn

end Classpath

/-! ## A small tree -/

namespace Sample

/-- What a directory of classes holds. -/
def orders : Listing :=
  .dir "com" (.dir "acme" (.file "Order.class" ⟨[0x6f], 0o644, false⟩ .empty) .empty) .empty

/-- The directory of classes beside one that is no business of the class path. -/
def shelves : Listing :=
  .dir "lib" orders (.dir "secret" (.file "Key.class" ⟨[0x6b], 0o644, false⟩ .empty) .empty)

/-- The directory of classes. -/
def lib : Path := ⟨.root, ["lib"], by decide⟩

/-- The class path of this directory. -/
def shelf : Classpath := ⟨[lib]⟩

end Sample

namespace Classpath

open Disk

variable {disk : Listing}

/-! ## Lookups -/

/-- In a tree without links, a class that a directory provides has its file below the directory, at the
names of the class file, and the bytes of this file are read, if the name of the class starts with neither a
point nor a slash.  If it starts with one, the file is at these names from the root on, whatever the
directory is.  What is answered depends on what the entries lead to, and in the second case on what that
path leads to, and on nothing else. -/
theorem lookups_confined (linkFree : disk.linkCount = 0) (classpath : Classpath) (cwd : List String)
    (className : String) :
    (∀ entry inside, classpath.locate disk cwd className = .ok (some entry) →
      stat disk cwd entry = .ok (.dir inside) →
      ∃ place row data, lookup disk cwd true entry = .found place (.dir inside) ∧
        lookup disk cwd true (entry / classFile className) = .found row (.file data) ∧
        classpath.readClass disk cwd className = .ok (some data.bytes) ∧
        (isRooted className = false → (classFile className).names ≠ [] ∧
          row = place ++ (classFile className).names ∧
          inside.at? (classFile className).names = some (.file data)) ∧
        (isRooted className = true → row = (classFile className).names)) ∧
    ∀ disk', (∀ entry ∈ classpath.entries, stat disk' cwd entry = stat disk cwd entry) →
      (isRooted className = true →
        stat disk' cwd (classFile className) = stat disk cwd (classFile className)) →
      classpath.locate disk' cwd className = classpath.locate disk cwd className ∧
        classpath.readClass disk' cwd className = classpath.readClass disk cwd className := by
  constructor
  · intro entry inside located found
    obtain ⟨data, there, reads⟩ := readFrom_of_provides (of_firstWith located).2 found
    obtain ⟨place, leads⟩ := lookup_of_stat found
    obtain ⟨row, leadsOn⟩ := lookup_of_stat there
    obtain ⟨inward, outward⟩ := row_of_lookup_classFile linkFree leads leadsOn
    exact ⟨place, row, data, leads, leadsOn, readClass_of_readFrom located reads,
      fun relative => ⟨names_classFile_ne_nil className, inward relative⟩, outward⟩
  · intro disk' same away
    exact ⟨locate_congr linkFree same away, readClass_congr linkFree same away⟩

/-- A class of a directory is found below it. -/
theorem lookups_confined_order : ∃ (inside : Listing) (place row : List String) (data : FileData),
    Sample.shelves.linkCount = 0 ∧ isRooted "com.acme.Order" = false ∧
      Sample.shelf.locate Sample.shelves [] "com.acme.Order" = .ok (some Sample.lib) ∧
      lookup Sample.shelves [] true Sample.lib = .found place (.dir inside) ∧
      lookup Sample.shelves [] true (Sample.lib / classFile "com.acme.Order") =
        .found row (.file data) ∧
      row = place ++ (classFile "com.acme.Order").names ∧
      Sample.shelf.readClass Sample.shelves [] "com.acme.Order" = .ok (some data.bytes) := by
  have linkFree : Sample.shelves.linkCount = 0 := by decide
  have relative : isRooted "com.acme.Order" = false := by decide +kernel
  have located : Sample.shelf.locate Sample.shelves [] "com.acme.Order" = .ok (some Sample.lib) := by
    decide +kernel
  obtain ⟨-, inside, found⟩ := isDir_iff.1
    (show isDir Sample.shelves [] Sample.lib = .ok true by decide +kernel)
  obtain ⟨confined, -⟩ := lookups_confined linkFree Sample.shelf [] "com.acme.Order"
  obtain ⟨place, row, data, leads, leadsOn, reads, inward, -⟩ := confined Sample.lib inside located found
  exact ⟨inside, place, row, data, linkFree, relative, located, leads, leadsOn, (inward relative).2.1,
    reads⟩

/-- The name of a class that starts with a slash makes a directory provide a file that is not below it, and
its bytes are read. Whether it is there is not known from what stands at the entries. -/
theorem lookups_escape : ∃ (data : FileData) (other : Listing),
    Sample.shelves.linkCount = 0 ∧ other.linkCount = 0 ∧
      Sample.shelf.locate Sample.shelves [] "/secret/Key" = .ok (some Sample.lib) ∧
      lookup Sample.shelves [] true Sample.lib = .found ["lib"] (.dir Sample.orders) ∧
      lookup Sample.shelves [] true (Sample.lib / classFile "/secret/Key") =
        .found ["secret", "Key.class"] (.file data) ∧
      ¬ ["lib"] <+: ["secret", "Key.class"] ∧
      Sample.shelf.readClass Sample.shelves [] "/secret/Key" = .ok (some data.bytes) ∧
      (∀ entry ∈ Sample.shelf.entries, stat other [] entry = stat Sample.shelves [] entry) ∧
      Sample.shelf.locate other [] "/secret/Key" = .ok none := by
  refine ⟨⟨[0x6b], 0o644, false⟩, .dir "lib" Sample.orders .empty, by decide, by decide,
    by decide +kernel, by rfl, by rfl, by decide, by decide +kernel, ?_, by decide +kernel⟩
  intro entry member
  cases List.mem_singleton.1 member
  decide +kernel

end Classpath

end Enhance
