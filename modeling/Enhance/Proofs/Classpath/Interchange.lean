import Enhance.Proofs.Classpath.Providers
import Mathlib.Data.List.Forall2

/-!
# Directories and archives with the same contents

A directory and an archive that hold the same files answer in the same way about every class whose name has
no empty parts: the path of the class file is then written exactly as the member of the archive is named
(`toString_classFile`).  So it makes no difference to a class path which of the two stands at a place
(`lookups_interchange`).  The archive must not have further members, even if they cannot be read
(`lookups_differ_sealed`).
-/

namespace Enhance

namespace Text

/-- A separator between two texts is a place where they are cut. -/
theorem pieces_append_sep (sep : Char) (front back : List Char) :
    pieces sep (front ++ sep :: back) = pieces sep front ++ pieces sep back := by
  induction front with
  | nil => rw [List.nil_append, pieces_sep, pieces_nil, List.singleton_append]
  | cons c rest ih =>
      rw [List.cons_append]
      by_cases isSep : c = sep
      · rw [isSep, pieces_sep, pieces_sep, ih, List.cons_append]
      · rw [pieces, pieces, if_neg isSep, if_neg isSep, ih]
        cases cut : pieces sep rest with
        | nil => exact absurd cut (pieces_ne_nil _ _)
        | cons piece more => rfl

end Text

/-- A directory holds exactly these files, at relative paths, and no links. -/
structure Listing.HoldsFiles (inside : Listing) (files : List (Path × List UInt8)) : Prop where
  linkFree : inside.linkCount = 0
  mem_iff : ∀ path bytes, (path, bytes) ∈ files ↔
    path.anchor = .relative ∧ ∃ data, inside.at? path.names = some (.file data) ∧ data.bytes = bytes

namespace Archive

/-- Whether a member stands for a directory. -/
def Member.isFolder (member : Member) : Bool :=
  member.name.toList.getLast? = some '/'

/-- An archive holds exactly these files: each can be read under the text of its path, and there are no
members under other names, but for those that stand for directories. -/
structure HoldsFiles (bytes : List UInt8) (files : List (Path × List UInt8)) : Prop where
  reads : ∀ path content, (path, content) ∈ files → readClass bytes path.toString = .ok content
  listed : ∃ found, members bytes = .ok found ∧ ∀ member ∈ found, member.isFolder = false →
    ∃ path content, (path, content) ∈ files ∧ path.toString = member.name

end Archive

namespace Classpath

open Disk Text

variable {disk : Listing} {cwd : List String} {className : String} {entry other : Path}
  {files : List (Path × List UInt8)}

/-! ## Names of classes without empty parts -/

/-- The parts of the name of a class, between points and slashes. -/
def segments (className : String) : List (List Char) :=
  pieces '/' (className.toList.map fun c => if c = '.' then '/' else c)

/-- No part of the name of a class is empty or holds the character that ends texts in system calls. -/
def IsRegular (className : String) : Prop :=
  ∀ segment ∈ segments className, segment ≠ [] ∧ '\x00' ∉ segment

/-- The ending is cut off as a part of its own, since it starts with a point. -/
theorem pieces_append_ending (front : List Char) :
    pieces '/' ((front ++ ending).map fun c => if c = '.' then '/' else c) =
      pieces '/' (front.map fun c => if c = '.' then '/' else c) ++ [['c', 'l', 'a', 's', 's']] := by
  have replaced : (front ++ ending).map (fun c => if c = '.' then '/' else c) =
      front.map (fun c => if c = '.' then '/' else c) ++ '/' :: ['c', 'l', 'a', 's', 's'] := by
    simp [ending]
  have word : pieces '/' ['c', 'l', 'a', 's', 's'] = [['c', 'l', 'a', 's', 's']] := rfl
  rw [replaced, pieces_append_sep, word]

/-- Leaving the ending away leaves a part away. -/
theorem pieces_slashed_subset (className : String) :
    pieces '/' (slashed className) ⊆ segments className := by
  rw [slashed, segments]
  by_cases ends : ending <:+ className.toList
  · obtain ⟨front, whole⟩ := ends
    rw [← whole, withoutEnding_append, pieces_append_ending]
    exact List.subset_append_left _ _
  · rw [withoutEnding_of_not_suffix ends]
    exact List.Subset.refl _

/-- How the class file of a regular name is cut into names. -/
theorem pieces_resource (regular : IsRegular className) :
    ∀ piece ∈ pieces '/' (slashed className ++ ending),
      isName (String.ofList piece) = true ∧ '\x00' ∉ piece := by
  have subset := pieces_slashed_subset className
  obtain ⟨front, last, cut, cut'⟩ := exists_pieces_append (slashed className)
    (show '/' ∉ ending by decide)
  intro piece member
  rw [Path.isName_iff, String.toList_ofList]
  have noSlash := sep_notMem_of_mem_pieces member
  rw [cut', List.mem_append, List.mem_singleton] at member
  rcases member with earlier | rfl
  · have isPiece : piece ∈ pieces '/' (slashed className) := by
      rw [cut]
      exact List.mem_append_left _ earlier
    obtain ⟨nonempty, noNul⟩ := regular piece (subset isPiece)
    refine ⟨⟨nonempty, ?_, noSlash⟩, noNul⟩
    rintro rfl
    exact dot_notMem_slashed className (mem_of_mem_pieces isPiece List.mem_cons_self)
  · have isPiece : last ∈ pieces '/' (slashed className) := by
      rw [cut]
      exact List.mem_append_right _ List.mem_cons_self
    have noNul := (regular last (subset isPiece)).2
    refine ⟨⟨by simp [ending], ?_, noSlash⟩, by simp [ending, noNul]⟩
    intro same
    simpa [ending] using congrArg List.length same

theorem names_of_regular (regular : IsRegular className) :
    (classFile className).names = (pieces '/' (slashed className ++ ending)).map String.ofList := by
  rw [names_classFile, Path.namesOf, List.filter_eq_self]
  intro name member
  obtain ⟨piece, isPiece, rfl⟩ := List.mem_map.1 member
  exact (pieces_resource regular piece isPiece).1

/-- The path of the class file of a regular name leads from an entry on. -/
theorem anchor_of_regular (regular : IsRegular className) :
    (classFile className).anchor = .relative := by
  rw [anchor_classFile]
  apply Path.anchorOf_of_ne_slash
  intro rest leads
  have first := pieces_resource regular [] (by rw [leads, pieces_sep]; exact List.mem_cons_self)
  exact absurd first.1 (by decide)

/-- The path of the class file of a regular name is written as the class file is named. -/
theorem toString_classFile (regular : IsRegular className) :
    (classFile className).toString = resource className := by
  have texts : (classFile className).names.map String.toList =
      pieces '/' (slashed className ++ ending) := by
    rw [names_of_regular regular, List.map_map]
    exact (List.map_congr_left fun piece _ => String.toList_ofList).trans (List.map_id _)
  have written : (classFile className).chars = slashed className ++ ending := by
    rw [Path.chars, anchor_of_regular regular]
    split
    · next none => exact absurd none (names_classFile_ne_nil className)
    · rw [texts, joined_pieces]
      rfl
  rw [Path.toString, written, ← toList_resource, String.ofList_toList]

theorem hasNul_of_regular (regular : IsRegular className) (noNul : hasNul entry = false) :
    hasNul (entry / classFile className) = false := by
  rw [hasNul_eq_false_iff] at noNul ⊢
  rw [(Path.append_relative entry (anchor_of_regular regular)).2, names_of_regular regular]
  intro name member
  rcases List.mem_append.1 member with onTheWay | below
  · exact noNul name onTheWay
  · obtain ⟨piece, isPiece, rfl⟩ := List.mem_map.1 below
    rw [String.toList_ofList]
    exact (pieces_resource regular piece isPiece).2

/-! ## Entries that hold files -/

/-- An entry is a directory that holds exactly these files. -/
structure IsDirectoryOf (disk : Listing) (cwd : List String) (files : List (Path × List UInt8))
    (entry : Path) : Prop where
  noNul : hasNul entry = false
  holds : ∃ inside, stat disk cwd entry = .ok (.dir inside) ∧ inside.HoldsFiles files

/-- An entry is an archive that holds exactly these files. -/
structure IsArchiveOf (disk : Listing) (cwd : List String) (files : List (Path × List UInt8))
    (entry : Path) : Prop where
  noNul : hasNul entry = false
  holds : ∃ data, stat disk cwd entry = .ok (.file data) ∧ Archive.HoldsFiles data.bytes files

/-- An entry answers about a class as these files tell. -/
structure Serves (disk : Listing) (cwd : List String) (className : String)
    (files : List (Path × List UInt8)) (entry : Path) : Prop where
  affirms : ∀ content, (classFile className, content) ∈ files →
    Has disk cwd className entry (.ok content)
  denies : (∀ content, (classFile className, content) ∉ files) →
    provides disk cwd (resource className) entry = .ok false

theorem serves_of_directory (regular : IsRegular className) (fits : Fits (entry / classFile className))
    (isDirectory : IsDirectoryOf disk cwd files entry) : Serves disk cwd className files entry := by
  obtain ⟨noNul, inside, found, linkFree, mem_iff⟩ := isDirectory
  have relative := anchor_of_regular regular
  obtain ⟨there, absent⟩ := stat_join_at? linkFree relative (names_classFile_ne_nil className)
    (fun _ member => isEntryName_of_mem_classFile member) fits found
  have noNul' := hasNul_of_regular regular noNul
  constructor
  · intro content member
    obtain ⟨-, data, held, rfl⟩ := (mem_iff _ _).1 member
    exact .directory noNul found noNul' (there _ held)
  · intro missing
    rw [provides_of_directory (isDir_iff.2 ⟨noNul, inside, found⟩)]
    change (isFile disk cwd (entry / classFile className)).mapError _ = _
    cases held : inside.at? (classFile className).names with
    | none =>
        obtain ⟨code, failed, nowhere⟩ := absent held
        rw [isFile, ask, noNul', failed]
        simp [nowhere]
    | some node =>
        rw [isFile, ask, noNul', there node held]
        cases node with
        | dir | link => rfl
        | file data => exact absurd ((mem_iff _ _).2 ⟨relative, data, held, rfl⟩) (missing _)

/-- The name of a class file is not that of a directory. -/
theorem isFolder_eq_false {member : Archive.Member} (named : member.name = resource className) :
    member.isFolder = false := by
  rw [Archive.Member.isFolder, named, toList_resource, ending]
  simp

theorem serves_of_archive (regular : IsRegular className) (isArchive : IsArchiveOf disk cwd files entry) :
    Serves disk cwd className files entry := by
  obtain ⟨noNul, data, isFile, reads, found, listed, known⟩ := isArchive
  have named := toString_classFile regular
  constructor
  · intro content member
    have read := reads _ _ member
    rw [named, Archive.readClass_of_members listed] at read
    cases last : Archive.find? (resource className) found with
    | none =>
        rw [last] at read
        contradiction
    | some member =>
        rw [last] at read
        rw [← read]
        exact .archive noNul isFile listed (Archive.find?_eq_some_iff.1 last)
  · intro missing
    rw [provides_of_other (isDir_of_file isFile), archiveProvides_of_file noNul isFile,
      Archive.hasClass_eq, Archive.looksLikeArchive_of_members listed, listed]
    cases last : Archive.find? (resource className) found with
    | none => simp [Except.map, last]
    | some member =>
        obtain ⟨before, after, rfl, same, -⟩ := Archive.find?_eq_some_iff.1 last
        obtain ⟨path, content, held, text⟩ := known member (by simp) (isFolder_eq_false same)
        have isFile : path = classFile className :=
          Path.toString_injective (text.trans (same.trans named.symm))
        exact absurd (isFile ▸ held) (missing content)

/-- Entries that answer as the same files tell have the same classes, and the same is read of them. -/
theorem Serves.agree (one : Serves disk cwd className files entry)
    (two : Serves disk cwd className files other) :
    provides disk cwd (resource className) other = provides disk cwd (resource className) entry ∧
      (provides disk cwd (resource className) entry = .ok true →
        readFrom disk cwd (resource className) other = readFrom disk cwd (resource className) entry) := by
  by_cases held : ∃ content, (classFile className, content) ∈ files
  · obtain ⟨content, member⟩ := held
    have has := one.affirms content member
    have has' := two.affirms content member
    rw [provides_eq_true_iff.2 ⟨_, has⟩, provides_eq_true_iff.2 ⟨_, has'⟩, readFrom_of_has has,
      readFrom_of_has has']
    exact ⟨rfl, fun _ => rfl⟩
  · rw [not_exists] at held
    rw [one.denies held, two.denies held]
    exact ⟨rfl, nofun⟩

/-! ## Class paths with entries exchanged -/

/-- At a place of two class paths the entry is the same, or one is the directory and the other the
archive. -/
inductive Exchanged (directory archive : Path) : Path → Path → Prop
  | same (entry : Path) : Exchanged directory archive entry entry
  | forth : Exchanged directory archive directory archive
  | back : Exchanged directory archive archive directory

section

variable {question : Path → Except Failure Bool} {related : Path → Path → Prop}
  {entries others : List Path}

/-- Of lists whose entries have the same answers, place by place, the entries at the same place are
found. -/
theorem firstWith_of_forall₂ (paired : List.Forall₂ related entries others)
    (alike : ∀ entry other, related entry other → question other = question entry) :
    (∃ (n : Nat) (entry other : Path), entries[n]? = some entry ∧ others[n]? = some other ∧
        related entry other ∧ firstWith question entries = .ok (some entry) ∧
        firstWith question others = .ok (some other)) ∨
      (∀ entry, firstWith question entries ≠ .ok (some entry)) ∧
        firstWith question others = firstWith question entries := by
  induction paired with
  | nil => exact .inr ⟨nofun, rfl⟩
  | @cons entry other entries others pair rest ih =>
      have same := alike entry other pair
      cases answer : question entry with
      | error failure =>
          rw [answer] at same
          rw [firstWith_of_error answer, firstWith_of_error same]
          exact .inr ⟨nofun, rfl⟩
      | ok affirmed =>
          rw [answer] at same
          cases affirmed with
          | true =>
              exact .inl ⟨0, entry, other, rfl, rfl, pair, firstWith_of_true answer,
                firstWith_of_true same⟩
          | false =>
              rw [firstWith_of_false answer, firstWith_of_false same]
              rcases ih with ⟨n, found⟩ | same
              · exact .inl ⟨n + 1, found⟩
              · exact .inr same

end

end Classpath

/-! ## The same class in a directory and in an archive -/

namespace Listing

variable {inside : Listing} {row : List String} {data found : FileData}

/-- In a directory whose only entry is a directory the files are in that one. -/
theorem exists_of_at?_dir (name : String)
    (there : (Listing.dir name inside .empty).at? row = some (.file data)) :
    ∃ rest, row = name :: rest ∧ inside.at? rest = some (.file data) := by
  cases row with
  | nil => cases there
  | cons first rest =>
      rw [at?_cons, find?] at there
      split at there
      · next same => exact ⟨rest, by rw [same], there⟩
      · cases there

/-- In a directory whose only entry is a file there are no other files. -/
theorem eq_of_at?_file (name : String)
    (there : (Listing.file name found .empty).at? row = some (.file data)) :
    row = [name] ∧ found = data := by
  cases row with
  | nil => cases there
  | cons first rest =>
      rw [at?_cons, find?] at there
      split at there
      · next same =>
          cases rest with
          | nil =>
              cases there
              exact ⟨by rw [same], rfl⟩
          | cons => cases there
      · cases there

end Listing

namespace Sample

/-- The path of the class file in both. -/
def order : Path := ⟨.relative, ["com", "acme", "Order.class"], by decide⟩

/-- What both hold. -/
def orderFiles : List (Path × List UInt8) := [(order, [0x6f])]

theorem at?_orders {row : List String} {data : FileData} (found : orders.at? row = some (.file data)) :
    row = order.names ∧ data.bytes = [0x6f] := by
  obtain ⟨inCom, rfl, found⟩ := Listing.exists_of_at?_dir "com" found
  obtain ⟨inAcme, rfl, found⟩ := Listing.exists_of_at?_dir "acme" found
  obtain ⟨rfl, rfl⟩ := Listing.eq_of_at?_file "Order.class" found
  exact ⟨rfl, rfl⟩

theorem orders_holdsFiles : orders.HoldsFiles orderFiles := by
  refine ⟨by decide, fun path bytes => ?_⟩
  rw [orderFiles, List.mem_singleton, Prod.mk.injEq]
  constructor
  · rintro ⟨rfl, rfl⟩
    exact ⟨rfl, ⟨[0x6f], 0o644, false⟩, by decide +kernel, rfl⟩
  · rintro ⟨relative, data, found, rfl⟩
    obtain ⟨names, content⟩ := at?_orders found
    exact ⟨Path.ext relative names, content⟩

theorem orderArchive_holdsFiles : Archive.HoldsFiles orderArchive orderFiles := by
  have names : (Archive.members orderArchive).map (·.map (·.name)) = .ok ["com/acme/Order.class"] := by
    decide +kernel
  constructor
  · intro path content member
    rw [orderFiles, List.mem_singleton, Prod.mk.injEq] at member
    obtain ⟨rfl, rfl⟩ := member
    decide +kernel
  · cases listed : Archive.members orderArchive with
    | error error =>
        rw [listed] at names
        contradiction
    | ok found =>
        rw [listed] at names
        refine ⟨found, rfl, fun member isOne _ => ⟨order, [0x6f], List.mem_cons_self, ?_⟩⟩
        have isName : member.name ∈ ["com/acme/Order.class"] := by
          rw [← Except.ok.inj names]
          exact List.mem_map_of_mem isOne
        rw [List.mem_singleton.1 isName]
        decide +kernel

end Sample

namespace Classpath

open Disk Text

variable {disk : Listing} {cwd : List String} {className : String}
  {files : List (Path × List UInt8)} {directory archive : Path}

/-- If a directory and an archive hold the same files, it makes no difference to a class path at which of its
places the one stands for the other: of a class whose name has no empty parts the same is read, and the
entry at the same place is located, or none, or looking for it fails in the same way.  The path of the class
file below the directory must not be too long for the system. -/
theorem lookups_interchange (isDirectory : IsDirectoryOf disk cwd files directory)
    (isArchive : IsArchiveOf disk cwd files archive) (regular : IsRegular className)
    (fits : Fits (directory / classFile className)) {entries others : List Path}
    (exchanged : List.Forall₂ (Exchanged directory archive) entries others) :
    Classpath.readClass ⟨others⟩ disk cwd className = Classpath.readClass ⟨entries⟩ disk cwd className ∧
    ((∃ (n : Nat) (entry other : Path), entries[n]? = some entry ∧ others[n]? = some other ∧
        Exchanged directory archive entry other ∧
        Classpath.locate ⟨entries⟩ disk cwd className = .ok (some entry) ∧
        Classpath.locate ⟨others⟩ disk cwd className = .ok (some other)) ∨
      (∀ entry, Classpath.locate ⟨entries⟩ disk cwd className ≠ .ok (some entry)) ∧
        Classpath.locate ⟨others⟩ disk cwd className = Classpath.locate ⟨entries⟩ disk cwd className) := by
  have one := serves_of_directory regular fits isDirectory
  have two := serves_of_archive regular isArchive
  have agree (entry other : Path) (pair : Exchanged directory archive entry other) :
      provides disk cwd (resource className) other = provides disk cwd (resource className) entry ∧
        (provides disk cwd (resource className) entry = .ok true →
          readFrom disk cwd (resource className) other = readFrom disk cwd (resource className) entry) := by
    cases pair with
    | same => exact ⟨rfl, fun _ => rfl⟩
    | forth => exact one.agree two
    | back => exact two.agree one
  have located := firstWith_of_forall₂ exchanged fun entry other pair => (agree entry other pair).1
  refine ⟨?_, located⟩
  rcases located with ⟨n, entry, other, -, -, pair, found, found'⟩ | ⟨-, same⟩
  · have affirmed := (of_firstWith found).2
    have reads := (agree entry other pair).2 affirmed
    change (Classpath.locate ⟨others⟩ disk cwd className >>= _) =
      (Classpath.locate ⟨entries⟩ disk cwd className >>= _)
    rw [locate, found', locate, found]
    change (readFrom disk cwd _ other >>= _) = (readFrom disk cwd _ entry >>= _)
    rw [reads]
  · exact readClass_of_locate same

/-- A member that is encrypted cannot be read. -/
theorem readMember_of_encrypted {bytes : List UInt8} {member : Archive.Member}
    (encrypted : member.flags.testBit 0 = true) (wanted : String) (content : List UInt8) :
    Archive.readMember bytes member wanted ≠ .ok content := by
  rw [Archive.readMember]
  cases Archive.dataOffset bytes member with
  | error failure => nofun
  | ok start =>
      intro read
      simp only [encrypted] at read
      cases read

/-- Nothing can be read of an archive all of whose members are encrypted. -/
theorem readClass_of_encrypted {bytes : List UInt8} {found : List Archive.Member}
    (listed : Archive.members bytes = .ok found)
    (encrypted : ∀ member ∈ found, member.flags.testBit 0 = true) (name : String)
    (content : List UInt8) : Archive.readClass bytes name ≠ .ok content := by
  rw [Archive.readClass_of_members listed]
  cases last : Archive.find? name found with
  | none => nofun
  | some member =>
      obtain ⟨before, after, rfl, -⟩ := Archive.find?_eq_some_iff.1 last
      exact readMember_of_encrypted (encrypted member (by simp)) name content

end Classpath

namespace Sample

/-- The fields that the header of an encrypted member has in common with its entry. -/
def sealedFields : List UInt8 :=
  [0x14, 0, 1, 0, 0, 0, 0, 0, 0x21, 0, 0x44, 0x93, 0xf, 0xf, 1, 0, 0, 0, 1, 0, 0, 0, 7, 0, 0, 0]

/-- An archive with one member, which is encrypted. -/
def sealedArchive : List UInt8 :=
  let name := "A.class".toList.map fun c => c.toNat.toUInt8
  Archive.headerMark ++ sealedFields ++ name ++ [0x6f] ++
    (Archive.entryMark ++ [0x14, 3] ++ sealedFields ++ List.replicate 14 0 ++ name) ++
    (Archive.endMark ++ [0, 0, 0, 0, 1, 0, 1, 0, 0x35, 0, 0, 0, 0x26, 0, 0, 0, 0, 0])

/-- An empty directory and the archive. -/
def safe : Listing :=
  .dir "lib" .empty (.file "sealed.jar" ⟨sealedArchive, 0o644, false⟩ .empty)

/-- The archive. -/
def sealedJar : Path := ⟨.root, ["sealed.jar"], by decide⟩

end Sample

namespace Classpath

open Disk

/-- An empty directory and an archive of which nothing can be read do not stand for each other if the
archive has a member: the one has no class and the other has one that cannot be read. -/
theorem lookups_differ_sealed :
    IsDirectoryOf Sample.safe [] [] Sample.lib ∧
      (∃ data, stat Sample.safe [] Sample.sealedJar = .ok (.file data) ∧
        ∀ name content, Archive.readClass data.bytes name ≠ .ok content) ∧
      IsRegular "A" ∧ Fits (Sample.lib / classFile "A") ∧
      Classpath.locate ⟨[Sample.lib]⟩ Sample.safe [] "A" = .ok none ∧
      Classpath.locate ⟨[Sample.sealedJar]⟩ Sample.safe [] "A" = .ok (some Sample.sealedJar) ∧
      Classpath.readClass ⟨[Sample.lib]⟩ Sample.safe [] "A" = .ok none ∧
      Classpath.readClass ⟨[Sample.sealedJar]⟩ Sample.safe [] "A" =
        .error (.archive (.encrypted "A.class")) := by
  have empty : (Listing.empty).HoldsFiles [] := by
    refine ⟨rfl, fun path bytes => iff_of_false (by simp) ?_⟩
    rintro ⟨-, data, found, -⟩
    cases names : path.names with
    | nil =>
        rw [names] at found
        cases found
    | cons first rest =>
        rw [names] at found
        cases found
  refine ⟨⟨by decide +kernel, .empty, by decide +kernel, empty⟩,
    ⟨⟨Sample.sealedArchive, 0o644, false⟩, by decide +kernel, ?_⟩, ?_, ⟨by decide +kernel, by decide +kernel⟩,
    by decide +kernel, by decide +kernel, by decide +kernel, by decide +kernel⟩
  · have flags : (Archive.members Sample.sealedArchive).map (·.all (·.flags.testBit 0)) = .ok true := by
      decide +kernel
    cases listed : Archive.members Sample.sealedArchive with
    | error error =>
        rw [listed] at flags
        contradiction
    | ok found =>
        rw [listed] at flags
        exact readClass_of_encrypted listed (List.all_eq_true.1 (Except.ok.inj flags))
  · unfold IsRegular
    decide +kernel

/-- The directory and the archive of orders stand for each other behind a text. -/
theorem lookups_interchange_orders :
    IsDirectoryOf Sample.depot [] Sample.orderFiles Sample.lib ∧
      IsArchiveOf Sample.depot [] Sample.orderFiles Sample.ordersJar ∧
      IsRegular "com.acme.Order" ∧ Fits (Sample.lib / classFile "com.acme.Order") ∧
      List.Forall₂ (Exchanged Sample.lib Sample.ordersJar) [Sample.notes, Sample.lib]
        [Sample.notes, Sample.ordersJar] ∧
      Classpath.locate ⟨[Sample.notes, Sample.lib]⟩ Sample.depot [] "com.acme.Order" =
        .ok (some Sample.lib) ∧
      Classpath.readClass ⟨[Sample.notes, Sample.ordersJar]⟩ Sample.depot [] "com.acme.Order" =
        Classpath.readClass ⟨[Sample.notes, Sample.lib]⟩ Sample.depot [] "com.acme.Order" ∧
      ∃ entry, Exchanged Sample.lib Sample.ordersJar Sample.lib entry ∧
        Classpath.locate ⟨[Sample.notes, Sample.ordersJar]⟩ Sample.depot [] "com.acme.Order" =
          .ok (some entry) := by
  have isDirectory : IsDirectoryOf Sample.depot [] Sample.orderFiles Sample.lib :=
    ⟨by decide +kernel, Sample.orders, by decide +kernel, Sample.orders_holdsFiles⟩
  have isArchive : IsArchiveOf Sample.depot [] Sample.orderFiles Sample.ordersJar :=
    ⟨by decide +kernel, ⟨Sample.orderArchive, 0o644, false⟩, by decide +kernel,
      Sample.orderArchive_holdsFiles⟩
  have regular : IsRegular "com.acme.Order" := by
    unfold IsRegular
    decide +kernel
  have fits : Fits (Sample.lib / classFile "com.acme.Order") :=
    ⟨by decide +kernel, by decide +kernel⟩
  have exchanged : List.Forall₂ (Exchanged Sample.lib Sample.ordersJar) [Sample.notes, Sample.lib]
      [Sample.notes, Sample.ordersJar] :=
    .cons (.same _) (.cons .forth .nil)
  have located : Classpath.locate ⟨[Sample.notes, Sample.lib]⟩ Sample.depot [] "com.acme.Order" =
      .ok (some Sample.lib) := by
    decide +kernel
  refine ⟨isDirectory, isArchive, regular, fits, exchanged, located, ?_⟩
  obtain ⟨reads, ⟨n, entry, other, -, -, pair, found, found'⟩ | ⟨nowhere, -⟩⟩ :=
    lookups_interchange isDirectory isArchive regular fits exchanged
  · cases located.symm.trans found
    exact ⟨reads, other, pair, found'⟩
  · exact absurd located (nowhere _)

end Classpath

end Enhance
