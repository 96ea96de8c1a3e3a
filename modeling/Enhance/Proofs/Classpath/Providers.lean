import Enhance.Proofs.Classpath.Confinement

/-!
# Which entry provides a class

A directory provides a class if the file of the class is there, and an archive if it lists a member of
exactly the name of that file (`Classpath.Has`).  The entries are asked in their order, so that what is
found is what the first of them has that has the class, and reading a class gives what is found
(`lookups_agree`).  An entry is therefore of no account behind one that has the class, nor is one that does
not have it.
-/

namespace Enhance

namespace Archive

variable {bytes : List UInt8} {name : String} {found : List Member} {member : Member}

/-- A member is the last one of a name. -/
def IsLast (name : String) (found : List Member) (member : Member) : Prop :=
  ∃ before after, found = before ++ member :: after ∧ member.name = name ∧
    ∀ later ∈ after, later.name ≠ name

theorem find?_eq_some_iff : find? name found = some member ↔ IsLast name found member := by
  rw [find?, List.find?_eq_some_iff_append]
  constructor
  · rintro ⟨named, after, before, split, others⟩
    refine ⟨before.reverse, after.reverse, ?_, by simpa using named, by simpa using others⟩
    rw [← List.reverse_inj, split]
    simp
  · rintro ⟨before, after, rfl, named, others⟩
    exact ⟨by simpa using named, after.reverse, before.reverse, by simp, by simpa using others⟩

theorem isSome_find?_iff : (find? name found).isSome = true ↔ ∃ member, IsLast name found member := by
  simp only [Option.isSome_iff_exists, find?_eq_some_iff]

/-- What has a directory that can be read looks like an archive. -/
theorem looksLikeArchive_of_members (listed : members bytes = .ok found) :
    looksLikeArchive bytes = .ok true := by
  rw [members] at listed
  rw [looksLikeArchive]
  cases told : endRecord bytes with
  | error error =>
      rw [told] at listed
      contradiction
  | ok record =>
      rw [told] at listed
      cases record with
      | none => contradiction
      | some record => rfl

/-- Members are looked for in what looks like an archive. -/
theorem hasClass_eq (bytes : List UInt8) (name : String) :
    hasClass bytes name =
      match looksLikeArchive bytes with
      | .error error => .error error
      | .ok false => .ok false
      | .ok true => (members bytes).map fun found => (find? name found).isSome := by
  rw [hasClass]
  cases looksLikeArchive bytes with
  | error error => rfl
  | ok looks =>
      cases looks with
      | false => rfl
      | true => cases members bytes <;> rfl

theorem hasClass_eq_true_iff : hasClass bytes name = .ok true ↔
    ∃ found member, members bytes = .ok found ∧ IsLast name found member := by
  rw [hasClass_eq]
  cases listed : members bytes with
  | error error =>
      split
      · simp
      · simp
      · simp [Except.map]
  | ok found =>
      rw [looksLikeArchive_of_members listed]
      simp [Except.map, isSome_find?_iff]

theorem readClass_of_members (listed : members bytes = .ok found) (name : String) :
    readClass bytes name =
      match find? name found with
      | some member => readMember bytes member name
      | none => .error (.archive (.missing name)) := by
  rw [readClass, listed]
  rfl

end Archive

namespace Classpath

open Disk

variable {classpath : Classpath} {disk : Listing} {cwd : List String} {className wanted : String}
  {entry : Path} {bytes : Except Failure (List UInt8)}

/-! ## Entries that make no difference -/

section

variable {question : Path → Except Failure Bool} {front back : List Path}

/-- Further entries are asked if none of the first ones has an affirmative answer. -/
theorem firstWith_append (question : Path → Except Failure Bool) (front back : List Path) :
    firstWith question (front ++ back) =
      match firstWith question front with
      | .ok none => firstWith question back
      | answer => answer := by
  have search := search_firstWith question front
  generalize firstWith question front = answer at search ⊢
  cases search with
  | nowhere denied => exact firstWith_of_denied back denied
  | found split denied affirmed =>
      rw [split, List.append_assoc, firstWith_of_denied _ denied]
      exact firstWith_of_true affirmed
  | failed split denied fails =>
      rw [split, List.append_assoc, firstWith_of_denied _ denied]
      exact firstWith_of_error fails

/-- An entry without an affirmative answer makes no difference to an answer that is given. -/
theorem firstWith_of_inserted {answer : Option Path} (unaffirmed : question entry ≠ .ok true)
    (answered : firstWith question (front ++ entry :: back) = .ok answer) :
    firstWith question (front ++ back) = .ok answer := by
  rw [firstWith_append] at answered ⊢
  split at answered
  · next none =>
      cases told : question entry with
      | error failure =>
          rw [firstWith_of_error told] at answered
          contradiction
      | ok affirmed =>
          cases affirmed with
          | true => contradiction
          | false => rwa [firstWith_of_false told] at answered
  · exact answered

end

/-! ## What entries have -/

/-- What is read of a class in an entry that has it. -/
inductive Has (disk : Listing) (cwd : List String) (className : String) (entry : Path) :
    Except Failure (List UInt8) → Prop
  /-- A directory has the class if a file is at the path of its class file. -/
  | directory {inside : Listing} {data : FileData} (noNul : hasNul entry = false)
      (isDirectory : stat disk cwd entry = .ok (.dir inside))
      (noNul' : hasNul (entry / classFile className) = false)
      (there : stat disk cwd (entry / classFile className) = .ok (.file data)) :
      Has disk cwd className entry (.ok data.bytes)
  /-- An archive has the class if a member has the name of its class file; the last one counts. -/
  | archive {data : FileData} {found : List Archive.Member} {member : Archive.Member}
      (noNul : hasNul entry = false) (isFile : stat disk cwd entry = .ok (.file data))
      (listed : Archive.members data.bytes = .ok found)
      (last : Archive.IsLast (resource className) found member) :
      Has disk cwd className entry (Archive.readMember data.bytes member (resource className))

/-- An entry has a class, whether or not it can be read. -/
def Provides (disk : Listing) (cwd : List String) (className : String) (entry : Path) : Prop :=
  ∃ bytes, Has disk cwd className entry bytes

theorem provides_of_directory (isDirectory : isDir disk cwd entry = .ok true) :
    provides disk cwd wanted entry =
      (isFile disk cwd (entry / Path.ofString wanted)).mapError .system := by
  rw [provides, isDirectory]
  rfl

theorem provides_of_other (isOther : isDir disk cwd entry = .ok false) :
    provides disk cwd wanted entry = archiveProvides disk cwd entry wanted := by
  rw [provides, isOther]
  rfl

theorem provides_of_error {error : SystemError} (failed : isDir disk cwd entry = .error error) :
    provides disk cwd wanted entry = .error (.system error) := by
  rw [provides, failed]
  rfl

theorem isDir_of_file {data : FileData} (found : stat disk cwd entry = .ok (.file data)) :
    isDir disk cwd entry = .ok false := by
  rw [isDir, ask, found]
  split <;> rfl

theorem archiveProvides_of_file {data : FileData} (noNul : hasNul entry = false)
    (found : stat disk cwd entry = .ok (.file data)) :
    archiveProvides disk cwd entry wanted = (Archive.hasClass data.bytes wanted).mapError .archive := by
  rw [archiveProvides, noNul, Disk.read, found]
  rfl

theorem archiveProvides_eq_true_iff : archiveProvides disk cwd entry wanted = .ok true ↔
    hasNul entry = false ∧ ∃ data, stat disk cwd entry = .ok (.file data) ∧
      Archive.hasClass data.bytes wanted = .ok true := by
  cases noNul : hasNul entry with
  | true => simp [archiveProvides, noNul]
  | false =>
      cases found : stat disk cwd entry with
      | error code => simp [archiveProvides, noNul, Disk.read, found]
      | ok node =>
          cases node with
          | dir | link => simp [archiveProvides, noNul, Disk.read, found]
          | file data =>
              rw [archiveProvides_of_file noNul found]
              cases told : Archive.hasClass data.bytes wanted <;> simp [told]

/-- An entry that is asked says whether it has the class. -/
theorem provides_eq_true_iff :
    provides disk cwd (resource className) entry = .ok true ↔ Provides disk cwd className entry := by
  constructor
  · intro affirmed
    cases answer : isDir disk cwd entry with
    | error error =>
        rw [provides_of_error answer] at affirmed
        contradiction
    | ok isDirectory =>
        cases isDirectory with
        | true =>
            obtain ⟨noNul, inside, found⟩ := isDir_iff.1 answer
            obtain ⟨-, isOne⟩ := isFile_of_provides affirmed found
            obtain ⟨noNul', data, there⟩ := stat_of_isFile isOne
            exact ⟨_, .directory noNul found noNul' there⟩
        | false =>
            rw [provides_of_other answer, archiveProvides_eq_true_iff] at affirmed
            obtain ⟨noNul, data, found, hasOne⟩ := affirmed
            obtain ⟨listed, member, list, last⟩ := Archive.hasClass_eq_true_iff.1 hasOne
            exact ⟨_, .archive noNul found list last⟩
  · rintro ⟨bytes, has⟩
    cases has with
    | directory noNul found noNul' there =>
        rw [provides_of_directory (isDir_iff.2 ⟨noNul, _, found⟩)]
        have isOne : isFile disk cwd (entry / Path.ofString (resource className)) = .ok true :=
          ask_eq_true_iff.2 ⟨noNul', _, there, rfl⟩
        rw [isOne]
        rfl
    | archive noNul found list last =>
        rw [provides_of_other (isDir_of_file found), archiveProvides_eq_true_iff]
        exact ⟨noNul, _, found, Archive.hasClass_eq_true_iff.2 ⟨_, _, list, last⟩⟩

/-- What is read from an entry is what it has. -/
theorem readFrom_of_has (has : Has disk cwd className entry bytes) :
    readFrom disk cwd (resource className) entry = bytes := by
  cases has with
  | directory noNul found noNul' there =>
      have affirmed := provides_eq_true_iff.2 ⟨_, .directory noNul found noNul' there⟩
      obtain ⟨data, there', reads⟩ := readFrom_of_provides affirmed found
      rw [reads]
      cases there'.symm.trans there
      rfl
  | @archive data list member noNul found listed last =>
      rw [readFrom, isDir_of_file found]
      change (readFile disk cwd entry >>= fun bytes => Archive.readClass bytes _) = _
      rw [readFile, noNul, Disk.read, found]
      change Archive.readClass data.bytes _ = _
      rw [Archive.readClass_of_members listed, Archive.find?_eq_some_iff.2 last]

/-! ## Lookups -/

theorem readClass_of_has (located : classpath.locate disk cwd className = .ok (some entry))
    (has : Has disk cwd className entry bytes) :
    classpath.readClass disk cwd className = bytes.map some := by
  rw [readClass, located]
  change (readFrom disk cwd (resource className) entry >>= _) = _
  rw [readFrom_of_has has]
  cases bytes <;> rfl

theorem readClass_eq_none_iff : classpath.readClass disk cwd className = .ok none ↔
    classpath.locate disk cwd className = .ok none := by
  rw [readClass]
  cases classpath.locate disk cwd className with
  | error failure => simp [bind, Except.bind]
  | ok answer =>
      cases answer with
      | none => simp [bind, Except.bind, pure, Except.pure]
      | some entry =>
          change (readFrom disk cwd (resource className) entry >>= _) = _ ↔ _
          cases readFrom disk cwd (resource className) entry <;>
            simp [bind, Except.bind, pure, Except.pure]

/-- Class paths that locate a class in the same way read the same of it. -/
theorem readClass_of_locate {other : Classpath}
    (same : other.locate disk cwd className = classpath.locate disk cwd className) :
    other.readClass disk cwd className = classpath.readClass disk cwd className := by
  rw [readClass, readClass, same]

/-- The entry that is located has the class, and no entry before it does. -/
theorem provides_of_locate (located : classpath.locate disk cwd className = .ok (some entry)) :
    Provides disk cwd className entry ∧ ∃ front back, classpath.entries = front ++ entry :: back ∧
      ∀ earlier ∈ front, ¬ Provides disk cwd className earlier := by
  cases firstWith_eq_iff.1 located with
  | @found front back entry split denied affirmed =>
      refine ⟨provides_eq_true_iff.1 affirmed, front, back, split, fun earlier member has => ?_⟩
      rw [← provides_eq_true_iff, denied earlier member] at has
      contradiction

/-- If no entry is located, none has the class. -/
theorem not_provides_of_locate (located : classpath.locate disk cwd className = .ok none) :
    ∀ entry ∈ classpath.entries, ¬ Provides disk cwd className entry := by
  cases firstWith_eq_iff.1 located with
  | nowhere denied =>
      intro entry member has
      rw [← provides_eq_true_iff, denied entry member] at has
      contradiction

end Classpath

/-! ## A small archive -/

namespace Sample

/-- What the header of a member and its entry in the directory of an archive have in common: versions of
the format, no flags, data that are not compressed, a date, a checksum, sizes and the length of the name. -/
def orderFields : List UInt8 :=
  [0x14, 0, 0, 0, 0, 0, 0, 0, 0x21, 0, 0x44, 0x93, 0x0f, 0x0f, 1, 0, 0, 0, 1, 0, 0, 0, 0x14, 0, 0, 0]

/-- An archive with one member, a class file of one byte. -/
def orderArchive : List UInt8 :=
  let name := "com/acme/Order.class".toList.map fun c => c.toNat.toUInt8
  Archive.headerMark ++ orderFields ++ name ++ [0x6f] ++
    (Archive.entryMark ++ [0x14, 3] ++ orderFields ++ List.replicate 14 0 ++ name) ++
    (Archive.endMark ++ [0, 0, 0, 0, 1, 0, 1, 0, 0x42, 0, 0, 0, 0x33, 0, 0, 0, 0, 0])

/-- A directory of classes, a text and the archive, which holds the same class as the directory. -/
def depot : Listing :=
  .dir "lib" orders (.file "notes.txt" ⟨[0x6e, 0x6f], 0o644, false⟩
    (.file "orders.jar" ⟨orderArchive, 0o644, false⟩ .empty))

/-- The text. -/
def notes : Path := ⟨.root, ["notes.txt"], by decide⟩

/-- The archive. -/
def ordersJar : Path := ⟨.root, ["orders.jar"], by decide⟩

end Sample

namespace Classpath

open Disk

/-! ## The first provider -/

/-- The entry that is located is the first one that has the class, and what is read is what it has; entries
that are appended make no difference to it.  An answer says that there is no such entry exactly if no entry
has the class, and exactly then nothing is read.  Where there is an answer, it is the same without an entry
that does not have the class.  The file that a directory has is below it, at the names of the class file, if
the name of the class starts with neither a point nor a slash; if it starts with one, the file is at these
names from the root on, whatever the directory is. -/
theorem lookups_agree (classpath : Classpath) (disk : Listing) (cwd : List String) (className : String) :
    (∀ entry, classpath.locate disk cwd className = .ok (some entry) →
      ∃ bytes front back, Has disk cwd className entry bytes ∧
        classpath.entries = front ++ entry :: back ∧
        (∀ earlier ∈ front, ¬ Provides disk cwd className earlier) ∧
        classpath.readClass disk cwd className = bytes.map some ∧
        ∀ more, Classpath.locate ⟨classpath.entries ++ more⟩ disk cwd className = .ok (some entry) ∧
          Classpath.readClass ⟨classpath.entries ++ more⟩ disk cwd className =
            classpath.readClass disk cwd className) ∧
    (∀ answer, classpath.locate disk cwd className = .ok answer →
      (answer = none ↔ ∀ entry ∈ classpath.entries, ¬ Provides disk cwd className entry)) ∧
    (classpath.readClass disk cwd className = .ok none ↔
      classpath.locate disk cwd className = .ok none) ∧
    (∀ front entry back answer, classpath.entries = front ++ entry :: back →
      ¬ Provides disk cwd className entry → classpath.locate disk cwd className = .ok answer →
      Classpath.locate ⟨front ++ back⟩ disk cwd className = .ok answer ∧
        Classpath.readClass ⟨front ++ back⟩ disk cwd className =
          classpath.readClass disk cwd className) ∧
    ∀ entry, (isRooted className = false → (entry / classFile className).anchor = entry.anchor ∧
        (entry / classFile className).names = entry.names ++ (classFile className).names) ∧
      (isRooted className = true → entry / classFile className = classFile className) := by
  refine ⟨?first, ?none, readClass_eq_none_iff, ?without, ?place⟩
  case first =>
    intro entry located
    obtain ⟨⟨bytes, has⟩, front, back, split, others⟩ := provides_of_locate located
    refine ⟨bytes, front, back, has, split, others, readClass_of_has located has, fun more => ?_⟩
    have longer : Classpath.locate ⟨classpath.entries ++ more⟩ disk cwd className = .ok (some entry) := by
      rw [locate] at located
      rw [locate, firstWith_append, located]
    exact ⟨longer, readClass_of_locate (longer.trans located.symm)⟩
  case none =>
    intro answer located
    constructor
    · rintro rfl
      exact not_provides_of_locate located
    · intro nowhere
      cases answer with
      | none => rfl
      | some entry =>
          have member := (of_firstWith located).1
          exact absurd (provides_of_locate located).1 (nowhere entry member)
  case without =>
    intro front entry back answer split lacks located
    have shorter : Classpath.locate ⟨front ++ back⟩ disk cwd className = .ok answer := by
      rw [locate, split] at located
      exact firstWith_of_inserted (fun has => lacks (provides_eq_true_iff.1 has)) located
    exact ⟨shorter, readClass_of_locate (shorter.trans located.symm)⟩
  case place =>
    intro entry
    rw [← isAbsolute_classFile]
    constructor
    · intro relative
      exact Path.append_relative entry (by simpa [Path.isAbsolute] using relative)
    · intro rooted
      exact Path.append_absolute (by simpa [Path.isAbsolute] using rooted)

/-- The archive provides the class before the directory does, and a text in front of it is of no account. -/
theorem lookups_agree_orders : ∃ bytes,
    Classpath.locate ⟨[Sample.notes, Sample.ordersJar, Sample.lib]⟩ Sample.depot [] "com.acme.Order" =
        .ok (some Sample.ordersJar) ∧
      Has Sample.depot [] "com.acme.Order" Sample.ordersJar bytes ∧
      Classpath.readClass ⟨[Sample.notes, Sample.ordersJar, Sample.lib]⟩ Sample.depot []
        "com.acme.Order" = bytes.map some ∧
      ¬ Provides Sample.depot [] "com.acme.Order" Sample.notes ∧
      Classpath.locate ⟨[Sample.ordersJar, Sample.lib]⟩ Sample.depot [] "com.acme.Order" =
        .ok (some Sample.ordersJar) := by
  have located : Classpath.locate ⟨[Sample.notes, Sample.ordersJar, Sample.lib]⟩ Sample.depot []
      "com.acme.Order" = .ok (some Sample.ordersJar) := by
    decide +kernel
  have lacks : ¬ Provides Sample.depot [] "com.acme.Order" Sample.notes := by
    rw [← provides_eq_true_iff]
    decide +kernel
  obtain ⟨first, -, -, without, -⟩ :=
    lookups_agree ⟨[Sample.notes, Sample.ordersJar, Sample.lib]⟩ Sample.depot [] "com.acme.Order"
  obtain ⟨bytes, -, -, has, -, -, reads, -⟩ := first Sample.ordersJar located
  obtain ⟨shorter, -⟩ := without [] Sample.notes [Sample.ordersJar, Sample.lib] _ rfl lacks located
  exact ⟨bytes, located, has, reads, lacks, shorter⟩

/-- A directory is located for a class although no file is at the names of the class file below it. -/
theorem lookups_stray : ∃ entry inside,
    Sample.shelf.locate Sample.shelves [] "/secret/Key" = .ok (some entry) ∧
      stat Sample.shelves [] entry = .ok (.dir inside) ∧
      ∀ data, inside.at? (classFile "/secret/Key").names ≠ some (.file data) := by
  refine ⟨Sample.lib, Sample.orders, by decide +kernel, by decide +kernel, ?_⟩
  have nothing : Sample.orders.at? (classFile "/secret/Key").names = none := by decide +kernel
  simp [nothing]

end Classpath

end Enhance
