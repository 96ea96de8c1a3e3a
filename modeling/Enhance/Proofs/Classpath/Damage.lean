import Enhance.Proofs.Classpath.Providers

/-!
# Entries that cannot be asked

An entry of the class path refuses to say whether it has a class if its path, or that of the class file in
it, cannot be looked up, or if it is an archive that is damaged: there is a record at its end, but its
directory cannot be read (`Classpath.Refuses`).  Looking for a class fails exactly if such an entry comes
before the first one that has the class (`locate_returns_iff`).  What has no record at its end is no archive
and only does not have the class.
-/

namespace Enhance

namespace Disk

variable {disk : Listing} {cwd here names : List String} {path : Path} {links code : Nat}

/-- Names that lead nowhere have a dead end on their way or are too long. -/
theorem code_of_follow {followLast : Bool}
    (failed : follow disk followLast links here names = .failed code) :
    leadsNowhere code = true ∨ code = SystemError.nameTooLong := by
  revert failed
  induction links, here, names using follow_induction with
  | nil links here =>
      rw [follow_eq_walk, walk]
      cases disk.at? here <;> grind [leadsNowhere]
  | dot links here names ih => rwa [follow_dot]
  | dots links here names ih => rwa [follow_dots]
  | name links here name names plain down ih next =>
      rw [follow_cons followLast plain down]
      intro failed
      split at failed
      · cases failed
        exact .inr rfl
      split at failed
      · split at failed
        · contradiction
        · cases failed
          exact .inl rfl
      · exact ih failed
      · split at failed
        · contradiction
        · cases failed
          exact .inl rfl
      · split at failed
        · contradiction
        · cases links with
          | zero =>
              cases failed
              exact .inl rfl
          | succ fewer => exact next fewer rfl _ _ failed

theorem code_of_stat (failed : stat disk cwd path = .error code) :
    leadsNowhere code = true ∨ code = SystemError.nameTooLong := by
  rw [stat] at failed
  split at failed
  · contradiction
  · cases failed
    exact .inl rfl
  · next other leads =>
      cases failed
      rw [lookup] at leads
      split at leads
      · cases leads
        exact .inr rfl
      · exact code_of_follow leads

/-- A question about a path is refused only because the path is too long. -/
theorem ask_eq_error_iff {question : Node → Bool} {error : SystemError} :
    ask disk cwd path question = .error error ↔ hasNul path = false ∧
      stat disk cwd path = .error SystemError.nameTooLong ∧
        errorAt SystemError.nameTooLong path = error := by
  rw [ask]
  cases hasNul path with
  | true => simp
  | false =>
      cases told : stat disk cwd path with
      | ok node => simp
      | error code =>
          rcases code_of_stat told with nowhere | rfl
          · have other : code ≠ SystemError.nameTooLong := by
              rintro rfl
              exact absurd nowhere (by decide)
            simp [nowhere, other]
          · have told : leadsNowhere SystemError.nameTooLong = false := by decide
            simp [told, errorAt]

end Disk

namespace Archive

variable {bytes : List UInt8} {error : Error}

/-- Bytes look like an archive at their end, as far as that can be told, but the directory cannot be
read. -/
def Damaged (bytes : List UInt8) (error : Error) : Prop :=
  looksLikeArchive bytes = .error error ∨
    looksLikeArchive bytes = .ok true ∧ members bytes = .error error

theorem hasClass_eq_error_iff (name : String) :
    hasClass bytes name = .error error ↔ Damaged bytes error := by
  rw [hasClass_eq, Damaged]
  cases looksLikeArchive bytes with
  | error other => simp
  | ok looks =>
      cases looks with
      | false => simp
      | true => cases members bytes <;> simp [Except.map]

end Archive

namespace Classpath

open Disk

variable {classpath : Classpath} {disk : Listing} {cwd : List String} {className wanted : String}
  {entry : Path} {failure : Failure}

section

variable {question : Path → Except Failure Bool} {entries : List Path}

/-- Asking entries fails if the first one without a negative answer fails to answer. -/
theorem firstWith_eq_error_iff : firstWith question entries = .error failure ↔
    ∃ front entry back, entries = front ++ entry :: back ∧
      (∀ earlier ∈ front, question earlier = .ok false) ∧ question entry = .error failure := by
  rw [firstWith_eq_iff]
  constructor
  · intro search
    cases search with
    | failed split denied fails => exact ⟨_, _, _, split, denied, fails⟩
  · rintro ⟨front, entry, back, split, denied, fails⟩
    exact .failed split denied fails

end

/-- Why an entry does not say whether it has a class. -/
inductive Refuses (disk : Listing) (cwd : List String) (className : String) (entry : Path) :
    Failure → Prop
  /-- The path of the entry cannot be handed to the system. -/
  | nul (hasOne : hasNul entry = true) : Refuses disk cwd className entry .embeddedNul
  /-- The path of the entry is too long. -/
  | long (noNul : hasNul entry = false)
      (tooLong : stat disk cwd entry = .error SystemError.nameTooLong) :
      Refuses disk cwd className entry (.system (errorAt SystemError.nameTooLong entry))
  /-- The path of the class file in a directory is too long. -/
  | longFile {inside : Listing} (noNul : hasNul entry = false)
      (isDirectory : stat disk cwd entry = .ok (.dir inside))
      (noNul' : hasNul (entry / classFile className) = false)
      (tooLong : stat disk cwd (entry / classFile className) = .error SystemError.nameTooLong) :
      Refuses disk cwd className entry
        (.system (errorAt SystemError.nameTooLong (entry / classFile className)))
  /-- The entry is a damaged archive. -/
  | damaged {data : FileData} {error : Archive.Error} (noNul : hasNul entry = false)
      (isFile : stat disk cwd entry = .ok (.file data))
      (damage : Archive.Damaged data.bytes error) :
      Refuses disk cwd className entry (.archive error)

theorem isDir_eq_error_iff {error : SystemError} : isDir disk cwd entry = .error error ↔
    hasNul entry = false ∧ stat disk cwd entry = .error SystemError.nameTooLong ∧
      errorAt SystemError.nameTooLong entry = error :=
  ask_eq_error_iff

theorem archiveProvides_eq_error_iff :
    archiveProvides disk cwd entry wanted = .error failure ↔
      hasNul entry = true ∧ failure = .embeddedNul ∨
        hasNul entry = false ∧ ∃ data error, stat disk cwd entry = .ok (.file data) ∧
          Archive.Damaged data.bytes error ∧ failure = .archive error := by
  cases noNul : hasNul entry with
  | true => simp [archiveProvides, noNul, eq_comm]
  | false =>
      cases found : stat disk cwd entry with
      | error code => simp [archiveProvides, noNul, Disk.read, found]
      | ok node =>
          cases node with
          | dir | link => simp [archiveProvides, noNul, Disk.read, found]
          | file data =>
              rw [archiveProvides_of_file noNul found]
              simp only [← Archive.hasClass_eq_error_iff wanted]
              cases told : Archive.hasClass data.bytes wanted <;> simp [told, eq_comm]

/-- An entry that is asked fails exactly if it refuses to answer. -/
theorem provides_eq_error_iff : provides disk cwd (resource className) entry = .error failure ↔
    Refuses disk cwd className entry failure := by
  constructor
  · intro failed
    cases answer : isDir disk cwd entry with
    | error error =>
        rw [provides_of_error answer] at failed
        cases failed
        obtain ⟨noNul, tooLong, rfl⟩ := isDir_eq_error_iff.1 answer
        exact .long noNul tooLong
    | ok isDirectory =>
        cases isDirectory with
        | true =>
            obtain ⟨noNul, inside, found⟩ := isDir_iff.1 answer
            rw [provides_of_directory answer] at failed
            cases told : isFile disk cwd (entry / Path.ofString (resource className)) with
            | ok isOne =>
                rw [told] at failed
                contradiction
            | error error =>
                rw [told] at failed
                cases failed
                obtain ⟨noNul', tooLong, rfl⟩ := ask_eq_error_iff.1 told
                exact .longFile noNul found noNul' tooLong
        | false =>
            rw [provides_of_other answer, archiveProvides_eq_error_iff] at failed
            rcases failed with ⟨hasOne, rfl⟩ | ⟨noNul, data, error, found, damage, rfl⟩
            · exact .nul hasOne
            · exact .damaged noNul found damage
  · intro refuses
    cases refuses with
    | nul hasOne =>
        have isOther : isDir disk cwd entry = .ok false := by
          rw [isDir, ask, hasOne]
          rfl
        rw [provides_of_other isOther, archiveProvides_eq_error_iff]
        exact .inl ⟨hasOne, rfl⟩
    | long noNul tooLong => exact provides_of_error (isDir_eq_error_iff.2 ⟨noNul, tooLong, rfl⟩)
    | longFile noNul found noNul' tooLong =>
        rw [provides_of_directory (isDir_iff.2 ⟨noNul, _, found⟩)]
        have told : isFile disk cwd (entry / Path.ofString (resource className)) = .error _ :=
          ask_eq_error_iff.2 ⟨noNul', tooLong, rfl⟩
        rw [told]
        rfl
    | damaged noNul found damage =>
        rw [provides_of_other (isDir_of_file found), archiveProvides_eq_error_iff]
        exact .inr ⟨noNul, _, _, found, damage, rfl⟩

/-- An entry that answers does not have the class or has it. -/
theorem provides_eq_false_iff : provides disk cwd (resource className) entry = .ok false ↔
    ¬ Provides disk cwd className entry ∧ ∀ failure, ¬ Refuses disk cwd className entry failure := by
  simp only [← provides_eq_true_iff, ← provides_eq_error_iff]
  cases provides disk cwd (resource className) entry with
  | error failure => simp
  | ok affirmed => cases affirmed <;> simp

end Classpath

/-! ## A damaged archive -/

namespace Sample

/-- The record at the end tells of a directory, but what is there is none. -/
def scrap : List UInt8 :=
  List.replicate 46 0 ++ Archive.endMark ++ [0, 0, 0, 0, 1, 0, 1, 0, 0x2e, 0, 0, 0, 0, 0, 0, 0, 0, 0]

/-- A directory of classes and a damaged archive. -/
def yard : Listing :=
  .dir "lib" orders (.file "scrap.jar" ⟨scrap, 0o644, false⟩ .empty)

/-- The damaged archive. -/
def scrapJar : Path := ⟨.root, ["scrap.jar"], by decide⟩

end Sample

namespace Classpath

open Disk

/-! ## Whether a search ends -/

/-- Looking for a class comes to an end with an answer exactly if no entry refuses to answer before there
is one that has the class.  If it fails, it does so as the first entry that refuses.  A file without the
record at the end of archives neither has a class nor refuses to answer. -/
theorem locate_returns_iff (classpath : Classpath) (disk : Listing) (cwd : List String)
    (className : String) :
    ((∃ answer, classpath.locate disk cwd className = .ok answer) ↔
      ∀ front entry back, classpath.entries = front ++ entry :: back →
        (∀ earlier ∈ front, ¬ Provides disk cwd className earlier) →
        ∀ failure, ¬ Refuses disk cwd className entry failure) ∧
    (∀ failure, classpath.locate disk cwd className = .error failure ↔
      ∃ front entry back, classpath.entries = front ++ entry :: back ∧
        (∀ earlier ∈ front, ¬ Provides disk cwd className earlier ∧
          ∀ other, ¬ Refuses disk cwd className earlier other) ∧
        Refuses disk cwd className entry failure) ∧
    ∀ entry data, hasNul entry = false → stat disk cwd entry = .ok (.file data) →
      Archive.looksLikeArchive data.bytes = .ok false →
      ¬ Provides disk cwd className entry ∧ ∀ failure, ¬ Refuses disk cwd className entry failure := by
  have fails (failure : Failure) : classpath.locate disk cwd className = .error failure ↔
      ∃ front entry back, classpath.entries = front ++ entry :: back ∧
        (∀ earlier ∈ front, ¬ Provides disk cwd className earlier ∧
          ∀ other, ¬ Refuses disk cwd className earlier other) ∧
        Refuses disk cwd className entry failure := by
    simp only [locate, firstWith_eq_error_iff, provides_eq_false_iff, provides_eq_error_iff]
  refine ⟨⟨?answers, ?returns⟩, fails, ?plain⟩
  case answers =>
    rintro ⟨answer, located⟩ front entry back split others failure refuses
    rw [locate, split, firstWith_append] at located
    split at located
    · rw [firstWith_of_error (provides_eq_error_iff.2 refuses)] at located
      contradiction
    · next asked =>
        cases answer with
        | none => exact asked located
        | some first =>
            obtain ⟨member, affirmed⟩ := of_firstWith located
            exact others first member (provides_eq_true_iff.1 affirmed)
  case returns =>
    intro willing
    cases located : classpath.locate disk cwd className with
    | ok answer => exact ⟨answer, rfl⟩
    | error failure =>
        obtain ⟨front, entry, back, split, others, refuses⟩ := (fails failure).1 located
        exact absurd refuses (willing front entry back split (fun _ member => (others _ member).1) failure)
  case plain =>
    intro entry data noNul found plain
    rw [← provides_eq_false_iff, provides_of_other (isDir_of_file found),
      archiveProvides_of_file noNul found, Archive.hasClass_eq, plain]
    rfl

/-- A text in front of a directory is asked and has nothing to say. -/
theorem locate_returns_iff_notes :
    Classpath.locate ⟨[Sample.notes, Sample.lib]⟩ Sample.depot [] "com.acme.Order" =
        .ok (some Sample.lib) ∧
      hasNul Sample.notes = false ∧
      stat Sample.depot [] Sample.notes = .ok (.file ⟨[0x6e, 0x6f], 0o644, false⟩) ∧
      Archive.looksLikeArchive [0x6e, 0x6f] = .ok false ∧
      ¬ Provides Sample.depot [] "com.acme.Order" Sample.notes ∧
      ∀ entry ∈ [Sample.notes, Sample.lib], ∀ failure,
        ¬ Refuses Sample.depot [] "com.acme.Order" entry failure := by
  have located : Classpath.locate ⟨[Sample.notes, Sample.lib]⟩ Sample.depot [] "com.acme.Order" =
      .ok (some Sample.lib) := by
    decide +kernel
  have noNul : hasNul Sample.notes = false := by decide +kernel
  have found : stat Sample.depot [] Sample.notes = .ok (.file ⟨[0x6e, 0x6f], 0o644, false⟩) := by
    decide +kernel
  have noArchive : Archive.looksLikeArchive [0x6e, 0x6f] = .ok false := by decide +kernel
  obtain ⟨returns, -, plain⟩ :=
    locate_returns_iff ⟨[Sample.notes, Sample.lib]⟩ Sample.depot [] "com.acme.Order"
  obtain ⟨lacks, willing⟩ := plain Sample.notes _ noNul found noArchive
  have willing' := returns.1 ⟨_, located⟩ [Sample.notes] Sample.lib [] rfl (by simpa using lacks)
  exact ⟨located, noNul, found, noArchive, lacks, by simpa using ⟨willing, willing'⟩⟩

/-- A damaged archive makes the search fail, although a directory behind it has the class. -/
theorem locate_fails_damaged :
    Classpath.locate ⟨[Sample.scrapJar, Sample.lib]⟩ Sample.yard [] "com.acme.Order" =
        .error (.archive .directoryMagic) ∧
      stat Sample.yard [] Sample.scrapJar = .ok (.file ⟨Sample.scrap, 0o644, false⟩) ∧
      Provides Sample.yard [] "com.acme.Order" Sample.lib := by
  refine ⟨by decide +kernel, by decide +kernel, ?_⟩
  rw [← provides_eq_true_iff]
  decide +kernel

end Classpath

end Enhance
