import Enhance.Proofs.Replacement.Room

/-!
# Both strategies write the same files

When no fault strikes, a class file that is deleted and made anew and one that is replaced atomically leave
the same tree but for the permissions of the class file (`WriteStrategy.write_agrees`).  A link becomes a
file under either strategy, and what it led to is left alone.  The atomic strategy needs room for its
temporary file; where there is none it leaves everything as it was.
-/

namespace Enhance

open Program

namespace WriteStrategy

open Replacement

variable {path : Path} {row : List String} {data : FileData} {bytes : List UInt8}
  {world anew replaced : World}

/-- Two worlds that come of one world by writing a class file, once by deleting it and making it anew and
once by replacing it.  Nothing but its entry is different from before, and nothing but its permissions is
different between the two. -/
structure Agree (path : Path) (row : List String) (data : FileData) (bytes : List UInt8)
    (world anew replaced : World) : Prop where
  made : world.Sets row (some (.file ⟨bytes, Disk.defaultMode, true⟩)) anew
  moved : world.Sets row (some (.file ⟨bytes, data.mode, true⟩)) replaced
  setMode : Disk.setMode anew.disk anew.cwd path data.mode = .ok replaced.disk

theorem Agree.of_puts (ascending : world.disk.isAscending = true) (leaf : world.Leaf path row)
    (one : world.Puts row (some (.file ⟨bytes, Disk.defaultMode, true⟩)) anew)
    (other : world.Puts row (some (.file ⟨bytes, data.mode, true⟩)) replaced) :
    Agree path row data bytes world anew replaced := by
  refine ⟨one.sets, other.sets, ?_⟩
  have file := leaf.of_sets_file one.sets
  obtain ⟨disk, changed, sets⟩ := file.setMode one.sets.disk.here data.mode
  have setAscending := Disk.isAscending_setMode (one.ascending ascending) changed
  have same : replaced.disk = disk := by
    apply Listing.eq_of_alike setAscending (other.ascending ascending)
    intro name
    have whole := one.sets.disk.trans sets
    by_cases here : name = row
    · rw [here, Listing.bareAt?, Listing.bareAt?, other.sets.disk.here, whole.here]
    · rw [other.sets.disk.elsewhere name here, whole.elsewhere name here]
  rw [same]
  exact changed

/-- The path of a class file leads to an entry that is no directory. -/
theorem leaf_of_stat {top : Listing} (start : world.disk.at? world.cwd = some (.dir top))
    (found : Disk.stat world.disk world.cwd path = .ok (.file data)) :
    ∃ row node, world.Leaf path row ∧ world.disk.at? row = some node := by
  have begins : ∃ top, world.disk.at? (Disk.lookupStart world.cwd path) = some (.dir top) := by
    rw [Disk.lookupStart]
    split
    · exact ⟨world.disk, rfl⟩
    · exact ⟨top, start⟩
  obtain ⟨top', begins⟩ := begins
  obtain ⟨row, leads⟩ := Disk.leadsTo_of_stat begins found
  obtain ⟨end', looked⟩ := Disk.lookup_of_stat found
  obtain ⟨node, there⟩ := Option.ne_none_iff_exists'.1 (leads.endsIn looked).at?_ne_none
  exact ⟨row, node, ⟨leads, leads.isDeadEnd_of_stat_file found⟩, there⟩

/-- A class file whose temporary file does not fit into a system call is not replaced. -/
theorem write_of_not_fits (faultless : world.faults = []) (noNul : Disk.hasNul path = false)
    (noNul' : Disk.hasNul (Disk.cwdPath world.cwd) = false)
    (tooLong : ¬ Disk.Fits (temporaryOf world path)) (bytes : List UInt8) :
    ∃ problem after, WriteStrategy.atomic.write path bytes world = .ok (some problem) after ∧
      problem.severity = .warning ∧ after.disk = world.disk := by
  obtain ⟨problem, prepared, warning⟩ := preparing_of_not_fits noNul noNul' tooLong
  have prepared : WriteStrategy.atomic.preparing world.disk world.cwd path = .ok (some problem) := by
    rw [preparing]
    exact prepared
  obtain ⟨after, done, calm⟩ := write_gives faultless prepared (by simp)
  exact ⟨problem, after, done, warning, calm.disk⟩

/-- When no fault strikes, both strategies write a class file, and they leave the same tree but for its
permissions.  The atomic strategy does so if the path of its temporary file fits into a system call, and if
the folder of the class file is found by text, which it always is for a path without `..`.  Where the
temporary file does not fit, the atomic strategy leaves everything as it was and warns.

Of the listings that stand for one tree the ascending one is taken, which every tree has
(`Listing.exists_ascending`), so that the same tree is the same listing. -/
theorem write_agrees {top : Listing} (proper : world.disk.isProper = true)
    (ascending : world.disk.isAscending = true)
    (start : world.disk.at? world.cwd = some (.dir top))
    (noNul' : Disk.hasNul (Disk.cwdPath world.cwd) = false) (faultless : world.faults = [])
    (isFile : Disk.isFile world.disk world.cwd path = .ok true) (bytes : List UInt8) :
    ∃ row data anew, Disk.LeadsTo world.disk world.cwd path row ∧
      Disk.stat world.disk world.cwd path = .ok (.file data) ∧
      WriteStrategy.recreate.write path bytes world = .ok none anew ∧
      world.Sets row (some (.file ⟨bytes, Disk.defaultMode, true⟩)) anew ∧
      (Disk.Fits (temporaryOf world path) → ".." ∉ path.names ∨ FolderStands world path →
        ∃ replaced, WriteStrategy.atomic.write path bytes world = .ok none replaced ∧
          Agree path row data bytes world anew replaced) ∧
      (¬ Disk.Fits (temporaryOf world path) →
        ∃ problem after, WriteStrategy.atomic.write path bytes world = .ok (some problem) after ∧
          problem.severity = .warning ∧ after.disk = world.disk) := by
  obtain ⟨noNul, data, found⟩ := Disk.stat_of_isFile isFile
  obtain ⟨row, node, leaf, there⟩ := leaf_of_stat start found
  obtain ⟨anew, made, puts⟩ := write_puts faultless noNul leaf there found
    (show WriteStrategy.recreate.preparing world.disk world.cwd path = .ok none from rfl)
  refine ⟨row, data, anew, leaf.leads, found, made, puts.sets, ?_, ?_⟩
  · intro fits folder
    have stands : FolderStands world path := by
      rcases folder with plain | stands
      · exact folderStands_of_plain proper start leaf.leads plain fits
      · exact stands
    have prepared : WriteStrategy.atomic.preparing world.disk world.cwd path = .ok none := by
      rw [preparing]
      exact preparing_of_fits noNul noNul' stands fits
    obtain ⟨replaced, done, puts'⟩ :=
      write_puts faultless noNul leaf there found prepared
    exact ⟨replaced, done, .of_puts ascending leaf puts puts'⟩
  · intro tooLong
    exact write_of_not_fits faultless noNul noNul' tooLong bytes

namespace Sample

/-- A file and a link to it. -/
def paired : World :=
  { disk := .file "kept" ⟨[0x42], 0o600, false⟩ (.link "x.class" "kept" .empty)
    now := default }

/-- The path of the link. -/
def pairedPath : Path :=
  ⟨.root, ["x.class"], isName_sample⟩

/-- A file inside so many directories. -/
def nested : Nat → Listing
  | 0 => .file "x" ⟨[0x42], 0o600, false⟩ .empty
  | depth + 1 => .dir "d" (nested depth) .empty

/-- A working directory so deep that its path all but fills a system call. -/
def deep : World :=
  { disk := nested 2047
    cwd := List.replicate 2047 "d"
    now := default }

/-- The path of the file in the working directory. -/
def deepPath : Path :=
  ⟨.relative, ["x"], by decide⟩

/-- A file beside the directory that a link leads to. -/
def sideways : World :=
  { disk := .dir "a" (.dir "b" .empty (.dir "s" (.file "x" ⟨[0x42], 0o600, false⟩ .empty) .empty))
      (.link "l" "a/b" .empty)
    now := default }

/-- The path of the file by way of the link. -/
def sidewaysPath : Path :=
  ⟨.root, ["l", "..", "s", "x"], by decide⟩

theorem at?_nested (depth : Nat) :
    (nested depth).at? (List.replicate depth "d") = some (.dir (nested 0)) := by
  induction depth with
  | zero => rfl
  | succ depth ih => exact ih

theorem eq_of_mem_deep {name : String} (member : name ∈ deep.cwd) : name = "d" :=
  List.eq_of_mem_replicate member

end Sample

/-- Both strategies make a file of a link and leave alone what it led to. -/
theorem write_agrees_link :
    Sample.paired.disk.isProper = true ∧ Sample.paired.disk.isAscending = true ∧
      Sample.paired.disk.at? Sample.paired.cwd = some (.dir Sample.paired.disk) ∧
      Disk.hasNul (Disk.cwdPath Sample.paired.cwd) = false ∧ Sample.paired.faults = [] ∧
      Disk.isFile Sample.paired.disk Sample.paired.cwd Sample.pairedPath = .ok true ∧
      ∃ row data anew replaced,
        WriteStrategy.recreate.write Sample.pairedPath [0x41] Sample.paired = .ok none anew ∧
        WriteStrategy.atomic.write Sample.pairedPath [0x41] Sample.paired = .ok none replaced ∧
        Agree Sample.pairedPath row data [0x41] Sample.paired anew replaced := by
  have proper : Sample.paired.disk.isProper = true := by decide +kernel
  have ascending : Sample.paired.disk.isAscending = true := by decide +kernel
  have noNul : Disk.hasNul (Disk.cwdPath Sample.paired.cwd) = false := by decide +kernel
  have isFile : Disk.isFile Sample.paired.disk Sample.paired.cwd Sample.pairedPath = .ok true := by
    rfl
  have fits : Disk.Fits (temporaryOf Sample.paired Sample.pairedPath) := by
    constructor <;> decide +kernel
  have plain : ".." ∉ Sample.pairedPath.names := by decide
  obtain ⟨row, data, anew, -, -, made, -, agree, -⟩ :=
    write_agrees proper ascending rfl noNul rfl isFile [0x41]
  obtain ⟨replaced, moved, same⟩ := agree fits (.inl plain)
  exact ⟨proper, ascending, rfl, noNul, rfl, isFile, row, data, anew, replaced, made, moved, same⟩

/-- A file deep inside directories is not replaced although nothing fails but the making of the temporary
file, for whose path there is no room. -/
theorem write_warns_deep :
    Sample.deep.faults = [] ∧
      Disk.isFile Sample.deep.disk Sample.deep.cwd Sample.deepPath = .ok true ∧
      ∃ problem after,
        WriteStrategy.atomic.write Sample.deepPath [0x41] Sample.deep = .ok (some problem) after := by
  have above : Sample.deep.disk.at? Sample.deep.cwd = some (.dir (Sample.nested 0)) :=
    Sample.at?_nested 2047
  have leads : Disk.Leads Sample.deep.disk Sample.deep.cwd Sample.deepPath Sample.deep.cwd "x" :=
    ⟨by decide, by decide, by decide, [], Sample.nested 0, rfl, Disk.follow_nil true above⟩
  have there : Sample.deep.disk.at? (Sample.deep.cwd ++ ["x"]) =
      some (.file ⟨[0x42], 0o600, false⟩) := by
    rw [Listing.at?_append_of_dir above]
    rfl
  have noNul : Disk.hasNul Sample.deepPath = false := by decide
  have isFile : Disk.isFile Sample.deep.disk Sample.deep.cwd Sample.deepPath = .ok true := by
    simp [Disk.isFile, Disk.ask, noNul, leads.stat_file there, Node.isFile]
  have proper : ∀ name ∈ Sample.deep.cwd, isEntryName name = true := by
    intro name member
    rw [Sample.eq_of_mem_deep member]
    decide
  have noNul' : Disk.hasNul (Disk.cwdPath Sample.deep.cwd) = false := by
    rw [Disk.hasNul_eq_false_iff,
      Disk.names_cwdPath fun name member => (Disk.isEntryName_iff.1 (proper name member)).1]
    intro name member
    rw [Sample.eq_of_mem_deep member]
    decide
  have tooLong : ¬ Disk.Fits (temporaryOf Sample.deep Sample.deepPath) := by
    rintro ⟨short, -⟩
    obtain ⟨n, isChild⟩ : ∃ n, temporaryOf Sample.deep Sample.deepPath =
        (temporaryDir Sample.deep.cwd Sample.deepPath).child (Temporary.nameOf n) := ⟨_, rfl⟩
    have named := (Disk.isEntryName_iff.1 (Temporary.isEntryName_nameOf n)).1
    have folder : (temporaryDir Sample.deep.cwd Sample.deepPath).names =
        Disk.lookupStart Sample.deep.cwd Sample.deepPath ++ Sample.deepPath.names.dropLast :=
      names_temporaryDir proper (by decide)
    have long := Path.two_mul_length_names_le
      (Path.isAbsolute_child named (isAbsolute_temporaryDir Sample.deep.cwd Sample.deepPath))
    rw [Path.names_child named, folder, ← isChild] at long
    have counted : (Disk.lookupStart Sample.deep.cwd Sample.deepPath).length = 2047 :=
      List.length_replicate
    simp only [List.length_append, List.length_singleton, counted, Disk.pathLimit] at long short
    omega
  obtain ⟨problem, after, done, -⟩ := write_of_not_fits rfl noNul noNul' tooLong [0x41]
  exact ⟨rfl, isFile, problem, after, done⟩

/-- A file whose path leads up from the target of a link is not replaced either, although the other strategy
writes it: by text the path leads up from the link, where there is no folder for the temporary file. -/
theorem write_warns_sideways :
    Sample.sideways.faults = [] ∧
      Disk.isFile Sample.sideways.disk Sample.sideways.cwd Sample.sidewaysPath = .ok true ∧
      (∃ after, WriteStrategy.recreate.write Sample.sidewaysPath [0x41] Sample.sideways = .ok none after) ∧
      ∃ problem after,
        WriteStrategy.atomic.write Sample.sidewaysPath [0x41] Sample.sideways = .ok (some problem) after ∧
        problem.severity = .warning := by
  have isFile : Disk.isFile Sample.sideways.disk Sample.sideways.cwd Sample.sidewaysPath = .ok true := by
    decide +kernel
  have writes : (WriteStrategy.recreate.write Sample.sidewaysPath [0x41]).endsWith (·.isNone)
      Sample.sideways = true := by
    decide +kernel
  have warns : (WriteStrategy.atomic.write Sample.sidewaysPath [0x41]).endsWith
      (fun problem => problem.map (·.severity) = some .warning) Sample.sideways = true := by
    decide +kernel
  obtain ⟨written, anew, made, none⟩ := ok_of_endsWith writes
  obtain rfl := Option.isNone_iff_eq_none.1 none
  obtain ⟨told, after, done, warning⟩ := ok_of_endsWith warns
  obtain ⟨problem, rfl, severity⟩ := Option.map_eq_some_iff.1 (of_decide_eq_true warning)
  exact ⟨rfl, isFile, ⟨anew, made⟩, problem, after, done, severity⟩

end WriteStrategy

end Enhance
