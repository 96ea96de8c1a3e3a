import Enhance.Proofs.Disk.Proper
import Enhance.Proofs.Disk.Taken
import Enhance.Proofs.Replacement.Faultless
import Enhance.Proofs.Replacement.Returns

/-!
# Room for temporary files

A temporary file is made in the folder of the class file under a name that is free.  There always is such
a name, because a directory with fewer entries cannot hold all the names that are tried
(`exists_free_name`).  So the only thing that keeps the file from being made in a folder that is found is
that its path does not fit into a system call (`preparing_of_fits`, `preparing_of_not_fits`).

The folder is found by text: the path of the class file without its last name, made absolute, each `..`
taken back.  For a path without `..` it is the directory of the class file (`foldersAgree_of_plain`).
-/

namespace Enhance

namespace Temporary

/-- The digits of a number, with zeros in front of them, have the value of the number. -/
theorem ofDigitChars_nameOf (n zeros : Nat) :
    Nat.ofDigitChars 10 (List.replicate zeros '0' ++ Nat.toDigits 10 n) 0 = n := by
  have noValue : Nat.ofDigitChars 10 (List.replicate zeros '0') 0 = 0 := by
    induction zeros with
    | zero => rfl
    | succ zeros ih => rw [List.replicate_succ, Nat.ofDigitChars_cons]; exact ih
  rw [Nat.ofDigitChars_append, noValue, Nat.ofDigitChars_ten_toDigits]

/-- No two temporary files have the same name. -/
theorem nameOf_injective : Function.Injective nameOf := by
  intro m n same
  have texts := congrArg String.toList same
  simp only [nameOf, String.toList_append, String.toList_ofList, List.append_assoc,
    List.append_cancel_left_eq] at texts
  simp only [← List.append_assoc, List.append_cancel_right_eq] at texts
  have values := congrArg (Nat.ofDigitChars 10 · 0) texts
  simpa only [ofDigitChars_nameOf] using values

end Temporary

namespace Disk

/-- The path of the working directory leads along its names. -/
theorem names_cwdPath {cwd : List String} (proper : ∀ name ∈ cwd, isName name = true) :
    (cwdPath cwd).names = cwd := by
  have text : ("/" ++ "/".intercalate cwd).toList =
      '/' :: Text.joined ['/'] (cwd.map String.toList) := by
    rw [String.toList_append, String.toList_intercalate, Path.intercalate_eq_joined]
    rfl
  change Path.namesOf ("/" ++ "/".intercalate cwd).toList = cwd
  rw [text, Path.namesOf_slash, Path.namesOf_joined proper]

end Disk

namespace Replacement

variable {disk inside : Listing} {cwd place : List String} {path folder : Path} {name : String}
  {mode : Nat}

/-! ## A name that is free -/

/-- Among more names than a directory has entries there is one that is free. -/
theorem exists_free_name {count : Nat} (inside : Listing) (fewer : inside.entryCount < count) :
    ∃ n < count, inside.find? (Temporary.nameOf n) = none := by
  apply Classical.byContradiction
  intro taken
  have all : (List.range count).map Temporary.nameOf ⊆ inside.names := by
    intro name member
    obtain ⟨n, isTried, rfl⟩ := List.mem_map.1 member
    apply Listing.mem_names_iff.2
    apply Option.ne_none_iff_exists'.1
    intro free
    exact taken ⟨n, List.mem_range.1 isTried, free⟩
  have distinct : ((List.range count).map Temporary.nameOf).Nodup :=
    List.nodup_range.map Temporary.nameOf_injective
  have many := distinct.length_le_of_subset all
  have few := inside.length_names_le
  rw [List.length_map, List.length_range] at many
  omega

section

variable (absolute : folder.isAbsolute = true)
  (stands : Disk.lookup disk cwd true folder = .found place (.dir inside))

include absolute stands

/-- A path of an entry of a folder that fits into a system call leads to that entry. -/
theorem leads_child (entryName : isEntryName name = true) (fits : Disk.Fits (folder.child name)) :
    Disk.Leads disk cwd (folder.child name) place name := by
  have named := (Disk.isEntryName_iff.1 entryName).1
  have names : (folder.child name).names = folder.names ++ [name] := Path.names_child named
  have short := (Disk.fits_of_lookup stands).short
  rw [Disk.lookup, if_neg (Nat.not_lt.2 short), if_pos absolute] at stands
  refine ⟨fits.short, fits.names name (by simp [names]), entryName, folder.names, inside, names, ?_⟩
  rw [Disk.lookupStart, if_pos (Path.isAbsolute_child named absolute)]
  exact stands

/-- A path of a name that is free in its folder is not found. -/
theorem isFree_child (entryName : isEntryName name = true) (free : inside.find? name = none) :
    isFree disk cwd (folder.child name) = true := by
  rw [isFree]
  split
  · next row node found =>
      have leads := leads_child absolute stands entryName (Disk.fits_of_lookup found)
      rw [leads.lookup, Listing.at?_append_of_dir (Disk.at?_of_lookup stands), Listing.at?_singleton,
        free] at found
      contradiction
  · rfl

/-- The path that is chosen for a temporary file is that of a free name. -/
theorem isFree_temporaryPath : isFree disk cwd (temporaryPath disk cwd folder) = true := by
  have fewer : inside.entryCount < disk.entryCount + 1 :=
    Nat.lt_succ_of_le (Listing.entryCount_le_of_at? (Disk.at?_of_lookup stands))
  obtain ⟨n, isTried, free⟩ := exists_free_name inside fewer
  have isFound : ((List.range (disk.entryCount + 1)).find? fun n =>
      isFree disk cwd (folder.child (Temporary.nameOf n))).isSome := by
    rw [List.find?_isSome]
    exact ⟨n, List.mem_range.2 isTried,
      isFree_child absolute stands (Temporary.isEntryName_nameOf n) free⟩
  obtain ⟨m, chosen⟩ := Option.isSome_iff_exists.1 isFound
  have isChosen : temporaryPath disk cwd folder = folder.child (Temporary.nameOf m) := by
    simp only [temporaryPath, chosen, Option.getD_some]
  rw [isChosen]
  simpa using List.find?_some chosen

/-- In a folder that is found a temporary file can be made if its path fits into a system call. -/
theorem create_temporary (fits : Disk.Fits (temporaryPath disk cwd folder)) (mode : Nat) :
    ∃ disk', Disk.create disk cwd (temporaryPath disk cwd folder) mode = .ok disk' := by
  have free := isFree_temporaryPath absolute stands
  obtain ⟨n, isChild⟩ : ∃ n, temporaryPath disk cwd folder = folder.child (Temporary.nameOf n) :=
    ⟨_, rfl⟩
  rw [isChild] at fits free ⊢
  have leads := leads_child absolute stands (Temporary.isEntryName_nameOf n) fits
  have absent : disk.at? (place ++ [Temporary.nameOf n]) = none := by
    cases there : disk.at? (place ++ [Temporary.nameOf n]) with
    | none => rfl
    | some node => simp [isFree, leads.lookup, there] at free
  exact ⟨_, leads.create absent mode⟩

end

/-! ## Preparing a replacement -/

/-- The path of the temporary file for a class file. -/
def temporaryOf (world : World) (path : Path) : Path :=
  temporaryPath world.disk world.cwd (temporaryDir world.cwd path)

/-- The folder that is found by the text of the path of a class file is a directory. -/
def FolderStands (world : World) (path : Path) : Prop :=
  ∃ inside, Disk.stat world.disk world.cwd (temporaryDir world.cwd path) = .ok (.dir inside)

section

variable {world : World} (noNul : Disk.hasNul path = false)
  (noNul' : Disk.hasNul (Disk.cwdPath world.cwd) = false)

include noNul noNul'

theorem preparing_of_fits (stands : FolderStands world path) (fits : Disk.Fits (temporaryOf world path)) :
    preparing world.disk world.cwd path = .ok none := by
  obtain ⟨inside, found⟩ := stands
  obtain ⟨place, found⟩ := Disk.lookup_of_stat found
  have plain := hasNul_temporaryPath noNul noNul' world.disk
  obtain ⟨disk', created⟩ :=
    create_temporary (isAbsolute_temporaryDir world.cwd path) found fits Disk.privateMode
  simp [preparing, plain, created]

/-- Where no temporary file fits, a warning is all that comes of the replacement. -/
theorem preparing_of_not_fits (tooLong : ¬ Disk.Fits (temporaryOf world path)) :
    ∃ problem, preparing world.disk world.cwd path = .ok (some problem) ∧
      problem.severity = .warning := by
  have plain := hasNul_temporaryPath noNul noNul' world.disk
  cases created : Disk.create world.disk world.cwd (temporaryOf world path) Disk.privateMode with
  | error code =>
      refine ⟨diagnostic path .warning "Problem preparing class file for writing out enhancements"
        (Disk.errorAt code (temporaryOf world path)), ?_, rfl⟩
      rw [temporaryOf] at created
      simp [preparing, plain, created, temporaryOf]
  | ok disk' =>
      obtain ⟨n, isChild⟩ : ∃ n, temporaryOf world path =
          (temporaryDir world.cwd path).child (Temporary.nameOf n) := ⟨_, rfl⟩
      have entryName := Temporary.isEntryName_nameOf n
      have named := (Disk.isEntryName_iff.1 entryName).1
      have absolute := Path.isAbsolute_child named (isAbsolute_temporaryDir world.cwd path)
      rw [isChild] at created tooLong
      obtain ⟨row, -, leaf⟩ :=
        Disk.leaf_of_create (Path.names_child named) entryName absolute created
      obtain ⟨place, name, -, leads⟩ := leaf.leads
      exact absurd leads.fits tooLong

end

/-! ## The folder of a path without `..` -/

/-- The text of the folder is that of the path without its last name, seen from the root. -/
theorem names_temporaryDir (proper : ∀ name ∈ cwd, isEntryName name = true)
    (plain : ".." ∉ path.names) :
    (temporaryDir cwd path).names = Disk.lookupStart cwd path ++ path.names.dropLast := by
  have properNames : ∀ name ∈ cwd, isName name = true := by
    intro name member
    exact (Disk.isEntryName_iff.1 (proper name member)).1
  have cwdPlain : ".." ∉ cwd := by
    intro member
    exact (Disk.isEntryName_iff.1 (proper _ member)).2 rfl
  have parentPlain : ".." ∉ path.names.dropLast := by
    intro member
    exact plain (List.dropLast_subset _ member)
  have unfolded : (path.parent.absolute (Disk.cwdPath cwd)).names =
      Disk.lookupStart cwd path ++ path.names.dropLast := by
    rw [Path.absolute, Disk.lookupStart]
    by_cases relative : path.anchor = .relative
    · have sameAnchor : path.parent.anchor = .relative := relative
      rw [(Path.append_relative _ sameAnchor).2, Disk.names_cwdPath properNames]
      simp [Path.isAbsolute, relative, Path.parent]
    · have sameAnchor : path.parent.anchor ≠ .relative := relative
      rw [Path.append_absolute sameAnchor]
      simp [Path.isAbsolute, relative, Path.parent]
  have allPlain : ".." ∉ Disk.lookupStart cwd path ++ path.names.dropLast := by
    rw [List.mem_append, Disk.lookupStart]
    split <;> simp [cwdPlain, parentPlain]
  change Path.foldBack [] (path.parent.absolute (Disk.cwdPath cwd)).names = _
  rw [unfolded, Path.foldBack_of_plain allPlain]
  rfl

/-- The folder of a path without `..` is found if the path of a temporary file in it fits into a system
call. -/
theorem folderStands_of_plain {world : World} {top : Listing} {row : List String}
    (proper : world.disk.isProper = true) (start : world.disk.at? world.cwd = some (.dir top))
    (leads : Disk.LeadsTo world.disk world.cwd path row) (plain : ".." ∉ path.names)
    (fits : Disk.Fits (temporaryOf world path)) : FolderStands world path := by
  obtain ⟨place, name, -, -, -, -, front, inside, names, found⟩ := leads
  have absolute := isAbsolute_temporaryDir world.cwd path
  obtain ⟨n, isChild⟩ : ∃ n, temporaryOf world path =
      (temporaryDir world.cwd path).child (Temporary.nameOf n) := ⟨_, rfl⟩
  have named := (Disk.isEntryName_iff.1 (Temporary.isEntryName_nameOf n)).1
  have ofCwd := Listing.isEntryName_of_at? proper start
  have folder : (temporaryDir world.cwd path).names = Disk.lookupStart world.cwd path ++ front := by
    rw [names_temporaryDir ofCwd plain, names, List.dropLast_concat]
  obtain ⟨short, shortNames⟩ := fits
  rw [isChild] at short shortNames
  rw [Path.names_child named, folder] at shortNames
  have properStart : ∀ name ∈ Disk.lookupStart world.cwd path, isEntryName name = true := by
    intro name
    rw [Disk.lookupStart]
    split
    · simp
    · exact ofCwd name
  have isDir : ∃ top, world.disk.at? ([] ++ Disk.lookupStart world.cwd path) = some (.dir top) := by
    rw [List.nil_append, Disk.lookupStart]
    split
    · exact ⟨world.disk, rfl⟩
    · exact ⟨top, start⟩
  obtain ⟨top', isDir⟩ := isDir
  have along : Disk.follow world.disk true Disk.linkLimit []
      (Disk.lookupStart world.cwd path ++ front) = .found place (.dir inside) := by
    rw [Disk.follow_down_append properStart (fun other member => shortNames other (by simp [member]))
      isDir, List.nil_append]
    exact found
  have found' : Disk.lookup world.disk world.cwd true (temporaryDir world.cwd path) =
      .found place (.dir inside) := by
    have fitting := Nat.le_trans (Path.utf8ByteSize_le_child named absolute) short
    rw [Disk.lookup, if_neg (Nat.not_lt.2 fitting), if_pos absolute, folder]
    exact along
  exact ⟨inside, Disk.stat_of_lookup found'⟩

end Replacement

end Enhance
