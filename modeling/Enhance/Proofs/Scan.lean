import Enhance.Proofs.Disk.Leaf
import Enhance.Proofs.Scan.Discovery

/-!
# Where what a scan finds stands

The paths that a scan finds in a proper tree lead each to a place of its own in the tree, unless a
path is too long for the system (`Scanner.scan_placed`).
-/

namespace Enhance

namespace Scanner

open Disk

variable {scanner : Scanner} {directory : Path} {world after : World}

/-- A path below a directory leads where its names lead there, unless it is too long. -/
theorem leadsTo_descend {disk inside : Listing} {cwd place row : List String} {node : Node}
    (root : lookup disk cwd true directory = .found place (.dir inside))
    (proper : ∀ name ∈ row, isEntryName name = true) (there : inside.at? row = some node)
    (more : row ≠ []) (fits : Fits (directory.descend row)) :
    LeadsTo disk cwd (directory.descend row) (place ++ row) := by
  have named : ∀ name ∈ row, isName name = true :=
    fun name member => (isEntryName_iff.1 (proper name member)).1
  have names : (directory.descend row).names = directory.names ++ row := Path.names_descend named
  have start : lookupStart cwd (directory.descend row) = lookupStart cwd directory := by
    rw [lookupStart, lookupStart, Path.isAbsolute, Path.isAbsolute, Path.anchor_descend named]
  obtain ⟨short, shortNames⟩ := fits
  generalize directory.descend row = path at names start short shortNames ⊢
  obtain ⟨front, last, rfl⟩ := (List.eq_nil_or_concat row).resolve_left more
  rw [List.concat_eq_append] at *
  rw [List.forall_mem_append] at proper
  obtain ⟨inner, above⟩ := Listing.exists_dir_of_at?_append there (by simp)
  have found : follow disk true linkLimit (lookupStart cwd path) (directory.names ++ front) =
      .found (place ++ front) (.dir inner) := by
    rw [lookup] at root
    split at root
    · contradiction
    · change follow disk true linkLimit (lookupStart cwd directory) directory.names = _ at root
      rw [start]
      by_cases none : front = []
      · subst none
        cases above
        rw [List.append_nil, List.append_nil]
        exact root
      · obtain ⟨fewer, onwards⟩ := follow_append root
        rw [← Listing.at?_append_of_dir (at?_of_follow root)] at above
        rw [onwards true front none]
        refine follow_down proper.1 (fun name member => shortNames name ?_) above
        simp [names, member]
  refine ⟨place ++ front, last, (List.append_assoc _ _ _).symm, short, ?_, ?_,
    directory.names ++ front, inner, ?_, found⟩
  · exact shortNames last (by simp [names])
  · exact proper.2 last List.mem_cons_self
  · rw [names, List.append_assoc]

theorem IsFileEntry.isDir_eq_false {disk : Listing} {cwd : List String} {path : Path} {node : Node}
    (isFile : IsFileEntry disk cwd path node) : node.isDir = false := by
  cases node with
  | file | link => rfl
  | dir inside => exact isFile.elim

/-- Files that were found stand each at a place of its own, where its path leads unless it is too
long. -/
structure Placed (disk : Listing) (cwd : List String) (paths : List Path)
    (rowOf : Path → List String) : Prop where
  nodup : paths.Nodup
  eq_of_rowOf : ∀ one ∈ paths, ∀ two ∈ paths, rowOf one = rowOf two → one = two
  leads : ∀ path ∈ paths, Fits path → LeadsTo disk cwd path (rowOf path)
  there : ∀ path ∈ paths, ∃ node, disk.at? (rowOf path) = some node ∧ node.isDir = false

namespace Placed

variable {disk disk' : Listing} {cwd : List String} {path : Path} {paths : List Path}
  {rowOf : Path → List String} {data : FileData}

/-- A file that a path leads to stands at its place, also when dead ends have changed. -/
theorem leaf_of_stat (placed : Placed disk cwd paths rowOf) (member : path ∈ paths)
    (ways : SameWays disk disk') (found : stat disk' cwd path = .ok (.file data)) :
    Fits path ∧ Leaf disk' cwd path (rowOf path) ∧
      ∀ other, disk'.at? (rowOf path) = some (.file other) → other = data := by
  obtain ⟨place, looked⟩ := lookup_of_stat found
  have fits := fits_of_lookup looked
  have leads := (placed.leads path member fits).of_sameWays ways
  refine ⟨fits, ⟨leads, leads.isDeadEnd_of_stat_file found⟩, ?_⟩
  intro other there
  have same := leads.stat_file there
  rw [found] at same
  cases same
  rfl

end Placed

namespace Discovered

variable {disk inside : Listing} {cwd place : List String} {opened rows : List (List String)}
  {least : Nat} {paths : List Path}

/-- The row of a path is read off its names. -/
theorem drop_names (found : scanner.Discovered disk cwd directory inside opened least paths rows)
    (proper : inside.isProper = true) {row : List String} (member : row ∈ rows) :
    (directory.descend row).names.drop directory.names.length = row := by
  have named := found.isEntryName proper member
  rw [Path.names_descend fun name inRow => (isEntryName_iff.1 (named name inRow)).1, List.drop_left]

theorem placed (found : scanner.Discovered disk cwd directory inside opened least paths rows)
    (root : lookup disk cwd true directory = .found place (.dir inside))
    (proper : inside.isProper = true) :
    Placed disk cwd paths fun path => place ++ path.names.drop directory.names.length := by
  have isRow : ∀ path ∈ paths, ∃ row ∈ rows, directory.descend row = path := by
    rw [found.paths_eq]
    simp
  refine ⟨found.paths_nodup proper, ?_, ?_, ?_⟩
  · intro one isOne two isTwo same
    obtain ⟨row, member, rfl⟩ := isRow one isOne
    obtain ⟨row', member', rfl⟩ := isRow two isTwo
    rw [found.drop_names proper member, found.drop_names proper member'] at same
    rw [List.append_cancel_left same]
  · intro path isPath fits
    obtain ⟨row, member, rfl⟩ := isRow path isPath
    have meets := ((found.mem_iff row).1 member).2
    obtain ⟨node, there, -⟩ := meets.there
    rw [found.drop_names proper member]
    exact leadsTo_descend root (found.isEntryName proper member) there meets.ne_nil fits
  · intro path isPath
    obtain ⟨row, member, rfl⟩ := isRow path isPath
    obtain ⟨node, there, isFile⟩ := ((found.mem_iff row).1 member).2.there
    rw [found.drop_names proper member, Listing.at?_append_of_dir (at?_of_lookup root)]
    exact ⟨node, there, isFile.isDir_eq_false⟩

/-- A link that is found leads to a file. -/
theorem stat_of_link (found : scanner.Discovered disk cwd directory inside opened least paths rows)
    (root : lookup disk cwd true directory = .found place (.dir inside))
    (proper : inside.isProper = true) {path : Path} {target : String} (isPath : path ∈ paths)
    (there : disk.at? (place ++ path.names.drop directory.names.length) = some (.link target)) :
    ∃ data, stat disk cwd path = .ok (.file data) := by
  rw [found.paths_eq, List.mem_map] at isPath
  obtain ⟨row, member, rfl⟩ := isPath
  obtain ⟨node, there', isFile⟩ := ((found.mem_iff row).1 member).2.there
  rw [found.drop_names proper member, Listing.at?_append_of_dir (at?_of_lookup root), there'] at there
  cases there
  exact isFile

end Discovered

/-- What a scan of a proper tree finds stands at places of its own. -/
theorem scan_placed (proper : world.disk.isProper = true) {root : Path} {artifacts : Artifacts}
    (done : scanner.scan root world = .ok artifacts after) :
    ∃ rowOf, Placed world.disk world.cwd artifacts.paths rowOf := by
  obtain ⟨-, ⟨-, none⟩ | ⟨place, inside, rows, -, leads, found⟩⟩ := scan_ok proper done
  · rw [none]
    exact ⟨fun _ => [], .nil, by simp, by simp, by simp⟩
  · exact ⟨_, found.placed leads (Listing.isProper_of_at? proper (at?_of_lookup leads))⟩

/-- What a scan of a proper tree finds leads to files, unless a path is too long. -/
theorem scan_stat (proper : world.disk.isProper = true) {root path : Path} {artifacts : Artifacts}
    (done : scanner.scan root world = .ok artifacts after) (member : path ∈ artifacts.paths)
    (fits : Fits path) : ∃ data, stat world.disk world.cwd path = .ok (.file data) := by
  obtain ⟨-, ⟨-, none⟩ | ⟨place, inside, rows, -, leads, found⟩⟩ := scan_ok proper done
  · simp [none] at member
  · rw [found.paths_eq, List.mem_map] at member
    obtain ⟨row, isRow, rfl⟩ := member
    have meets := ((found.mem_iff row).1 isRow).2
    obtain ⟨node, there, isFile⟩ := meets.there
    cases node with
    | dir inner => exact isFile.elim
    | link target => exact isFile
    | file data =>
        have properInside := Listing.isProper_of_at? proper (at?_of_lookup leads)
        have leadsTo := leadsTo_descend leads (found.isEntryName properInside isRow) there
          meets.ne_nil fits
        rw [← Listing.at?_append_of_dir (at?_of_lookup leads)] at there
        exact ⟨data, leadsTo.stat_file there⟩

end Scanner

end Enhance
