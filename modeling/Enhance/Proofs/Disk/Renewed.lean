import Enhance.Proofs.Disk.Alike
import Enhance.Proofs.Disk.Through

/-!
# Trees in which files were renewed

Files are renewed when files are put in the place of entries that end in files.  Whatever led to a
directory or to a file then still does, and what was missing is still missing (`Disk.Renewed`).  The
directories may list their entries in another order afterwards (`Disk.Renewed.of_alike`).
-/

namespace Enhance.Disk

open Listing

/-- A tree in which files were put, one after the other, in the place of entries that ended in files, and
whose directories may list their entries in another order. -/
structure Renewed (disk disk' : Listing) : Prop where
  ways : SameWays disk disk'
  skeleton : disk.skeleton.Alike disk'.skeleton
  entry : ∀ row node, disk.at? row = some node → node.isDir = false →
    disk'.at? row = some node ∨ ∃ data, disk'.at? row = some (.file data)
  file : ∀ cwd path data, stat disk cwd path = .ok (.file data) →
    ∃ data', stat disk' cwd path = .ok (.file data')
  missing : ∀ cwd path code, stat disk cwd path = .error code → code ≠ SystemError.tooManyLinks →
    stat disk' cwd path = .error code

/-- A path leads to a file, or it fails in a way that stays the same when files are renewed. -/
def Steady (disk : Listing) (cwd : List String) (path : Path) : Prop :=
  (∃ data, stat disk cwd path = .ok (.file data)) ∨
    ∃ code, stat disk cwd path = .error code ∧ code ≠ SystemError.tooManyLinks

namespace Renewed

variable {disk disk' disk'' : Listing} {row place : List String} {data new : FileData}

theorem refl (disk : Listing) : Renewed disk disk :=
  ⟨.refl disk, .refl _, fun _ _ there _ => .inl there, fun _ _ data found => ⟨data, found⟩,
    fun _ _ _ failed _ => failed⟩

theorem trans (one : Renewed disk disk') (two : Renewed disk' disk'') : Renewed disk disk'' := by
  refine ⟨one.ways.trans two.ways, one.skeleton.trans two.skeleton, ?_, ?_, ?_⟩
  · intro row node there plain
    rcases one.entry row node there plain with still | ⟨data, isFile⟩
    · exact two.entry row node still plain
    · rcases two.entry row _ isFile rfl with still | isFile'
      · exact .inr ⟨data, still⟩
      · exact .inr isFile'
  · intro cwd path data found
    obtain ⟨data', found'⟩ := one.file cwd path data found
    exact two.file cwd path data' found'
  · intro cwd path code failed settled
    exact two.missing cwd path code (one.missing cwd path code failed settled) settled

theorem of_alike (alike : disk.Alike disk') : Renewed disk disk' := by
  refine ⟨alike.sameWays, alike.mapped Node.isDir_bone, fun row node there plain => ?_, ?_, ?_⟩
  · exact .inl (at?_of_bareAt?_eq (alike row) plain there)
  · exact fun cwd path data found => ⟨data, stat_file_alike alike found⟩
  · exact fun cwd path code failed _ => stat_error_alike alike failed

theorem of_sets (ends : EndsIn disk row place data) (sets : Sets disk row (some (.file new)) disk') :
    Renewed disk disk' := by
  refine ⟨sets.sameWays ends.isDeadEnd, ?_, ?_, ?_, ?_⟩
  · obtain ⟨node, there⟩ := Option.ne_none_iff_exists'.1 ends.at?_ne_none
    have plain : node.isDir = false := by
      cases node with
      | file | link => rfl
      | dir inside => exact absurd there (at?_ne_dir_of_isDeadEnd ends.isDeadEnd inside)
    exact skeleton_alike_of_sets sets there plain
  · intro other node there plain
    by_cases same : other = row
    · exact .inr ⟨new, same ▸ sets.here⟩
    · exact .inl (at?_of_bareAt?_eq (sets.elsewhere other same) plain there)
  · intro cwd path given found
    obtain ⟨end', leads⟩ := lookup_of_stat found
    rcases lookup_file_of_sets ends.isDeadEnd sets leads with ⟨same, -⟩ | ⟨-, onwards⟩
    · exact ⟨given, stat_of_lookup same⟩
    · exact ⟨new, stat_of_lookup (onwards new rfl)⟩
  · intro cwd path code failed settled
    exact stat_error_of_sets ends sets failed settled

theorem steady (renewed : Renewed disk disk') {cwd : List String} {path : Path}
    (isSteady : Steady disk cwd path) : Steady disk' cwd path := by
  rcases isSteady with ⟨data, found⟩ | ⟨code, failed, settled⟩
  · exact .inl (renewed.file cwd path data found)
  · exact .inr ⟨code, renewed.missing cwd path code failed settled, settled⟩

/-- A path that led to a directory leads to it, and the directory looks the same but for the files that
were renewed and the order of its entries. -/
theorem lookup_dir (renewed : Renewed disk disk') {cwd : List String} {path : Path} {inside : Listing}
    (found : lookup disk cwd true path = .found place (.dir inside)) :
    ∃ inside', lookup disk' cwd true path = .found place (.dir inside') ∧
      inside.skeleton.Alike inside'.skeleton := by
  obtain ⟨inside', found'⟩ := lookup_dir_of_sameWays renewed.ways found
  refine ⟨inside', found', fun row => ?_⟩
  have within {disk inside : Listing} (there : disk.at? place = some (.dir inside)) :
      disk.skeleton.bareAt? (place ++ row) = inside.skeleton.bareAt? row := by
    have there' : disk.skeleton.at? place = some (.dir inside.skeleton) := by
      rw [at?_mapped Node.isDir_bone, there]
      rfl
    rw [bareAt?, bareAt?, at?_append_of_dir there']
  rw [← within (at?_of_lookup found), ← within (at?_of_lookup found'), renewed.skeleton]

end Renewed

end Enhance.Disk
