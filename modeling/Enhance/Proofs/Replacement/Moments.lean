import Enhance.Proofs.Replacement
import Enhance.Proofs.Trail

/-!
# The moments of an atomic replacement

Until the temporary file is renamed, the disk differs from what it was at first only at a place that
was free (`World.Spares`).  The renaming is one call, after which the path leads to a file with all the
new bytes and the permissions of the old one (`replaceAtomically_leaves`).  This holds however the
replacement ends.
-/

namespace Enhance

open Program

/-- Every disk on the way differs at most at a place that was free at first. -/
def World.Spares (before after : World) : Prop :=
  ∃ disks, before.Trail after disks ∧ ∀ disk ∈ disks, Disk.Spares before.disk disk

/-- After a time in which it was spared, an entry became a file by a single call. -/
structure World.Replaces (row : List String) (data : FileData) (before after : World) : Prop where
  spares : ∃ last, before.Spares last ∧ last.Trail after [after.disk]
  sets : Disk.Sets before.disk row (some (.file data)) after.disk

/-- An attempt to replace a class file spared every entry, or it replaced the class file by a file with
given bytes and the permissions it had. -/
def World.Attempts (row : List String) (bytes : List UInt8) (before after : World) : Prop :=
  before.Spares after ∨ ∃ mode,
    (∀ data, before.disk.at? row = some (.file data) → mode = data.mode) ∧
      before.Replaces row ⟨bytes, mode, true⟩ after

namespace World.Spares

variable {before middle after : World} {place row : List String} {node : Node}

theorem of_still (still : before.Still after) : before.Spares after :=
  ⟨[], still, by simp⟩

theorem of_staysAt (free : before.disk.at? place = none)
    (stays : World.StaysAt place before after) : before.Spares after := by
  obtain ⟨disks, trail, differ⟩ := stays
  exact ⟨disks, trail, fun disk member => ⟨place, free, differ disk member⟩⟩

theorem still_trans (still : before.Still middle) (spares : middle.Spares after) :
    before.Spares after := by
  obtain ⟨disks, trail, differ⟩ := spares
  refine ⟨disks, still.still_trans trail, ?_⟩
  have same : middle.disk = before.disk := still.disk
  rw [← same]
  exact differ

theorem trans_still (spares : before.Spares middle) (still : middle.Still after) :
    before.Spares after := by
  obtain ⟨disks, trail, differ⟩ := spares
  exact ⟨disks, trail.trans_still still, differ⟩

/-- The disk at the end is as before or differs at a place that was free. -/
theorem disk (spares : before.Spares after) :
    after.disk = before.disk ∨ Disk.Spares before.disk after.disk := by
  obtain ⟨disks, trail, differ⟩ := spares
  exact trail.disk_eq_or_mem.imp id (differ _)

theorem cwd (spares : before.Spares after) : after.cwd = before.cwd := by
  obtain ⟨disks, trail, differ⟩ := spares
  exact trail.cwd

theorem sameWays (spares : before.Spares after) : Disk.SameWays before.disk after.disk := by
  rcases spares.disk with same | differs
  · rw [same]
    exact .refl _
  · exact differs.sameWays

theorem at?_eq (spares : before.Spares after) (plain : node.isDir = false)
    (there : before.disk.at? row = some node) : after.disk.at? row = some node := by
  rcases spares.disk with same | differs
  · rw [same]
    exact there
  · exact differs.at?_eq plain there

end World.Spares

namespace World.Replaces

variable {before middle after : World} {row : List String} {data : FileData}

theorem still_trans (still : before.Still middle) (replaces : middle.Replaces row data after) :
    before.Replaces row data after := by
  obtain ⟨⟨last, spares, trail⟩, sets⟩ := replaces
  have same : middle.disk = before.disk := still.disk
  rw [same] at sets
  exact ⟨⟨last, .still_trans still spares, trail⟩, sets⟩

theorem trans_still (replaces : before.Replaces row data middle) (still : middle.Still after) :
    before.Replaces row data after := by
  obtain ⟨⟨last, spares, trail⟩, sets⟩ := replaces
  have same : after.disk = middle.disk := still.disk
  rw [← same] at sets trail
  exact ⟨⟨last, spares, trail.trans_still still⟩, sets⟩

end World.Replaces

namespace Replacement

variable {path temporary : Path} {row : List String} {world after : World} {node : Node}
  {data : FileData} {bytes : List UInt8} {failure : Failure} {answer : Unit}

/-! ## Single steps -/

theorem makeTemporary_steps (path : Path) : (makeTemporary path).Keeps World.Steps := by
  apply steps_of_still_bind (strike_still _ _)
  intro _
  refine steps_of_still_bind keeps_get fun world => ?_
  exact steps_of_bind_still (alter_steps _) fun _ => still_lawful.pure _

theorem writeAll_steps (path : Path) (bytes : List UInt8) :
    (writeAll path bytes).Keeps World.Steps :=
  steps_of_bind_still (alter_steps _) fun _ => strike_still _ _

theorem copyMode_steps (source target : Path) : (copyMode source target).Keeps World.Steps := by
  apply steps_of_still_bind (strike_still _ _)
  intro _
  exact steps_of_still_bind (still_lawful.ask _) fun _ => alter_steps _

/-- A renaming that succeeds is a single call. -/
theorem replace_trail (done : replace temporary path world = .ok answer after) :
    world.Trail after [after.disk] := by
  obtain ⟨_, struck, asked, altering⟩ := bind_ok.1 done
  have still := (strike_still _ _).of_ok asked
  obtain ⟨disk, -, rfl⟩ := alter_ok.1 altering
  exact still.still_trans ⟨rfl, rfl, rfl⟩

theorem remove_steps (path : Path) : (remove path).Keeps World.Steps :=
  steps_of_still_bind (strike_still _ _) fun _ => alter_steps _

theorem writeAll_staysAt (leaf : world.Leaf path row)
    (there : world.disk.at? row = some (.file data)) (bytes : List UInt8) :
    World.StaysAt row world ((writeAll path bytes).leaves world) := by
  apply leaves_of_ends
  · intro answer after done
    exact .of_steps ((writeAll_steps _ _).of_ok done) ⟨_, (writeAll_ok leaf there done).disk⟩
  · intro failure after failed
    obtain ⟨_, -, sets⟩ := writeAll_error leaf there failed
    exact .of_steps ((writeAll_steps _ _).of_error failed) ⟨_, sets.disk⟩

theorem copyMode_staysAt {source : Path} (leaf : world.Leaf path row)
    (there : world.disk.at? row = some (.file data)) :
    World.StaysAt row world ((copyMode source path).leaves world) := by
  apply leaves_of_ends
  · intro answer after done
    obtain ⟨_, -, sets⟩ := copyMode_ok leaf there done
    exact .of_steps ((copyMode_steps _ _).of_ok done) ⟨_, sets.disk⟩
  · intro failure after failed
    exact .of_still (.of_silent (copyMode_error failed))

theorem fill_staysAt (leaf : world.Leaf temporary row)
    (there : world.disk.at? row = some (.file data)) (source : Path) (bytes : List UInt8) :
    World.StaysAt row world
      ((do writeAll temporary bytes; copyMode source temporary : Program Unit).leaves world) := by
  have writes := writeAll_staysAt leaf there bytes
  apply leaves_bind
  · intro _ middle writing
    rw [leaves_of_ok writing] at writes
    have written := writeAll_ok leaf there writing
    exact writes.trans (copyMode_staysAt (leaf.of_sets_file written) written.disk.here)
  · intro failure middle failed
    rwa [leaves_of_error failed] at writes

theorem discard_staysAt (leaf : world.Leaf temporary row)
    (there : world.disk.at? row = some (.file data)) :
    World.StaysAt row world ((discard temporary).leaves world) := by
  apply leaves_catch
  · intro _ middle removing
    exact .of_steps ((remove_steps _).of_ok removing) ⟨_, (remove_ok leaf there removing).disk⟩
  · intro error middle removing
    have still := World.Still.of_silent (remove_error removing)
    exact .of_still (still.trans ⟨rfl, rfl, rfl⟩)
  · intro failure middle removing
    exact .of_still (.of_silent (remove_error removing))

/-! ## The whole replacement -/

/-- The permissions that are copied are those of the file that is replaced. -/
theorem eq_mode_of_modeOf {place : List String} {entry : Option Node} {middle : World} {mode : Nat}
    (leaf : world.Leaf path row) (there : world.disk.at? row = some (.file data))
    (absent : world.disk.at? place = none) (sets : world.Sets place entry middle)
    (free : world.Leaf temporary place) (told : Disk.modeOf middle.disk middle.cwd path = .ok mode) :
    mode = data.mode := by
  have ne : row ≠ place := by
    rintro rfl
    rw [absent] at there
    contradiction
  have still : middle.disk.at? row = some (.file data) :=
    Listing.at?_of_bareAt?_eq (sets.disk.elsewhere row ne) rfl there
  have leads : Disk.LeadsTo middle.disk middle.cwd path row := by
    rw [sets.cwd]
    exact leaf.leads.of_sameWays (sets.disk.sameWays free.deadEnd)
  rw [Disk.modeOf, leads.stat_file still] at told
  cases told
  rfl

/-- Renaming the full temporary file replaces the class file. -/
theorem replaces_of_replace {place : List String} {mode : Nat} {middle : World}
    (leaf : world.Leaf path row) (there : world.disk.at? row = some node)
    (absent : world.disk.at? place = none) (free : world.Leaf temporary place)
    (stays : World.StaysAt place world middle)
    (filled : world.Sets place (some (.file ⟨bytes, mode, true⟩)) middle)
    (full : middle.Leaf temporary place)
    (replacing : replace temporary path middle = .ok answer after) :
    world.Replaces row ⟨bytes, mode, true⟩ after := by
  have sets := replace_sets leaf.leads there (leaf.isDir_eq_false there) absent free filled full replacing
  exact ⟨⟨middle, .of_staysAt absent stays, replace_trail replacing⟩, sets.disk⟩

/-- Whatever comes of an atomic replacement, every entry is spared until the class file becomes, by a
single call, a file with the new bytes and the permissions it had. -/
theorem replaceAtomically_leaves (leaf : world.Leaf path row)
    (there : world.disk.at? row = some node) (bytes : List UInt8) :
    World.Attempts row bytes world ((replaceAtomically path bytes).leaves world) := by
  rw [replaceAtomically, leaves_get_bind]
  apply leaves_catch
  · intro temporary first making
    obtain ⟨-, place, absent, free, sets⟩ := makeTemporary_ok making
    have made : World.StaysAt place world first :=
      .of_steps ((makeTemporary_steps _).of_ok making) ⟨_, sets.disk⟩
    have file := free.of_sets_file sets
    have fills := fill_staysAt file sets.disk.here path bytes
    apply leaves_catch
    · intro _ second filling
      rw [leaves_of_ok filling] at fills
      obtain ⟨mode, middle, written, told, filled⟩ := fill_ok file sets.disk.here filling
      have whole := sets.trans filled
      have full := file.of_sets_file filled
      have stays := made.trans fills
      apply leaves_catch
      · intro _ third replacing
        refine .inr ⟨mode, ?_, replaces_of_replace leaf there absent free stays whole full replacing⟩
        intro data isFile
        exact eq_mode_of_modeOf leaf isFile absent (sets.trans written) free told
      · intro error third replacing
        have still := World.Still.of_silent (replace_error replacing)
        have quiet := World.Quiet.of_silent (replace_error replacing)
        rw [leaves_bind_pure]
        have discards := discard_staysAt (full.after_quiet quiet) (quiet.disk ▸ filled.disk.here)
        exact .inl (.of_staysAt absent ((stays.trans (.of_still still)).trans discards))
      · intro failure third replacing
        have still := World.Still.of_silent (replace_error replacing)
        exact .inl (.of_staysAt absent (stays.trans (.of_still still)))
    · intro error second filling
      rw [leaves_of_error filling] at fills
      obtain ⟨data, filled⟩ := fill_error file sets.disk.here filling
      rw [leaves_bind_pure]
      have discards := discard_staysAt (file.of_sets_file filled) filled.disk.here
      exact .inl (.of_staysAt absent ((made.trans fills).trans discards))
    · intro failure second filling
      rw [leaves_of_error filling] at fills
      exact .inl (.of_staysAt absent (made.trans fills))
  · intro error first making
    exact .inl (.of_still (.of_silent (makeTemporary_error making)))
  · intro failure first making
    exact .inl (.of_still (.of_silent (makeTemporary_error making)))

end Replacement

end Enhance
