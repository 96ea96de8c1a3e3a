import Enhance.Proofs.Disk.Leaf
import Enhance.Proofs.Lawful

/-!
# The disks that a program passes through

A program that is stopped between two calls leaves the disk as it was at that moment.  `World.Trail`
gives the disks at all these moments, whether the program ends with a value or fails: nothing at all
if the program changes no files (`World.Still`), and one disk if it makes a single call that does
(`World.Steps`).  A program stays at a place if all disks it passes through differ there only
(`World.StaysAt`).
-/

namespace Enhance

/-- From one world to another one the disk was each of given ones in turn, and nothing else. -/
structure World.Trail (before after : World) (disks : List Listing) : Prop where
  cwd : after.cwd = before.cwd
  moments : after.moments = disks.reverse ++ before.moments
  disk : after.disk = disks.getLastD before.disk

/-- No call has changed the files. -/
abbrev World.Still (before after : World) : Prop :=
  before.Trail after []

/-- At most one call has changed the files. -/
def World.Steps (before after : World) : Prop :=
  before.Still after ∨ before.Trail after [after.disk]

namespace World.Trail

variable {before middle after : World} {disks more : List Listing}

theorem trans (one : before.Trail middle disks) (two : middle.Trail after more) :
    before.Trail after (disks ++ more) := by
  refine ⟨two.cwd.trans one.cwd, ?_, ?_⟩
  · simp [two.moments, one.moments]
  · rw [two.disk, one.disk]
    simp [List.getLastD_eq_getLast?, List.getLast?_append]

theorem still_trans (one : before.Still middle) (two : middle.Trail after disks) :
    before.Trail after disks :=
  one.trans two

theorem trans_still (one : before.Trail middle disks) (two : middle.Still after) :
    before.Trail after disks := by
  rw [← List.append_nil disks]
  exact one.trans two

/-- The disk is as before or the last one of those that were passed through. -/
theorem disk_eq_or_mem (trail : before.Trail after disks) :
    after.disk = before.disk ∨ after.disk ∈ disks := by
  rw [trail.disk]
  cases disks with
  | nil => exact .inl rfl
  | cons first rest =>
      rw [List.getLastD_cons]
      exact .inr List.getLastD_mem_cons

end World.Trail

namespace World.Still

variable {before after : World}

theorem refl (world : World) : world.Still world :=
  ⟨rfl, rfl, rfl⟩

instance : IsPreorder World World.Still where
  refl := refl
  trans _ _ _ := World.Trail.trans

theorem of_silent (silent : before.Silent after) : before.Still after := by
  obtain ⟨log, faults, reported, rfl⟩ := silent
  exact ⟨rfl, rfl, rfl⟩

end World.Still

namespace Program

variable {α β : Type}

/-! ## Programs that make at most one call -/

theorem still_reporting : Reporting fun _ program => program.Keeps World.Still :=
  keeps_reporting fun _ _ => .of_silent

theorem still_lawful : Lawful fun _ program => program.Keeps World.Still :=
  still_reporting.toLawful

theorem still_recording : Recording fun _ program => program.Keeps World.Still :=
  keeps_recording still_lawful (fun _ _ => ⟨rfl, rfl, rfl⟩) (fun _ _ _ => ⟨rfl, rfl, rfl⟩)
    (fun _ _ => ⟨rfl, rfl, rfl⟩) fun _ _ still => ⟨still.cwd, still.moments, still.disk⟩

theorem strike_still (call : SystemCall) (name : Option String) :
    (strike call name).Keeps World.Still :=
  still_lawful.strike call name

theorem log_still (entry : LogEntry) : (log entry).Keeps World.Still :=
  (log_silent entry).mono fun _ _ => .of_silent

theorem alter_steps (call : Listing → List String → Except Failure Listing) :
    (alter call).Keeps World.Steps := by
  apply keeps_of_ends
  · intro world answer after done
    obtain ⟨disk, -, rfl⟩ := alter_ok.1 done
    exact .inr ⟨rfl, rfl, rfl⟩
  · intro world failure after failed
    obtain ⟨-, rfl⟩ := alter_error.1 failed
    exact .inl (.refl _)

/-- Before a call there may be any steps that change no files. -/
theorem steps_of_still_bind {first : Program α} {second : α → Program β}
    (still : first.Keeps World.Still) (steps : ∀ found, (second found).Keeps World.Steps) :
    (first >>= second).Keeps World.Steps := by
  intro world
  apply leaves_bind
  · intro found middle done
    have before := still.of_ok done
    rcases steps found middle with after | after
    · exact .inl (before.trans after)
    · exact .inr (before.still_trans after)
  · intro failure middle failed
    exact .inl (still.of_error failed)

/-- After a call there may be any steps that change no files. -/
theorem steps_of_bind_still {first : Program α} {second : α → Program β}
    (steps : first.Keeps World.Steps) (still : ∀ found, (second found).Keeps World.Still) :
    (first >>= second).Keeps World.Steps := by
  intro world
  apply leaves_bind
  · intro found middle done
    have after := still found middle
    rcases steps.of_ok done with before | before
    · exact .inl (before.trans after)
    · refine .inr ?_
      rw [after.disk]
      exact before.trans_still after
  · intro failure middle failed
    exact steps.of_error failed

end Program

/-! ## Single places -/

/-- Two trees differ at most in what a single row of names leads to. -/
def Disk.Differs (place : List String) (before after : Listing) : Prop :=
  ∃ entry, Disk.Sets before place entry after

theorem Disk.differs_refl (place : List String) (disk : Listing) : Disk.Differs place disk disk :=
  ⟨disk.at? place, rfl, fun _ _ => rfl⟩

/-- A tree differs from an earlier one at most at a place that was free. -/
def Disk.Spares (before after : Listing) : Prop :=
  ∃ place, before.at? place = none ∧ Disk.Differs place before after

/-- A place that was free does not hold what stands elsewhere. -/
theorem Disk.Spares.at?_eq {before after : Listing} {row : List String} {node : Node}
    (spares : Disk.Spares before after) (plain : node.isDir = false)
    (there : before.at? row = some node) : after.at? row = some node := by
  obtain ⟨place, free, entry, sets⟩ := spares
  have ne : row ≠ place := by
    rintro rfl
    rw [free] at there
    contradiction
  exact Listing.at?_of_bareAt?_eq (sets.elsewhere row ne) plain there

/-- No way to a directory led through a place that was free. -/
theorem Disk.Spares.sameWays {before after : Listing} (spares : Disk.Spares before after) :
    Disk.SameWays before after := by
  obtain ⟨place, free, entry, sets⟩ := spares
  exact sets.sameWays (isDeadEnd_of_at?_none free)

/-- Between two worlds the disk was only different in a single place. -/
def World.StaysAt (place : List String) (before after : World) : Prop :=
  ∃ disks, before.Trail after disks ∧ ∀ disk ∈ disks, Disk.Differs place before.disk disk

namespace World.StaysAt

variable {place : List String} {before middle after : World}

theorem differs (stays : World.StaysAt place before after) :
    Disk.Differs place before.disk after.disk := by
  obtain ⟨disks, trail, differ⟩ := stays
  rcases trail.disk_eq_or_mem with same | member
  · rw [same]
    exact Disk.differs_refl place _
  · exact differ _ member

theorem trans (one : World.StaysAt place before middle) (two : World.StaysAt place middle after) :
    World.StaysAt place before after := by
  obtain ⟨entry, sets⟩ := one.differs
  obtain ⟨disks, trail, differ⟩ := one
  obtain ⟨more, trail', differ'⟩ := two
  refine ⟨disks ++ more, trail.trans trail', ?_⟩
  intro disk member
  rcases List.mem_append.1 member with member | member
  · exact differ disk member
  · obtain ⟨next, sets'⟩ := differ' disk member
    exact ⟨next, sets.trans sets'⟩

theorem of_still (still : before.Still after) : World.StaysAt place before after :=
  ⟨[], still, by simp⟩

/-- A single call changes at most the place at which it makes a difference. -/
theorem of_steps (steps : before.Steps after) (differs : Disk.Differs place before.disk after.disk) :
    World.StaysAt place before after := by
  rcases steps with still | trail
  · exact of_still still
  · refine ⟨_, trail, ?_⟩
    intro disk member
    obtain rfl := List.mem_singleton.1 member
    exact differs

end World.StaysAt

end Enhance
