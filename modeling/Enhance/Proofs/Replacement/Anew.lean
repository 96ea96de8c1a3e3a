import Enhance.Proofs.Disk.Taken
import Enhance.Proofs.Replacement.Returns
import Enhance.Replacement.Lost
import Mathlib.Logic.ExistsUnique

/-!
# Deleting a class file and making it anew

Deleting a class file and making it anew comes to one of four outcomes, and what is reported tells which
(`WriteStrategy.write_anew`).  This holds for every path, also for one that leads to nothing, to a
directory, or through the link that it leads to: such a link is deleted and cannot be made anew.
-/

namespace Enhance

open Program

namespace Replacement

variable {path : Path} {row : List String} {world middle after : World} {bytes : List UInt8}
  {problem : Option Diagnostic} {answer : Unit}

/-! ## Single steps -/

/-- Removing takes away what the path led to. -/
theorem remove_takes (done : remove path world = .ok answer after) :
    ∃ row node, Disk.LeadsTo world.disk world.cwd path row ∧ world.disk.at? row = some node ∧
      node.isDir = false ∧ world.Sets row none after := by
  obtain ⟨_, struck, asked, changing⟩ := bind_ok.1 done
  have quiet := (strike_quiet _ _).of_ok asked
  obtain ⟨disk, unlinked, rfl⟩ := change_ok changing
  obtain ⟨place, name, node, leads, there, plain, sets⟩ := Disk.leads_of_unlink unlinked
  rw [quiet.disk, quiet.cwd] at leads
  rw [quiet.disk] at there sets
  refine ⟨place ++ [name], node, ⟨place, name, rfl, leads⟩, there, plain, sets, quiet.cwd, quiet.stranded⟩

/-- The path of an entry that was taken away leads to a free place, or it leads nowhere because it led
through the entry. -/
theorem leaf_of_taken {node : Node} (leads : Disk.LeadsTo world.disk world.cwd path row)
    (there : world.disk.at? row = some node) (plain : node.isDir = false)
    (sets : world.Sets row none after) :
    after.Leaf path row ∨
      Disk.lookup after.disk after.cwd false path = .failed SystemError.noEntry := by
  obtain ⟨place, name, isRow, way⟩ := leads
  rw [World.Leaf, sets.cwd]
  apply (way.of_taken there plain sets.disk).imp
  · intro still
    exact ⟨⟨place, name, isRow, still⟩, Disk.isDeadEnd_of_at?_none sets.disk.here⟩
  · intro nowhere
    exact nowhere false

/-- Nothing is made where the path leads nowhere. -/
theorem makeAnew_ne_ok
    (nowhere : Disk.lookup world.disk world.cwd false path = .failed SystemError.noEntry) :
    makeAnew path world ≠ .ok answer after := by
  intro done
  obtain ⟨_, struck, asked, changing⟩ := bind_ok.1 done
  have quiet := (strike_quiet _ _).of_ok asked
  obtain ⟨disk, created, -⟩ := change_ok changing
  rw [Disk.create, quiet.disk, quiet.cwd, nowhere] at created
  contradiction

/-- An empty file holds a part of the bytes that could not all be written or stored. -/
theorem writeAll_stores {mode : Nat} {failure : Failure} (leaf : world.Leaf path row)
    (empty : world.disk.at? row = some (.file ⟨[], mode, true⟩))
    (failed : writeAll path bytes world = .error failure after) :
    ∃ stored, stored <+: bytes ∧ world.Sets row (some (.file ⟨stored, mode, true⟩)) after := by
  obtain ⟨data, nothing | everything, sets⟩ := writeAll_error leaf empty failed
  · subst nothing
    exact ⟨[], List.nil_prefix, sets⟩
  · subst everything
    exact ⟨bytes, List.prefix_rfl, sets⟩

/-! ## Outcomes -/

/-- What deleting a class file and making it anew comes to. -/
inductive Aftermath where
  /-- The class file is written. -/
  | written
  /-- It could not be deleted. -/
  | undeleted
  /-- It is deleted and could not be made anew. -/
  | unmade
  /-- It is made anew and its bytes could not all be stored. -/
  | unstored
  deriving DecidableEq, Repr

namespace Aftermath

/-- The message of the diagnostic about an outcome. -/
def message? (path : Path) (cwd : List String) : Aftermath → Option String
  | .written => none
  | .undeleted => some "Unable to delete class file"
  | .unmade => some "Unable to recreate class file"
  | .unstored => some (writeErrorMessage path cwd)

/-- What an outcome leaves behind. -/
def Leaves (path : Path) (bytes : List UInt8) (before after : World) : Aftermath → Prop
  | .written =>
      Disk.linkStat after.disk after.cwd path = .ok (.file ⟨bytes, Disk.defaultMode, true⟩)
  | .undeleted => after.disk = before.disk
  | .unmade => Disk.linkStat after.disk after.cwd path = .error SystemError.noEntry
  | .unstored => ∃ stored, stored <+: bytes ∧
      Disk.linkStat after.disk after.cwd path = .ok (.file ⟨stored, Disk.defaultMode, true⟩)

/-- An outcome is what is reported and what is left behind. -/
structure Holds (outcome : Aftermath) (path : Path) (bytes : List UInt8) (before after : World)
    (problem : Option Diagnostic) : Prop where
  message : problem.map Diagnostic.message = outcome.message? path before.cwd
  leaves : outcome.Leaves path bytes before after

/-- The message about bytes that were not stored is none of the other ones. -/
theorem writeErrorMessage_ne {text : String} (starts : text.toList.head? = some 'U')
    (path : Path) (cwd : List String) : writeErrorMessage path cwd ≠ text := by
  obtain ⟨rest, whole⟩ := exists_writeErrorMessage_eq path cwd
  intro same
  rw [← same, whole] at starts
  simp [String.toList_append] at starts

/-- No two outcomes have the same message. -/
theorem message?_injective (path : Path) (cwd : List String) :
    Function.Injective (message? path cwd) := by
  have undeleted : writeErrorMessage path cwd ≠ "Unable to delete class file" :=
    writeErrorMessage_ne (by rfl) path cwd
  have unmade : writeErrorMessage path cwd ≠ "Unable to recreate class file" :=
    writeErrorMessage_ne (by rfl) path cwd
  intro one other same
  cases one <;> cases other <;> simp [message?, undeleted, unmade, undeleted.symm, unmade.symm] at same ⊢

theorem Holds.unique {outcome other : Aftermath} (holds : outcome.Holds path bytes world after problem)
    (holds' : other.Holds path bytes world after problem) : other = outcome := by
  apply message?_injective path world.cwd
  rw [← holds.message, ← holds'.message]

theorem Holds.before_quiet {outcome : Aftermath} {last : World}
    (holds : outcome.Holds path bytes world after problem) (quiet : after.Quiet last) :
    outcome.Holds path bytes world last problem := by
  refine ⟨holds.message, ?_⟩
  have leaves := holds.leaves
  cases outcome <;> simpa only [Leaves, quiet.disk, quiet.cwd] using leaves

end Aftermath

/-- The files are as before, but for what the path led to. -/
def SparesOthers (path : Path) (before after : World) : Prop :=
  ∀ row, (∀ node, Disk.lookup before.disk before.cwd false path ≠ .found row node) →
    after.disk.bareAt? row = before.disk.bareAt? row

theorem sparesOthers_of_quiet (path : Path) (quiet : world.Quiet after) :
    SparesOthers path world after := by
  intro row _
  rw [quiet.disk]

/-- Only the entry that the path leads to is set. -/
theorem sparesOthers_of_sets {entry : Option Node} {node : Node}
    (leads : Disk.LeadsTo world.disk world.cwd path row) (there : world.disk.at? row = some node)
    (sets : world.Sets row entry after) : SparesOthers path world after := by
  intro other elsewhere
  apply sets.disk.elsewhere
  rintro rfl
  exact elsewhere node (leads.lookup there)

/-! ## The strategy -/

/-- What the path leads to after its entry was set. -/
theorem linkStat_of_sets {data : FileData} (leaf : world.Leaf path row)
    (sets : world.Sets row (some (.file data)) after) :
    Disk.linkStat after.disk after.cwd path = .ok (.file data) := by
  rw [(leaf.of_sets_file sets).leads.linkStat, sets.disk.here]
  rfl

theorem deleteAndRecreate_outcome (done : deleteAndRecreate path bytes world = .ok problem after) :
    (∃ outcome : Aftermath, outcome.Holds path bytes world after problem) ∧
      SparesOthers path world after := by
  rw [deleteAndRecreate, get_bind] at done
  obtain ⟨removed, first, removing, done⟩ := bind_ok.1 done
  cases removed with
  | error error =>
      obtain ⟨rfl, rfl⟩ := pure_ok.1 done
      have quiet := World.Quiet.of_silent (remove_error (catchSystem_caught.1 removing))
      exact ⟨⟨.undeleted, rfl, quiet.disk⟩, sparesOthers_of_quiet path quiet⟩
  | ok =>
      obtain ⟨row, node, leads, there, plain, gone⟩ := remove_takes (catchSystem_value.1 removing)
      have taken := leaf_of_taken leads there plain gone
      obtain ⟨made, second, making, done⟩ := bind_ok.1 done
      cases made with
      | error error =>
          obtain ⟨rfl, rfl⟩ := pure_ok.1 done
          have quiet := World.Quiet.of_silent (makeAnew_error (catchSystem_caught.1 making))
          have missing : Disk.linkStat second.disk second.cwd path = .error SystemError.noEntry := by
            rw [quiet.disk, quiet.cwd]
            rcases taken with free | nowhere
            · rw [free.leads.linkStat, gone.disk.here]
              rfl
            · rw [Disk.linkStat, nowhere]
          exact ⟨⟨.unmade, rfl, missing⟩, sparesOthers_of_sets leads there (gone.before_quiet quiet)⟩
      | ok =>
          have making := catchSystem_value.1 making
          have free := taken.resolve_right fun nowhere => makeAnew_ne_ok nowhere making
          have anew := makeAnew_ok free gone.disk.here making
          have file := free.of_sets_file anew
          obtain ⟨written, third, writing, done⟩ := bind_ok.1 done
          cases written with
          | error error =>
              obtain ⟨rfl, rfl⟩ := pure_ok.1 done
              obtain ⟨stored, part, sets⟩ :=
                writeAll_stores file anew.disk.here (catchSystem_caught.1 writing)
              have holds : Aftermath.Holds .unstored path bytes world third
                  (some (diagnostic path .error (writeErrorMessage path world.cwd) error)) :=
                ⟨rfl, stored, part, linkStat_of_sets file sets⟩
              exact ⟨⟨.unstored, holds⟩,
                sparesOthers_of_sets leads there ((gone.trans anew).trans sets)⟩
          | ok =>
              obtain ⟨rfl, rfl⟩ := pure_ok.1 done
              have sets := writeAll_ok file anew.disk.here (catchSystem_value.1 writing)
              exact ⟨⟨.written, rfl, linkStat_of_sets file sets⟩,
                sparesOthers_of_sets leads there ((gone.trans anew).trans sets)⟩

/-- Every diagnostic about deleting and making anew is an error. -/
theorem deleteAndRecreate_isError (path : Path) (bytes : List UInt8) :
    (deleteAndRecreate path bytes).Yields fun problem =>
      ∀ diagnostic, problem = some diagnostic → diagnostic.severity = .error := by
  have isError (message : String) (cause : SystemError) :
      ∀ other, some (diagnostic path .error message cause) = some other → other.severity = .error := by
    intro other same
    cases same
    rfl
  apply yields_bind
  intro world
  apply yields_bind
  intro removed
  cases removed with
  | error error => exact yields_pure (isError _ error)
  | ok =>
      apply yields_bind
      intro made
      cases made with
      | error error => exact yields_pure (isError _ error)
      | ok =>
          apply yields_bind
          intro written
          cases written with
          | error error => exact yields_pure (isError _ error)
          | ok => exact yields_pure (by simp)

end Replacement

namespace WriteStrategy

open Replacement

variable {path : Path}

/-- Deleting a class file and making it anew always comes to an end, and what is returned tells which one
of the four outcomes holds.  Nothing but the entry that the path leads to is touched. -/
theorem write_anew (noNul : Disk.hasNul path = false) (bytes : List UInt8) (world : World) :
    ∃ problem after, WriteStrategy.recreate.write path bytes world = .ok problem after ∧
      (∃! outcome : Aftermath, outcome.Holds path bytes world after problem) ∧
      SparesOthers path world after ∧
      ∀ diagnostic, problem = some diagnostic →
        diagnostic.path = some path ∧ diagnostic.stage = .persistence ∧
          diagnostic.severity = .error := by
  obtain ⟨problem, after, done⟩ : (WriteStrategy.recreate.write path bytes).Returns world :=
    noted_returns (deleteAndRecreate_returns noNul bytes world)
  obtain ⟨middle, replacing, quiet⟩ := write_split done
  obtain ⟨⟨outcome, holds⟩, spares⟩ := deleteAndRecreate_outcome replacing
  refine ⟨problem, after, done, ?_, ?_, ?_⟩
  · exact ⟨outcome, holds.before_quiet quiet, fun other holds' =>
      (holds.before_quiet quiet).unique holds'⟩
  · intro row elsewhere
    rw [quiet.disk]
    exact spares row elsewhere
  · intro diagnostic isProblem
    obtain ⟨named, stage⟩ := write_isAbout done diagnostic isProblem
    exact ⟨named, stage, deleteAndRecreate_isError path bytes _ _ _ replacing diagnostic isProblem⟩

namespace Sample

/-- A file beside a link, in a world in which no file can be made. -/
def frozen : World :=
  { disk := .file "kept" ⟨[0x42], 0o600, false⟩ (.link "x.class" "kept" .empty)
    faults := [{ call := .create, code := SystemError.noEntry }]
    now := default }

/-- The path of the link. -/
def linkPath : Path :=
  ⟨.root, ["x.class"], isName_sample⟩

end Sample

/-- A link is deleted although no file can be made in its place. -/
theorem write_anew_frozen :
    Disk.hasNul Sample.linkPath = false ∧
      ∃ problem after,
        WriteStrategy.recreate.write Sample.linkPath [0x41] Sample.frozen = .ok problem after ∧
        Aftermath.Holds .unmade Sample.linkPath [0x41] Sample.frozen after problem := by
  have noNul : Disk.hasNul Sample.linkPath = false := by decide
  have ends : (WriteStrategy.recreate.write Sample.linkPath [0x41]).endsWith (fun problem =>
      problem.map Diagnostic.message = some "Unable to recreate class file") Sample.frozen = true := by
    decide +kernel
  obtain ⟨found, last, done', told⟩ := ok_of_endsWith ends
  obtain ⟨problem, after, done, ⟨outcome, holds, -⟩, -⟩ := write_anew noNul [0x41] Sample.frozen
  rw [done] at done'
  cases done'
  have isUnmade : outcome = .unmade := by
    apply Aftermath.message?_injective Sample.linkPath Sample.frozen.cwd
    rw [← holds.message]
    exact of_decide_eq_true told
  exact ⟨noNul, _, _, done, isUnmade ▸ holds⟩

end WriteStrategy

/-! ## Paths that are lost -/

namespace Replacement

variable {path : LostPath} {world : World}

/-- If a fault strikes, it is reported that a class file with a lost path could not be deleted. -/
theorem recreateLost_of_struck {code : Nat}
    (struck : (Fault.ask .unlink none world.faults).1 = some code) :
    ∃ problem after, recreateLost path world = .ok (some problem) after ∧ problem.path = path ∧
      problem.severity = .error ∧ problem.stage = .persistence ∧
      problem.message = "Unable to delete class file" ∧ problem.cause = { code } ∧
      after.disk = world.disk := by
  have removing : removeLost path world =
      .error (.system { code }) { world with faults := (Fault.ask .unlink none world.faults).2 } :=
    bind_error.2 (.inl (strike_error.2 ⟨code, struck, rfl, rfl⟩))
  exact ⟨_, _, bind_ok.2 ⟨_, _, catchSystem_caught.2 removing, rfl⟩, rfl, rfl, rfl, rfl, rfl, rfl⟩

/-- If no fault strikes, nothing is reported about a class file with a lost path: an error escapes, and
all files are as before. -/
theorem recreateLost_escapes (unstruck : (Fault.ask .unlink none world.faults).1 = none) :
    ∃ after, recreateLost path world = .error (.unencodable path.error) after ∧
      after.disk = world.disk := by
  let after : World := { world with faults := (Fault.ask .unlink none world.faults).2 }
  have removing : removeLost path world = .error (.unencodable path.error) after :=
    bind_error.2 (.inr ⟨(), after, strike_ok.2 ⟨unstruck, rfl⟩, rfl⟩)
  refine ⟨after, bind_error.2 (.inl ?_), rfl⟩
  rw [catchSystem, tryCatch_map_eq, removing]
  rfl

namespace Sample

/-- A path whose first sign is a half that stands for no byte. -/
def lostPath : LostPath where
  text := ⟨.ofHalf 0 :: (Text.RawText.ofString ".class").signs⟩
  error := ⟨0, [.ofHalf 0]⟩
  isLost := by decide +kernel

end Sample

/-- An error that is none of the system escapes, and no diagnostic is returned: no call can be about the
path, and no fault strikes. -/
theorem recreateLost_raises : ∃ after,
    recreateLost Sample.lostPath { now := default } = .error (.unencodable Sample.lostPath.error) after ∧
      Sample.lostPath.error.message =
        "'utf-8' codec can't encode character '\\ud800' in position 0: surrogates not allowed" := by
  have unstruck : (Fault.ask .unlink none ({ now := default } : World).faults).1 = none := rfl
  obtain ⟨after, escapes, -⟩ := @recreateLost_escapes Sample.lostPath _ unstruck
  exact ⟨after, escapes, by decide +kernel⟩

end Replacement

end Enhance
