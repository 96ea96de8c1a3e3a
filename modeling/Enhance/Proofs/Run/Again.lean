import Enhance.Proofs.Run.Reported
import Enhance.Proofs.Run.Resting

/-!
# Running again

A run whose transformer only depends on the bytes, and has nothing to add to what it has made of them,
leaves nothing to do for a second run (`Runner.call_again`).  The system may list the entries of directories
in another order by then; the second run then finds the same class files in that order.  A class file that
was a link and has become a file may be part of the way to a place of the class path, so that the problems
of the class path can differ.
-/

namespace Enhance

open Program

/-! ## The verdicts of the next run -/

namespace Fates

/-- The verdicts of the next run. -/
def again (fates : Fates) : Fates :=
  fates.map fun fate => (fate.1, fate.2.again)

variable {fates : Fates}

theorem enhanced_again : (again fates).enhanced = [] := by
  rw [List.eq_nil_iff_forall_not_mem]
  intro path member
  obtain ⟨⟨other, verdict⟩, -, same⟩ := List.mem_map.1 (mem_enhanced.1 member)
  cases verdict <;> cases same

theorem diagnostics_again : (again fates).diagnostics = fates.diagnostics := by
  rw [diagnostics, diagnostics, again, List.filterMap_map]
  congr 1
  funext fate
  obtain ⟨path, verdict⟩ := fate
  cases verdict <;> rfl

/-- In the next run, all class files are left as they are but those that failed. -/
theorem unchanged_again (nodup : fates.paths.Nodup) (located : fates.Located) :
    (again fates).unchanged = fates.paths.filter fun path =>
      ∀ diagnostic ∈ Fates.diagnostics fates, diagnostic.path ≠ some path := by
  rw [unchanged, again, List.filter_map, List.map_map, paths, List.filter_map]
  refine congrArg (List.map Prod.fst) (List.filter_congr ?_)
  rintro ⟨path, verdict⟩ member
  have isFailure : (∃ diagnostic, verdict = .failed diagnostic) ↔
      ∃ diagnostic ∈ Fates.diagnostics fates, diagnostic.path = some path := by
    constructor
    · rintro ⟨diagnostic, rfl⟩
      exact ⟨diagnostic, mem_diagnostics.2 ⟨path, member⟩, (located _ member _ rfl).1⟩
    · rintro ⟨diagnostic, isOne, isPath⟩
      obtain ⟨other, isFate⟩ := mem_diagnostics.1 isOne
      obtain ⟨isOther, -⟩ := located _ isFate _ rfl
      rw [isPath] at isOther
      cases isOther
      exact ⟨diagnostic, unique nodup member isFate⟩
  have none : (∀ diagnostic ∈ Fates.diagnostics fates, diagnostic.path ≠ some path) ↔
      ¬ ∃ diagnostic, verdict = .failed diagnostic := by
    rw [isFailure]
    simp
  rw [Bool.eq_iff_iff, Function.comp_apply, Function.comp_apply, decide_eq_true_eq, none]
  cases verdict <;> simp [Verdict.again, Verdict.isUnchanged]

/-! ## Verdicts in another order -/

/-- The verdicts on class files in the order in which these are given. -/
def along (fates : Fates) (paths : List Path) : Fates :=
  paths.map fun path => (path, (fates.lookup path).getD .unchanged)

theorem mem_paths {fate : Path × Verdict} (member : fate ∈ fates) : fate.1 ∈ fates.paths :=
  List.mem_map_of_mem member

theorem lookup_eq (nodup : fates.paths.Nodup) {fate : Path × Verdict} (member : fate ∈ fates) :
    fates.lookup fate.1 = some fate.2 := by
  induction fates with
  | nil => cases member
  | cons first fates ih =>
      obtain ⟨notIn, nodup⟩ := List.nodup_cons.1 nodup
      rcases List.mem_cons.1 member with rfl | later
      · rw [List.lookup_cons, beq_self_eq_true]
      · have ne : fate.1 ≠ first.1 := by
          intro same
          exact notIn (show first.1 ∈ paths fates from same ▸ mem_paths later)
        rw [List.lookup_cons, beq_eq_false_iff_ne.2 ne]
        exact ih nodup later

theorem along_paths (nodup : fates.paths.Nodup) : fates.along fates.paths = fates := by
  rw [along, paths, List.map_map]
  refine (List.map_congr_left fun fate member => ?_).trans (List.map_id fates)
  rw [Function.comp_apply, lookup_eq nodup member]
  rfl

theorem paths_along (fates : Fates) (others : List Path) : (fates.along others).paths = others := by
  rw [along, paths, List.map_map]
  exact List.map_id others

theorem along_perm {others : List Path} (nodup : fates.paths.Nodup) (perm : others.Perm fates.paths) :
    (fates.along others).Perm fates := by
  have mapped : (fates.along others).Perm (fates.along fates.paths) := perm.map _
  rwa [along_paths nodup] at mapped

theorem Located.perm {others : Fates} (located : fates.Located) (perm : others.Perm fates) :
    others.Located :=
  fun fate member => located fate (perm.mem_iff.1 member)

/-- The diagnostics about a class file are that of the verdict on it, if it has one. -/
theorem filter_diagnostics (located : fates.Located) (nodup : fates.paths.Nodup)
    {fate : Path × Verdict} (member : fate ∈ fates) :
    fates.diagnostics.filter (·.path = some fate.1) = fate.2.diagnostic?.toList := by
  induction fates with
  | nil => cases member
  | cons first fates ih =>
      obtain ⟨notIn, nodup⟩ := List.nodup_cons.1 nodup
      have rest : Located fates := fun other isLater => located other (List.mem_cons_of_mem _ isLater)
      have split : Fates.diagnostics (first :: fates) =
          first.2.diagnostic?.toList ++ Fates.diagnostics fates := by
        rw [diagnostics, List.filterMap_eq_flatMap_toList, List.flatMap_cons,
          ← List.filterMap_eq_flatMap_toList, diagnostics]
      have isFirst : ∀ diagnostic ∈ first.2.diagnostic?.toList, diagnostic.path = some first.1 := by
        intro diagnostic isOne
        refine (located first List.mem_cons_self diagnostic ?_).1
        cases verdict : first.2 <;> simp_all [Verdict.diagnostic?]
      rw [split, List.filter_append]
      rcases List.mem_cons.1 member with rfl | later
      · rw [List.filter_eq_self.2 fun diagnostic isOne => decide_eq_true (isFirst diagnostic isOne),
          List.filter_eq_nil_iff.2 ?_, List.append_nil]
        intro diagnostic isOther
        obtain ⟨path, isFate⟩ := mem_diagnostics.1 isOther
        rw [(rest _ isFate diagnostic rfl).1, decide_eq_true_eq, Option.some_inj]
        rintro rfl
        exact notIn (List.mem_map.2 ⟨_, isFate, rfl⟩)
      · rw [List.filter_eq_nil_iff.2 ?_, List.nil_append]
        · exact ih rest nodup later
        · intro diagnostic isOne
          rw [isFirst diagnostic isOne, decide_eq_true_eq, Option.some_inj]
          intro same
          exact notIn (show first.1 ∈ paths fates from same ▸ mem_paths later)

/-- The diagnostics about class files in another order. -/
theorem diagnostics_eq_flatMap {others : Fates} (located : fates.Located) (nodup : fates.paths.Nodup)
    (perm : others.Perm fates) : others.diagnostics =
      others.paths.flatMap fun path => fates.diagnostics.filter (·.path = some path) := by
  rw [diagnostics, List.filterMap_eq_flatMap_toList, paths, List.flatMap_map]
  exact List.flatMap_congr fun fate member =>
    (filter_diagnostics located nodup (perm.mem_iff.1 member)).symm

end Fates

/-- If no failure ends a run, none does when the class files are processed in another order. -/
theorem Cut.perm {policy : FailurePolicy} {paths : List Path} {fates others : Fates}
    (cut : Cut policy paths fates none) (perm : others.Perm fates) : Cut policy others.paths others none :=
  .of_goesOn fun fate member => cut.goesOn rfl fate (perm.mem_iff.1 member)

theorem Cut.again {policy : FailurePolicy} {paths : List Path} {fates : Fates}
    {abort : Option Diagnostic} (cut : Cut policy paths fates abort) :
    Cut policy paths fates.again abort := by
  have same (verdict : Verdict) : verdict.again.abort? policy = verdict.abort? policy := by
    cases policy <;> cases verdict <;> rfl
  induction cut with
  | nil => exact .nil
  | stop ends => exact .stop (by rw [same, ends])
  | next goesOn rest ih => exact .next (by rw [same, goesOn]) ih

/-! ## Two runs -/

namespace Run

variable {run : Run} {world middle opening later after : World} {start progress : Progress}

/-- The problems of a class path do not depend on what stands in files or on the order of entries. -/
theorem problems_of_alike {disk disk' : Listing} (alike : disk.outline.Alike disk'.outline)
    (proper : disk.isProper = true) (proper' : disk'.isProper = true) (cwd : List String) (root : Path)
    (dependencies : List Dependency) :
    Classpath.problems disk' cwd root dependencies = Classpath.problems disk cwd root dependencies := by
  have problem : Classpath.Candidate.problem? disk' cwd = Classpath.Candidate.problem? disk cwd := by
    funext candidate
    simp only [Classpath.Candidate.problem?, Disk.resolve_alike alike proper proper']
  rw [Classpath.problems, Classpath.problems, problem]

/-- A run that came to its class files can do so again when files were renewed. -/
theorem Ready.finds (ready : Ready run start opening progress) (proper : opening.disk.isProper = true)
    (faultless : opening.faults = []) (renewed : Disk.Renewed opening.disk later.disk)
    (proper' : later.disk.isProper = true) (cwd : later.cwd = opening.cwd)
    (faultless' : later.faults = []) : ∃ paths, Finds run later paths ∧ paths.Perm progress.scanned ∧
      (later.disk.skeleton = opening.disk.skeleton → paths = progress.scanned) := by
  obtain ⟨searching, searched, ⟨log, same⟩, artifacts, scan, found⟩ := ready.scans
  have disk : searching.disk = opening.disk := by rw [same]
  have cwd' : searching.cwd = opening.cwd := by rw [same]
  have faults : searching.faults = opening.faults := by rw [same]
  rw [← disk] at proper renewed
  have some : artifacts.paths ≠ [] := found ▸ ready.found
  obtain ⟨again, after, scan', perm, inOrder⟩ := Scanner.scan_again proper proper' renewed
    (cwd.trans cwd'.symm) (faults.trans faultless) faultless' scan some
  rw [found, disk] at inOrder
  rw [found] at perm
  have some' : again.paths ≠ [] := fun none => ready.found (none ▸ perm.symm).eq_nil
  have scans (middle : World) (calm : later.Calm middle) :
      ∃ after, run.Scans middle again.paths after := by
    obtain ⟨last, ended, scan'', -, same⟩ := Scanner.scan_again proper' (calm.disk ▸ proper')
      (calm.disk ▸ .refl _) calm.cwd faultless' (calm.faults faultless') scan' some'
    exact ⟨ended, last, scan'', same (congrArg Listing.skeleton calm.disk)⟩
  refine ⟨again.paths, ⟨ready.asks, ?_, scans, some', ready.nameable⟩, perm, inOrder⟩
  obtain ⟨-, ⟨-, none⟩ | ⟨place, inside, rows, isDir, looked, -⟩⟩ := Scanner.scan_ok proper' scan'
  · exact absurd none some'
  · rw [Disk.isThere, Disk.ask, (Disk.isDir_iff.1 isDir).1, Disk.stat_of_lookup looked]
    rfl

/-- A run that was completed can come to its class files again when files were renewed. -/
theorem Completed.finds {report : Report} (completed : run.Completed world report after)
    (proper : world.disk.isProper = true) (faultless : world.faults = [])
    (renewed : Disk.Renewed world.disk later.disk) (proper' : later.disk.isProper = true)
    (cwd : later.cwd = world.cwd) (faultless' : later.faults = []) :
    ∃ paths, Finds run later paths ∧ paths.Perm report.scanned ∧
      (later.disk.skeleton = world.disk.skeleton → paths = report.scanned) := by
  obtain ⟨fresh, opens, ready, begins, processing, shows, closes⟩ := completed
  obtain ⟨fates, judged, cut, rfl⟩ := processAll_ok_iff.1 processing
  rw [← opens.disk] at proper renewed ⊢
  rw [← opens.cwd] at cwd
  rw [shows.scanned]
  exact ready.finds proper (opens.faults faultless) renewed proper' cwd faultless'

variable {rule : List UInt8 → Except Failure Answer}

/-- A run that was completed leaves its class files at rest, if none of them could not be written. -/
theorem Completed.leaves {report : Report} (completed : run.Completed world report after)
    (proper : world.disk.isProper = true) (faultless : world.faults = [])
    (computes : run.transformer.Computes fun file => rule file.data) (idempotent : IsIdempotent rule)
    (written : ∀ diagnostic ∈ report.diagnostics, diagnostic.stage ≠ .persistence) :
    ∃ fates, Leaves rule world world fates after ∧ Cut run.policy report.scanned fates none ∧
      fates.Located ∧ fates.paths.Nodup ∧ report.enhanced = fates.enhanced ∧
      report.diagnostics = Classpath.problems world.disk world.cwd run.settings.classesDir
        run.settings.dependencies ++ fates.diagnostics ∧
      run.policy.stopped (Classpath.problems world.disk world.cwd run.settings.classesDir
        run.settings.dependencies) = none := by
  cases completed with
  | @intro opened progress next classpath opening begun ended after fresh opens ready begins processing
      shows closes =>
      obtain ⟨fates, judged, cut, rfl⟩ := processAll_ok_iff.1 processing
      obtain ⟨searching, searched, ⟨log, same⟩, artifacts, scan, found⟩ := ready.scans
      have disk : searching.disk = world.disk := by rw [same, opens.disk]
      have cwd : searching.cwd = world.cwd := by rw [same, opens.cwd]
      rw [← disk] at proper
      obtain ⟨rowOf, placed⟩ := Scanner.scan_placed proper scan
      have steady : ∀ path ∈ artifacts.paths, Disk.Steady searching.disk searching.cwd path :=
        fun path member => Scanner.scan_steady proper scan member
      rw [found, disk, cwd] at placed steady
      have comprises := ((ready.comprises fresh).noteAll fates).through [.done]
      have goesOn := ready.goesOn
      rw [opens.disk, opens.cwd] at comprises goesOn
      have diagnostics := shows.diagnostics.trans comprises.diagnostics
      have calm := opens.trans begins
      have stage : Rewriting world begun := by
        refine ⟨?_, calm.cwd, calm.faults faultless⟩
        rw [calm.disk]
        exact .refl _
      have leaves := leaves_of_processing placed steady computes idempotent judged stage
        (fun path member => cut.paths_eq rfl ▸ member) fun diagnostic member =>
          written diagnostic (diagnostics ▸ List.mem_append_right _ member)
      have scanned : report.scanned = progress.scanned := shows.scanned
      refine ⟨fates, leaves.of_calm calm closes, by rwa [scanned], judged.processed.located, ?_,
        shows.enhanced.trans comprises.enhanced, diagnostics, goesOn⟩
      rw [cut.paths_eq rfl]
      exact placed.nodup

end Run

/-- The diagnostics of a report about a class file. -/
def Report.failuresOf (report : Report) (path : Path) : List Diagnostic :=
  report.diagnostics.filter fun diagnostic =>
    diagnostic.stage ≠ .classpath ∧ diagnostic.path = some path

/-- What the report of a second run says after that of a first one, given the problems of the class path
that there are then: the same class files were found and none was written, and unless a problem ended the
run, the failures are the same, in the order in which the class files were found, and all other class files
were left as they are. -/
structure Report.Repeats (first second : Report) (run : Run) (problems : List Diagnostic) : Prop where
  scanned : second.scanned.Perm first.scanned
  enhanced : second.enhanced = []
  completed : run.policy.stopped problems = none → second.status = .completed ∧ second.abort = none ∧
    second.diagnostics = problems ++ second.scanned.flatMap first.failuresOf ∧
    second.unchanged = second.scanned.filter fun path => first.failuresOf path = []
  aborted : ∀ diagnostic, run.policy.stopped problems = some diagnostic → second.status = .aborted ∧
    second.abort = some diagnostic ∧ second.diagnostics = [diagnostic] ∧ second.unchanged = []

/-- The failures among the diagnostics of a report are those of the class files. -/
theorem Fates.failuresOf_eq {fates : Fates} {report : Report} {problems : List Diagnostic}
    (located : fates.Located) (stages : ∀ diagnostic ∈ problems, diagnostic.stage = .classpath)
    (same : report.diagnostics = problems ++ fates.diagnostics) (path : Path) :
    report.failuresOf path = fates.diagnostics.filter (·.path = some path) := by
  rw [Report.failuresOf, same, List.filter_append, List.filter_eq_nil_iff.2, List.nil_append]
  · apply List.filter_congr
    intro diagnostic member
    obtain ⟨other, isFate⟩ := Fates.mem_diagnostics.1 member
    simp [(located _ isFate diagnostic rfl).2]
  · intro diagnostic member
    simp [stages diagnostic member]

/-- The report of a run over class files that rest repeats that of the run that left them so. -/
theorem Run.Closes.repeats {run : Run} {first : Report} {problems before : List Diagnostic}
    {fates : Fates} {paths : List Path} {ending : Run.Ending}
    (closes : run.Closes paths problems (fates.along paths).again ending) (located : fates.Located)
    (nodup : fates.paths.Nodup) (same : fates.paths = first.scanned) (perm : paths.Perm first.scanned)
    (stages : ∀ diagnostic ∈ before, diagnostic.stage = .classpath)
    (diagnostics : first.diagnostics = before ++ fates.diagnostics) :
    first.Repeats ending.1 run problems ∧ ending.1.scanned = paths := by
  rw [← same] at perm
  have perm' := Fates.along_perm nodup perm
  have located' := located.perm perm'
  have failures := Fates.failuresOf_eq located stages diagnostics
  cases closes with
  | completed goesOn comprises shows =>
      have scanned := shows.scanned.trans comprises.scanned
      refine ⟨⟨?_, ?_, fun _ => ⟨shows.status, shows.abort, ?_, ?_⟩, fun diagnostic stops => ?_⟩, scanned⟩
      · rwa [scanned, ← same]
      · rw [shows.enhanced, comprises.enhanced, Fates.enhanced_again]
      · rw [shows.diagnostics, comprises.diagnostics, Fates.diagnostics_again, scanned,
          Fates.diagnostics_eq_flatMap located nodup perm', Fates.paths_along, funext failures]
      · rw [shows.unchanged, comprises.unchanged, scanned,
          Fates.unchanged_again (perm'.map _ |>.nodup_iff.2 nodup) located', Fates.paths_along]
        apply List.filter_congr
        intro path _
        rw [failures, Bool.eq_iff_iff, decide_eq_true_eq, decide_eq_true_eq, List.filter_eq_nil_iff]
        have members (diagnostic : Diagnostic) : diagnostic ∈ Fates.diagnostics (fates.along paths) ↔
            diagnostic ∈ Fates.diagnostics fates := (perm'.filterMap _).mem_iff
        simp [members]
      · rw [goesOn] at stops
        cases stops
  | @aborted last report diagnostic stops comprises shows =>
      have scanned := shows.scanned.trans comprises.scanned
      refine ⟨⟨?_, shows.enhanced.trans comprises.enhanced, fun goesOn => ?_, fun other stops' => ?_⟩,
        scanned⟩
      · rwa [scanned, ← same]
      · rw [goesOn] at stops
        cases stops
      · rw [stops] at stops'
        cases stops'
        exact ⟨shows.status, shows.abort, shows.diagnostics.trans comprises.diagnostics,
          shows.unchanged.trans comprises.unchanged⟩

namespace Sample

/-- Capitalising letters a second time changes nothing. -/
theorem upperByte_upperByte (byte : UInt8) :
    Transformer.upperByte (Transformer.upperByte byte) = Transformer.upperByte byte := by
  rw [Transformer.upperByte, Transformer.upperByte]
  grind

/-- What the transformer that capitalises letters makes of bytes. -/
def capitals (data : List UInt8) : Except Failure Answer :=
  .ok (.bytes (data.map Transformer.upperByte))

theorem capitals_idempotent : Run.IsIdempotent capitals := by
  rintro given _ ⟨⟩
  refine .inr ?_
  rw [capitals, List.map_map]
  congr 3
  funext byte
  exact upperByte_upperByte byte

/-- A runner that capitalises letters and goes on after failures, with one dependency. -/
def depending (file : Option Path) : Runner :=
  let sample := run (.capitals "Capitals") false
  { run := { sample with settings := { sample.settings with dependencies := [⟨file, .compile, none⟩] } }
    progress := { startedAt := default, startTime := 0.0 } }

theorem depending_computes (file : Option Path) :
    (depending file).run.transformer.Computes fun file => capitals file.data :=
  ⟨fun _ _ _ _ => ⟨rfl, rfl, rfl⟩, fun _ _ _ _ => id⟩

/-- What a run leaves of the class file and the link to it. -/
def doubledAfter : Listing :=
  .dir "c" (.file "A.class" ⟨[0x41], 0o644, true⟩ (.link "B.class" "A.class" .empty)) .empty

/-- The same, listed in another order. -/
def shuffled : World :=
  { disk := .dir "c" (.link "B.class" "A.class" (.file "A.class" ⟨[0x41], 0o644, true⟩ .empty)) .empty
    now := default }

theorem doubledAfter_alike : doubledAfter.Alike shuffled.disk :=
  Listing.alike_of_inOrder_eq (by decide +kernel) (by decide +kernel) (by decide +kernel)

/-- A directory with a class file that is a link, and with a link to itself. -/
def circling : World :=
  { disk := .dir "c" (.dir "b" (.file "x" ⟨[0x61], 0o644, false⟩ .empty)
      (.link "l.class" "b/x" (.link "loop" "loop" .empty))) .empty
    now := default }

/-- A path that leads through the class file: up from where the link leads to. -/
def aroundPath : Path :=
  ⟨.root, ["c", "l.class", "..", "loop"], by decide⟩

end Sample

namespace Runner

/-- A second run changes no files: it finds the same class files and writes none of them, whatever the order
in which the system lists the entries of directories by then.  If that order is as it was, the class files
are found in the same order.  The problems of the class path are those of the tree that the first run has
left; if none of them ends the second run, it is completed, what could not be transformed fails in the same
way, and all other class files are left as they are.  If the first run has written no class file that is a
link, the second run is completed with the same diagnostics. -/
theorem call_again {rule : List UInt8 → Except Failure Answer} {runner again next : Runner}
    {report : Report} {world after later : World} (proper : world.disk.isProper = true)
    (faultless : world.faults = [])
    (computes : runner.run.transformer.Computes fun file => rule file.data)
    (idempotent : Run.IsIdempotent rule) (call : runner.call world = .ok (report, next) after)
    (completed : report.status = .completed)
    (written : ∀ diagnostic ∈ report.diagnostics, diagnostic.stage ≠ .persistence)
    (sameRun : again.run = runner.run) (alike : after.disk.Alike later.disk)
    (proper' : later.disk.isProper = true) (sameCwd : later.cwd = after.cwd)
    (faultless' : later.faults = []) :
    ∃ second last ended, again.call later = .ok (second, last) ended ∧ ended.disk = later.disk ∧
      report.Repeats second runner.run (Classpath.problems later.disk later.cwd
        runner.run.settings.classesDir runner.run.settings.dependencies) ∧
      (later.disk.skeleton = world.disk.skeleton → second.scanned = report.scanned) ∧
      ((∀ path ∈ report.enhanced, ¬ world.IsLink path) →
        second.status = .completed ∧ second.diagnostics.Perm report.diagnostics ∧
          (second.scanned = report.scanned → second.diagnostics = report.diagnostics)) := by
  obtain ⟨started, -⟩ := start_of_call call
  have first := Run.start_completed started completed
  obtain ⟨fates, leaves, cut, located, nodup, enhanced, diagnostics, goesOn⟩ :=
    first.leaves proper faultless computes idempotent written
  have cwd : later.cwd = world.cwd := sameCwd.trans leaves.stage.cwd
  obtain ⟨paths, finds, perm, inOrder⟩ := first.finds proper faultless
    (leaves.stage.renewed.trans (.of_alike alike)) proper' cwd faultless'
  have same : fates.paths = report.scanned := cut.paths_eq rfl
  have perm' := Fates.along_perm nodup (same ▸ perm)
  have settled : ∀ fate ∈ (fates.along paths).again,
      runner.run.Settles (fun file => rule file.data) later.disk later.cwd fate.1 fate.2 := by
    intro fate member
    obtain ⟨⟨path, verdict⟩, isFate, rfl⟩ := List.mem_map.1 member
    rw [cwd]
    exact ((leaves.rests _ (perm'.mem_iff.1 isFate)).of_alike alike).settles runner.run
  have cut' := (cut.perm perm').again
  rw [Fates.paths_along] at cut'
  obtain ⟨⟨second, progress⟩, ⟨ended, done, calm⟩, closes⟩ :=
    Run.start_brings computes faultless' settled cut' finds
  obtain ⟨repeats, scanned⟩ := closes.repeats located nodup same perm
    (fun _ member => (Classpath.of_mem_problems member).1) diagnostics
  refine ⟨second, { again with progress }, ended, ?_, calm.disk, repeats,
    fun skeleton => scanned.trans (inOrder skeleton), fun noLink => ?_⟩
  · rw [call_eq, sameRun]
    exact map_ok.2 ⟨(second, progress), done, rfl⟩
  · have outline := (leaves.outline (enhanced ▸ noLink)).trans (alike.mapped Node.isDir_blank)
    rw [cwd, Run.problems_of_alike outline proper proper'] at repeats
    obtain ⟨status, -, told, -⟩ := repeats.completed goesOn
    have failures := funext (Fates.failuresOf_eq located
      (fun _ member => (Classpath.of_mem_problems member).1) diagnostics)
    have whole := Fates.diagnostics_eq_flatMap located nodup (.refl fates)
    rw [← failures, same] at whole
    rw [told, diagnostics, whole]
    exact ⟨status, (repeats.scanned.flatMap_right _).append_left _, fun order => by rw [order]⟩

/-- A class file, a link to it and a dependency that is nowhere: the second run says what the first one has
said about the dependency, and leaves both class files as they are.  By then the system lists them in another
order. -/
theorem call_again_doubled : ∃ (first second : Report) (next last : Runner) (after ended : World),
    (Sample.depending none).call Sample.doubled = .ok (first, next) after ∧
    first.enhanced = [Sample.doubledPaths.1] ∧ first.diagnostics.length = 1 ∧
    after.disk.Alike Sample.shuffled.disk ∧ next.call Sample.shuffled = .ok (second, last) ended ∧
    ended.disk = Sample.shuffled.disk ∧ second.enhanced = [] ∧
    first.scanned = [Sample.doubledPaths.1, Sample.doubledPaths.2] ∧
    second.scanned.Perm first.scanned ∧ second.unchanged = second.scanned ∧
    second.diagnostics = first.diagnostics := by
  have ends : (Sample.twice (Sample.depending none)).endsWith (fun both =>
      both.1.1.status = .completed &&
      both.1.1.scanned = [Sample.doubledPaths.1, Sample.doubledPaths.2] &&
      both.1.1.enhanced = [Sample.doubledPaths.1] && both.1.1.diagnostics.length = 1 &&
      both.1.1.diagnostics.all (·.stage = .classpath) && both.2.1.disk = Sample.doubledAfter &&
      both.2.1.cwd = []) Sample.doubled = true := by
    decide +kernel
  obtain ⟨⟨⟨first, next⟩, after, second⟩, final, done, checked⟩ := ok_of_endsWith ends
  obtain ⟨call, -⟩ := Sample.twice_ok done
  simp only [Bool.and_eq_true, decide_eq_true_eq, List.all_eq_true] at checked
  obtain ⟨⟨⟨⟨⟨⟨completed, scanned⟩, enhanced⟩, one⟩, problems⟩, left⟩, cwd⟩ := checked
  have written : ∀ diagnostic ∈ first.diagnostics, diagnostic.stage ≠ .persistence := by
    intro diagnostic member
    rw [problems diagnostic member]
    decide
  have noLink : ∀ path ∈ first.enhanced, ¬ Sample.doubled.IsLink path := by
    rw [enhanced]
    intro path member isLink
    obtain rfl := List.mem_singleton.1 member
    obtain ⟨row, target, found⟩ := isLink
    cases found
  have mute (path : Path) : first.failuresOf path = [] := by
    rw [Report.failuresOf, List.filter_eq_nil_iff]
    intro diagnostic member
    simp [problems diagnostic member]
  have properLater : Sample.shuffled.disk.isProper = true := by decide +kernel
  have alike : after.disk.Alike Sample.shuffled.disk := by
    rw [left]
    exact Sample.doubledAfter_alike
  obtain ⟨second, last, ended, call', disk, repeats, -, same⟩ :=
    call_again (by decide +kernel) rfl (Sample.depending_computes none) Sample.capitals_idempotent call
      completed written (start_of_call call).2 alike properLater cwd.symm rfl
  obtain ⟨-, perm, -⟩ := same noLink
  have tolerant : (Sample.depending none).run.policy = .tolerant := rfl
  obtain ⟨-, -, -, unchanged⟩ := repeats.completed (by rw [tolerant, FailurePolicy.stopped])
  obtain ⟨diagnostic, isOne⟩ := List.length_eq_one_iff.1 one
  rw [isOne, List.perm_singleton, ← isOne] at perm
  exact ⟨first, second, next, last, after, ended, call, enhanced, one, alike, call', disk,
    repeats.enhanced, scanned, repeats.scanned, by simpa [mute] using unchanged, perm⟩

/-- A second run need not say what the first one has said: where the first run puts a file in the place of
a link, a path of the class path that leads through it may come to lead elsewhere. -/
theorem call_again_circling :
    let runner := Sample.depending (some Sample.aroundPath)
    runner.run.transformer.Computes (fun file => Sample.capitals file.data) ∧
    Run.IsIdempotent Sample.capitals ∧ Sample.circling.disk.isProper = true ∧
    Sample.circling.faults = [] ∧
    ∃ (first second : Report) (next last : Runner) (after ended : World),
      runner.call Sample.circling = .ok (first, next) after ∧ first.status = .completed ∧
      first.diagnostics = [] ∧ after.faults = [] ∧ next.call after = .ok (second, last) ended ∧
      second.diagnostics.map (fun diagnostic => (diagnostic.stage, diagnostic.path)) =
        [(.classpath, some Sample.aroundPath)] := by
  intro runner
  refine ⟨Sample.depending_computes _, Sample.capitals_idempotent, by decide +kernel, rfl, ?_⟩
  have ends : (Sample.twice runner).endsWith (fun both => both.1.1.status = .completed &&
      both.1.1.diagnostics = [] && both.2.1.faults = [] &&
      both.2.2.1.diagnostics.map (fun diagnostic => (diagnostic.stage, diagnostic.path)) =
        [(.classpath, some Sample.aroundPath)]) Sample.circling = true := by
    decide +kernel
  obtain ⟨⟨first, middle, second⟩, final, done, checked⟩ := ok_of_endsWith ends
  obtain ⟨one, two⟩ := Sample.twice_ok done
  simp only [Bool.and_eq_true, decide_eq_true_eq] at checked
  obtain ⟨⟨⟨completed, none⟩, faultless⟩, circle⟩ := checked
  exact ⟨first.1, second.1, first.2, second.2, middle, final, one, completed, none, faultless, two, circle⟩

end Runner

end Enhance
