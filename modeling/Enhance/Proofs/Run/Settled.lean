import Enhance.Proofs.Run.Approach
import Enhance.Proofs.Run.Prospect

/-!
# Runs with nothing to write

The verdicts on class files are settled if they can be computed from the files and nothing is to be
written.  A run over such class files that no fault strikes always comes to a report; it leaves the files
as they are, and the report shows the problems of the class path and the verdicts, unless one of the
problems ended the run (`Run.start_brings`).
-/

namespace Enhance

open Program

namespace Run

variable {run : Run} {rule : ClassFile → Except Failure Answer} {progress : Progress}
  {world : World} {paths : List Path} {fates : Fates} {problems : List Diagnostic}

/-- A verdict that can be computed from the files and for which nothing is to be written. -/
def Settles (run : Run) (rule : ClassFile → Except Failure Answer) (disk : Listing)
    (cwd : List String) (path : Path) (verdict : Verdict) : Prop :=
  ∃ prospect, run.prospect rule disk cwd path = .ok prospect ∧
    (∀ bytes, prospect ≠ .enhanced bytes) ∧ prospect.verdict = verdict

/-- Processing class files comes to the verdicts that are settled, and changes no files. -/
theorem exists_judged (invocation : Invocation) (computes : invocation.transformer.Computes rule)
    (faultless : world.faults = [])
    (settled : ∀ fate ∈ fates, run.Settles rule world.disk world.cwd fate.1 fate.2) :
    ∃ after, Judged run invocation world fates after ∧ world.Calm after := by
  induction fates generalizing world with
  | nil => exact ⟨world, .nil world, .refl world⟩
  | cons fate fates ih =>
      obtain ⟨path, verdict⟩ := fate
      obtain ⟨⟨prospect, same, unwritten, rfl⟩, later⟩ := List.forall_mem_cons.1 settled
      obtain ⟨middle, judged, calm⟩ := judge_gives computes faultless same fun bytes isEnhanced =>
        unwritten bytes (Except.ok.inj isEnhanced)
      rw [← calm.disk, ← calm.cwd] at later
      obtain ⟨after, rest, calm'⟩ := ih (calm.faults faultless) later
      exact ⟨after, .cons judged rest, calm.trans calm'⟩

/-! ## The frame of a run -/

theorem enter_gives (progress : Progress) (state : RunState) (world : World) :
    (enter progress state).Gives world (.ok (progress.through [state])) :=
  (gives_log _ world).bind_ok fun middle _ => gives_pure _ middle

/-- Going over to a last state and making a report comes to an end. -/
theorem closing_returns (run : Run) (progress : Progress) (state : RunState) (status : RunStatus)
    (skipReason : Option String) (abort : Option Diagnostic) (world : World) :
    (do
      let progress ← enter progress state
      pure (← run.report progress status skipReason abort, progress) : Program Ending).Returns world := by
  refine Returns.bind ((returns_log _ world).bind fun _ _ _ => returns_pure _ _) fun next entered _ => ?_
  have reports : (run.report next status skipReason abort).Returns entered :=
    (returns_readClock entered).bind fun _ _ _ => by
      rw [Returns, get_bind]
      exact returns_pure _ _
  exact reports.bind fun _ _ _ => returns_pure _ _

theorem finish_brings (run : Run) (progress : Progress) (status : RunStatus)
    (skipReason : Option String) (world : World) :
    (run.finish progress status skipReason).Brings world fun ending =>
      ending.2 = progress.through [.done] ∧ ending.1.Shows ending.2 status skipReason none := by
  have returns : (run.finish progress status skipReason).Returns world := closing_returns _ _ _ _ _ _ _
  refine returns.brings (finish_timed calm_timed _ _ _ _) fun ending after done => ?_
  have end' := finish_ok done
  exact ⟨end'.progress_eq, end'.shows⟩

theorem stop_brings (run : Run) (progress : Progress) (abort : Option Diagnostic) (world : World) :
    (run.stop progress abort).Brings world fun ending =>
      ending.2 = progress.through [.aborted] ∧ ending.1.Shows ending.2 .aborted none abort := by
  have returns : (run.stop progress abort).Returns world := closing_returns _ _ _ _ _ _ _
  refine returns.brings (stop_timed calm_timed _ _ _) fun ending after done => ?_
  have end' := stop_ok done
  exact ⟨end'.progress_eq, end'.shows⟩

theorem begin_brings (world : World) : begin.Brings world (·.IsFresh) := by
  have returns : begin.Returns world := (returns_readClock world).bind fun _ _ _ => by
    rw [Returns, get_bind]
    exact returns_pure _ _
  exact returns.brings (begin_timed calm_timed) fun _ _ done => (begin_ok done).1

/-! ## The parts of a run -/

/-- How a run goes on that has built its class path. -/
inductive Equips (run : Run) (progress : Progress) (problems : List Diagnostic) : Approach → Prop
  /-- It comes to its class files. -/
  | ready {classpath : Classpath} (goesOn : run.policy.stopped problems = none) :
      Equips run progress problems
        (.ready ((progress.met problems).through [.contextBuilt, .processing]) classpath)
  /-- A problem of the class path ends it. -/
  | stopped {diagnostic : Diagnostic} {report : Report}
      (stops : run.policy.stopped problems = some diagnostic)
      (shows : report.Shows ((progress.met [diagnostic]).through [.aborted]) .aborted none
        (some diagnostic)) :
      Equips run progress problems (.ended (report, (progress.met [diagnostic]).through [.aborted]))

theorem embark_gives (run : Run) (progress : Progress) (classpath : Classpath) (world : World) :
    (run.embark progress classpath).Gives world
      (.ok (.ready (progress.through [.contextBuilt, .processing]) classpath)) := by
  have opens (middle : World) : (do
      let progress ← enter (progress.through [.contextBuilt]) .processing
      pure (Approach.ready progress classpath)).Gives middle
        (.ok (.ready (progress.through [.contextBuilt, .processing]) classpath)) := by
    refine (enter_gives _ _ middle).bind_ok fun last _ => ?_
    rw [Progress.through_through]
    exact gives_pure _ last
  refine (enter_gives _ _ world).bind_ok fun middle _ => ?_
  split
  · exact (gives_log _ middle).bind_ok fun last _ => opens last
  · exact opens middle

/-- If all locations can be looked up, building the class path comes to an end. -/
theorem build_brings (policy : FailurePolicy) (sink : Sink) {root : Path}
    {dependencies : List Dependency}
    (nameable : ∀ candidate ∈ Classpath.candidates root dependencies, candidate.IsNameable)
    (world : World) : (Classpath.build policy sink root dependencies).Brings world fun built =>
      Classpath.Comes policy [] built ∧
        built.diagnostics = policy.met (Classpath.problems world.disk world.cwd root dependencies) ∧
        built.abort = policy.stopped (Classpath.problems world.disk world.cwd root dependencies) :=
  (Classpath.build_gives_of_nameable nameable policy sink world).brings
    ⟨Classpath.comes_of_assembled _ _ _ _ _ _, List.nil_append _, rfl⟩

/-- A run that has found class files then builds its class path. -/
theorem equip_brings (progress : Progress) (world : World)
    (nameable : ∀ candidate ∈ Classpath.candidates run.settings.classesDir run.settings.dependencies,
      candidate.IsNameable) :
    (run.equip progress).Brings world (Equips run progress (Classpath.problems world.disk world.cwd
      run.settings.classesDir run.settings.dependencies)) := by
  refine .after_gives (gives_log _ world) fun middle calm => ?_
  rw [← calm.disk, ← calm.cwd]
  refine (build_brings run.policy run.sink nameable middle).bind fun built last tells _ => ?_
  obtain ⟨comes, met, stops⟩ := tells
  generalize Classpath.problems middle.disk middle.cwd run.settings.classesDir
    run.settings.dependencies = problems at met stops ⊢
  cases comes with
  | complete classpath found =>
      rw [FailurePolicy.met_of_not_stopped stops.symm] at met
      subst met
      exact (embark_gives run _ classpath last).brings (.ready stops.symm)
  | stopped diagnostic =>
      change (Approach.ended <$> run.stop (progress.met [diagnostic]) (some diagnostic)).Brings last _
      rw [map_eq_pure_bind]
      refine (stop_brings run _ _ last).bind fun ending closed tells _ => ?_
      obtain ⟨report, stopped⟩ := ending
      obtain ⟨rfl, shows⟩ := tells
      exact (gives_pure _ closed).brings (.stopped stops.symm shows)

/-! ## Whole runs -/

/-- What a run needs in order to come to its class files: features are asked for, the root is there, a scan
finds the class files, and all places of the class path can be looked up. -/
structure Finds (run : Run) (world : World) (paths : List Path) : Prop where
  asks : run.settings.capabilities.any = true
  isThere : Disk.isThere world.disk world.cwd run.settings.classesDir = .ok true
  scans : ∀ middle, world.Calm middle → ∃ after, run.Scans middle paths after
  found : paths ≠ []
  nameable : ∀ candidate ∈ Classpath.candidates run.settings.classesDir run.settings.dependencies,
    candidate.IsNameable

theorem gives_askSystem {α : Type} {question : Listing → List String → Except SystemError α} {answer : α}
    (answers : question world.disk world.cwd = .ok answer) :
    (askSystem question).Gives world (.ok answer) :=
  ⟨world, askSystem_ok.2 ⟨answers, rfl⟩, .refl world⟩

/-- A run that can come to its class files does so unless a problem of the class path ends it. -/
theorem approach_brings (finds : Finds run world paths) (progress : Progress) :
    (run.approach progress).Brings world (Equips run
      ((progress.through [.configChecked, .scanning]).found paths) (Classpath.problems world.disk
        world.cwd run.settings.classesDir run.settings.dependencies)) := by
  refine .after_gives (enter_gives _ _ world) fun checked calm => ?_
  rw [finds.asks]
  refine .after_gives (enter_gives _ _ checked) fun scanning calm' => ?_
  have calm := calm.trans calm'
  have isThere : Disk.isThere scanning.disk scanning.cwd run.settings.classesDir = .ok true := by
    rw [calm.disk, calm.cwd, finds.isThere]
  refine .after_gives (gives_askSystem isThere) fun asked calm' => ?_
  have calm := calm.trans calm'
  obtain ⟨searched, artifacts, scan, rfl⟩ := finds.scans asked calm
  have searches : asked.Calm searched := Keeps.of_ok (Scanner.scan_lawful calm_lawful _ _) scan
  refine .after_gives ⟨searched, scan, searches⟩ fun middle calm' => ?_
  have calm := calm.trans calm'
  rw [if_neg finds.found, ← calm.disk, ← calm.cwd, Progress.through_through]
  exact equip_brings _ middle finds.nameable

/-- How a run ends whose verdicts are settled. -/
inductive Closes (run : Run) (paths : List Path) (problems : List Diagnostic) (fates : Fates) :
    Ending → Prop
  /-- No problem of the class path ended it. -/
  | completed {last : Progress} {report : Report} (goesOn : run.policy.stopped problems = none)
      (comprises : last.Comprises [.configChecked, .scanning, .contextBuilt, .processing, .done] paths
        problems fates)
      (shows : report.Shows last .completed none none) : Closes run paths problems fates (report, last)
  /-- A problem of the class path ended it. -/
  | aborted {last : Progress} {report : Report} {diagnostic : Diagnostic}
      (stops : run.policy.stopped problems = some diagnostic)
      (comprises : last.Comprises [.configChecked, .scanning, .aborted] paths [diagnostic] [])
      (shows : report.Shows last .aborted none (some diagnostic)) :
      Closes run paths problems fates (report, last)

section

variable (computes : run.transformer.Computes rule) (faultless : world.faults = [])
  (settled : ∀ fate ∈ fates, run.Settles rule world.disk world.cwd fate.1 fate.2)
  (cut : Cut run.policy paths fates none)

include computes faultless settled cut

theorem take_brings {approach : Approach}
    (fresh : progress.Comprises [.configChecked, .scanning] paths [] [])
    (equips : Equips run progress problems approach) :
    (run.take approach).Brings world (Closes run paths problems fates) := by
  cases equips with
  | stopped stops shows =>
      exact (gives_pure _ world).brings (.aborted stops ((fresh.met _).through [.aborted]) shows)
  | @ready classpath goesOn =>
      have comprises := (fresh.met problems).through [.contextBuilt, .processing]
      generalize (progress.met problems).through [.contextBuilt, .processing] = ready at comprises ⊢
      obtain ⟨middle, judged, calm⟩ :=
        exists_judged (run.invocation classpath) computes faultless settled
      have processing : run.processAll (run.invocation classpath) ready ready.scanned world =
          .ok (ready.noteAll fates, none) middle := by
        rw [comprises.scanned]
        exact processAll_ok_iff.2 ⟨fates, judged, cut, rfl⟩
      refine .after_gives ⟨middle, processing, calm⟩ fun last _ => ?_
      refine (finish_brings run _ .completed none last).mono fun ending closes => ?_
      obtain ⟨report, final⟩ := ending
      obtain ⟨rfl, shows⟩ := closes
      exact .completed goesOn ((comprises.noteAll fates).through [.done]) shows

variable (finds : Finds run world paths)

include finds

theorem execute_brings (fresh : progress.IsFresh) : (run.execute progress).Brings world
    (Closes run paths (Classpath.problems world.disk world.cwd run.settings.classesDir
      run.settings.dependencies) fates) := by
  rw [execute_eq]
  refine (approach_brings finds progress).bind fun approach middle equips calm => ?_
  rw [← calm.disk, ← calm.cwd] at settled
  exact take_brings computes (calm.faults faultless) settled cut
    ((fresh.through [.configChecked, .scanning]).found paths) equips

/-- A run over class files with settled verdicts comes to a report that shows them, or a problem of the
class path has ended it, and it changes no files. -/
theorem start_brings : run.start.Brings world (Closes run paths (Classpath.problems world.disk world.cwd
    run.settings.classesDir run.settings.dependencies) fates) := by
  refine (begin_brings world).bind fun progress begun fresh calm => ?_
  have calmly {middle : World} (same : world.Calm middle) : Finds run middle paths :=
    ⟨finds.asks, by rw [same.disk, same.cwd, finds.isThere],
      fun last calm => finds.scans last (same.trans calm), finds.found, finds.nameable⟩
  let opened := { begun with spansBegun := begun.spansBegun + 1 }
  have opens : world.Calm opened := ⟨calm.disk, calm.cwd, calm.stranded, calm.faults⟩
  rw [← opens.disk, ← opens.cwd] at settled ⊢
  have executes := execute_brings computes (opens.faults faultless) settled cut (calmly opens) fresh
  refine executes.traced.bind fun ending traced closes _ => ?_
  obtain ⟨report, last⟩ := ending
  exact .after_gives (gives_log _ traced) fun logged _ => (gives_pure _ logged).brings closes

end

end Run

end Enhance
