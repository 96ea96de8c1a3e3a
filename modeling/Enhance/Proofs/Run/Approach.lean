import Enhance.Proofs.Blind
import Enhance.Proofs.Faultless
import Enhance.Proofs.Run.Course
import Enhance.Proofs.Run.Steps
import Enhance.Proofs.Trail

/-!
# The way to the class files

A run changes no files before it takes the first class file.  `Run.approach` is this part of a run, and
`Run.take` is the rest of it (`Run.execute_eq`).  Both inherit what holds of their steps, and so does the
whole run (`Run.start_working`).
-/

namespace Enhance

open Program

/-- How a run stands when it comes to its class files, unless it has ended before. -/
inductive Approach where
  | ended (ending : Run.Ending)
  | ready (progress : Progress) (classpath : Classpath)

namespace Run

/-- Goes over to processing class files. -/
def embark (run : Run) (progress : Progress) (classpath : Classpath) : Program Approach := do
  let progress ← enter progress .contextBuilt
  if run.settings.capabilities.extendedEnhancement then
    Program.log (logEntry .warning "extended_enhancement_enabled"
      [("detail", .str extendedNotice)])
  let progress ← enter progress .processing
  pure (.ready progress classpath)

/-- Builds the class path for the class files that were found. -/
def equip (run : Run) (progress : Progress) : Program Approach := do
  let settings := run.settings
  Program.log (logEntry .info "enhancement_started" [
    ("classes_dir", .str settings.classesDir.toString),
    ("classes", .nat progress.scanned.length),
    ("features", .texts settings.capabilities.names),
    ("fail_fast", .bool (run.policy = .failFast))])
  let built ← Classpath.build run.policy run.sink settings.classesDir settings.dependencies
  let progress := { progress with diagnostics := progress.diagnostics ++ built.diagnostics }
  match built.abort, built.classpath with
  | none, some classpath => run.embark progress classpath
  | abort, _ => .ended <$> run.stop progress abort

/-- What a run does before it takes the first class file. -/
def approach (run : Run) (progress : Progress) : Program Approach := do
  let root := run.settings.classesDir
  let progress ← enter progress .configChecked
  if !run.settings.capabilities.any then
    .ended <$> run.skip progress .warning "no feature is enabled" []
      "No enhancement feature is enabled"
  else
    let progress ← enter progress .scanning
    if !(← Program.askSystem fun disk cwd => Disk.isThere disk cwd root) then
      .ended <$> run.skip progress .info "classes directory does not exist"
        [("classes_dir", .str root.toString)] s!"There is no classes directory {root}"
    else
      let artifacts ← Scanner.scan ⟨run.settings.extension⟩ root
      let progress := { progress with scanned := artifacts.paths }
      if artifacts.paths = [] then
        .ended <$> run.skip progress .info "no classes to enhance"
          [("classes_dir", .str root.toString)] s!"There are no classes to enhance in {root}"
      else run.equip progress

/-- Ends a run that has come to its class files, which are processed first. -/
def take (run : Run) : Approach → Program Ending
  | .ended ending => pure ending
  | .ready progress classpath => do
    match ← run.processAll (run.invocation classpath) progress progress.scanned with
    | (progress, some diagnostic) => run.stop progress (some diagnostic)
    | (progress, none) => run.finish progress .completed none

variable {run : Run} {progress : Progress} {world after : World}

theorem ended_bind_take (program : Program Ending) :
    (Approach.ended <$> program) >>= run.take = program := by
  rw [map_eq_pure_bind, bind_assoc]
  simp [take]

theorem enhance_eq (run : Run) (progress : Progress) (classpath : Classpath) :
    run.enhance progress classpath = run.embark progress classpath >>= run.take := by
  simp only [enhance, embark, bind_assoc]
  congr 1
  funext entered
  split
  · simp only [bind_assoc, pure_bind]
    rfl
  · simp only [bind_assoc, pure_bind]
    rfl

theorem prepare_eq (run : Run) (progress : Progress) :
    run.prepare progress = run.equip progress >>= run.take := by
  simp only [prepare, equip, bind_assoc]
  congr 1
  funext _
  congr 1
  funext built
  obtain ⟨classpath, diagnostics, abort⟩ := built
  cases abort with
  | some diagnostic => exact (ended_bind_take _).symm
  | none =>
      cases classpath with
      | some classpath => exact enhance_eq _ _ _
      | none => exact (ended_bind_take _).symm

/-- A run first comes to its class files and then takes them. -/
theorem execute_eq (run : Run) (progress : Progress) :
    run.execute progress = run.approach progress >>= run.take := by
  simp only [execute, approach, bind_assoc]
  congr 1
  funext checked
  split
  · exact (ended_bind_take _).symm
  · simp only [bind_assoc]
    congr 1
    funext scanning
    congr 1
    funext isThere
    split
    · exact (ended_bind_take _).symm
    · simp only [bind_assoc]
      congr 1
      funext artifacts
      split
      · exact (ended_bind_take _).symm
      · exact prepare_eq _ _

/-! ## What the parts inherit from their steps -/

section

variable {holds : (α : Type) → Program α → Prop}

theorem ended_lawful (lawful : Lawful holds) {program : Program Ending}
    (ends : holds Ending program) : holds Approach (Approach.ended <$> program) := by
  rw [map_eq_pure_bind]
  exact lawful.bind ends fun _ => lawful.pure _

theorem embark_lawful (lawful : Lawful holds) (run : Run) (progress : Progress)
    (classpath : Classpath) : holds Approach (run.embark progress classpath) := by
  apply lawful.bind (enter_lawful lawful _ _)
  intro entered
  have opens : ∀ _ : Unit, holds Approach (do
      let progress ← enter entered .processing
      pure (.ready progress classpath)) :=
    fun _ => lawful.bind (enter_lawful lawful _ _) fun _ => lawful.pure _
  split
  · exact lawful.bind (lawful.log nofun) opens
  · exact opens ()

theorem equip_reporting (reporting : Reporting holds) (timed : Timed holds) (run : Run)
    (progress : Progress) : holds Approach (run.equip progress) := by
  have lawful := timed.toLawful
  refine lawful.bind (lawful.log (nofun : LogSource.run ≠ .diagnostics)) fun _ => ?_
  apply lawful.bind (Classpath.build_reporting reporting _ _ _ _)
  intro built
  split
  · exact embark_lawful lawful _ _ _
  · exact ended_lawful lawful (stop_timed timed _ _ _)

theorem approach_reporting (reporting : Reporting holds) (timed : Timed holds) (run : Run)
    (progress : Progress) : holds Approach (run.approach progress) := by
  have lawful := timed.toLawful
  apply lawful.bind (enter_lawful lawful _ _)
  intro checked
  split
  · exact ended_lawful lawful (skip_timed timed _ _ _ _ _ _)
  · apply lawful.bind (enter_lawful lawful _ _)
    intro scanning
    apply lawful.bind (lawful.askSystem _)
    intro isThere
    split
    · exact ended_lawful lawful (skip_timed timed _ _ _ _ _ _)
    · apply lawful.bind (Scanner.scan_lawful lawful _ _)
      intro artifacts
      split
      · exact ended_lawful lawful (skip_timed timed _ _ _ _ _ _)
      · exact equip_reporting reporting timed _ _

theorem take_working (working : Working holds) (has : run.transformer.Has holds)
    (approach : Approach) : holds Ending (run.take approach) := by
  have lawful := working.toLawful
  cases approach with
  | ended ending => exact lawful.pure _
  | ready progress classpath =>
      apply lawful.bind (processAll_working working has _ _ _)
      rintro ⟨last, abort⟩
      cases abort with
      | some diagnostic => exact stop_timed working.toTimed _ _ _
      | none => exact finish_timed working.toTimed _ _ _ _

/-- What holds of all steps of a run holds of the run. -/
theorem start_working (working : Working holds) (has : run.transformer.Has holds) :
    holds Ending run.start := by
  have lawful := working.toLawful
  have executes (progress : Progress) : holds Ending (run.execute progress) := by
    rw [execute_eq]
    exact lawful.bind (approach_reporting working.toReporting working.toTimed _ _) (take_working working has)
  apply lawful.bind (begin_timed working.toTimed)
  intro progress
  apply lawful.bind (working.traced _ _ (executes progress))
  intro ended
  exact lawful.bind (lawful.log nofun) fun _ => lawful.pure _

end

/-! ## The class files -/

/-- How a run stands when it has come to its class files: features are asked for, the root is there, the
scan of it has found class files, all places of the class path were looked up and no problem with them has
ended the run. -/
structure Ready (run : Run) (start : Progress) (world : World) (progress : Progress) : Prop where
  asks : run.settings.capabilities.any = true
  isThere : Disk.isThere world.disk world.cwd run.settings.classesDir = .ok true
  scans : ∃ searching searched, world.SameButLog searching ∧
    run.Scans searching progress.scanned searched
  found : progress.scanned ≠ []
  nameable : ∀ candidate ∈ Classpath.candidates run.settings.classesDir run.settings.dependencies,
    candidate.IsNameable
  goesOn : run.policy.stopped (Classpath.problems world.disk world.cwd run.settings.classesDir
    run.settings.dependencies) = none
  progress_eq : progress =
    (((start.through [.configChecked, .scanning]).found progress.scanned).met
      (Classpath.problems world.disk world.cwd run.settings.classesDir
        run.settings.dependencies)).through [.contextBuilt, .processing]

/-- What a run has done that has come to its class files. -/
theorem Ready.comprises {start : Progress} (fresh : start.IsFresh)
    (ready : Ready run start world progress) :
    progress.Comprises [.configChecked, .scanning, .contextBuilt, .processing] progress.scanned
      (Classpath.problems world.disk world.cwd run.settings.classesDir run.settings.dependencies) [] := by
  have found := (fresh.through [.configChecked, .scanning]).found progress.scanned
  have comprises := (found.met (Classpath.problems world.disk world.cwd run.settings.classesDir
    run.settings.dependencies)).through [.contextBuilt, .processing]
  rw [← ready.progress_eq] at comprises
  exact comprises

theorem enter_same {next : Progress} {state : RunState}
    (done : enter progress state world = .ok next after) :
    next = progress.through [state] ∧ world.SameButLog after := by
  obtain ⟨_, logged, logging, same⟩ := bind_ok.1 done
  obtain ⟨rfl, rfl⟩ := pure_ok.1 same
  obtain rfl := modify_ok.1 logging
  exact ⟨rfl, _, rfl⟩

theorem embark_ok {next : Progress} {classpath found : Classpath}
    (done : run.embark progress classpath world = .ok (.ready next found) after) :
    next = progress.through [.contextBuilt, .processing] := by
  obtain ⟨_, entered, entering, done⟩ := bind_ok.1 done
  obtain ⟨rfl, -⟩ := enter_ok entering
  obtain ⟨noted, -, done⟩ := ok_of_noted done
  obtain ⟨_, last, entering, done⟩ := bind_ok.1 done
  obtain ⟨rfl, -⟩ := enter_ok entering
  obtain ⟨same, -⟩ := pure_ok.1 done
  cases same
  exact Progress.through_through _ _ _

/-- A run that goes over to processing class files has not ended. -/
theorem embark_ne_ended {classpath : Classpath} {ending : Ending} :
    run.embark progress classpath world ≠ .ok (.ended ending) after := by
  intro done
  obtain ⟨_, entered, -, done⟩ := bind_ok.1 done
  obtain ⟨noted, -, done⟩ := ok_of_noted done
  obtain ⟨_, last, -, done⟩ := bind_ok.1 done
  obtain ⟨same, -⟩ := pure_ok.1 done
  contradiction

/-- A run that has ended does not come to class files. -/
theorem ended_ne_ready {program : Program Ending} {next : Progress} {classpath : Classpath} :
    (Approach.ended <$> program) world ≠ .ok (.ready next classpath) after := by
  intro done
  obtain ⟨ending, -, same⟩ := map_ok.1 done
  contradiction

theorem equip_ok {next : Progress} {classpath : Classpath}
    (done : run.equip progress world = .ok (.ready next classpath) after) :
    (∀ candidate ∈ Classpath.candidates run.settings.classesDir run.settings.dependencies,
        candidate.IsNameable) ∧
      run.policy.stopped (Classpath.problems world.disk world.cwd run.settings.classesDir
        run.settings.dependencies) = none ∧
      next = (progress.met (Classpath.problems world.disk world.cwd run.settings.classesDir
        run.settings.dependencies)).through [.contextBuilt, .processing] := by
  obtain ⟨_, logged, logging, done⟩ := bind_ok.1 done
  have quiet := (log_quiet _).of_ok logging
  obtain ⟨⟨found, diagnostics, abort⟩, middle, building, done⟩ := bind_ok.1 done
  obtain ⟨rfl, rfl⟩ := Classpath.build_problems building
  rw [quiet.disk, quiet.cwd] at done
  cases stops : run.policy.stopped (Classpath.problems world.disk world.cwd
      run.settings.classesDir run.settings.dependencies) with
  | some diagnostic =>
      rw [stops] at done
      exact absurd done ended_ne_ready
  | none =>
      rw [stops] at done
      cases found with
      | some found =>
          have same := embark_ok done
          rw [FailurePolicy.met_of_not_stopped stops] at same
          exact ⟨Classpath.build_nameable building (by rw [quiet.disk, quiet.cwd, stops]), rfl, same⟩
      | none => exact absurd done ended_ne_ready

theorem approach_ok {next : Progress} {classpath : Classpath}
    (done : run.approach progress world = .ok (.ready next classpath) after) :
    Ready run progress world next := by
  obtain ⟨_, entered, entering, done⟩ := bind_ok.1 done
  obtain ⟨rfl, log, rfl⟩ := enter_same entering
  split at done
  · exact absurd done ended_ne_ready
  · next asks =>
      obtain ⟨_, scanning, entering', done⟩ := bind_ok.1 done
      obtain ⟨rfl, log', rfl⟩ := enter_same entering'
      obtain ⟨isThere, asked, asking, done⟩ := bind_ok.1 done
      obtain ⟨answered, rfl⟩ := askSystem_ok.1 asking
      split at done
      · exact absurd done ended_ne_ready
      · next there =>
          obtain ⟨artifacts, searched, scan, done⟩ := bind_ok.1 done
          have quiet := (Scanner.scan_quiet _ _).of_ok scan
          split at done
          · exact absurd done ended_ne_ready
          · next found =>
              obtain ⟨nameable, goesOn, same⟩ := equip_ok done
              have scanned : next.scanned = artifacts.paths := by
                rw [same]
                rfl
              rw [quiet.disk, quiet.cwd] at goesOn same
              rw [Progress.through_through] at same
              refine ⟨by simpa using asks, ?_, ?_, ?_, nameable, goesOn, ?_⟩
              · obtain rfl : isThere = true := by simpa using there
                exact answered
              · exact ⟨_, searched, ⟨log', rfl⟩, artifacts, scan, scanned.symm⟩
              · rwa [scanned]
              · rw [scanned]
                exact same

/-! ## Runs that are completed -/

theorem skip_ne_completed {level : Level} {reason words : String} {fields : List (String × Json)}
    {ending : Ending} (done : (Approach.ended <$> run.skip progress level reason fields words) world =
      .ok (.ended ending) after) : ending.1.status ≠ .completed := by
  obtain ⟨ending, ended, same⟩ := map_ok.1 done
  cases same
  simp [(skip_ok ended).shows.status]

theorem stop_ne_completed {diagnostic : Option Diagnostic} {ending : Ending}
    (done : (Approach.ended <$> run.stop progress diagnostic) world = .ok (.ended ending) after) :
    ending.1.status ≠ .completed := by
  obtain ⟨ending, ended, same⟩ := map_ok.1 done
  cases same
  simp [(stop_ok ended).shows.status]

/-- A run that ends before it comes to its class files is not completed. -/
theorem approach_ne_completed {ending : Ending}
    (done : run.approach progress world = .ok (.ended ending) after) :
    ending.1.status ≠ .completed := by
  obtain ⟨_, entered, entering, done⟩ := bind_ok.1 done
  split at done
  · exact skip_ne_completed done
  · obtain ⟨_, scanning, entering', done⟩ := bind_ok.1 done
    obtain ⟨isThere, asked, asking, done⟩ := bind_ok.1 done
    split at done
    · exact skip_ne_completed done
    · obtain ⟨artifacts, searched, scan, done⟩ := bind_ok.1 done
      split at done
      · exact skip_ne_completed done
      · obtain ⟨_, logged, logging, done⟩ := bind_ok.1 done
        obtain ⟨⟨classpath, diagnostics, abort⟩, built, building, done⟩ := bind_ok.1 done
        cases abort with
        | some diagnostic => exact stop_ne_completed done
        | none =>
            cases classpath with
            | none => exact stop_ne_completed done
            | some classpath => exact absurd done embark_ne_ended

/-- How a run was completed: it came to its class files, and none of them ended it. -/
inductive Completed (run : Run) (world : World) (report : Report) : World → Prop
  | intro {start progress next : Progress} {classpath : Classpath}
      {opening begun ended after : World} (fresh : start.IsFresh) (opens : world.Calm opening)
      (ready : Ready run start opening progress) (begins : opening.Calm begun)
      (processing : run.processAll (run.invocation classpath) progress progress.scanned begun =
        .ok (next, none) ended)
      (shows : report.Shows (next.through [.done]) .completed none none)
      (closes : ended.Calm after) : Completed run world report after

theorem execute_completed {ending : Ending} (fresh : progress.IsFresh)
    (done : run.execute progress world = .ok ending after)
    (completed : ending.1.status = .completed) : Completed run world ending.1 after := by
  rw [execute_eq] at done
  obtain ⟨approach, begun, approaching, taking⟩ := bind_ok.1 done
  have begins := Keeps.of_ok (approach_reporting calm_reporting calm_timed _ _) approaching
  cases approach with
  | ended other =>
      obtain ⟨rfl, -⟩ := pure_ok.1 taking
      exact absurd completed (approach_ne_completed approaching)
  | ready progress classpath =>
      obtain ⟨⟨next, abort⟩, processed, processing, taking⟩ := bind_ok.1 taking
      cases abort with
      | some diagnostic => simp [(stop_ok taking).shows.status] at completed
      | none =>
          have end' := finish_ok taking
          have shows := end'.shows
          rw [end'.progress_eq] at shows
          exact .intro fresh (.refl world) (approach_ok approaching) begins processing shows
            (Keeps.of_ok (finish_timed calm_timed _ _ _ _) taking)

/-- A run whose report says that it was completed came to all of its class files. -/
theorem start_completed {ending : Ending} (done : run.start world = .ok ending after)
    (completed : ending.1.status = .completed) : Completed run world ending.1 after := by
  obtain ⟨progress, read, beginning, done⟩ := bind_ok.1 done
  obtain ⟨fresh, -⟩ := begin_ok beginning
  have begins : world.Calm read := Keeps.of_ok (begin_timed calm_timed) beginning
  obtain ⟨⟨report, last⟩, traced, tracing, done⟩ := bind_ok.1 done
  obtain ⟨_, logged, logging, same⟩ := bind_ok.1 done
  obtain ⟨rfl, rfl⟩ := pure_ok.1 same
  have logs : traced.Calm logged := Keeps.of_ok (calm_lawful.log (nofun : LogSource.run ≠ .diagnostics)) logging
  obtain ⟨ended, executing, rfl⟩ := traced_ok.1 tracing
  obtain ⟨fresh, opens, ready, begins', processing, shows, closes⟩ :=
    execute_completed fresh executing completed
  exact .intro fresh (begins.trans ⟨opens.disk, opens.cwd, opens.stranded, opens.faults⟩) ready begins'
    processing shows (closes.trans ⟨logs.disk, logs.cwd, logs.stranded, logs.faults⟩)

end Run

end Enhance
