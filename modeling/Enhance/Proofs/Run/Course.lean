import Enhance.Proofs.Classpath.Assembly
import Enhance.Proofs.Run.Processing
import Enhance.Proofs.Scan

/-!
# The courses of a run

A run that ends with a report took one of three courses: there was nothing to do, the class path
could not be built, or the class files were processed (`Run.Course`).  Each of them settles the
states the run was in, the report and what happened to the files.
-/

namespace Enhance

open Program

namespace Progress

/-- What a run has done when it has gone through further states. -/
def through (progress : Progress) (states : List RunState) : Progress :=
  { progress with history := progress.history ++ states }

/-- What a run has done when it has found class files. -/
def found (progress : Progress) (paths : List Path) : Progress :=
  { progress with scanned := paths }

/-- What a run has done when it has met with problems of the class path. -/
def met (progress : Progress) (problems : List Diagnostic) : Progress :=
  { progress with diagnostics := progress.diagnostics ++ problems }

theorem through_through (progress : Progress) (states more : List RunState) :
    (progress.through states).through more = progress.through (states ++ more) := by
  simp [through]

/-- What a run has done that began with nothing done: the states it went through, the class files it
found, the problems of the class path that it met with and what became of class files. -/
structure Comprises (progress : Progress) (states : List RunState) (paths : List Path)
    (problems : List Diagnostic) (fates : Fates) : Prop where
  history : progress.history = .idle :: states
  scanned : progress.scanned = paths
  enhanced : progress.enhanced = fates.enhanced
  unchanged : progress.unchanged = fates.unchanged
  diagnostics : progress.diagnostics = problems ++ fates.diagnostics

/-- Nothing was done yet. -/
abbrev IsFresh (progress : Progress) : Prop :=
  progress.Comprises [] [] [] []

namespace Comprises

variable {progress : Progress} {states : List RunState} {paths : List Path}
  {problems : List Diagnostic} {fates : Fates}

theorem through (comprises : progress.Comprises states paths problems fates)
    (more : List RunState) :
    (progress.through more).Comprises (states ++ more) paths problems fates := by
  refine ⟨?_, comprises.scanned, comprises.enhanced, comprises.unchanged, comprises.diagnostics⟩
  rw [Progress.through, comprises.history]
  rfl

theorem found (comprises : progress.Comprises states paths problems fates) (more : List Path) :
    (progress.found more).Comprises states more problems fates :=
  ⟨comprises.history, rfl, comprises.enhanced, comprises.unchanged, comprises.diagnostics⟩

/-- The problems of the class path come before what becomes of class files. -/
theorem met (comprises : progress.Comprises states paths problems []) (more : List Diagnostic) :
    (progress.met more).Comprises states paths (problems ++ more) [] := by
  refine ⟨comprises.history, comprises.scanned, comprises.enhanced, comprises.unchanged, ?_⟩
  rw [Progress.met, comprises.diagnostics]
  simp [Fates.diagnostics]

theorem noteAll (comprises : progress.Comprises states paths problems []) (fates : Fates) :
    (progress.noteAll fates).Comprises states paths problems fates := by
  refine ⟨comprises.history, comprises.scanned, ?_, ?_, ?_⟩
  · rw [Progress.noteAll, comprises.enhanced]
    rfl
  · rw [Progress.noteAll, comprises.unchanged]
    rfl
  · rw [Progress.noteAll, comprises.diagnostics]
    simp [Fates.diagnostics]

end Comprises

end Progress

/-- A report shows what a run has done and how it ended. -/
structure Report.Shows (report : Report) (progress : Progress) (status : RunStatus)
    (skipReason : Option String) (abort : Option Diagnostic) : Prop where
  status : report.status = status
  finalState : report.finalState = progress.state
  skipReason : report.skipReason = skipReason
  scanned : report.scanned = progress.scanned
  enhanced : report.enhanced = progress.enhanced
  unchanged : report.unchanged = progress.unchanged
  diagnostics : report.diagnostics = progress.diagnostics
  abort : report.abort = abort

namespace Run

variable {run : Run} {progress next : Progress} {report : Report} {ending : Ending}
  {status : RunStatus} {skipReason : Option String} {abort : Option Diagnostic}
  {world after : World}

/-! ## The ends of a run -/

theorem enter_ok {state : RunState} (done : enter progress state world = .ok next after) :
    next = progress.through [state] ∧ world.Quiet after := by
  obtain ⟨_, logged, logging, same⟩ := bind_ok.1 done
  obtain ⟨rfl, rfl⟩ := pure_ok.1 same
  exact ⟨rfl, (log_quiet _).of_ok logging⟩

theorem report_ok (done : run.report progress status skipReason abort world = .ok report after) :
    report.Shows progress status skipReason abort ∧ world.Quiet after := by
  obtain ⟨finish, read, reading, done⟩ := bind_ok.1 done
  rw [get_bind] at done
  obtain ⟨rfl, rfl⟩ := pure_ok.1 done
  exact ⟨⟨rfl, rfl, rfl, rfl, rfl, rfl, rfl, rfl⟩, readClock_quiet.of_ok reading⟩

/-- A run came to its end in a state. -/
structure Ended (progress : Progress) (state : RunState) (status : RunStatus)
    (skipReason : Option String) (abort : Option Diagnostic) (world : World) (ending : Ending)
    (after : World) : Prop where
  progress_eq : ending.2 = progress.through [state]
  shows : ending.1.Shows ending.2 status skipReason abort
  quiet : world.Quiet after

theorem finish_ok (done : run.finish progress status skipReason world = .ok ending after) :
    Ended progress .done status skipReason none world ending after := by
  obtain ⟨_, entered, entering, done⟩ := bind_ok.1 done
  obtain ⟨rfl, quiet⟩ := enter_ok entering
  obtain ⟨report, reported, reporting, same⟩ := bind_ok.1 done
  obtain ⟨rfl, rfl⟩ := pure_ok.1 same
  obtain ⟨shows, quiet'⟩ := report_ok reporting
  exact ⟨rfl, shows, quiet.trans quiet'⟩

theorem stop_ok (done : run.stop progress abort world = .ok ending after) :
    Ended progress .aborted .aborted none abort world ending after := by
  obtain ⟨_, entered, entering, done⟩ := bind_ok.1 done
  obtain ⟨rfl, quiet⟩ := enter_ok entering
  obtain ⟨report, reported, reporting, same⟩ := bind_ok.1 done
  obtain ⟨rfl, rfl⟩ := pure_ok.1 same
  obtain ⟨shows, quiet'⟩ := report_ok reporting
  exact ⟨rfl, shows, quiet.trans quiet'⟩

theorem skip_ok {level : Level} {reason words : String} {fields : List (String × Json)}
    (done : run.skip progress level reason fields words world = .ok ending after) :
    Ended progress .done .skipped (some words) none world ending after := by
  obtain ⟨_, logged, logging, done⟩ := bind_ok.1 done
  have ended := finish_ok done
  exact ⟨ended.progress_eq, ended.shows, ((log_quiet _).of_ok logging).trans ended.quiet⟩

/-! ## The courses -/

/-- The state and the status with which processing class files ends. -/
def closing : Option Diagnostic → RunState × RunStatus
  | none => (.done, .completed)
  | some _ => (.aborted, .aborted)

/-- What the transformer of a run is called with besides the class. -/
def invocation (run : Run) (classpath : Classpath) : Invocation :=
  ⟨run.transformer, classpath, run.settings.capabilities⟩

/-- A scan of the class files of a run. -/
def Scans (run : Run) (world : World) (paths : List Path) (after : World) : Prop :=
  ∃ artifacts, Scanner.scan ⟨run.settings.extension⟩ run.settings.classesDir world =
    .ok artifacts after ∧ artifacts.paths = paths

/-- The course that a run took from a world to its end. -/
inductive Course (run : Run) (world : World) : Ending → World → Prop
  /-- There was nothing to do. -/
  | skipped {states : List RunState} {words : String} {last : Progress} {report : Report}
      {after : World}
      (way : states = [.configChecked, .done] ∨ states = [.configChecked, .scanning, .done])
      (comprises : last.Comprises states [] [] [])
      (shows : report.Shows last .skipped (some words) none) (quiet : world.Quiet after) :
      Course run world (report, last) after
  /-- The class path could not be built. -/
  | unresolved {paths : List Path} {diagnostic : Diagnostic} {last : Progress} {report : Report}
      {searching searched after : World}
      (quiet : world.Quiet searching) (scan : run.Scans searching paths searched)
      (stage : diagnostic.stage = .classpath) (failFast : run.policy = .failFast)
      (comprises : last.Comprises [.configChecked, .scanning, .aborted] paths [diagnostic] [])
      (shows : report.Shows last .aborted none (some diagnostic))
      (quietAfter : searched.Quiet after) :
      Course run world (report, last) after
  /-- The class files were processed. -/
  | processed {paths : List Path} {classpath : Classpath} {problems : List Diagnostic}
      {fates : Fates} {abort : Option Diagnostic} {last : Progress} {report : Report}
      {searching searched begun ended after : World}
      (quiet : world.Quiet searching) (scan : run.Scans searching paths searched)
      (stages : ∀ diagnostic ∈ problems, diagnostic.stage = .classpath)
      (tolerated : run.policy = .failFast → problems = [])
      (quietBuild : searched.Quiet begun)
      (processed : Processed run (run.invocation classpath) begun fates ended)
      (cut : Cut run.policy paths fates abort)
      (comprises : last.Comprises
        [.configChecked, .scanning, .contextBuilt, .processing, (closing abort).1]
        paths problems fates)
      (shows : report.Shows last (closing abort).2 none abort)
      (quietAfter : ended.Quiet after) :
      Course run world (report, last) after

/-- What is done after something was noted in the log, if at all. -/
theorem ok_of_noted {α : Type} {wanted : Prop} [Decidable wanted] {entry : LogEntry}
    {rest : Unit → Program α} {value : α}
    (done : (if wanted then log entry >>= rest else rest ()) world = .ok value after) :
    ∃ middle, world.Quiet middle ∧ rest () middle = .ok value after := by
  split at done
  · obtain ⟨_, logged, logging, done⟩ := bind_ok.1 done
    exact ⟨logged, (log_quiet _).of_ok logging, done⟩
  · exact ⟨world, .refl _, done⟩

theorem enhance_ok {classpath : Classpath}
    (done : run.enhance progress classpath world = .ok ending after) :
    ∃ fates abort begun ended, world.Quiet begun ∧
      Processed run (run.invocation classpath) begun fates ended ∧
      Cut run.policy progress.scanned fates abort ∧
      Ended ((progress.through [.contextBuilt, .processing]).noteAll fates) (closing abort).1
        (closing abort).2 none abort ended ending after := by
  obtain ⟨_, entered, entering, done⟩ := bind_ok.1 done
  obtain ⟨rfl, quiet⟩ := enter_ok entering
  obtain ⟨noted, quietNote, done⟩ := ok_of_noted done
  obtain ⟨_, begun, entering, done⟩ := bind_ok.1 done
  obtain ⟨rfl, quietEnter⟩ := enter_ok entering
  obtain ⟨⟨noted, abort⟩, ended, processing, done⟩ := bind_ok.1 done
  obtain ⟨fates, processed, cut, rfl⟩ := processAll_ok processing
  refine ⟨fates, abort, begun, ended, (quiet.trans quietNote).trans quietEnter,
    processed, cut, ?_⟩
  cases abort with
  | none =>
      have end' := finish_ok done
      rw [Progress.through_through] at end'
      exact end'
  | some diagnostic =>
      have end' := stop_ok done
      rw [Progress.through_through] at end'
      exact end'

/-- What comes of a run that has found class files. -/
theorem prepare_ok (done : run.prepare progress world = .ok ending after) :
    (∃ diagnostic, diagnostic.stage = .classpath ∧ run.policy = .failFast ∧
      Ended (progress.met [diagnostic]) .aborted .aborted none (some diagnostic) world ending
        after) ∨
    ∃ classpath problems fates abort begun ended,
      (∀ diagnostic ∈ problems, diagnostic.stage = .classpath) ∧
      (run.policy = .failFast → problems = []) ∧ world.Quiet begun ∧
      Processed run (run.invocation classpath) begun fates ended ∧
      Cut run.policy progress.scanned fates abort ∧
      Ended (((progress.met problems).through [.contextBuilt, .processing]).noteAll fates)
        (closing abort).1 (closing abort).2 none abort ended ending after := by
  obtain ⟨_, logged, logging, done⟩ := bind_ok.1 done
  have quiet := (log_quiet _).of_ok logging
  obtain ⟨built, middle, building, done⟩ := bind_ok.1 done
  have quietBuild := (Classpath.build_quiet _ _ _ _).of_ok building
  cases Classpath.build_ok building with
  | complete classpath problems stages tolerated =>
      obtain ⟨fates, abort, begun, ended, quietEnhance, processed, cut, end'⟩ := enhance_ok done
      exact .inr ⟨classpath, problems, fates, abort, begun, ended, stages, tolerated,
        (quiet.trans quietBuild).trans quietEnhance, processed, cut, end'⟩
  | stopped diagnostic stage failFast =>
      have end' := stop_ok done
      exact .inl ⟨diagnostic, stage, failFast, end'.progress_eq, end'.shows,
        (quiet.trans quietBuild).trans end'.quiet⟩

/-- A run that ended because there was nothing to do. -/
theorem Course.of_skipped {states : List RunState} {words : String} {middle : World}
    (way : states = [.configChecked] ∨ states = [.configChecked, .scanning])
    (comprises : progress.Comprises states [] [] []) (quiet : world.Quiet middle)
    (end' : Ended progress .done .skipped (some words) none middle ending after) :
    Course run world ending after := by
  obtain ⟨report, last⟩ := ending
  obtain ⟨rfl, shows, quietAfter⟩ := end'
  refine .skipped ?_ (comprises.through _) shows (quiet.trans quietAfter)
  rcases way with rfl | rfl
  · exact .inl rfl
  · exact .inr rfl

/-- A run that ends with a report takes one of the courses. -/
theorem execute_ok (fresh : progress.IsFresh)
    (done : run.execute progress world = .ok ending after) : Course run world ending after := by
  obtain ⟨_, entered, entering, done⟩ := bind_ok.1 done
  obtain ⟨rfl, quiet⟩ := enter_ok entering
  have checked := fresh.through [.configChecked]
  split at done
  · exact .of_skipped (.inl rfl) checked quiet (skip_ok done)
  · obtain ⟨_, scanning, entering, done⟩ := bind_ok.1 done
    obtain ⟨rfl, quietEnter⟩ := enter_ok entering
    have searches := checked.through [.scanning]
    obtain ⟨isThere, asked, asking, done⟩ := bind_ok.1 done
    have quietAsk := (askSystem_quiet _).of_ok asking
    have quiet := (quiet.trans quietEnter).trans quietAsk
    split at done
    · exact .of_skipped (.inr rfl) searches quiet (skip_ok done)
    · obtain ⟨artifacts, searched, scan, done⟩ := bind_ok.1 done
      have scans : run.Scans asked artifacts.paths searched := ⟨artifacts, scan, rfl⟩
      have found := searches.found artifacts.paths
      split at done
      · next none =>
          have quietScan := (Scanner.scan_quiet _ _).of_ok scan
          rw [none] at found done
          exact .of_skipped (.inr rfl) found (quiet.trans quietScan) (skip_ok done)
      · obtain ⟨report, last⟩ := ending
        rcases prepare_ok done with
          ⟨diagnostic, stage, failFast, rfl, shows, quietAfter⟩ |
            ⟨classpath, problems, fates, abort, begun, ended, stages, tolerated, quietBuild,
              processed, cut, rfl, shows, quietAfter⟩
        · exact .unresolved quiet scans stage failFast ((found.met _).through _) shows quietAfter
        · have built := ((found.met problems).through [.contextBuilt, .processing]).noteAll fates
          exact .processed quiet scans stages tolerated quietBuild processed cut (built.through _)
            shows quietAfter

namespace Course

/-- What is done before a run and leaves the files and the records alone belongs to its course. -/
theorem of_quiet {begun : World} (begins : world.Quiet begun)
    (course : Course run begun ending after) : Course run world ending after := by
  cases course with
  | skipped way comprises shows quiet =>
      exact .skipped way comprises shows (begins.trans quiet)
  | unresolved quiet scan stage failFast comprises shows quietAfter =>
      exact .unresolved (begins.trans quiet) scan stage failFast comprises shows quietAfter
  | processed quiet scan stages tolerated quietBuild processed cut comprises shows quietAfter =>
      exact .processed (begins.trans quiet) scan stages tolerated quietBuild processed cut comprises
        shows quietAfter

/-- So does what is done after it. -/
theorem before_quiet {last : World} (course : Course run world ending after)
    (ends : after.Quiet last) : Course run world ending last := by
  cases course with
  | skipped way comprises shows quiet => exact .skipped way comprises shows (quiet.trans ends)
  | unresolved quiet scan stage failFast comprises shows quietAfter =>
      exact .unresolved quiet scan stage failFast comprises shows (quietAfter.trans ends)
  | processed quiet scan stages tolerated quietBuild processed cut comprises shows quietAfter =>
      exact .processed quiet scan stages tolerated quietBuild processed cut comprises shows
        (quietAfter.trans ends)

end Course

theorem complete_ok (fresh : progress.IsFresh)
    (done : run.complete progress world = .ok ending after) : Course run world ending after := by
  obtain ⟨⟨report, last⟩, traced, tracing, done⟩ := bind_ok.1 done
  obtain ⟨begun, ended, quiet, executing, quietAfter⟩ := ok_of_traced tracing
  obtain ⟨_, logged, logging, same⟩ := bind_ok.1 done
  obtain ⟨rfl, rfl⟩ := pure_ok.1 same
  have course := execute_ok fresh executing
  exact (course.of_quiet quiet).before_quiet (quietAfter.trans ((log_quiet _).of_ok logging))

theorem begin_ok (done : begin world = .ok progress after) :
    progress.IsFresh ∧ world.Quiet after := by
  obtain ⟨time, read, reading, done⟩ := bind_ok.1 done
  rw [get_bind] at done
  obtain ⟨rfl, rfl⟩ := pure_ok.1 done
  exact ⟨⟨rfl, rfl, rfl, rfl, rfl⟩, readClock_quiet.of_ok reading⟩

/-- A whole run takes one of the courses. -/
theorem start_ok (done : run.start world = .ok ending after) : Course run world ending after := by
  obtain ⟨progress, read, beginning, done⟩ := bind_ok.1 done
  obtain ⟨fresh, quiet⟩ := begin_ok beginning
  exact (complete_ok fresh done).of_quiet quiet

end Run

namespace Runner

/-- A call of a runner is a whole run; what earlier runs have left behind makes no difference. -/
theorem call_eq (runner : Runner) :
    runner.call = (fun ending => (ending.1, { runner with progress := ending.2 })) <$>
      runner.run.start := by
  simp only [call, reset, Run.start, Run.begin, bind_assoc, map_eq_pure_bind, pure_bind]

variable {runner next : Runner} {report : Report} {world after : World}

theorem start_of_call (done : runner.call world = .ok (report, next) after) :
    runner.run.start world = .ok (report, next.progress) after ∧ next.run = runner.run := by
  rw [call_eq] at done
  obtain ⟨ending, started, same⟩ := map_ok.1 done
  cases same
  exact ⟨started, rfl⟩

end Runner

/-! ## A small run -/

namespace Sample

/-- A directory with two class files. -/
def world : World :=
  { disk := .dir "c" (.file "A.class" ⟨[0x61], 0o644, false⟩ (.file "B.class" ⟨[0x42], 0o600, false⟩ .empty))
      .empty
    now := default }

theorem isName_first : ∀ name ∈ ["c", "A.class"], isName name = true := by decide

theorem isName_second : ∀ name ∈ ["c", "B.class"], isName name = true := by decide

/-- A run over the directory. -/
def run (transformer : Transformer) (failOnError : Bool) : Run :=
  { settings := {
      classesDir := ⟨.root, ["c"], by decide⟩
      failOnError
      capabilities := { dirtyTracking := true } }
    transformer
    sink := .none }

/-- A failure of a transformer. -/
def failure : Failure :=
  .raised "ValueError" "bad class"

/-- Two calls of a runner, and the world between them. -/
def twice (runner : Runner) : Program ((Report × Runner) × World × (Report × Runner)) := do
  let first ← runner.call
  let middle ← get
  let second ← first.2.call
  pure (first, middle, second)

theorem twice_ok {runner : Runner} {before middle after : World} {first second : Report × Runner}
    (done : twice runner before = .ok (first, middle, second) after) :
    runner.call before = .ok first middle ∧ first.2.call middle = .ok second after := by
  obtain ⟨_, between, one, done⟩ := bind_ok.1 done
  rw [get_bind] at done
  obtain ⟨_, final, two, same⟩ := bind_ok.1 done
  obtain ⟨same, rfl⟩ := pure_ok.1 same
  cases same
  exact ⟨one, two⟩

end Sample

end Enhance
