import Enhance.Proofs.Run.Account
import Enhance.Proofs.Run.Approach

/-!
# What a sink receives

Whatever a run does, its sink receives the diagnostics of the report, in their order and each once.  What
a sink has received can be seen in a world through a channel (`Program.Channel`): the diagnostics that
were handed to the caller, or the entries that a sink wrote into the log.  No step of a run touches a
channel but reporting, so that what is received follows the diagnostics that are recorded.
-/

namespace Enhance

/-- The entries that a sink wrote into the log, latest first. -/
def World.notices (world : World) : List LogEntry :=
  world.log.filter (·.source = .diagnostics)

/-- What can be seen of a world is as it was. -/
def World.SameIn {γ : Type} (entries : World → List γ) (before after : World) : Prop :=
  entries after = entries before

/-- Diagnostics were added to what can be seen, the latest one in front. -/
def World.Receives {γ : Type} (entries : World → List γ) (shown : Diagnostic → γ)
    (before : World) (diagnostics : List Diagnostic) (after : World) : Prop :=
  entries after = (diagnostics.map shown).reverse ++ entries before

namespace World

variable {γ : Type} {entries : World → List γ} {shown : Diagnostic → γ}
  {before middle after : World} {diagnostics more : List Diagnostic}

instance : IsPreorder World (SameIn entries) where
  refl _ := rfl
  trans _ _ _ one two := two.trans one

namespace Receives

theorem of_same (same : before.SameIn entries after) : before.Receives entries shown [] after :=
  same

theorem trans (one : before.Receives entries shown diagnostics middle)
    (two : middle.Receives entries shown more after) :
    before.Receives entries shown (diagnostics ++ more) after := by
  rw [Receives] at one two ⊢
  simp [two, one]

theorem after_same (same : before.SameIn entries middle)
    (received : middle.Receives entries shown diagnostics after) :
    before.Receives entries shown diagnostics after :=
  (of_same same).trans received

theorem before_same (received : before.Receives entries shown diagnostics middle)
    (same : middle.SameIn entries after) : before.Receives entries shown diagnostics after := by
  have whole := received.trans (of_same same)
  rwa [List.append_nil] at whole

end Receives

end World

namespace Program

/-! ## Channels -/

/-- What can be seen depends on the log and on what was handed to the caller only, and on no entries of
the log but those of sinks. -/
structure IsView {γ : Type} (entries : World → List γ) : Prop where
  only {one two : World} (logs : one.log = two.log) (reports : one.reported = two.reported) :
    one.SameIn entries two
  log {entry : LogEntry} (own : entry.source ≠ .diagnostics) (world : World) :
    world.SameIn entries { world with log := entry :: world.log }
  records {world after : World} (same : world.SameIn entries after) :
    world.SameIn entries (after.withRecordsOf world)

namespace IsView

variable {γ : Type} {entries : World → List γ} (view : IsView entries)

include view

theorem lawful : Lawful fun _ program => program.Keeps (World.SameIn entries) where
  pure := keeps_pure
  throw := keeps_throw
  bind := keeps_bind
  look steps _ := fun world => steps world world
  catchSystem := keeps_catchSystem
  log own := fun world => view.log own world
  strike call name := by
    apply keeps_of_ends
    · intro world answer after done
      obtain ⟨-, rfl⟩ := strike_ok.1 done
      exact view.only rfl rfl
    · intro world failure after failed
      obtain ⟨code, -, -, rfl⟩ := strike_error.1 failed
      exact view.only rfl rfl

theorem changing : Changing fun _ program => program.Keeps (World.SameIn entries) where
  toLawful := view.lawful
  alter := keeps_alter fun _ _ => view.only rfl rfl
  strand _ := fun _ => view.only rfl rfl

theorem recording : Recording fun _ program => program.Keeps (World.SameIn entries) :=
  keeps_recording view.lawful (fun _ _ => view.only rfl rfl) (fun _ _ _ => view.only rfl rfl)
    (fun _ _ => view.only rfl rfl) fun _ _ => view.records

end IsView

/-- Through a channel it can be seen what a sink has received: reporting a diagnostic adds it in front. -/
structure Channel {γ : Type} (sink : Sink) (entries : World → List γ) (shown : Diagnostic → γ) :
    Prop extends IsView entries where
  report (diagnostic : Diagnostic) (world : World) :
    world.Receives entries shown [diagnostic] ((sink.report diagnostic).leaves world)

/-- What was handed to the caller is a channel of the sink that collects. -/
theorem collected_channel : Channel .collecting (·.reported) id where
  only _ same := same.symm
  log _ _ := rfl
  records _ := rfl
  report _ _ := rfl

/-- The entries of sinks in the log are a channel of the sink that logs. -/
theorem noticed_channel : Channel .logging World.notices Diagnostic.logEntry where
  only {one two} same _ := by
    rw [World.SameIn, World.notices, World.notices, same]
  log own world := by
    simp [World.SameIn, World.notices, own]
  records same := same
  report diagnostic world := by
    change World.notices { world with log := diagnostic.logEntry :: world.log } = _
    simp [World.notices, Diagnostic.logEntry]

namespace Channel

variable {γ : Type} {entries : World → List γ} {shown : Diagnostic → γ} {sink : Sink}
  {world after : World} {answer : Unit} (channel : Channel sink entries shown)

include channel

theorem log_ok {entry : LogEntry} (done : log entry world = .ok answer after)
    (own : entry.source ≠ .diagnostics) : world.SameIn entries after :=
  (channel.lawful.log own).of_ok done

theorem report_ok {diagnostic : Diagnostic}
    (done : sink.report diagnostic world = .ok answer after) :
    world.Receives entries shown [diagnostic] after := by
  have received := channel.report diagnostic world
  rwa [leaves_of_ok done] at received

end Channel

end Program

open Program

variable {γ : Type} {entries : World → List γ} {shown : Diagnostic → γ} {world after : World}

/-! ## Building the class path -/

namespace Classpath

variable {policy : FailurePolicy} {sink : Sink} {built : Built}

theorem addCandidates_receives (channel : Channel sink entries shown) {candidates : List Candidate}
    {found : List Path} {diagnostics : List Diagnostic}
    (done : addCandidates policy sink candidates found diagnostics world = .ok built after) :
    ∃ new, built.diagnostics = diagnostics ++ new ∧ world.Receives entries shown new after := by
  induction candidates generalizing found diagnostics world with
  | nil =>
      obtain ⟨rfl, rfl⟩ := pure_ok.1 done
      exact ⟨[], by simp, .of_same rfl⟩
  | cons candidate rest ih =>
      rw [addCandidates] at done
      obtain ⟨resolved, middle, resolving, done⟩ := bind_ok.1 done
      have still := Keeps.of_ok (resolveCandidate_lawful channel.lawful candidate) resolving
      suffices goesOn : ∃ new, built.diagnostics = diagnostics ++ new ∧
          middle.Receives entries shown new after by
        obtain ⟨new, same, received⟩ := goesOn
        exact ⟨new, same, received.after_same still⟩
      cases resolved with
      | ok path =>
          dsimp only at done
          split at done
          · exact ih done
          · obtain ⟨_, logged, logging, done⟩ := bind_ok.1 done
            obtain ⟨new, same, received⟩ := ih done
            exact ⟨new, same, received.after_same (channel.log_ok logging (by simp [logEntry]))⟩
      | failed cause =>
          obtain ⟨_, reported, reporting, done⟩ := bind_ok.1 done
          have one := channel.report_ok reporting
          cases policy with
          | failFast =>
              obtain ⟨_, logged, logging, done⟩ := bind_ok.1 done
              obtain ⟨rfl, rfl⟩ := pure_ok.1 done
              exact ⟨_, rfl, one.before_same (channel.log_ok logging (by simp [logEntry]))⟩
          | tolerant =>
              obtain ⟨_, logged, logging, done⟩ := bind_ok.1 done
              obtain ⟨new, same, received⟩ := ih done
              have later := received.after_same (channel.log_ok logging (by simp [logEntry]))
              exact ⟨_, by rw [same, List.append_assoc], one.trans later⟩

theorem build_receives (channel : Channel sink entries shown) {root : Path}
    {dependencies : List Dependency}
    (done : build policy sink root dependencies world = .ok built after) :
    world.Receives entries shown built.diagnostics after := by
  obtain ⟨_, middle, skipping, done⟩ := bind_ok.1 done
  obtain ⟨new, same, received⟩ := addCandidates_receives channel done
  rw [same, List.nil_append]
  exact received.after_same (Keeps.of_ok (logSkipped_lawful channel.lawful _) skipping)

end Classpath

namespace Run

variable {run : Run} {invocation : Invocation} {progress next : Progress} {path : Path}
  {paths : List Path} {verdict : Verdict} {abort : Option Diagnostic} {ending : Ending}

/-! ## Class files -/

theorem refuse_receives (channel : Channel run.sink entries shown) {diagnostic : Diagnostic}
    (done : run.refuse diagnostic world = .ok verdict after) :
    world.Receives entries shown verdict.diagnostic?.toList after := by
  obtain ⟨rfl, -⟩ := refuse_ok done
  obtain ⟨_, reported, reporting, done⟩ := bind_ok.1 done
  have received := channel.report_ok reporting
  cases policy : run.policy with
  | failFast =>
      simp only [policy, FailurePolicy.decide] at done
      obtain ⟨_, logged, logging, done⟩ := bind_ok.1 done
      obtain ⟨-, rfl⟩ := pure_ok.1 done
      exact received.before_same (channel.log_ok logging (by simp [logEntry]))
  | tolerant =>
      simp only [policy, FailurePolicy.decide] at done
      obtain ⟨-, rfl⟩ := pure_ok.1 done
      exact received

/-- Processing a class file reports the failure, if there is one. -/
theorem judge_receives (channel : Channel run.sink entries shown)
    (calls : ∀ path given, (invocation.call path given).Keeps (World.SameIn entries))
    (done : run.judge invocation path world = .ok verdict after) :
    world.Receives entries shown verdict.diagnostic?.toList after := by
  obtain ⟨outcome, traced, tracing, done⟩ := bind_ok.1 done
  have invoked : world.SameIn entries traced :=
    Keeps.of_ok (channel.recording.traced _ _
      (Invocation.run_of_calls channel.recording (calls path))) tracing
  apply World.Receives.after_same invoked
  cases outcome with
  | unchanged =>
      obtain ⟨_, logged, logging, done⟩ := bind_ok.1 done
      obtain ⟨rfl, rfl⟩ := pure_ok.1 done
      exact .of_same (channel.log_ok logging nofun)
  | failed message cause => exact refuse_receives channel done
  | transformed data =>
      obtain ⟨problem, written, writing, done⟩ := bind_ok.1 done
      have writes : traced.SameIn entries written :=
        Keeps.of_ok (Replacement.write_changing channel.changing _ _ _) writing
      apply World.Receives.after_same writes
      cases problem with
      | some diagnostic => exact refuse_receives channel done
      | none =>
          obtain ⟨_, logged, logging, done⟩ := bind_ok.1 done
          obtain ⟨rfl, rfl⟩ := pure_ok.1 done
          exact .of_same (channel.log_ok logging nofun)

theorem processAll_receives (channel : Channel run.sink entries shown)
    (calls : ∀ path given, (invocation.call path given).Keeps (World.SameIn entries))
    (done : run.processAll invocation progress paths world = .ok (next, abort) after) :
    ∃ new, next.diagnostics = progress.diagnostics ++ new ∧
      world.Receives entries shown new after := by
  induction paths generalizing progress world with
  | nil =>
      obtain ⟨same, rfl⟩ := pure_ok.1 done
      cases same
      exact ⟨[], by simp, .of_same rfl⟩
  | cons path paths ih =>
      obtain ⟨⟨noted, ends⟩, middle, processing, done⟩ := bind_ok.1 done
      obtain ⟨verdict, judged, rfl, rfl⟩ := process_ok processing
      have received := judge_receives channel calls judged
      have noted : (progress.note path verdict).diagnostics =
          progress.diagnostics ++ verdict.diagnostic?.toList := by
        cases verdict <;> simp [Progress.note, Verdict.diagnostic?]
      cases aborts : verdict.abort? run.policy with
      | some diagnostic =>
          simp only [aborts] at done
          obtain ⟨same, rfl⟩ := pure_ok.1 done
          cases same
          exact ⟨_, noted, received⟩
      | none =>
          simp only [aborts] at done
          obtain ⟨new, same, later⟩ := ih done
          exact ⟨_, by rw [same, noted, List.append_assoc], received.trans later⟩

/-! ## Whole runs -/

/-- The diagnostics recorded so far, which are those of the report if the run has ended. -/
def recorded : Approach → List Diagnostic
  | .ended ending => ending.1.diagnostics
  | .ready progress _ => progress.diagnostics

/-- The end of a run reports nothing more. -/
theorem ended_receives {program : Program Ending} {approach : Approach}
    {diagnostics : List Diagnostic} (keeps : program.Keeps (World.SameIn entries))
    (shows : ∀ ending, program world = .ok ending after → ending.1.diagnostics = diagnostics)
    (done : (Approach.ended <$> program) world = .ok approach after) :
    recorded approach = diagnostics ∧ world.SameIn entries after := by
  obtain ⟨ending, ended, rfl⟩ := map_ok.1 done
  exact ⟨shows ending ended, keeps.of_ok ended⟩

theorem skip_receives (channel : Channel run.sink entries shown) {level : Level}
    {reason words : String} {fields : List (String × Json)} {approach : Approach}
    (done : (Approach.ended <$> run.skip progress level reason fields words) world =
      .ok approach after) (none : progress.diagnostics = []) :
    world.Receives entries shown (recorded approach) after := by
  have timed := channel.recording.toTimed
  have ends : recorded approach = [] ∧ world.SameIn entries after := by
    refine ended_receives (skip_timed timed _ _ _ _ _ _) (fun ending ended => ?_) done
    have end' := skip_ok ended
    rw [end'.shows.diagnostics, end'.progress_eq]
    exact none
  rw [ends.1]
  exact .of_same ends.2

theorem equip_receives (channel : Channel run.sink entries shown) {approach : Approach}
    (done : run.equip progress world = .ok approach after) (none : progress.diagnostics = []) :
    world.Receives entries shown (recorded approach) after := by
  have timed := channel.recording.toTimed
  obtain ⟨_, logged, logging, done⟩ := bind_ok.1 done
  obtain ⟨built, middle, building, done⟩ := bind_ok.1 done
  have received := (Classpath.build_receives channel building).after_same
    (channel.log_ok logging nofun)
  have rest : recorded approach = built.diagnostics ∧ middle.SameIn entries after := by
    obtain ⟨classpath, diagnostics, abort⟩ := built
    have stops {diagnostic : Option Diagnostic}
        (done : (Approach.ended <$> run.stop { progress with diagnostics := progress.diagnostics ++
          diagnostics } diagnostic) middle = .ok approach after) :
        recorded approach = diagnostics ∧ middle.SameIn entries after := by
      refine ended_receives (stop_timed timed _ _ _) (fun ending ended => ?_) done
      have end' := stop_ok ended
      rw [end'.shows.diagnostics, end'.progress_eq]
      simp [Progress.through, none]
    cases abort with
    | some diagnostic => exact stops done
    | none =>
        cases classpath with
        | none => exact stops done
        | some classpath =>
            have same := Keeps.of_ok (embark_lawful channel.lawful _ _ _) done
            cases approach with
            | ended ending => exact absurd done embark_ne_ended
            | ready next found =>
                refine ⟨?_, same⟩
                rw [recorded, embark_ok done]
                simp [Progress.through, none]
  rw [rest.1]
  exact received.before_same rest.2

theorem approach_receives (channel : Channel run.sink entries shown) {approach : Approach}
    (done : run.approach progress world = .ok approach after) (none : progress.diagnostics = []) :
    world.Receives entries shown (recorded approach) after := by
  have lawful := channel.lawful
  obtain ⟨_, entered, entering, done⟩ := bind_ok.1 done
  obtain ⟨rfl, -⟩ := enter_ok entering
  apply World.Receives.after_same (Keeps.of_ok (enter_lawful lawful _ _) entering)
  split at done
  · exact skip_receives channel done none
  · obtain ⟨_, scanning, entering', done⟩ := bind_ok.1 done
    obtain ⟨rfl, -⟩ := enter_ok entering'
    apply World.Receives.after_same (Keeps.of_ok (enter_lawful lawful _ _) entering')
    obtain ⟨isThere, asked, asking, done⟩ := bind_ok.1 done
    apply World.Receives.after_same ((lawful.askSystem _).of_ok asking)
    split at done
    · exact skip_receives channel done none
    · obtain ⟨artifacts, searched, scan, done⟩ := bind_ok.1 done
      apply World.Receives.after_same (Keeps.of_ok (Scanner.scan_lawful lawful _ _) scan)
      split at done
      · exact skip_receives channel done none
      · exact equip_receives channel done none

theorem execute_receives (channel : Channel run.sink entries shown)
    (calls : ∀ classpath path given,
      ((run.invocation classpath).call path given).Keeps (World.SameIn entries))
    (fresh : progress.IsFresh) (done : run.execute progress world = .ok ending after) :
    world.Receives entries shown ending.1.diagnostics after := by
  have timed := channel.recording.toTimed
  rw [execute_eq] at done
  obtain ⟨approach, begun, approaching, taking⟩ := bind_ok.1 done
  have received := approach_receives channel approaching fresh.diagnostics
  cases approach with
  | ended ending =>
      obtain ⟨rfl, rfl⟩ := pure_ok.1 taking
      exact received
  | ready progress classpath =>
      obtain ⟨⟨next, abort⟩, processed, processing, taking⟩ := bind_ok.1 taking
      obtain ⟨new, noted, later⟩ := processAll_receives channel (calls classpath) processing
      have whole := received.trans later
      rw [recorded, ← noted] at whole
      cases abort with
      | some diagnostic =>
          have end' := stop_ok taking
          rw [end'.shows.diagnostics, end'.progress_eq]
          exact whole.before_same (Keeps.of_ok (stop_timed timed _ _ _) taking)
      | none =>
          have end' := finish_ok taking
          rw [end'.shows.diagnostics, end'.progress_eq]
          exact whole.before_same (Keeps.of_ok (finish_timed timed _ _ _ _) taking)

/-- Whatever happens in a run, its sink receives the diagnostics of the report. -/
theorem start_receives (channel : Channel run.sink entries shown)
    (calls : ∀ classpath path given,
      ((run.invocation classpath).call path given).Keeps (World.SameIn entries))
    (done : run.start world = .ok ending after) :
    world.Receives entries shown ending.1.diagnostics after := by
  obtain ⟨progress, read, beginning, done⟩ := bind_ok.1 done
  obtain ⟨fresh, -⟩ := begin_ok beginning
  have begins : world.SameIn entries read :=
    Keeps.of_ok (begin_timed channel.recording.toTimed) beginning
  obtain ⟨⟨report, last⟩, traced, tracing, done⟩ := bind_ok.1 done
  obtain ⟨_, logged, logging, same⟩ := bind_ok.1 done
  obtain ⟨rfl, rfl⟩ := pure_ok.1 same
  obtain ⟨ended, executing, closing⟩ := traced_ok.1 tracing
  have opens : read.SameIn entries { read with spansBegun := read.spansBegun + 1 } :=
    channel.only rfl rfl
  have closes : ended.SameIn entries traced := closing ▸ channel.only rfl rfl
  have received := execute_receives channel calls fresh executing
  exact (((received.before_same closes).before_same (channel.log_ok logging nofun)).after_same
    opens).after_same begins

/-- Calling the transformer hands nothing to the caller, as it is kept apart. -/
theorem call_collected (invocation : Invocation) (path : Path) (given : List UInt8) :
    (invocation.call path given).Keeps (World.SameIn (·.reported)) := by
  have recording := collected_channel.recording
  refine recording.bind (recording.record _) fun _ => ?_
  intro world
  rw [leaves_apart]
  rfl

end Run

/-! ## What a report says about failures -/

namespace Fates

variable {fates : Fates}

/-- There is one verdict on a class file that is there once. -/
theorem unique (nodup : fates.paths.Nodup) {path : Path} {one two : Verdict}
    (first : (path, one) ∈ fates) (second : (path, two) ∈ fates) : one = two := by
  have same := List.inj_on_of_nodup_map nodup first second rfl
  exact congrArg Prod.snd same

/-- The class files that failed are those that are in neither of the other lists. -/
theorem failed_eq_filter (nodup : fates.paths.Nodup) :
    fates.failed = fates.paths.filter fun path =>
      path ∉ Fates.enhanced fates ∧ path ∉ Fates.unchanged fates := by
  rw [failed, paths, List.filter_map]
  congr 1
  apply List.filter_congr
  rintro ⟨path, verdict⟩ member
  have isEnhanced : path ∈ Fates.enhanced fates ↔ verdict = .enhanced :=
    mem_enhanced.trans ⟨unique nodup member, fun same => same ▸ member⟩
  have isUnchanged : path ∈ Fates.unchanged fates ↔ verdict = .unchanged :=
    mem_unchanged.trans ⟨unique nodup member, fun same => same ▸ member⟩
  cases verdict <;> simp [isEnhanced, isUnchanged, Verdict.diagnostic?]

/-- There is one diagnostic for each class file that failed. -/
theorem map_path_diagnostics (located : fates.Located) :
    fates.diagnostics.map (·.path) = fates.failed.map some := by
  induction fates with
  | nil => rfl
  | cons fate fates ih =>
      obtain ⟨path, verdict⟩ := fate
      have rest := ih fun fate member => located fate (List.mem_cons_of_mem _ member)
      cases verdict with
      | unchanged | enhanced => exact rest
      | failed diagnostic =>
          obtain ⟨isPath, -⟩ := located _ List.mem_cons_self diagnostic rfl
          change diagnostic.path :: (Fates.diagnostics fates).map (·.path) =
            some path :: (Fates.failed fates).map some
          rw [isPath, rest]

end Fates

/-- The diagnostics of a report are a warning for each candidate of the class path that cannot be
resolved, in the order of the candidates, and then one for each class file that failed, in the order in
which the class files were found. -/
structure Report.Settles (report : Report) (run : Run) (world : World)
    (warnings failures : List Diagnostic) : Prop where
  diagnostics_eq : report.diagnostics = warnings ++ failures
  warnings_eq : warnings = (Classpath.candidates run.settings.classesDir
    run.settings.dependencies).filterMap (·.problem? world.disk world.cwd)
  warn : ∀ diagnostic ∈ warnings, diagnostic.stage = .classpath ∧ diagnostic.severity = .warning
  fail : ∀ diagnostic ∈ failures, diagnostic.stage ≠ .classpath
  paths_eq : failures.map (·.path) = (report.scanned.filter fun path =>
    path ∉ report.enhanced ∧ path ∉ report.unchanged).map some

/-- The sink of a run received the diagnostics of its report, and it is settled what these are if the run
was completed. -/
structure Report.Tallies (report : Report) (run : Run) (before after : World) : Prop where
  collected : run.sink = .collecting → before.Receives (·.reported) id report.diagnostics after
  /-- A transformer may write into the log, but not in the place of the sink. -/
  noticed : run.sink = .logging →
    run.transformer.Has (fun _ program => program.Keeps (World.SameIn World.notices)) →
      before.Receives World.notices Diagnostic.logEntry report.diagnostics after
  settled : report.status = .completed → run.policy = .tolerant → before.disk.isProper = true →
    ∃ warnings failures, report.Settles run before warnings failures
  counted : report.count .warning + report.count .error = report.diagnostics.length

/-- A run that was completed met with the problems of the class path and then with one failure for each
class file that failed. -/
theorem Run.Completed.settles {run : Run} {report : Report}
    (completed : run.Completed world report after) (proper : world.disk.isProper = true) :
    ∃ warnings failures, report.Settles run world warnings failures := by
  obtain ⟨fresh, opens, ready, begins, processing, shows, closes⟩ := completed
  obtain ⟨fates, processed, cut, rfl⟩ := processAll_ok processing
  obtain ⟨searching, searched, ⟨log, rfl⟩, scan⟩ := ready.scans
  have comprises := ((ready.comprises fresh).noteAll fates).through [.done]
  have scanned : fates.paths = report.scanned := by
    rw [shows.scanned, cut.paths_eq rfl]
    rfl
  have nodup : fates.paths.Nodup := by
    rw [cut.paths_eq rfl]
    exact scan.nodup (opens.disk ▸ proper)
  refine ⟨_, fates.diagnostics, ?_, rfl, fun _ => Classpath.of_mem_problems, ?_, ?_⟩
  · rw [shows.diagnostics, comprises.diagnostics, opens.disk, opens.cwd]
    rfl
  · intro diagnostic member
    obtain ⟨path, isFate⟩ := Fates.mem_diagnostics.1 member
    exact (processed.located _ isFate diagnostic rfl).2
  · rw [Fates.map_path_diagnostics processed.located, Fates.failed_eq_filter nodup, scanned,
      shows.enhanced, shows.unchanged, comprises.enhanced, comprises.unchanged]

namespace Runner

variable {runner next : Runner} {report : Report}

theorem call_tallies (done : runner.call world = .ok (report, next) after) :
    report.Tallies runner.run world after := by
  obtain ⟨started, -⟩ := start_of_call done
  refine ⟨?_, ?_, ?_, report.count_warning_add_count_error⟩
  · intro isSink
    have channel : Channel runner.run.sink (·.reported) id := isSink ▸ collected_channel
    exact Run.start_receives channel (fun _ => Run.call_collected _) started
  · intro isSink silent
    have channel : Channel runner.run.sink World.notices Diagnostic.logEntry :=
      isSink ▸ noticed_channel
    exact Run.start_receives channel
      (fun _ => Invocation.call_recording channel.recording silent) started
  · intro completed tolerant proper
    exact (Run.start_completed started completed).settles proper

/-- The reports of successive calls, each with the worlds before and after the call.  A call that fails
gives none and may leave anything behind; the world may change between calls. -/
inductive Rounds : Runner → List (World × Report × World) → Prop
  | nil (runner : Runner) : Rounds runner []
  | returned {runner next : Runner} {report : Report} {before after : World}
      {rest : List (World × Report × World)}
      (call : runner.call before = .ok (report, next) after) (later : Rounds next rest) :
      Rounds runner ((before, report, after) :: rest)
  | failed {runner : Runner} {before after : World} {failure : Failure}
      {rest : List (World × Report × World)} (call : runner.call before = .error failure after)
      (left : Progress) (later : Rounds { runner with progress := left } rest) : Rounds runner rest

/-- In every call of a runner that gives a report, the sink receives the diagnostics of this report in
their order and each once, whatever the transformer does and whichever faults strike. -/
theorem rounds_tally {rounds : List (World × Report × World)} (calls : Rounds runner rounds) :
    ∀ round ∈ rounds, round.2.1.Tallies runner.run round.1 round.2.2 := by
  induction calls with
  | nil runner => simp
  | returned call later ih =>
      obtain ⟨-, sameRun⟩ := start_of_call call
      rw [sameRun] at ih
      exact List.forall_mem_cons.2 ⟨call_tallies call, ih⟩
  | failed call left later ih => exact ih

/-- Two calls of a runner that tolerates failures, with a dependency that is nowhere and a transformer that
refuses both class files. -/
theorem rounds_tally_twice : ∃ (runner : Runner) (first second : World × Report × World),
    Rounds runner [first, second] ∧ runner.run.sink = .collecting ∧
      second.2.1.diagnostics.length = 3 ∧ second.2.1.Tallies runner.run second.1 second.2.2 := by
  let sample := Sample.run (.failing "Refusing" Sample.failure) false
  let runner : Runner :=
    { run := { sample with
        settings := { sample.settings with dependencies := [⟨none, .compile, none⟩] }
        sink := .collecting }
      progress := { startedAt := default, startTime := 0.0 } }
  have ends : (Sample.twice runner).endsWith (fun both => both.2.2.1.diagnostics.length = 3)
      Sample.world = true := by
    decide +kernel
  obtain ⟨⟨first, middle, second⟩, final, done, three⟩ := ok_of_endsWith ends
  obtain ⟨one, two⟩ := Sample.twice_ok done
  have rounds : Rounds runner [(Sample.world, first.1, middle), (middle, second.1, final)] :=
    .returned one (.returned two (.nil _))
  exact ⟨runner, _, _, rounds, rfl, of_decide_eq_true three, rounds_tally rounds _ (by simp)⟩

end Runner

end Enhance
