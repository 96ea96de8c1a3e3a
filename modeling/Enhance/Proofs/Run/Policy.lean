import Enhance.Proofs.Blind
import Enhance.Proofs.Run.Account
import Enhance.Proofs.Run.Steps

/-!
# Runs that differ in the failure policy

A run that the first failure ends does what the run that tolerates failures does, up to that failure.
Until then the two runs are in step: their worlds differ in the logs only, as the transformer does not
read the log.  At the first failure the one stops, whatever the other does from there on.
-/

namespace Enhance

open Program

/-- A transformer whose answers and changes do not depend on the log.  It may read everything else, the
class path and the files among it, and change what it likes. -/
def Transformer.IsBlind (transformer : Transformer) : Prop :=
  ∀ file classpath capabilities, (transformer.transform file classpath capabilities).Blind

/-! ## Steps that the policy does not matter for -/

namespace Run

variable {run : Run} {progress : Progress} {one two one' two' world after : World}

/-- The run with a switch that says whether the first failure ends it. -/
def failing (run : Run) (failOnError : Bool) : Run :=
  { run with settings := { run.settings with failOnError } }

/-- A failure is refused in the same way, but for what is noted. -/
theorem refuse_alike (run : Run) (diagnostic : Diagnostic) :
    ((run.failing true).refuse diagnostic).Alike ((run.failing false).refuse diagnostic) := by
  apply alike_bind (blind_working.report run.sink diagnostic)
  intro _
  rintro world _ ⟨log, rfl⟩
  exact .ok ⟨log, rfl⟩

/-- The verdict on a class file does not depend on the policy. -/
theorem judge_alike {invocation : Invocation} (blind : invocation.transformer.IsBlind)
    (path : Path) :
    ((run.failing true).judge invocation path).Alike
      ((run.failing false).judge invocation path) := by
  have runs : (invocation.run path).Blind :=
    Invocation.run_recording blind_working.toRecording blind path
  apply alike_bind (alike_traced runs)
  intro outcome
  cases outcome with
  | unchanged => exact alike_bind (alike_log _ _) fun _ => blind_pure _
  | failed message cause => exact refuse_alike run _
  | transformed data =>
      have writes : (run.settings.writeStrategy.write path data).Blind :=
        Replacement.write_changing blind_working.toChanging _ _ _
      apply alike_bind writes
      intro problem
      cases problem with
      | some diagnostic => exact refuse_alike run diagnostic
      | none => exact alike_bind (alike_log _ _) fun _ => blind_pure _

end Run

/-! ## Runs that are cut short -/

namespace Progress

/-- What a run has done is the beginning of what another one has done. -/
structure Begins (short long : Progress) : Prop where
  scanned : short.scanned = long.scanned
  enhanced : short.enhanced <+: long.enhanced
  unchanged : short.unchanged <+: long.unchanged
  diagnostics : short.diagnostics <+: long.diagnostics

theorem begins_noteAll (progress : Progress) (fates : Fates) :
    progress.Begins (progress.noteAll fates) :=
  ⟨rfl, List.prefix_append _ _, List.prefix_append _ _, List.prefix_append _ _⟩

end Progress

/-- A run is cut short at the first failure of another one. -/
structure Report.CutsShort (short long : Report) (after after' : World) : Prop where
  scanned : short.scanned = long.scanned
  diagnostics : short.diagnostics = long.diagnostics.take 1
  enhanced : short.enhanced <+: long.enhanced
  unchanged : short.unchanged <+: long.unchanged
  /-- The calls of the transformer, latest first, come before those that the other run makes. -/
  calls : after.calls <:+ after'.calls
  /-- If nothing fails there is no difference. -/
  same : long.diagnostics = [] → short = long ∧ after.disk = after'.disk

namespace Run

variable {run : Run} {progress : Progress} {one two one' two' world after : World}

/-- What two loops over class files have done, one of which the first failure ends. -/
inductive LoopCut (progress : Progress) :
    Progress × Option Diagnostic → World → Progress × Option Diagnostic → World → Prop
  /-- Nothing failed. -/
  | same {last : Progress} {after after' : World} (sameWorld : after.SameButLog after')
      (nothing : last.diagnostics = progress.diagnostics) :
      LoopCut progress (last, none) after (last, none) after'
  /-- One of them stopped. -/
  | cut {last last' : Progress} {diagnostic : Diagnostic} {after after' : World}
      (first : last.diagnostics = progress.diagnostics ++ [diagnostic]) (begins : last.Begins last')
      (calls : after.calls <:+ after'.calls) :
      LoopCut progress (last, some diagnostic) after (last', none) after'

theorem abort?_tolerant (verdict : Verdict) : verdict.abort? .tolerant = none := rfl

theorem policy_failing_false (run : Run) : (run.failing false).policy = .tolerant := rfl

theorem LoopCut.of_eq {progress' : Progress} {ended ended' : Progress × Option Diagnostic}
    (same : progress'.diagnostics = progress.diagnostics)
    (cut : LoopCut progress' ended one ended' two) : LoopCut progress ended one ended' two := by
  cases cut with
  | same sameWorld nothing => exact .same sameWorld (nothing.trans same)
  | cut first begins calls => exact .cut (same ▸ first) begins calls

/-- A run that tolerates failures comes to the end of the class files, whatever it has done before. -/
theorem processAll_tolerant {invocation : Invocation} {paths : List Path}
    {ended : Progress × Option Diagnostic}
    (done : (run.failing false).processAll invocation progress paths world = .ok ended after) :
    progress.Begins ended.1 ∧ ended.2 = none ∧ world.calls <:+ after.calls := by
  obtain ⟨last, abort⟩ := ended
  obtain ⟨fates, processed, cut, rfl⟩ := processAll_ok done
  obtain ⟨calls, later, -⟩ := processed.exists_calls
  refine ⟨progress.begins_noteAll fates, ?_, ⟨calls, later.symm⟩⟩
  cases abort with
  | none => rfl
  | some diagnostic => exact absurd (cut.failFast (by simp)) (by simp [policy_failing_false])

/-- Two loops are in step until the first failure. -/
theorem processAll_cut {invocation : Invocation} (blind : invocation.transformer.IsBlind)
    {paths : List Path} {ended ended' : Progress × Option Diagnostic}
    (same : one.SameButLog two)
    (short : (run.failing true).processAll invocation progress paths one = .ok ended one')
    (long : (run.failing false).processAll invocation progress paths two = .ok ended' two') :
    LoopCut progress ended one' ended' two' := by
  -- As long as nothing failed, both loops have done the same, in worlds that differ in the log.
  induction paths generalizing progress one two with
  | nil =>
      obtain ⟨rfl, rfl⟩ := pure_ok.1 short
      obtain ⟨rfl, rfl⟩ := pure_ok.1 long
      exact .same same rfl
  | cons path paths ih =>
      obtain ⟨⟨noted, stops⟩, mid, process, short⟩ := bind_ok.1 short
      obtain ⟨⟨noted', stops'⟩, mid', process', long⟩ := bind_ok.1 long
      obtain ⟨verdict, judged, rfl, rfl⟩ := process_ok process
      obtain ⟨verdict', judged', rfl, rfl⟩ := process_ok process'
      obtain ⟨rfl, sameMid⟩ := (judge_alike blind path).of_ok same judged judged'
      simp only [policy_failing_false, abort?_tolerant] at long
      cases verdict with
      | unchanged | enhanced =>
          refine LoopCut.of_eq ?_ (ih sameMid short long)
          rfl
      | failed diagnostic =>
          obtain ⟨rfl, rfl⟩ := pure_ok.1 short
          obtain ⟨begins, goesOn, calls⟩ := processAll_tolerant long
          obtain ⟨last', abort'⟩ := ended'
          cases goesOn
          rw [← sameMid.calls] at calls
          exact .cut rfl begins calls

/-! ## Building the class path -/

/-- What building a class path comes to in two runs, one of which the first failure ends. -/
inductive BuildCut : Classpath.Built → World → Classpath.Built → World → Prop
  | same {classpath : Classpath} {after after' : World} (sameWorld : after.SameButLog after') :
      BuildCut ⟨some classpath, [], none⟩ after ⟨some classpath, [], none⟩ after'
  | cut {diagnostic : Diagnostic} {more : List Diagnostic} {classpath : Classpath}
      {after after' : World} (calls : after.calls = after'.calls) :
      BuildCut ⟨none, [diagnostic], some diagnostic⟩ after
        ⟨some classpath, diagnostic :: more, none⟩ after'

theorem addCandidates_cut {sink : Sink} {candidates : List Classpath.Candidate}
    {entries : List Path} {built built' : Classpath.Built} (same : one.SameButLog two)
    (short : Classpath.addCandidates .failFast sink candidates entries [] one = .ok built one')
    (long : Classpath.addCandidates .tolerant sink candidates entries [] two = .ok built' two') :
    BuildCut built one' built' two' := by
  induction candidates generalizing entries one two with
  | nil =>
      obtain ⟨rfl, rfl⟩ := pure_ok.1 short
      obtain ⟨rfl, rfl⟩ := pure_ok.1 long
      exact .same same
  | cons candidate rest ih =>
      rw [Classpath.addCandidates] at short long
      obtain ⟨resolved, mid, resolving, short⟩ := bind_ok.1 short
      obtain ⟨resolved', mid', resolving', long⟩ := bind_ok.1 long
      have resolves : (Classpath.resolveCandidate candidate).Blind :=
        Classpath.resolveCandidate_lawful blind_working.toLawful candidate
      obtain ⟨rfl, sameMid⟩ := resolves.of_ok same resolving resolving'
      cases resolved with
      | ok path =>
          dsimp only at short long
          split at short
          · next known =>
              rw [if_pos known] at long
              exact ih sameMid short long
          · next unknown =>
              rw [if_neg unknown] at long
              obtain ⟨_, logged, logging, short⟩ := bind_ok.1 short
              obtain ⟨_, logged', logging', long⟩ := bind_ok.1 long
              obtain ⟨-, sameLogged⟩ := (alike_log _ _).of_ok sameMid logging logging'
              exact ih sameLogged short long
      | failed cause =>
          have report := report_quiet sink (candidate.diagnostic cause)
          obtain ⟨_, reported, reporting, short⟩ := bind_ok.1 short
          obtain ⟨_, logged, logging, short⟩ := bind_ok.1 short
          obtain ⟨rfl, rfl⟩ := pure_ok.1 short
          have quiet := (report.of_ok reporting).trans ((log_quiet _).of_ok logging)
          obtain ⟨_, reported', reporting', long⟩ := bind_ok.1 long
          obtain ⟨_, logged', logging', long⟩ := bind_ok.1 long
          have quiet' := (report.of_ok reporting').trans ((log_quiet _).of_ok logging')
          have rest' : logged'.Quiet two' :=
            Keeps.of_ok (Classpath.addCandidates_reporting quiet_reporting _ _ _ _ _) long
          have calls : logged.calls = two'.calls := by
            rw [quiet.calls, sameMid.calls, rest'.calls, quiet'.calls]
          cases Classpath.addCandidates_ok long with
          | complete classpath problems stages tolerated => exact .cut calls
          | stopped diagnostic stage failFast => contradiction

theorem build_cut {sink : Sink} {root : Path} {dependencies : List Dependency}
    {built built' : Classpath.Built} (same : one.SameButLog two)
    (short : Classpath.build .failFast sink root dependencies one = .ok built one')
    (long : Classpath.build .tolerant sink root dependencies two = .ok built' two') :
    BuildCut built one' built' two' := by
  obtain ⟨_, mid, skipping, short⟩ := bind_ok.1 short
  obtain ⟨_, mid', skipping', long⟩ := bind_ok.1 long
  have skips : (Classpath.logSkipped dependencies).Blind :=
    Classpath.logSkipped_lawful blind_working.toLawful dependencies
  obtain ⟨-, sameMid⟩ := skips.of_ok same skipping skipping'
  exact addCandidates_cut sameMid short long

/-! ## The ends of two runs -/

/-- However two runs end, the first one is cut short at the first failure of the second one. -/
def CutsRun (short long : Program Ending) : Prop :=
  ∀ one two, one.SameButLog two → ∀ ending after ending' after', short one = .ok ending after →
    long two = .ok ending' after' → ending.1.CutsShort ending'.1 after after'

/-- Runs that begin alike. -/
theorem cutsRun_bind {α : Type} {first second : Program α} {next next' : α → Program Ending}
    (alike : first.Alike second) (nexts : ∀ value, CutsRun (next value) (next' value)) :
    CutsRun (first >>= next) (second >>= next') := by
  intro one two same ending after ending' after' short long
  obtain ⟨value, mid, begun, short⟩ := bind_ok.1 short
  obtain ⟨value', mid', begun', long⟩ := bind_ok.1 long
  obtain ⟨rfl, sameMid⟩ := alike.of_ok same begun begun'
  exact nexts value mid mid' sameMid ending after ending' after' short long

/-- Runs that are alike up to their ends and in which nothing fails. -/
theorem cutsRun_of_alike {short long : Program Ending} (alike : short.Alike long)
    (nothing : ∀ world ending after, long world = .ok ending after → ending.1.diagnostics = []) :
    CutsRun short long := by
  intro one two same ending after ending' after' done done'
  obtain ⟨rfl, sameWorld⟩ := alike.of_ok same done done'
  have none := nothing two ending after' done'
  refine ⟨rfl, ?_, List.prefix_rfl, List.prefix_rfl, ⟨[], sameWorld.calls⟩,
    fun _ => ⟨rfl, sameWorld.disk⟩⟩
  rw [none]
  rfl

theorem cutsRun_traced {name : String} {attributes : List (String × Json)}
    {short long : Program Ending} (cuts : CutsRun short long) :
    CutsRun (traced name attributes short) (traced name attributes long) := by
  rintro world _ ⟨log, rfl⟩ ending after ending' after' done done'
  obtain ⟨mid, ended, rfl⟩ := traced_ok.1 done
  obtain ⟨mid', ended', rfl⟩ := traced_ok.1 done'
  have cut := cuts { world with spansBegun := world.spansBegun + 1 }
    { world with log, spansBegun := world.spansBegun + 1 } ⟨log, rfl⟩ _ _ _ _ ended ended'
  exact ⟨cut.scanned, cut.diagnostics, cut.enhanced, cut.unchanged, cut.calls, cut.same⟩

/-- Runs that decide in the same way how to go on. -/
theorem cutsRun_ite {wanted wanted' : Prop} [Decidable wanted] [Decidable wanted']
    {short long short' long' : Program Ending} (same : wanted ↔ wanted')
    (cuts : CutsRun short long) (cuts' : CutsRun short' long') :
    CutsRun (if wanted then short else short') (if wanted' then long else long') := by
  by_cases holds : wanted
  · rw [if_pos holds, if_pos (same.1 holds)]
    exact cuts
  · rw [if_neg holds, if_neg (mt same.2 holds)]
    exact cuts'

theorem skip_cut (nothing : progress.diagnostics = []) (level : Level) (reason : String)
    (fields : List (String × Json)) (words : String) :
    CutsRun ((run.failing true).skip progress level reason fields words)
      ((run.failing false).skip progress level reason fields words) := by
  apply cutsRun_of_alike (skip_timed blind_working.toTimed run _ _ _ _ _)
  intro world ending after done
  have ended := skip_ok done
  rw [ended.shows.diagnostics, ended.progress_eq]
  exact nothing

/-- A run that stopped at a failure is cut short there by one that went on. -/
theorem cutsShort_of_stopped {short long : Progress} {state : RunState} {status : RunStatus}
    {abort abort' : Option Diagnostic} {diagnostic : Diagnostic} {ending ending' : Ending}
    {one two after after' : World} (stopped : Ended short .aborted .aborted none abort one ending after)
    (ended : Ended long state status none abort' two ending' after')
    (first : short.diagnostics = [diagnostic]) (begins : short.Begins long)
    (calls : one.calls <:+ two.calls) : ending.1.CutsShort ending'.1 after after' := by
  obtain ⟨more, rest⟩ := begins.diagnostics
  have longer : ending'.1.diagnostics = diagnostic :: more := by
    rw [ended.shows.diagnostics, ended.progress_eq]
    exact rest.symm.trans (congrArg (· ++ more) first)
  refine ⟨?_, ?_, ?_, ?_, ?_, ?_⟩
  · rw [stopped.shows.scanned, stopped.progress_eq, ended.shows.scanned, ended.progress_eq]
    exact begins.scanned
  · rw [stopped.shows.diagnostics, stopped.progress_eq, longer]
    exact first
  · rw [stopped.shows.enhanced, stopped.progress_eq, ended.shows.enhanced, ended.progress_eq]
    exact begins.enhanced
  · rw [stopped.shows.unchanged, stopped.progress_eq, ended.shows.unchanged, ended.progress_eq]
    exact begins.unchanged
  · rw [stopped.quiet.calls, ended.quiet.calls]
    exact calls
  · intro none
    rw [longer] at none
    contradiction

/-- Runs that go over to the same state. -/
theorem cutsRun_enter {state : RunState} {next next' : Progress → Program Ending}
    (nexts : CutsRun (next (progress.through [state])) (next' (progress.through [state]))) :
    CutsRun (enter progress state >>= next) (enter progress state >>= next') := by
  intro one two same ending after ending' after' short long
  obtain ⟨value, mid, begun, short⟩ := bind_ok.1 short
  obtain ⟨value', mid', begun', long⟩ := bind_ok.1 long
  have enters : (enter progress state).Blind := enter_lawful blind_working.toLawful _ _
  obtain ⟨rfl, sameMid⟩ := enters.of_ok same begun begun'
  obtain ⟨rfl, -⟩ := enter_ok begun
  exact nexts mid mid' sameMid ending after ending' after' short long

/-- Runs that note the same in the log, if at all. -/
theorem cutsRun_noted {wanted : Prop} [Decidable wanted] {entry : LogEntry}
    {next next' : Unit → Program Ending} (nexts : CutsRun (next ()) (next' ())) :
    CutsRun (if wanted then log entry >>= next else next ())
      (if wanted then log entry >>= next' else next' ()) :=
  cutsRun_ite Iff.rfl (cutsRun_bind (alike_log _ _) fun _ => nexts) nexts

/-- The class files are processed in step until the first failure. -/
theorem enhance_cut (blind : run.transformer.IsBlind) (nothing : progress.diagnostics = [])
    (classpath : Classpath) :
    CutsRun ((run.failing true).enhance progress classpath)
      ((run.failing false).enhance progress classpath) := by
  apply cutsRun_enter
  apply cutsRun_noted
  apply cutsRun_enter
  intro one two same ending after ending' after' short long
  obtain ⟨ended, mid, processing, short⟩ := bind_ok.1 short
  obtain ⟨ended', mid', processing', long⟩ := bind_ok.1 long
  have blind : (run.invocation classpath).transformer.IsBlind := blind
  cases processAll_cut blind same processing processing' with
  | same sameWorld same =>
      have finishes := finish_timed blind_working.toTimed run
      refine cutsRun_of_alike (finishes _ .completed none) ?_ _ _ sameWorld _ _ _ _ short long
      intro world ending after done
      have ended := finish_ok done
      rw [ended.shows.diagnostics, ended.progress_eq]
      exact same.trans nothing
  | cut first begins calls =>
      rw [Progress.through, Progress.through, nothing] at first
      exact cutsShort_of_stopped (stop_ok short) (finish_ok long) first begins calls

/-- So are they after the class path was built, at whose first problem the one run stops. -/
theorem prepare_cut (blind : run.transformer.IsBlind) (nothing : progress.diagnostics = []) :
    CutsRun ((run.failing true).prepare progress) ((run.failing false).prepare progress) := by
  apply cutsRun_bind (alike_log _ _)
  intro _ one two same ending after ending' after' short long
  obtain ⟨built, mid, building, short⟩ := bind_ok.1 short
  obtain ⟨built', mid', building', long⟩ := bind_ok.1 long
  cases build_cut same building building' with
  | same sameWorld =>
      apply enhance_cut blind _ _ mid mid' sameWorld _ _ _ _ short long
      rw [List.append_nil]
      exact nothing
  | @cut diagnostic problems classpath mid mid' calls =>
      obtain ⟨fates, abort, begun, ended, quiet, processed, -, end'⟩ := enhance_ok long
      obtain ⟨more, later, -⟩ := processed.exists_calls
      apply cutsShort_of_stopped (stop_ok short) end'
      · rw [nothing]
        rfl
      · have begins := Progress.begins_noteAll
          ((progress.met (diagnostic :: problems)).through [.contextBuilt, .processing]) fates
        have first : progress.diagnostics ++ [diagnostic] <+:
            progress.diagnostics ++ diagnostic :: problems :=
          (List.prefix_append_right_inj _).2 (List.prefix_append [diagnostic] problems)
        exact ⟨rfl, begins.enhanced, begins.unchanged, first.trans begins.diagnostics⟩
      · refine ⟨more, ?_⟩
        rw [later, quiet.calls, calls]

/-- The two runs look for class files in the same way. -/
theorem execute_cut (blind : run.transformer.IsBlind) (nothing : progress.diagnostics = []) :
    CutsRun ((run.failing true).execute progress) ((run.failing false).execute progress) := by
  apply cutsRun_enter
  apply cutsRun_ite Iff.rfl
  · apply skip_cut
    exact nothing
  · apply cutsRun_enter
    apply cutsRun_bind (blind_working.toLawful.askSystem _)
    intro isThere
    apply cutsRun_ite Iff.rfl
    · apply skip_cut
      exact nothing
    · apply cutsRun_bind (Scanner.scan_lawful blind_working.toLawful _ _)
      intro artifacts
      apply cutsRun_ite Iff.rfl
      · apply skip_cut
        exact nothing
      · exact prepare_cut blind nothing

theorem complete_cut (blind : run.transformer.IsBlind) (nothing : progress.diagnostics = []) :
    CutsRun ((run.failing true).complete progress) ((run.failing false).complete progress) := by
  intro one two same ending after ending' after' short long
  obtain ⟨ended, mid, executing, short⟩ := bind_ok.1 short
  obtain ⟨_, logged, logging, short⟩ := bind_ok.1 short
  obtain ⟨rfl, rfl⟩ := pure_ok.1 short
  obtain ⟨ended', mid', executing', long⟩ := bind_ok.1 long
  obtain ⟨_, logged', logging', long⟩ := bind_ok.1 long
  obtain ⟨rfl, rfl⟩ := pure_ok.1 long
  have cut := cutsRun_traced (execute_cut blind nothing) one two same _ _ _ _ executing executing'
  have quiet := (log_quiet _).of_ok logging
  have quiet' := (log_quiet _).of_ok logging'
  refine ⟨cut.scanned, cut.diagnostics, cut.enhanced, cut.unchanged, ?_, ?_⟩
  · rw [quiet.calls, quiet'.calls]
    exact cut.calls
  · rw [quiet.disk, quiet'.disk]
    exact cut.same

/-- A whole run, too, is cut short at the first failure of the run that goes on. -/
theorem start_cut (blind : run.transformer.IsBlind) :
    CutsRun (run.failing true).start (run.failing false).start := by
  intro one two same ending after ending' after' short long
  obtain ⟨progress, mid, beginning, short⟩ := bind_ok.1 short
  obtain ⟨progress', mid', beginning', long⟩ := bind_ok.1 long
  have begins : begin.Blind := begin_timed blind_working.toTimed
  obtain ⟨rfl, sameMid⟩ := begins.of_ok same beginning beginning'
  obtain ⟨fresh, -⟩ := begin_ok beginning
  exact complete_cut blind fresh.diagnostics mid mid' sameMid _ _ _ _ short long

/-- A run does not forget the calls of the transformer that were made before. -/
theorem Course.calls_suffix {ending : Ending} (course : Course run world ending after) :
    world.calls <:+ after.calls := by
  cases course with
  | skipped way comprises shows quiet => exact ⟨[], quiet.calls.symm⟩
  | unresolved quiet scan stage failFast comprises shows quietAfter =>
      exact ⟨[], ((quiet.trans scan.quiet).trans quietAfter).calls.symm⟩
  | processed quiet scan stages tolerated quietBuild processed cut comprises shows quietAfter =>
      obtain ⟨calls, later, -⟩ := processed.exists_calls
      rw [quietAfter.calls, later, quietBuild.calls, scan.quiet.calls, quiet.calls]
      exact List.suffix_append _ _

end Run

namespace Runner

/-- A run that the first failure ends is the run that tolerates failures, cut short at its first
failure: its report, and the calls of the transformer that it makes, are the beginning of those of
the other one, and nothing is different if nothing fails. -/
theorem calls_cut {run : Run} {progress progress' : Progress} {world after after' : World}
    {report report' : Report} {next next' : Runner} (blind : run.transformer.IsBlind)
    (short : Runner.call ⟨run.failing true, progress⟩ world = .ok (report, next) after)
    (long : Runner.call ⟨run.failing false, progress'⟩ world = .ok (report', next') after') :
    report.CutsShort report' after after' ∧
      ∃ calls calls', after.calls = calls ++ world.calls ∧ after'.calls = calls' ++ world.calls ∧
        calls.reverse <+: calls'.reverse := by
  obtain ⟨started, -⟩ := start_of_call short
  obtain ⟨started', -⟩ := start_of_call long
  have cut := Run.start_cut blind world world (.refl world) _ _ _ _ started started'
  obtain ⟨calls, later⟩ := (Run.start_ok started).calls_suffix
  obtain ⟨calls', later'⟩ := (Run.start_ok started').calls_suffix
  refine ⟨cut, calls, calls', later.symm, later'.symm, List.reverse_prefix.2 ?_⟩
  have suffix := cut.calls
  rw [← later, ← later'] at suffix
  exact List.suffix_append_self_iff.1 suffix

/-- The run whose transformer refuses each of two class files stops at the first one. -/
theorem calls_cut_refused : ∃ (report report' : Report) (after after' : World),
    (Transformer.failing "Refusing" Sample.failure).IsBlind ∧ report'.diagnostics.length = 2 ∧
      report.CutsShort report' after after' := by
  have blind : (Transformer.failing "Refusing" Sample.failure).IsBlind :=
    fun _ _ _ => blind_throw _
  let run := Sample.run (.failing "Refusing" Sample.failure) false
  let progress : Progress := { startedAt := default, startTime := 0.0 }
  have ends : (Runner.call ⟨run.failing true, progress⟩).endsWith
      (fun ending => ending.1.status = .aborted) Sample.world = true := by
    decide +kernel
  have ends' : (Runner.call ⟨run.failing false, progress⟩).endsWith
      (fun ending => ending.1.diagnostics.length = 2) Sample.world = true := by
    decide +kernel
  obtain ⟨⟨report, next⟩, after, short, -⟩ := ok_of_endsWith ends
  obtain ⟨⟨report', next'⟩, after', long, failures⟩ := ok_of_endsWith ends'
  obtain ⟨cut, -⟩ := calls_cut blind short long
  exact ⟨report, report', after, after', blind, of_decide_eq_true failures, cut⟩

end Runner

end Enhance
