import Enhance.Proofs.Classpath
import Enhance.Proofs.Invocation
import Enhance.Proofs.Replacement
import Enhance.Run

/-!
# Processing class files

Processing a class file ends with a verdict (`Verdict`), which is noted in what the run has done.
The loop over the class files goes on until the verdict on one of them ends the run: what it does
is a sequence of single steps (`Run.Processed`) for a first part of the class files (`Cut`).
-/

namespace Enhance

open Program

/-- What became of a class file. -/
inductive Verdict where
  | unchanged
  | enhanced
  | failed (diagnostic : Diagnostic)

namespace Verdict

/-- The diagnostic of a failure. -/
def diagnostic? : Verdict → Option Diagnostic
  | .failed diagnostic => some diagnostic
  | _ => none

/-- The diagnostic of a failure that ends the run. -/
def abort? (policy : FailurePolicy) (verdict : Verdict) : Option Diagnostic :=
  match policy with
  | .failFast => verdict.diagnostic?
  | .tolerant => none

/-- Whether new bytes were written. -/
def isEnhanced : Verdict → Bool
  | .enhanced => true
  | _ => false

/-- Whether the transformer left the class file as it is. -/
def isUnchanged : Verdict → Bool
  | .unchanged => true
  | _ => false

end Verdict

/-! ## What became of several class files -/

/-- Class files with what became of them, in order. -/
abbrev Fates := List (Path × Verdict)

namespace Fates

/-- The class files. -/
def paths (fates : Fates) : List Path :=
  fates.map (·.1)

/-- The class files to which new bytes were written. -/
def enhanced (fates : Fates) : List Path :=
  (fates.filter (·.2.isEnhanced)).map (·.1)

/-- The class files that the transformer left as they are. -/
def unchanged (fates : Fates) : List Path :=
  (fates.filter (·.2.isUnchanged)).map (·.1)

/-- The class files that failed. -/
def failed (fates : Fates) : List Path :=
  (fates.filter (·.2.diagnostic?.isSome)).map (·.1)

/-- The diagnostics of those that failed. -/
def diagnostics (fates : Fates) : List Diagnostic :=
  fates.filterMap (·.2.diagnostic?)

theorem mem_diagnostics {fates : Fates} {diagnostic : Diagnostic} :
    diagnostic ∈ fates.diagnostics ↔ ∃ path, (path, .failed diagnostic) ∈ fates := by
  rw [Fates.diagnostics, List.mem_filterMap]
  constructor
  · rintro ⟨⟨path, verdict⟩, member, isFailure⟩
    cases verdict with
    | failed other =>
        cases isFailure
        exact ⟨path, member⟩
    | unchanged | enhanced => contradiction
  · rintro ⟨path, member⟩
    exact ⟨(path, .failed diagnostic), member, rfl⟩

theorem mem_enhanced {fates : Fates} {path : Path} :
    path ∈ fates.enhanced ↔ (path, .enhanced) ∈ fates := by
  rw [Fates.enhanced, List.mem_map]
  constructor
  · rintro ⟨⟨other, verdict⟩, member, rfl⟩
    obtain ⟨isFate, isEnhanced⟩ := List.mem_filter.1 member
    cases verdict with
    | enhanced => exact isFate
    | unchanged | failed => contradiction
  · intro isFate
    exact ⟨_, List.mem_filter.2 ⟨isFate, rfl⟩, rfl⟩

theorem mem_unchanged {fates : Fates} {path : Path} :
    path ∈ fates.unchanged ↔ (path, .unchanged) ∈ fates := by
  rw [Fates.unchanged, List.mem_map]
  constructor
  · rintro ⟨⟨other, verdict⟩, member, rfl⟩
    obtain ⟨isFate, isUnchanged⟩ := List.mem_filter.1 member
    cases verdict with
    | unchanged => exact isFate
    | enhanced | failed => contradiction
  · intro isFate
    exact ⟨_, List.mem_filter.2 ⟨isFate, rfl⟩, rfl⟩

variable (fates : Fates)

theorem enhanced_sublist : fates.enhanced.Sublist fates.paths :=
  List.filter_sublist.map _

theorem unchanged_sublist : fates.unchanged.Sublist fates.paths :=
  List.filter_sublist.map _

theorem failed_sublist : fates.failed.Sublist fates.paths :=
  List.filter_sublist.map _

/-- Every class file is in one of three lists. -/
theorem perm_paths : (fates.enhanced ++ fates.unchanged ++ fates.failed).Perm fates.paths := by
  induction fates with
  | nil => exact .refl _
  | cons fate fates ih =>
      obtain ⟨path, verdict⟩ := fate
      have inFront : (path :: (enhanced fates ++ unchanged fates ++ failed fates)).Perm
          (paths ((path, verdict) :: fates)) := ih.cons path
      cases verdict with
      | enhanced => exact inFront
      | unchanged =>
          refine .trans ?_ inFront
          simp only [List.append_assoc]
          exact List.perm_middle
      | failed diagnostic =>
          refine .trans ?_ inFront
          exact List.perm_middle

end Fates

namespace Progress

/-- What a run has done when it has come to a verdict on a class file. -/
def note (progress : Progress) (path : Path) : Verdict → Progress
  | .unchanged => { progress with unchanged := progress.unchanged ++ [path] }
  | .enhanced => { progress with enhanced := progress.enhanced ++ [path] }
  | .failed diagnostic => { progress with diagnostics := progress.diagnostics ++ [diagnostic] }

/-- What a run has done when it has come to several verdicts. -/
def noteAll (progress : Progress) (fates : Fates) : Progress :=
  { progress with
    enhanced := progress.enhanced ++ fates.enhanced
    unchanged := progress.unchanged ++ fates.unchanged
    diagnostics := progress.diagnostics ++ fates.diagnostics }

@[simp] theorem noteAll_nil (progress : Progress) : progress.noteAll [] = progress := by
  simp [noteAll, Fates.enhanced, Fates.unchanged, Fates.diagnostics]

theorem noteAll_cons (progress : Progress) (path : Path) (verdict : Verdict) (fates : Fates) :
    progress.noteAll ((path, verdict) :: fates) = (progress.note path verdict).noteAll fates := by
  cases verdict <;>
    simp [noteAll, note, Fates.enhanced, Fates.unchanged, Fates.diagnostics, Verdict.isEnhanced,
      Verdict.isUnchanged, Verdict.diagnostic?]

end Progress

/-! ## Where processing stops -/

/-- Verdicts on class files, taken in order until one of them ends the run. -/
inductive Cut (policy : FailurePolicy) : List Path → Fates → Option Diagnostic → Prop
  | nil : Cut policy [] [] none
  | stop {path : Path} {paths : List Path} {verdict : Verdict} {diagnostic : Diagnostic}
      (ends : verdict.abort? policy = some diagnostic) :
      Cut policy (path :: paths) [(path, verdict)] (some diagnostic)
  | next {path : Path} {paths : List Path} {verdict : Verdict} {fates : Fates}
      {abort : Option Diagnostic} (goesOn : verdict.abort? policy = none)
      (rest : Cut policy paths fates abort) :
      Cut policy (path :: paths) ((path, verdict) :: fates) abort

namespace Run

variable {run : Run} {invocation : Invocation} {progress next : Progress} {path : Path}
  {abort : Option Diagnostic} {world after : World}

/-- What happened when a class file was processed. -/
inductive Handled (run : Run) (invocation : Invocation) (path : Path) (world : World) :
    Verdict → World → Prop
  /-- The transformer left it as it is. -/
  | unchanged {middle after : World}
      (invoked : invocation.Invoked path world .unchanged middle) (quiet : middle.Quiet after) :
      Handled run invocation path world .unchanged after
  /-- It could not be read or transformed. -/
  | untransformed {message : String} {cause : Option Failure} {middle after : World}
      (invoked : invocation.Invoked path world (.failed message cause) middle)
      (quiet : middle.Quiet after) :
      Handled run invocation path world (.failed (transformDiagnostic path message cause)) after
  /-- It could not be written. -/
  | unwritten {data : List UInt8} {diagnostic : Diagnostic} {middle written after : World}
      (invoked : invocation.Invoked path world (.transformed data) middle)
      (write : run.settings.writeStrategy.write path data middle = .ok (some diagnostic) written)
      (quiet : written.Quiet after) :
      Handled run invocation path world (.failed diagnostic) after
  /-- New bytes were written. -/
  | enhanced {data : List UInt8} {middle written after : World}
      (invoked : invocation.Invoked path world (.transformed data) middle)
      (write : run.settings.writeStrategy.write path data middle = .ok none written)
      (quiet : written.Quiet after) :
      Handled run invocation path world .enhanced after

/-- Only a failure can end the run. -/
theorem abort?_of_not_failed {policy : FailurePolicy} {verdict : Verdict}
    (noFailure : verdict.diagnostic? = none) : verdict.abort? policy = none := by
  cases policy with
  | failFast => exact noFailure
  | tolerant => rfl

/-- Reports a failure and comes to a verdict. -/
def refuse (run : Run) (diagnostic : Diagnostic) : Program Verdict := do
  run.sink.report diagnostic
  match run.policy.decide diagnostic with
  | .abort =>
    Program.log (logEntry .warning "fail_fast_triggered"
      [("path", .str (diagnostic.pathText.getD "None")), ("kind", .str diagnostic.stage.name)])
    pure (.failed diagnostic)
  | .proceed => pure (.failed diagnostic)

/-- Processes a class file up to the verdict on it. -/
def judge (run : Run) (invocation : Invocation) (path : Path) : Program Verdict := do
  let outcome ← Program.traced "weaver.enhance_class" [("weaver.class", .str path.toString)]
    (invocation.run path)
  match outcome with
  | .unchanged =>
    Program.log (logEntry .debug "class_unchanged" [("path", .str path.toString)])
    pure .unchanged
  | .failed message cause => run.refuse (transformDiagnostic path message cause)
  | .transformed data =>
    match ← run.settings.writeStrategy.write path data with
    | some diagnostic => run.refuse diagnostic
    | none =>
      Program.log (logEntry .info "class_enhanced" [("path", .str path.toString)])
      pure .enhanced

theorem recordFailure_eq (run : Run) (progress : Progress) (path : Path)
    (diagnostic : Diagnostic) :
    run.recordFailure progress diagnostic =
      (fun verdict => (progress.note path verdict, verdict.abort? run.policy)) <$>
        run.refuse diagnostic := by
  rw [recordFailure, refuse, map_bind]
  congr 1
  funext _
  cases policy : run.policy with
  | failFast => rfl
  | tolerant => rfl

/-- Processing a class file is to come to a verdict and to note it. -/
theorem process_eq (run : Run) (invocation : Invocation) (progress : Progress) (path : Path) :
    run.process invocation progress path =
      (fun verdict => (progress.note path verdict, verdict.abort? run.policy)) <$>
        run.judge invocation path := by
  rw [process, judge, map_bind]
  congr 1
  funext outcome
  cases outcome with
  | unchanged =>
      simp only [map_bind, map_pure]
      rw [abort?_of_not_failed rfl]
      rfl
  | failed message cause => exact recordFailure_eq _ _ _ _
  | transformed data =>
      simp only [map_bind]
      congr 1
      funext problem
      cases problem with
      | some diagnostic => exact recordFailure_eq _ _ _ _
      | none =>
          simp only [map_bind, map_pure]
          rw [abort?_of_not_failed rfl]
          rfl

theorem refuse_ok {diagnostic : Diagnostic} {verdict : Verdict}
    (done : run.refuse diagnostic world = .ok verdict after) :
    verdict = .failed diagnostic ∧ world.Quiet after := by
  obtain ⟨_, reported, reporting, done⟩ := bind_ok.1 done
  have quiet := (report_quiet run.sink diagnostic).of_ok reporting
  cases policy : run.policy with
  | failFast =>
      simp only [policy, FailurePolicy.decide] at done
      obtain ⟨_, logged, logging, done⟩ := bind_ok.1 done
      obtain ⟨rfl, rfl⟩ := pure_ok.1 done
      exact ⟨rfl, quiet.trans ((log_quiet _).of_ok logging)⟩
  | tolerant =>
      simp only [policy, FailurePolicy.decide] at done
      obtain ⟨rfl, rfl⟩ := pure_ok.1 done
      exact ⟨rfl, quiet⟩

theorem judge_ok {verdict : Verdict} (done : run.judge invocation path world = .ok verdict after) :
    Handled run invocation path world verdict after := by
  obtain ⟨outcome, traced, tracing, done⟩ := bind_ok.1 done
  obtain ⟨before, middle, begun, ran, ended⟩ := ok_of_traced tracing
  have invoked := ((Invocation.run_ok ran).of_quiet begun).before_quiet ended
  cases outcome with
  | unchanged =>
      obtain ⟨_, logged, logging, done⟩ := bind_ok.1 done
      obtain ⟨rfl, rfl⟩ := pure_ok.1 done
      exact .unchanged invoked ((log_quiet _).of_ok logging)
  | failed message cause =>
      obtain ⟨rfl, quiet⟩ := refuse_ok done
      exact .untransformed invoked quiet
  | transformed data =>
      obtain ⟨problem, written, writing, done⟩ := bind_ok.1 done
      cases problem with
      | some diagnostic =>
          obtain ⟨rfl, quiet⟩ := refuse_ok done
          exact .unwritten invoked writing quiet
      | none =>
          obtain ⟨_, logged, logging, done⟩ := bind_ok.1 done
          obtain ⟨rfl, rfl⟩ := pure_ok.1 done
          exact .enhanced invoked writing ((log_quiet _).of_ok logging)

/-- Processing a class file comes to a verdict, which is noted. -/
theorem process_ok
    (done : run.process invocation progress path world = .ok (next, abort) after) :
    ∃ verdict, run.judge invocation path world = .ok verdict after ∧
      next = progress.note path verdict ∧ abort = verdict.abort? run.policy := by
  rw [process_eq] at done
  obtain ⟨verdict, judged, same⟩ := map_ok.1 done
  cases same
  exact ⟨verdict, judged, rfl, rfl⟩

/-- What happened when class files were processed one after the other. -/
inductive Processed (run : Run) (invocation : Invocation) : World → Fates → World → Prop
  | nil (world : World) : Processed run invocation world [] world
  | cons {path : Path} {verdict : Verdict} {fates : Fates} {world middle after : World}
      (handled : Handled run invocation path world verdict middle)
      (rest : Processed run invocation middle fates after) :
      Processed run invocation world ((path, verdict) :: fates) after

/-- The verdicts to which processing class files one after the other comes. -/
inductive Judged (run : Run) (invocation : Invocation) : World → Fates → World → Prop
  | nil (world : World) : Judged run invocation world [] world
  | cons {path : Path} {verdict : Verdict} {fates : Fates} {world middle after : World}
      (judged : run.judge invocation path world = .ok verdict middle)
      (rest : Judged run invocation middle fates after) :
      Judged run invocation world ((path, verdict) :: fates) after

theorem Judged.processed {fates : Fates} (judged : Judged run invocation world fates after) :
    Processed run invocation world fates after := by
  induction judged with
  | nil world => exact .nil world
  | cons judged rest ih => exact .cons (judge_ok judged) ih

/-- Processing class files is to come to verdicts until one of them ends the run, and to note them. -/
theorem processAll_ok_iff {paths : List Path} :
    run.processAll invocation progress paths world = .ok (next, abort) after ↔
      ∃ fates, Judged run invocation world fates after ∧ Cut run.policy paths fates abort ∧
        next = progress.noteAll fates := by
  constructor
  · intro done
    induction paths generalizing progress world with
    | nil =>
        obtain ⟨same, rfl⟩ := pure_ok.1 done
        cases same
        exact ⟨[], .nil _, .nil, (Progress.noteAll_nil _).symm⟩
    | cons path paths ih =>
        obtain ⟨⟨noted, ends⟩, middle, processing, done⟩ := bind_ok.1 done
        obtain ⟨verdict, judged, rfl, rfl⟩ := process_ok processing
        cases aborts : verdict.abort? run.policy with
        | some diagnostic =>
            simp only [aborts] at done
            obtain ⟨same, rfl⟩ := pure_ok.1 done
            cases same
            refine ⟨[(path, verdict)], .cons judged (.nil _), .stop aborts, ?_⟩
            rw [progress.noteAll_cons, Progress.noteAll_nil]
        | none =>
            simp only [aborts] at done
            obtain ⟨fates, rest, cut, rfl⟩ := ih done
            refine ⟨(path, verdict) :: fates, .cons judged rest, .next aborts cut, ?_⟩
            rw [progress.noteAll_cons]
  · rintro ⟨fates, judged, cut, rfl⟩
    have processes {path : Path} {verdict : Verdict} {progress : Progress} {world middle : World}
        (one : run.judge invocation path world = .ok verdict middle) :
        run.process invocation progress path world =
          .ok (progress.note path verdict, verdict.abort? run.policy) middle := by
      rw [process_eq]
      exact map_ok.2 ⟨verdict, one, rfl⟩
    induction cut generalizing progress world with
    | nil =>
        cases judged with
        | nil =>
            rw [Progress.noteAll_nil]
            rfl
    | stop ends =>
        cases judged with
        | cons one rest =>
            cases rest with
            | nil =>
                refine bind_ok.2 ⟨_, _, processes one, ?_⟩
                rw [ends, progress.noteAll_cons, Progress.noteAll_nil]
                rfl
    | next goesOn cut ih =>
        cases judged with
        | cons one rest =>
            refine bind_ok.2 ⟨_, _, processes one, ?_⟩
            rw [goesOn, progress.noteAll_cons]
            exact ih rest

/-- Processing class files goes through single steps until one of them ends the run. -/
theorem processAll_ok {paths : List Path}
    (done : run.processAll invocation progress paths world = .ok (next, abort) after) :
    ∃ fates, Processed run invocation world fates after ∧ Cut run.policy paths fates abort ∧
      next = progress.noteAll fates := by
  obtain ⟨fates, judged, cut, same⟩ := processAll_ok_iff.1 done
  exact ⟨fates, judged.processed, cut, same⟩

end Run

/-! ## A first part of the class files -/

namespace Cut

variable {policy : FailurePolicy} {paths : List Path} {fates : Fates} {abort : Option Diagnostic}

/-- The class files that there is a verdict on come first. -/
theorem prefix_paths (cut : Cut policy paths fates abort) : fates.paths <+: paths := by
  induction cut with
  | nil => exact List.nil_prefix
  | stop ends => exact ⟨_, rfl⟩
  | next goesOn rest ih => exact List.prefix_cons_inj _ |>.2 ih

/-- If no failure ends the run, there is a verdict on every class file. -/
theorem paths_eq (cut : Cut policy paths fates abort) (goesOn : abort = none) :
    fates.paths = paths := by
  induction cut with
  | nil => rfl
  | stop ends => contradiction
  | next _ rest ih => exact congrArg _ (ih goesOn)

theorem goesOn (cut : Cut policy paths fates abort) (ends : abort = none) :
    ∀ fate ∈ fates, fate.2.abort? policy = none := by
  induction cut with
  | nil => simp
  | stop => contradiction
  | next goesOn rest ih => exact List.forall_mem_cons.2 ⟨goesOn, ih ends⟩

theorem of_goesOn (goesOn : ∀ fate ∈ fates, fate.2.abort? policy = none) :
    Cut policy fates.paths fates none := by
  induction fates with
  | nil => exact .nil
  | cons fate fates ih =>
      obtain ⟨here, later⟩ := List.forall_mem_cons.1 goesOn
      exact .next here (ih later)

/-- Only the policy that says so lets a failure end the run. -/
theorem failFast (cut : Cut policy paths fates abort) (ends : abort ≠ none) :
    policy = .failFast := by
  induction cut with
  | nil => contradiction
  | stop ends =>
      cases policy with
      | failFast => rfl
      | tolerant => contradiction
  | next _ rest ih => exact ih ends

/-- If the first failure would end the run and none does, there is none. -/
theorem diagnostics_eq_nil (cut : Cut .failFast paths fates abort) (goesOn : abort = none) :
    fates.diagnostics = [] := by
  generalize same : FailurePolicy.failFast = policy at cut
  induction cut with
  | nil => rfl
  | stop ends => contradiction
  | @next path paths verdict fates abort goesOn' rest ih =>
      subst same
      cases verdict with
      | failed diagnostic => contradiction
      | unchanged | enhanced => exact ih goesOn

/-- The failure that ends a run is the last verdict, and the only one of its kind. -/
theorem exists_last {diagnostic : Diagnostic} (cut : Cut .failFast paths fates abort)
    (ends : abort = some diagnostic) :
    ∃ front path, fates = front ++ [(path, .failed diagnostic)] ∧ Fates.diagnostics front = [] := by
  generalize same : FailurePolicy.failFast = policy at cut
  induction cut with
  | nil => contradiction
  | @stop path paths verdict other stops =>
      subst same
      cases ends
      cases verdict with
      | failed other =>
          cases stops
          exact ⟨[], path, rfl, rfl⟩
      | unchanged | enhanced => cases stops
  | @next path paths verdict fates abort goesOn rest ih =>
      subst same
      obtain ⟨front, last, same, none⟩ := ih ends
      refine ⟨(path, verdict) :: front, last, by rw [same]; rfl, ?_⟩
      cases verdict with
      | failed other => contradiction
      | unchanged | enhanced => exact none

end Cut

end Enhance
