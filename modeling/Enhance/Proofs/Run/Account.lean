import Enhance.Proofs.Run.Course
import Enhance.Proofs.Scan

/-!
# What became of the class files of a run

The class files that a run came to a verdict on are a first part of those it found, and each of
them stands in exactly one of three lists of the report: it was transformed, it stayed as it is or
there is a diagnostic about it (`Report.Accounts`).  The transformer is called for these class files
only, for each at most once and in their order.
-/

namespace Enhance

open Program

/-- The class files that a diagnostic of a report is about. -/
def Report.failed (report : Report) : List Path :=
  (report.diagnostics.filter (·.stage ≠ .classpath)).filterMap (·.path)

/-- A report accounts for the class files that were processed, and for those that the transformer
was called for. -/
structure Report.Accounts (report : Report) (processed asked : List Path) : Prop where
  scanned_nodup : report.scanned.Nodup
  isPrefix : processed <+: report.scanned
  /-- Every class file that was processed is in one of the lists. -/
  perm : (report.enhanced ++ report.unchanged ++ report.failed).Perm processed
  /-- No class file is in two of the lists, or twice in one of them. -/
  nodup : (report.enhanced ++ report.unchanged ++ report.failed).Nodup
  enhanced_sublist : report.enhanced.Sublist report.scanned
  unchanged_sublist : report.unchanged.Sublist report.scanned
  failed_sublist : report.failed.Sublist report.scanned
  /-- Every diagnostic that is not about the class path is about a class file. -/
  located : ∀ diagnostic ∈ report.diagnostics, diagnostic.stage ≠ .classpath →
    diagnostic.path ≠ none
  completed : report.status = .completed → processed = report.scanned
  /-- A failure of a class file ends the run right after it. -/
  stopped : ∀ diagnostic, report.abort = some diagnostic → diagnostic.stage ≠ .classpath →
    ∃ front path, processed = front ++ [path] ∧ diagnostic.path = some path
  unprocessed : report.status = .skipped ∨
    (∃ diagnostic, report.abort = some diagnostic ∧ diagnostic.stage = .classpath) →
      processed = []
  asked_sublist : asked.Sublist processed

namespace Fates

/-- Every failure is about the class file that failed, not about the class path. -/
def Located (fates : Fates) : Prop :=
  ∀ fate ∈ fates, ∀ diagnostic, fate.2 = .failed diagnostic →
    diagnostic.path = some fate.1 ∧ diagnostic.stage ≠ .classpath

/-- The diagnostics about class files are about those that failed. -/
theorem failed_eq {fates : Fates} (located : fates.Located) :
    (fates.diagnostics.filter (·.stage ≠ .classpath)).filterMap (·.path) = fates.failed := by
  induction fates with
  | nil => rfl
  | cons fate fates ih =>
      obtain ⟨path, verdict⟩ := fate
      have rest := ih fun fate member => located fate (List.mem_cons_of_mem _ member)
      cases verdict with
      | unchanged | enhanced => exact rest
      | failed diagnostic =>
          obtain ⟨isPath, stage⟩ := located _ List.mem_cons_self diagnostic rfl
          change ((diagnostic :: Fates.diagnostics fates).filter _).filterMap _ =
            path :: Fates.failed fates
          rw [List.filter_cons_of_pos (by simpa using stage), List.filterMap_cons_some isPath, rest]

/-- Class files that are each in one of the lists are in no other one and only once. -/
theorem nodup_lists {fates : Fates} (nodup : fates.paths.Nodup) :
    (fates.enhanced ++ fates.unchanged ++ fates.failed).Nodup :=
  fates.perm_paths.nodup_iff.2 nodup

end Fates

namespace Run

variable {run : Run} {invocation : Invocation} {path : Path} {verdict : Verdict} {fates : Fates}
  {progress : Progress} {ending : Ending} {world after : World}

/-! ## One class file -/

/-- A failure of a class file is about its path. -/
theorem Handled.located {diagnostic : Diagnostic}
    (handled : Handled run invocation path world (.failed diagnostic) after) :
    diagnostic.path = some path ∧ diagnostic.stage ≠ .classpath := by
  cases handled with
  | untransformed invoked quiet => exact ⟨rfl, Stage.noConfusion⟩
  | unwritten invoked write quiet =>
      obtain ⟨isPath, stage⟩ := WriteStrategy.write_isAbout write diagnostic rfl
      exact ⟨isPath, by rw [stage]; decide⟩

/-- Processing a class file calls the transformer at most once, for this class file. -/
theorem Handled.calls_eq (handled : Handled run invocation path world verdict after) :
    after.calls = world.calls ∨ ∃ call, call.path = path ∧ after.calls = call :: world.calls := by
  have asked {outcome : Outcome} {middle : World}
      (invoked : invocation.Invoked path world outcome middle) (same : after.calls = middle.calls) :
      after.calls = world.calls ∨ ∃ call, call.path = path ∧ after.calls = call :: world.calls := by
    rw [same]
    exact invoked.calls_eq.2.imp (·.1) id
  cases handled with
  | unchanged invoked quiet | untransformed invoked quiet => exact asked invoked quiet.calls
  | unwritten invoked write quiet | enhanced invoked write quiet =>
      exact asked invoked (quiet.calls.trans (WriteStrategy.write_sameCalls write).calls)

/-! ## All class files -/

theorem Processed.located (processed : Processed run invocation world fates after) :
    fates.Located := by
  induction processed with
  | nil => intro fate member; contradiction
  | cons handled rest ih =>
      refine List.forall_mem_cons.2 ⟨?_, ih⟩
      rintro diagnostic rfl
      exact handled.located

/-- The transformer is called for class files that are processed, in their order. -/
theorem Processed.exists_calls (processed : Processed run invocation world fates after) :
    ∃ calls : List TransformerCall, after.calls = calls ++ world.calls ∧
      (calls.reverse.map (·.path)).Sublist fates.paths := by
  induction processed with
  | nil world => exact ⟨[], rfl, .slnil⟩
  | @cons path verdict fates world middle after handled rest ih =>
      obtain ⟨calls, later, sublist⟩ := ih
      rcases handled.calls_eq with same | ⟨call, rfl, once⟩
      · exact ⟨calls, later.trans (congrArg _ same), sublist.cons _⟩
      · refine ⟨calls ++ [call], ?_, ?_⟩
        · rw [later, once, List.append_assoc]
          rfl
        · rw [List.reverse_append, List.map_append]
          exact sublist.cons_cons _

/-- A run that processed no class file. -/
theorem accounts_nil {report : Report} (scanned : report.scanned.Nodup)
    (enhanced : report.enhanced = []) (unchanged : report.unchanged = [])
    (diagnostics : ∀ diagnostic ∈ report.diagnostics, diagnostic.stage = .classpath)
    (notCompleted : report.status ≠ .completed)
    (notStopped : ∀ diagnostic, report.abort = some diagnostic → diagnostic.stage = .classpath) :
    report.Accounts [] [] := by
  have failed : report.failed = [] := by
    rw [Report.failed, List.filter_eq_nil_iff.2 (by simpa using diagnostics)]
    rfl
  refine ⟨scanned, List.nil_prefix, ?_, ?_, ?_, ?_, ?_, ?_, ?_, ?_, fun _ => rfl, .slnil⟩
  · rw [enhanced, unchanged, failed]
    exact .refl _
  · rw [enhanced, unchanged, failed]
    exact .nil
  · rw [enhanced]
    exact List.nil_sublist _
  · rw [unchanged]
    exact List.nil_sublist _
  · rw [failed]
    exact List.nil_sublist _
  · intro diagnostic member stage
    exact absurd (diagnostics diagnostic member) stage
  · intro completed
    exact absurd completed notCompleted
  · intro diagnostic isAbort stage
    exact absurd (notStopped diagnostic isAbort) stage

/-- A run that processed class files until one of them ended it, or all of them. -/
theorem accounts_of_fates {report : Report} {policy : FailurePolicy} {paths asked : List Path}
    {problems : List Diagnostic} {abort : Option Diagnostic} (nodup : paths.Nodup)
    (stages : ∀ diagnostic ∈ problems, diagnostic.stage = .classpath) (located : fates.Located)
    (cut : Cut policy paths fates abort) (sublist : asked.Sublist fates.paths)
    (scanned : report.scanned = paths) (enhanced : report.enhanced = fates.enhanced)
    (unchanged : report.unchanged = fates.unchanged)
    (diagnostics : report.diagnostics = problems ++ fates.diagnostics)
    (status : report.status = (closing abort).2) (isAbort : report.abort = abort) :
    report.Accounts fates.paths asked := by
  have isPrefix : fates.paths <+: paths := cut.prefix_paths
  have failed : report.failed = fates.failed := by
    rw [Report.failed, diagnostics, List.filter_append,
      List.filter_eq_nil_iff.2 (by simpa using stages), List.nil_append, Fates.failed_eq located]
  refine ⟨scanned ▸ nodup, scanned ▸ isPrefix, ?_, ?_, ?_, ?_, ?_, ?_, ?_, ?_, ?_, sublist⟩
  · rw [enhanced, unchanged, failed]
    exact fates.perm_paths
  · rw [enhanced, unchanged, failed]
    exact Fates.nodup_lists (isPrefix.sublist.nodup nodup)
  · rw [enhanced, scanned]
    exact fates.enhanced_sublist.trans isPrefix.sublist
  · rw [unchanged, scanned]
    exact fates.unchanged_sublist.trans isPrefix.sublist
  · rw [failed, scanned]
    exact fates.failed_sublist.trans isPrefix.sublist
  · intro diagnostic member stage
    rw [diagnostics] at member
    rcases List.mem_append.1 member with isProblem | isFailure
    · exact absurd (stages diagnostic isProblem) stage
    · obtain ⟨path, isFate⟩ := Fates.mem_diagnostics.1 isFailure
      rw [(located _ isFate diagnostic rfl).1]
      simp
  · intro completed
    rw [scanned]
    cases abort with
    | none => exact cut.paths_eq rfl
    | some diagnostic => cases status.symm.trans completed
  · intro diagnostic ends stage
    have ends := isAbort.symm.trans ends
    have failFast := cut.failFast (by simp [ends])
    rw [failFast] at cut
    obtain ⟨front, path, rfl, -⟩ := cut.exists_last ends
    refine ⟨Fates.paths front, path, by simp [Fates.paths], ?_⟩
    exact (located (path, .failed diagnostic) (by simp) diagnostic rfl).1
  · rintro (skipped | ⟨diagnostic, ends, stage⟩)
    · cases abort with
      | none => cases status.symm.trans skipped
      | some diagnostic => cases status.symm.trans skipped
    · have ends := isAbort.symm.trans ends
      have failFast := cut.failFast (by simp [ends])
      rw [failFast] at cut
      obtain ⟨front, path, rfl, -⟩ := cut.exists_last ends
      exact absurd stage (located (path, .failed diagnostic) (by simp) diagnostic rfl).2

theorem Scans.nodup {paths : List Path} (scans : run.Scans world paths after)
    (proper : world.disk.isProper = true) : paths.Nodup := by
  obtain ⟨artifacts, scan, rfl⟩ := scans
  exact Scanner.scan_nodup proper scan

theorem Scans.quiet {paths : List Path} (scans : run.Scans world paths after) :
    world.Quiet after := by
  obtain ⟨artifacts, scan, -⟩ := scans
  exact (Scanner.scan_quiet _ _).of_ok scan

/-- Whatever course a run takes, its report accounts for the class files. -/
theorem Course.accounts (proper : world.disk.isProper = true)
    (course : Course run world ending after) :
    ∃ processed calls, after.calls = calls ++ world.calls ∧
      ending.1.Accounts processed (calls.reverse.map (·.path)) := by
  cases course with
  | skipped way comprises shows quiet =>
      refine ⟨[], [], quiet.calls, accounts_nil ?_ ?_ ?_ ?_ ?_ ?_⟩
      · rw [shows.scanned, comprises.scanned]
        exact .nil
      · exact shows.enhanced.trans comprises.enhanced
      · exact shows.unchanged.trans comprises.unchanged
      · rw [shows.diagnostics, comprises.diagnostics]
        simp [Fates.diagnostics]
      · simp [shows.status]
      · simp [shows.abort]
  | unresolved quiet scan stage failFast comprises shows quietAfter =>
      refine ⟨[], [], ?_, accounts_nil ?_ ?_ ?_ ?_ ?_ ?_⟩
      · rw [quietAfter.calls, scan.quiet.calls, quiet.calls]
        rfl
      · rw [shows.scanned, comprises.scanned]
        exact scan.nodup (quiet.disk ▸ proper)
      · exact shows.enhanced.trans comprises.enhanced
      · exact shows.unchanged.trans comprises.unchanged
      · rw [shows.diagnostics, comprises.diagnostics]
        simp [Fates.diagnostics, stage]
      · simp [shows.status]
      · simpa [shows.abort] using stage
  | @processed paths classpath problems fates abort last report searching searched begun ended after
      quiet scan stages tolerated quietBuild processed cut comprises shows quietAfter =>
      obtain ⟨calls, later, sublist⟩ := processed.exists_calls
      refine ⟨fates.paths, calls, ?_, ?_⟩
      · rw [quietAfter.calls, later, quietBuild.calls, scan.quiet.calls, quiet.calls]
      · exact accounts_of_fates (scan.nodup (quiet.disk ▸ proper)) stages processed.located cut
          sublist (shows.scanned.trans comprises.scanned) (shows.enhanced.trans comprises.enhanced)
          (shows.unchanged.trans comprises.unchanged)
          (shows.diagnostics.trans comprises.diagnostics) shows.status shows.abort

end Run

namespace Runner

variable {runner next : Runner} {report : Report} {world after : World}

/-- The report of a run accounts for the class files that were found in a tree of files: no class
file is lost, named twice or out of order, whatever the transformer does and whichever faults
strike.  The transformer is called only for the class files that the report accounts for. -/
theorem call_accounts (proper : world.disk.isProper = true)
    (done : runner.call world = .ok (report, next) after) :
    ∃ processed calls, after.calls = calls ++ world.calls ∧
      report.Accounts processed (calls.reverse.map (·.path)) := by
  obtain ⟨started, -⟩ := start_of_call done
  exact (Run.start_ok started).accounts proper

/-- A run whose transformer refuses the first of two class files accounts for this one only. -/
theorem call_accounts_refused : ∃ (report : Report) (processed asked : List Path),
    Sample.world.disk.isProper = true ∧ report.scanned.length = 2 ∧ report.status = .aborted ∧
      report.Accounts processed asked := by
  let runner : Runner :=
    { run := Sample.run (.failing "Refusing" Sample.failure) true
      progress := { startedAt := default, startTime := 0.0 } }
  have ends : runner.call.endsWith
      (fun ending => ending.1.scanned.length = 2 && ending.1.status = .aborted) Sample.world =
        true := by
    decide +kernel
  have proper : Sample.world.disk.isProper = true := by decide +kernel
  obtain ⟨⟨report, next⟩, after, done, checked⟩ := ok_of_endsWith ends
  simp only [Bool.and_eq_true, decide_eq_true_eq] at checked
  obtain ⟨processed, calls, -, accounts⟩ := call_accounts proper done
  exact ⟨report, processed, _, proper, checked.1, checked.2, accounts⟩

end Runner

end Enhance
