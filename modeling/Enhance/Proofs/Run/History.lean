import Enhance.CommandLine.EnhanceCommand
import Enhance.Proofs.Run.Course
import Mathlib.Data.List.Chain

/-!
# The history of a run and its report

A run steps from state to state until it comes to a terminal one, and its report agrees with the
way it took: with the last state, with whether a failure ended the run and with whether there was
nothing to do (`Report.Agrees`).  This holds for every run of a runner, whatever its earlier runs
have left behind (`Runner.Calls`).
-/

namespace Enhance

open Program

namespace RunState

/-- No step leaves a terminal state. -/
theorem Step.isTerminal_eq_false {state next : RunState} (step : Step state next) :
    state.isTerminal = false := by
  cases step <;> rfl

/-- States that a run goes through, from the beginning to a terminal state. -/
structure Lawful (history : List RunState) (final : RunState) : Prop where
  start : history.head? = some .idle
  steps : history.IsChain Step
  terminal : final.isTerminal = true
  last : ∃ front, history = front ++ [final] ∧ ∀ state ∈ front, state.isTerminal = false

/-- A state before the last one is left by a step. -/
theorem exists_step {front : List RunState} {final state : RunState}
    (steps : (front ++ [final]).IsChain Step) (member : state ∈ front) :
    ∃ next, Step state next := by
  induction front with
  | nil => contradiction
  | cons first rest ih =>
      rw [List.cons_append, List.isChain_cons] at steps
      rcases List.mem_cons.1 member with rfl | member
      · cases rest with
        | nil => exact ⟨final, steps.1 final rfl⟩
        | cons second others => exact ⟨second, steps.1 second rfl⟩
      · exact ih steps.2 member

theorem lawful_of_steps {front : List RunState} {final : RunState}
    (start : front.head? = some .idle) (steps : (front ++ [final]).IsChain Step)
    (terminal : final.isTerminal = true) : Lawful (front ++ [final]) final := by
  refine ⟨?_, steps, terminal, front, rfl, ?_⟩
  · rw [List.head?_append, start]
    rfl
  · intro state member
    obtain ⟨next, step⟩ := exists_step steps member
    exact step.isTerminal_eq_false

end RunState

/-- A report agrees with the states a run went through and with how the run treats failures. -/
structure Report.Agrees (report : Report) (policy : FailurePolicy) (history : List RunState) :
    Prop where
  lawful : RunState.Lawful history report.finalState
  aborted_iff_state : report.status = .aborted ↔ report.finalState = .aborted
  aborted_iff_abort : report.status = .aborted ↔ report.abort ≠ none
  aborted_iff_policy : report.status = .aborted ↔
    policy = .failFast ∧ report.diagnostics ≠ []
  diagnostics_eq : ∀ diagnostic, report.abort = some diagnostic →
    report.diagnostics = [diagnostic]
  skipped_iff_reason : report.status = .skipped ↔ report.skipReason ≠ none
  skipped_iff_state : report.status = .skipped ↔
    report.finalState = .done ∧ .contextBuilt ∉ history

namespace Run

variable {run : Run} {progress last : Progress} {report : Report} {ending : Ending}
  {world after : World}

/-- The last of the states that a run went through. -/
theorem state_of_history {front : List RunState} {final : RunState}
    (history : last.history = front ++ [final]) : last.state = final := by
  simp [Progress.state, history]

/-- A run that was skipped. -/
theorem agrees_of_skipped {front : List RunState} {words : String} {policy : FailurePolicy}
    (shows : report.Shows last .skipped (some words) none)
    (history : last.history = front ++ [.done]) (start : front.head? = some .idle)
    (steps : List.IsChain RunState.Step (front ++ [.done])) (nothing : last.diagnostics = [])
    (early : .contextBuilt ∉ front) : report.Agrees policy last.history := by
  have final : report.finalState = .done := shows.finalState.trans (state_of_history history)
  refine ⟨?_, ?_, ?_, ?_, ?_, ?_, ?_⟩
  · rw [final, history]
    exact RunState.lawful_of_steps start steps rfl
  · simp [shows.status, final]
  · simp [shows.status, shows.abort]
  · simp [shows.status, shows.diagnostics, nothing]
  · simp [shows.abort]
  · simp [shows.status, shows.skipReason]
  · simp [shows.status, final, history, early]

/-- A run that a failure ended, which is the only diagnostic. -/
theorem agrees_of_aborted {front : List RunState} {diagnostic : Diagnostic}
    (shows : report.Shows last .aborted none (some diagnostic))
    (history : last.history = front ++ [.aborted]) (start : front.head? = some .idle)
    (steps : List.IsChain RunState.Step (front ++ [.aborted]))
    (only : last.diagnostics = [diagnostic]) : report.Agrees .failFast last.history := by
  have final : report.finalState = .aborted := shows.finalState.trans (state_of_history history)
  refine ⟨?_, ?_, ?_, ?_, ?_, ?_, ?_⟩
  · rw [final, history]
    exact RunState.lawful_of_steps start steps rfl
  · simp [shows.status, final]
  · simp [shows.status, shows.abort]
  · simp [shows.status, shows.diagnostics, only]
  · simp [shows.abort, shows.diagnostics, only]
  · simp [shows.status, shows.skipReason]
  · simp [shows.status, final]

/-- A run that came to the end of the class files. -/
theorem agrees_of_completed {front : List RunState} {policy : FailurePolicy}
    (shows : report.Shows last .completed none none)
    (history : last.history = front ++ [.done]) (start : front.head? = some .idle)
    (steps : List.IsChain RunState.Step (front ++ [.done])) (built : .contextBuilt ∈ front)
    (none : policy = .failFast → last.diagnostics = []) : report.Agrees policy last.history := by
  have final : report.finalState = .done := shows.finalState.trans (state_of_history history)
  refine ⟨?_, ?_, ?_, ?_, ?_, ?_, ?_⟩
  · rw [final, history]
    exact RunState.lawful_of_steps start steps rfl
  · simp [shows.status, final]
  · simp [shows.status, shows.abort]
  · simpa [shows.status, shows.diagnostics] using none
  · simp [shows.abort]
  · simp [shows.status, shows.skipReason]
  · simp [shows.status, history, built]

/-- The report of a run agrees with the way it took. -/
theorem Course.agrees (course : Course run world ending after) :
    ending.1.Agrees run.policy ending.2.history := by
  cases course with
  | @skipped states words last report after way comprises shows quiet =>
      rcases way with rfl | rfl
      · have history : last.history = [.idle, .configChecked] ++ [.done] := comprises.history
        refine agrees_of_skipped shows history rfl ?_ comprises.diagnostics (by decide)
        simpa using ⟨.start, .nothingAsked⟩
      · have history : last.history = [.idle, .configChecked, .scanning] ++ [.done] :=
          comprises.history
        refine agrees_of_skipped shows history rfl ?_ comprises.diagnostics (by decide)
        simpa using ⟨.start, .scan, .nothingFound⟩
  | @unresolved paths diagnostic last report _ _ _ quiet scan stage failFast comprises shows
      quietAfter =>
      have history : last.history = [.idle, .configChecked, .scanning] ++ [.aborted] :=
        comprises.history
      rw [failFast]
      refine agrees_of_aborted shows history rfl ?_ comprises.diagnostics
      simpa using ⟨.start, .scan, .unresolved⟩
  | @processed paths classpath problems fates abort last report _ _ _ _ _ quiet scan stages tolerated
      quietBuild processed cut comprises shows quietAfter =>
      have history : last.history =
          [.idle, .configChecked, .scanning, .contextBuilt, .processing] ++ [(closing abort).1] :=
        comprises.history
      cases abort with
      | none =>
          refine agrees_of_completed shows history rfl ?_ (by decide) ?_
          · simpa [closing] using ⟨.start, .scan, .build, .process, .finish⟩
          · intro failFast
            rw [failFast] at cut
            rw [comprises.diagnostics, tolerated failFast, cut.diagnostics_eq_nil rfl]
            rfl
      | some diagnostic =>
          have failFast := cut.failFast (by simp)
          rw [failFast] at cut ⊢
          obtain ⟨front, path, isLast, noOther⟩ := cut.exists_last rfl
          refine agrees_of_aborted shows history rfl ?_ ?_
          · simpa [closing] using ⟨.start, .scan, .build, .process, .failure⟩
          · rw [comprises.diagnostics, tolerated failFast, isLast, Fates.diagnostics,
              List.filterMap_append]
            rw [Fates.diagnostics] at noOther
            rw [noOther]
            rfl

end Run

/-! ## What the report is used for -/

/-- What becomes of a report agrees with its status: it is raised as the failure that ended the run,
if any did, and it can be summed up. -/
structure Report.Handed (report : Report) : Prop where
  raises_iff : report.failure?.isSome = true ↔ report.status = .aborted
  raised : ∀ aborted, report.failure? = some aborted → ∃ diagnostic,
    report.abort = some diagnostic ∧
      aborted = ⟨diagnostic.path, diagnostic.message, diagnostic.cause⟩
  summed : ∀ world failure after,
    CommandLine.EnhanceCommand.printSummary report world = .error failure after →
      failure ≠ .raised "AssertionError" ""

/-- Printing only fails because of the tags in a text. -/
theorem Program.print_error {block : Console.Block} {world after : World} {failure : Failure}
    (failed : print block world = .error failure after) : ∃ error, failure = .markup error := by
  rw [print, get_bind] at failed
  cases written : block.text world.columns with
  | ok text =>
      rw [written] at failed
      exact (modify_error.1 failed).elim
  | error error =>
      rw [written] at failed
      obtain ⟨rfl, -⟩ := throw_error.1 failed
      exact ⟨error, rfl⟩

/-- There is a summary if the diagnostic is known that ended the run. -/
theorem summary_isSome {report : Report} (known : report.status = .aborted → report.abort ≠ none) :
    (CommandLine.EnhanceCommand.summary? report).isSome = true := by
  rw [CommandLine.EnhanceCommand.summary?]
  by_cases aborted : report.status = .aborted
  · obtain ⟨diagnostic, isAbort⟩ := Option.ne_none_iff_exists'.1 (known aborted)
    simp [Report.isAborted, aborted, isAbort]
  · simp only [Report.isAborted, aborted, decide_false, Bool.false_eq_true, ↓reduceIte]
    split
    · rfl
    · split <;> rfl

theorem Report.Agrees.handed {report : Report} {policy : FailurePolicy}
    {history : List RunState} (agrees : report.Agrees policy history) : report.Handed := by
  refine ⟨?_, ?_, ?_⟩
  · rw [Report.failure?, Report.isAborted]
    by_cases aborted : report.status = .aborted
    · obtain ⟨diagnostic, isAbort⟩ :=
        Option.ne_none_iff_exists'.1 (agrees.aborted_iff_abort.1 aborted)
      simp [aborted, isAbort]
    · simp [aborted]
  · intro aborted raised
    rw [Report.failure?] at raised
    split at raised
    · obtain ⟨diagnostic, isAbort, same⟩ := Option.map_eq_some_iff.1 raised
      exact ⟨diagnostic, isAbort, same.symm⟩
    · contradiction
  · intro world failure after failed
    obtain ⟨block, summary⟩ := Option.isSome_iff_exists.1
      (summary_isSome agrees.aborted_iff_abort.1)
    rw [CommandLine.EnhanceCommand.printSummary, summary] at failed
    obtain ⟨error, rfl⟩ := print_error failed
    simp

namespace Runner

variable {runner next : Runner} {report : Report} {world after : World}

/-- Whatever a runner has done before, the report of its next run agrees with the way that run
took. -/
theorem call_ok (done : runner.call world = .ok (report, next) after) :
    next.run = runner.run ∧ report.Agrees runner.run.policy next.progress.history := by
  obtain ⟨started, sameRun⟩ := start_of_call done
  exact ⟨sameRun, (Run.start_ok started).agrees⟩

/-- The reports, each with what the runner was afterwards, of successive calls.  A call that fails
gives none and may leave anything behind; the world may change between calls. -/
inductive Calls : Runner → List (Report × Runner) → Prop
  | nil (runner : Runner) : Calls runner []
  | returned {runner next : Runner} {report : Report} {world after : World}
      {rest : List (Report × Runner)} (call : runner.call world = .ok (report, next) after)
      (later : Calls next rest) : Calls runner ((report, next) :: rest)
  | failed {runner : Runner} {world after : World} {failure : Failure}
      {rest : List (Report × Runner)} (call : runner.call world = .error failure after)
      (left : Progress) (later : Calls { runner with progress := left } rest) : Calls runner rest

/-- After every call of a runner that gives a report, the report agrees with the states of the run,
and what becomes of it with its status. -/
theorem calls_agree {returns : List (Report × Runner)} (calls : Calls runner returns) :
    ∀ returned ∈ returns,
      returned.1.Agrees runner.run.policy returned.2.progress.history ∧ returned.1.Handed := by
  induction calls with
  | nil runner => simp
  | returned call later ih =>
      obtain ⟨sameRun, agrees⟩ := call_ok call
      rw [sameRun] at ih
      exact List.forall_mem_cons.2 ⟨⟨agrees, agrees.handed⟩, ih⟩
  | failed call left later ih => exact ih

/-- Two calls of a runner whose transformer fails, the second one after the first one was aborted. -/
theorem calls_agree_twice : ∃ runner first second next last,
    Calls runner [(first, next), (second, last)] ∧ first.status = .aborted ∧
      second.Agrees .failFast last.progress.history ∧ second.Handed := by
  let runner : Runner :=
    { run := Sample.run (.failing "Refusing" Sample.failure) true
      progress := { startedAt := default, startTime := 0.0 } }
  let twice : Program ((Report × Runner) × (Report × Runner)) := do
    let first ← runner.call
    let second ← first.2.call
    pure (first, second)
  have ends : twice.endsWith (fun both => both.1.1.status = .aborted) Sample.world = true := by
    decide +kernel
  obtain ⟨both, after, done, aborted⟩ := ok_of_endsWith ends
  obtain ⟨first, middle, one, done⟩ := bind_ok.1 done
  obtain ⟨second, final, two, same⟩ := bind_ok.1 done
  obtain ⟨rfl, -⟩ := pure_ok.1 same
  have calls : Calls runner [first, second] := .returned one (.returned two (.nil _))
  exact ⟨runner, first.1, second.1, first.2, second.2, calls, of_decide_eq_true aborted,
    calls_agree calls second (by simp)⟩

end Runner

end Enhance
