import Enhance.Diagnostic
import Enhance.Timestamp

/-!
# Reports

The report of a run: how it ended, which class files were found, transformed or left as they
are, and what went wrong.
-/

namespace Enhance

/-- Where a run is. -/
inductive RunState where
  | idle
  | configChecked
  | scanning
  | contextBuilt
  | processing
  | done
  | aborted
  deriving DecidableEq, Repr, Inhabited

namespace RunState

/-- The name of a state. -/
def name : RunState → String
  | .idle => "idle"
  | .configChecked => "config_checked"
  | .scanning => "scanning"
  | .contextBuilt => "context_built"
  | .processing => "processing"
  | .done => "done"
  | .aborted => "aborted"

/-- All states. -/
def all : List RunState :=
  [.idle, .configChecked, .scanning, .contextBuilt, .processing, .done, .aborted]

/-- The names of the states. -/
def choices : List (String × RunState) :=
  all.map fun state => (state.name, state)

/-- The state of that name. -/
def ofName? (words : String) : Option RunState :=
  all.find? (·.name = words)

/-- Whether a run ends in a state. -/
def isTerminal : RunState → Bool
  | .done | .aborted => true
  | _ => false

/-- The steps a run may take from one state to the next. -/
inductive Step : RunState → RunState → Prop where
  | start : Step .idle .configChecked
  | scan : Step .configChecked .scanning
  | build : Step .scanning .contextBuilt
  | process : Step .contextBuilt .processing
  | finish : Step .processing .done
  | nothingAsked : Step .configChecked .done
  | nothingFound : Step .scanning .done
  | unresolved : Step .scanning .aborted
  | failure : Step .processing .aborted

end RunState

/-- How a run ended. -/
inductive RunStatus where
  /-- There was nothing to do. -/
  | skipped
  /-- Every class file was processed. -/
  | completed
  /-- A failure ended the run. -/
  | aborted
  deriving DecidableEq, Repr, Inhabited

namespace RunStatus

/-- The name of a status. -/
def name : RunStatus → String
  | .skipped => "skipped"
  | .completed => "completed"
  | .aborted => "aborted"

/-- The names of the statuses. -/
def choices : List (String × RunStatus) :=
  [skipped, completed, aborted].map fun status => (status.name, status)

end RunStatus

/-- The report of a run. -/
structure Report where
  status : RunStatus
  finalState : RunState
  /-- Why there was nothing to do. -/
  skipReason : Option String := none
  classesDir : Path
  /-- The class files that were found, in processing order. -/
  scanned : List Path := []
  /-- The class files that were transformed. -/
  enhanced : List Path := []
  /-- The class files that the transformer left as they are. -/
  unchanged : List Path := []
  diagnostics : List Diagnostic := []
  /-- The diagnostic that ended the run. -/
  abort : Option Diagnostic := none
  startedAt : Timestamp
  finishedAt : Option Timestamp := none
  milliseconds : Int := 0
  deriving DecidableEq, Repr

/-- That a run was ended by a failure. -/
structure AbortedRun where
  path : Option Path
  reason : String
  cause : Option Failure
  deriving DecidableEq, Repr

/-- The text about a run that was ended by a failure. -/
def AbortedRun.message (aborted : AbortedRun) : String :=
  "Enhancement aborted" ++ (aborted.path.map fun path => s!" at {path}").getD "" ++
    s!": {aborted.reason}"

namespace Report

/-- Whether a failure ended the run. -/
def isAborted (report : Report) : Bool :=
  report.status = .aborted

/-- Whether no failure ended the run. -/
def passed (report : Report) : Bool :=
  report.status ≠ .aborted

/-- The number of diagnostics of a severity. -/
def count (report : Report) (severity : Severity) : Nat :=
  report.diagnostics.countP (·.severity = severity)

/-- What a run that a failure ended is reported as to a caller. -/
def failure? (report : Report) : Option AbortedRun :=
  if report.isAborted then
    report.abort.map fun diagnostic =>
      ⟨diagnostic.path, diagnostic.message, diagnostic.cause⟩
  else none

/-- Every diagnostic is a warning or an error. -/
theorem count_warning_add_count_error (report : Report) :
    report.count .warning + report.count .error = report.diagnostics.length := by
  unfold count
  induction report.diagnostics with
  | nil => rfl
  | cons diagnostic rest ih =>
    have : diagnostic.severity = .warning ∨ diagnostic.severity = .error := by
      cases diagnostic.severity <;> simp
    rcases this with h | h <;> simp [h] <;> omega

end Report

end Enhance
