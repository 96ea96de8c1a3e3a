import Enhance.Classpath.Context
import Enhance.Dependency
import Enhance.Sink

/-!
# Building the class path

The class path of a run has the root of the class files first and then the dependencies that
are not only used by tests, in the order of the build. Each entry is the real path of the
place; a place that stands there already is not repeated. A place that cannot be resolved is a
failure: the policy decides whether it is left out or ends the run.
-/

namespace Enhance

namespace Classpath

/-- A place that may become an entry, and what messages call it. -/
structure Candidate where
  location : Option Path
  label : String
  deriving DecidableEq, Repr

namespace Candidate

/-- The text of the location. -/
def locationText (candidate : Candidate) : String :=
  (candidate.location.map Path.toString).getD "None"

/-- The candidate that a dependency is. -/
def ofDependency (dependency : Dependency) : Candidate :=
  ⟨dependency.file, s!"dependency {dependency.label}"⟩

/-- The diagnostic about a candidate that cannot be resolved. -/
def diagnostic (candidate : Candidate) (cause : Option Failure) : Diagnostic :=
  { path := candidate.location
    severity := .warning
    stage := .classpath
    message := s!"Unable to resolve classpath entry for {candidate.label}: " ++
      candidate.locationText
    cause }

/-- The fields of the log entries about a candidate. -/
def fields (candidate : Candidate) (location : String) : List (String × Json) :=
  [("entry", .str candidate.label), ("location", .str location)]

end Candidate

/-- An entry that building the class path writes into the log. -/
def logEntry (level : Level) (event : String) (fields : List (String × Json)) : LogEntry :=
  { source := .classpath
    level
    event
    fields := ("component", .str "loading_context_builder") :: fields }

/-- The candidates for entries: the root and the dependencies that are not left to tests. -/
def candidates (root : Path) (dependencies : List Dependency) : List Candidate :=
  ⟨some root, "classes root"⟩ ::
    (dependencies.filter (!·.isTest)).map Candidate.ofDependency

/-- Notes the dependencies that only tests use. -/
def logSkipped : List Dependency → Program Unit
  | [] => pure ()
  | dependency :: dependencies => do
    if dependency.isTest then
      Program.log (logEntry .debug "classpath_entry_skipped"
        [("dependency", .str dependency.label), ("scope", .str dependency.scope.name)])
    logSkipped dependencies

/-- What became of resolving a candidate. Without a location there is nothing to resolve. -/
inductive Resolved where
  | ok (path : Path)
  | failed (cause : Option Failure)

/-- Resolves the location of a candidate. Only errors of the system and circles of links count
as failures of the candidate. -/
def resolveCandidate (candidate : Candidate) : Program Resolved := do
  match candidate.location with
  | none => pure (.failed none)
  | some location =>
    let world ← get
    match Disk.resolve world.disk world.cwd location with
    | .ok path => pure (.ok path)
    | .error (.linkLoop path) => pure (.failed (some (.linkLoop path)))
    | .error (.system error) => pure (.failed (some (.system error)))
    | .error other => throw other

/-- The outcome of building a class path. There is no class path exactly if a diagnostic ended
the run. -/
structure Built where
  classpath : Option Classpath
  diagnostics : List Diagnostic
  abort : Option Diagnostic
  deriving DecidableEq, Repr

/-- Adds candidates to the entries found so far; entries and diagnostics are given in order. -/
def addCandidates (policy : FailurePolicy) (sink : Sink) :
    List Candidate → (entries : List Path) → (diagnostics : List Diagnostic) → Program Built
  | [], entries, diagnostics => pure ⟨some ⟨entries⟩, diagnostics, none⟩
  | candidate :: rest, entries, diagnostics => do
    match ← resolveCandidate candidate with
    | .ok path =>
      if entries.contains path then addCandidates policy sink rest entries diagnostics
      else
        Program.log (logEntry .debug "classpath_entry_added" (candidate.fields path.toString))
        addCandidates policy sink rest (entries ++ [path]) diagnostics
    | .failed cause =>
      let diagnostic := candidate.diagnostic cause
      sink.report diagnostic
      match policy.decide diagnostic with
      | .abort =>
        Program.log (logEntry .error "classpath_resolution_failed"
          (candidate.fields candidate.locationText))
        pure ⟨none, diagnostics ++ [diagnostic], some diagnostic⟩
      | .proceed =>
        Program.log (logEntry .warning "classpath_entry_dropped"
          (candidate.fields candidate.locationText))
        addCandidates policy sink rest entries (diagnostics ++ [diagnostic])

/-- Builds the class path of a run. -/
def build (policy : FailurePolicy) (sink : Sink) (root : Path) (dependencies : List Dependency) :
    Program Built := do
  logSkipped dependencies
  addCandidates policy sink (candidates root dependencies) [] []

end Classpath

end Enhance
