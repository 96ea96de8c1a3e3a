import Enhance.Classpath.Build
import Enhance.Proofs.Lawful

/-!
# Candidates for a class path

Building a class path leaves the files alone.  There is a problem with a candidate that the system cannot
resolve, and no other (`Classpath.Candidate.problem?`); a candidate with a location that no call of the
system can be about is not a problem but a failure (`Classpath.Candidate.IsNameable`).
-/

namespace Enhance

open Program

namespace Classpath

variable {policy : FailurePolicy} {sink : Sink} {built : Built} {world after : World}

/-- The bytes that are read are those of the file that the path leads to. -/
theorem stat_of_readFile {disk : Listing} {cwd : List String} {path : Path} {bytes : List UInt8}
    (read : readFile disk cwd path = .ok bytes) :
    ∃ data, Disk.stat disk cwd path = .ok (.file data) ∧ data.bytes = bytes := by
  rw [readFile] at read
  split at read
  · contradiction
  · rw [Disk.read] at read
    split at read
    · next data found =>
        cases read
        exact ⟨data, found, rfl⟩
    · contradiction
    · contradiction

/-! ## What building inherits from its steps -/

section

variable {holds : (α : Type) → Program α → Prop}

section

variable (lawful : Lawful holds)

include lawful

theorem logSkipped_lawful (dependencies : List Dependency) :
    holds Unit (logSkipped dependencies) := by
  induction dependencies with
  | nil => exact lawful.pure _
  | cons dependency dependencies ih =>
      rw [logSkipped]
      split
      · exact lawful.bind (lawful.log nofun) fun _ => ih
      · exact ih

theorem resolveCandidate_lawful (candidate : Candidate) :
    holds Resolved (resolveCandidate candidate) := by
  rw [resolveCandidate]
  cases candidate.location with
  | none => exact lawful.pure _
  | some location =>
      apply lawful.look
      · intro world
        split
        · exact lawful.pure _
        · exact lawful.pure _
        · exact lawful.pure _
        · exact lawful.throw _
      · intro one two sameDisk sameCwd
        rw [sameDisk, sameCwd]

/-- What is done with a candidate that could be resolved. -/
theorem addResolved_lawful {path : Path} {entries : List Path} {candidate : Candidate}
    {add : List Path → Program Built} (adds : ∀ entries, holds Built (add entries)) :
    holds Built (if entries.contains path then add entries
      else do
        log (logEntry .debug "classpath_entry_added" (candidate.fields path.toString))
        add (entries ++ [path])) := by
  split
  · exact adds _
  · exact lawful.bind (lawful.log nofun) fun _ => adds _

end

section

variable (reporting : Reporting holds)

include reporting

theorem addCandidates_reporting (policy : FailurePolicy) (sink : Sink) (candidates : List Candidate)
    (entries : List Path) (diagnostics : List Diagnostic) :
    holds Built (addCandidates policy sink candidates entries diagnostics) := by
  have lawful := reporting.toLawful
  induction candidates generalizing entries diagnostics with
  | nil => exact lawful.pure _
  | cons candidate rest ih =>
      rw [addCandidates]
      apply lawful.bind (resolveCandidate_lawful lawful candidate)
      intro resolved
      cases resolved with
      | ok path => exact addResolved_lawful lawful fun entries => ih entries diagnostics
      | failed cause =>
          apply lawful.bind (reporting.report _ _)
          intro _
          split
          · exact lawful.bind (lawful.log nofun) fun _ => lawful.pure _
          · exact lawful.bind (lawful.log nofun) fun _ => ih _ _

theorem build_reporting (policy : FailurePolicy) (sink : Sink) (root : Path)
    (dependencies : List Dependency) : holds Built (build policy sink root dependencies) :=
  reporting.bind (logSkipped_lawful reporting.toLawful _) fun _ =>
    addCandidates_reporting reporting _ _ _ _ _

end

end

theorem build_quiet (policy : FailurePolicy) (sink : Sink) (root : Path)
    (dependencies : List Dependency) : (build policy sink root dependencies).IsQuiet :=
  build_reporting quiet_reporting policy sink root dependencies

/-! ## Which problems there are -/

/-- The diagnostic about a candidate, if it cannot be resolved. -/
def Candidate.problem? (disk : Listing) (cwd : List String) (candidate : Candidate) :
    Option Diagnostic :=
  match candidate.location with
  | none => some (candidate.diagnostic none)
  | some location =>
    match Disk.resolve disk cwd location with
    | .error (.linkLoop path) => some (candidate.diagnostic (some (.linkLoop path)))
    | .error (.system error) => some (candidate.diagnostic (some (.system error)))
    | _ => none

/-- Every problem with a candidate is the diagnostic about it. -/
theorem Candidate.exists_cause {disk : Listing} {cwd : List String} {candidate : Candidate}
    {diagnostic : Diagnostic} (isProblem : candidate.problem? disk cwd = some diagnostic) :
    ∃ cause, diagnostic = candidate.diagnostic cause := by
  rw [Candidate.problem?] at isProblem
  split at isProblem
  · cases isProblem
    exact ⟨_, rfl⟩
  · split at isProblem <;> cases isProblem
    · exact ⟨_, rfl⟩
    · exact ⟨_, rfl⟩

/-- The diagnostics about the candidates that cannot be resolved, in the order of the candidates. -/
def problems (disk : Listing) (cwd : List String) (root : Path) (dependencies : List Dependency) :
    List Diagnostic :=
  (candidates root dependencies).filterMap (·.problem? disk cwd)

/-- Every problem is a warning about the class path. -/
theorem of_mem_problems {disk : Listing} {cwd : List String} {root : Path}
    {dependencies : List Dependency} {diagnostic : Diagnostic}
    (member : diagnostic ∈ problems disk cwd root dependencies) :
    diagnostic.stage = .classpath ∧ diagnostic.severity = .warning := by
  obtain ⟨candidate, -, isProblem⟩ := List.mem_filterMap.1 member
  obtain ⟨cause, rfl⟩ := Candidate.exists_cause isProblem
  exact ⟨rfl, rfl⟩

end Classpath

namespace FailurePolicy

/-- The problems that a run meets with: only the first one if that ends the run. -/
def met : FailurePolicy → List Diagnostic → List Diagnostic
  | .failFast, problems => problems.take 1
  | .tolerant, problems => problems

/-- The problem that ends a run, if one does. -/
def stopped : FailurePolicy → List Diagnostic → Option Diagnostic
  | .failFast, problems => problems.head?
  | .tolerant, _ => none

@[simp] theorem met_nil (policy : FailurePolicy) : policy.met [] = [] := by
  cases policy <;> rfl

@[simp] theorem stopped_nil (policy : FailurePolicy) : policy.stopped [] = none := by
  cases policy <;> rfl

/-- If no problem ends the run, it meets with all of them. -/
theorem met_of_not_stopped {policy : FailurePolicy} {problems : List Diagnostic}
    (goesOn : policy.stopped problems = none) : policy.met problems = problems := by
  cases policy with
  | tolerant => rfl
  | failFast =>
      rw [stopped, List.head?_eq_none_iff] at goesOn
      rw [goesOn, met_nil]

end FailurePolicy

namespace Classpath

/-! ## Locations that can be looked up -/

/-- A location, if there is one, that can be looked up: no character in it is null. -/
def Candidate.IsNameable (candidate : Candidate) : Prop :=
  ∀ location, candidate.location = some location → Disk.hasNul location = false

/-- A location without null characters is resolved or leads in a circle. -/
theorem resolve_of_nameable {location : Path} (noNul : Disk.hasNul location = false)
    (disk : Listing) (cwd : List String) :
    ∃ path, Disk.resolve disk cwd location = .ok path ∨
      Disk.resolve disk cwd location = .error (.linkLoop path) := by
  refine ⟨Disk.realPath disk cwd location, ?_⟩
  simp only [Disk.resolve, noNul, Bool.false_eq_true, ↓reduceIte]
  split
  · next code _ =>
      by_cases circle : code = SystemError.tooManyLinks
      · exact .inr (by simp [circle])
      · exact .inl (by simp [circle])
  · exact .inl rfl

end Classpath

end Enhance
