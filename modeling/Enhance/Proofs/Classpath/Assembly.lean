import Enhance.Proofs.Calm
import Enhance.Proofs.Classpath
import Enhance.Proofs.Distinct
import Enhance.Proofs.Path

/-!
# What a class path is assembled from

Building a class path depends on the files, the policy and the locations it is asked to look up, and on
nothing else (`build_gives`): `build_ok_iff` says when it comes to an end and what it comes to then.  Either
there is a class path or the first problem ended the run, and the latter only happens under the policy that
says so (`Comes`).
-/

namespace Enhance

open Program

namespace Disk

variable {disk : Listing} {cwd : List String} {path place : Path}

theorem isAbsolute_cwdPath (cwd : List String) : (cwdPath cwd).isAbsolute = true := by
  have slash : ("/" ++ "/".intercalate cwd).toList = '/' :: ("/".intercalate cwd).toList := by
    simp
  simp [Path.isAbsolute, cwdPath, Path.ofString, slash, Path.anchorOf_slash_ne]

/-- A path that is resolved becomes its real path. -/
theorem eq_realPath_of_resolve (resolves : resolve disk cwd path = .ok place) :
    place = realPath disk cwd path := by
  rw [resolve] at resolves
  split at resolves
  · contradiction
  · dsimp only at resolves
    split at resolves
    · split at resolves <;> cases resolves
      rfl
    · cases resolves
      rfl

theorem isAbsolute_of_resolve (resolves : resolve disk cwd path = .ok place) :
    place.isAbsolute = true := by
  rw [eq_realPath_of_resolve resolves, realPath]
  exact Path.isAbsolute_append (isAbsolute_cwdPath cwd)

end Disk

namespace Classpath

variable {policy : FailurePolicy} {sink : Sink} {built : Built} {world after : World}
  {disk : Listing} {cwd : List String} {root : Path} {dependencies : List Dependency}

/-! ## Locations -/

/-- The locations that a class path is to be made of, in order: the root and those of the dependencies
that are not left to tests.  A dependency need not have one. -/
def sought (root : Path) (dependencies : List Dependency) : List (Option Path) :=
  some root :: (dependencies.filter (!·.isTest)).map (·.file)

/-- The real place of a location, if there is a location and it has one. -/
def place? (disk : Listing) (cwd : List String) (location : Option Path) : Option Path :=
  location.bind fun path => (Disk.resolve disk cwd path).toOption

/-- Whether a location counts as a failure of the class path: there is none, or the system cannot resolve
it.  That a path cannot be handed to the system at all is another failure. -/
def isFailure (disk : Listing) (cwd : List String) : Option Path → Bool
  | none => true
  | some path =>
    match Disk.resolve disk cwd path with
    | .error (.linkLoop _) | .error (.system _) => true
    | _ => false

@[simp] theorem map_location_candidates (root : Path) (dependencies : List Dependency) :
    (candidates root dependencies).map (·.location) = sought root dependencies := by
  simp [candidates, sought, Candidate.ofDependency]

/-- The candidates depend on the dependencies that are not left to tests alone. -/
theorem candidates_congr {others : List Dependency}
    (same : others.filter (!·.isTest) = dependencies.filter (!·.isTest)) (root : Path) :
    candidates root others = candidates root dependencies := by
  rw [candidates, candidates, same]

theorem place?_eq_some_iff {location : Option Path} {place : Path} :
    place? disk cwd location = some place ↔
      ∃ path, location = some path ∧ Disk.resolve disk cwd path = .ok place := by
  cases location with
  | none => simp [place?]
  | some path =>
      simp only [place?, Option.bind_some, Option.some.injEq, exists_eq_left']
      cases Disk.resolve disk cwd path with
      | ok found => simp [Except.toOption]
      | error failure => simp [Except.toOption]

namespace Candidate

variable {candidate : Candidate}

/-- What is known of a candidate once it was looked up. -/
inductive Verdict (disk : Listing) (cwd : List String) (candidate : Candidate) :
    Except Failure Resolved → Prop
  | found (path : Path) (nameable : candidate.IsNameable)
      (place : place? disk cwd candidate.location = some path)
      (fine : isFailure disk cwd candidate.location = false)
      (noProblem : candidate.problem? disk cwd = none) : Verdict disk cwd candidate (.ok (.ok path))
  | failed (cause : Option Failure) (nameable : candidate.IsNameable)
      (place : place? disk cwd candidate.location = none)
      (fails : isFailure disk cwd candidate.location = true)
      (problem : candidate.problem? disk cwd = some (candidate.diagnostic cause)) :
      Verdict disk cwd candidate (.ok (.failed cause))
  | refused (unnameable : ¬ candidate.IsNameable) : Verdict disk cwd candidate (.error .embeddedNul)

/-- Looking up a candidate has one of three outcomes. -/
theorem exists_verdict (candidate : Candidate) (world : World) :
    ∃ result, (resolveCandidate candidate).Gives world result ∧
      candidate.Verdict world.disk world.cwd result := by
  obtain ⟨location, label⟩ := candidate
  rw [resolveCandidate]
  cases location with
  | none =>
      refine ⟨_, gives_pure _ world, .failed none ?_ rfl rfl rfl⟩
      rintro _ ⟨⟩
  | some path =>
      dsimp only
      cases noNul : Disk.hasNul path with
      | true =>
          have refuses : Disk.resolve world.disk world.cwd path = .error .embeddedNul := by
            rw [Disk.resolve, noNul, if_pos rfl]
          refine ⟨.error .embeddedNul, ⟨world, ?_, .refl world⟩, .refused ?_⟩
          · rw [get_bind, refuses]
            rfl
          · intro nameable
            rw [nameable path rfl] at noNul
            contradiction
      | false =>
          have nameable : IsNameable ⟨some path, label⟩ := by
            rintro _ ⟨⟩
            exact noNul
          obtain ⟨place, resolves | circle⟩ := resolve_of_nameable noNul world.disk world.cwd
          · refine ⟨.ok (.ok place), ⟨world, ?_, .refl world⟩, .found place nameable ?_ ?_ ?_⟩
            · rw [get_bind, resolves]
              rfl
            · exact place?_eq_some_iff.2 ⟨path, rfl, resolves⟩
            · simp [isFailure, resolves]
            · simp [problem?, resolves]
          · refine ⟨.ok (.failed (some (.linkLoop place))), ⟨world, ?_, .refl world⟩,
              .failed _ nameable ?_ ?_ ?_⟩
            · rw [get_bind, circle]
              rfl
            · simp [place?, circle, Except.toOption]
            · simp [isFailure, circle]
            · simp [problem?, circle]

/-- There is a problem with a candidate exactly if its location is a failure. -/
theorem problem?_cases (candidate : Candidate) (disk : Listing) (cwd : List String) :
    (candidate.problem? disk cwd = none ∧ isFailure disk cwd candidate.location = false) ∨
      ∃ cause, candidate.problem? disk cwd = some (candidate.diagnostic cause) ∧
        isFailure disk cwd candidate.location = true := by
  rw [problem?, isFailure.eq_def]
  cases candidate.location with
  | none => exact .inr ⟨none, rfl, rfl⟩
  | some path =>
      dsimp only
      cases Disk.resolve disk cwd path with
      | ok place => exact .inl ⟨rfl, rfl⟩
      | error failure =>
          cases failure with
          | linkLoop circle => exact .inr ⟨some (.linkLoop circle), rfl, rfl⟩
          | system error => exact .inr ⟨some (.system error), rfl, rfl⟩
          | _ => exact .inl ⟨rfl, rfl⟩

end Candidate

end Classpath

namespace FailurePolicy

variable {α β : Type} {policy : FailurePolicy} {fails : α → Bool}

/-- What is looked at of a list: all of it, or what comes before the first failure, and that. -/
def reached (policy : FailurePolicy) (fails : α → Bool) : List α → List α
  | [] => []
  | first :: rest =>
    if policy = .failFast && fails first then [first] else first :: reached policy fails rest

theorem reached_tolerant (fails : α → Bool) (list : List α) :
    FailurePolicy.tolerant.reached fails list = list := by
  induction list with
  | nil => rfl
  | cons first rest ih => simp [reached, ih]

theorem mem_reached_first (policy : FailurePolicy) (fails : α → Bool) (first : α) (rest : List α) :
    first ∈ policy.reached fails (first :: rest) := by
  rw [reached]
  split <;> exact List.mem_cons_self

theorem reached_subset {list : List α} {value : α} (member : value ∈ policy.reached fails list) :
    value ∈ list := by
  induction list with
  | nil => exact member
  | cons first rest ih => grind [reached]

theorem map_reached (image : α → β) (fails : β → Bool) (list : List α) :
    (policy.reached (fun value => fails (image value)) list).map image =
      policy.reached fails (list.map image) := by
  induction list with
  | nil => rfl
  | cons first rest ih =>
      rw [List.map_cons, reached, reached]
      split
      · rfl
      · rw [List.map_cons, ih]

end FailurePolicy

namespace Classpath

variable {policy : FailurePolicy} {sink : Sink} {built : Built} {world after : World}
  {disk : Listing} {cwd : List String} {root : Path} {dependencies : List Dependency}

/-! ## What candidates come to -/

/-- The places of candidates that have one, in order. -/
def places (disk : Listing) (cwd : List String) (candidates : List Candidate) : List Path :=
  candidates.filterMap fun candidate => place? disk cwd candidate.location

theorem places_cons_some {candidate : Candidate} {path : Path}
    (place : place? disk cwd candidate.location = some path) (rest : List Candidate) :
    places disk cwd (candidate :: rest) = path :: places disk cwd rest :=
  List.filterMap_cons_some place

theorem places_cons_none {candidate : Candidate}
    (place : place? disk cwd candidate.location = none) (rest : List Candidate) :
    places disk cwd (candidate :: rest) = places disk cwd rest :=
  List.filterMap_cons_none place

/-- What candidates add to entries and diagnostics. -/
def assembled (policy : FailurePolicy) (disk : Listing) (cwd : List String)
    (candidates : List Candidate) (entries : List Path) (diagnostics : List Diagnostic) : Built :=
  let problems := candidates.filterMap (·.problem? disk cwd)
  { classpath :=
      if policy.stopped problems = none then
        some ⟨entries ++ ((places disk cwd candidates).removeAll entries).eraseDups⟩
      else none
    diagnostics := diagnostics ++ policy.met problems
    abort := policy.stopped problems }

/-- The candidates that are looked up. -/
abbrev lookedUp (policy : FailurePolicy) (disk : Listing) (cwd : List String) :
    List Candidate → List Candidate :=
  policy.reached fun candidate => isFailure disk cwd candidate.location

instance (candidate : Candidate) : Decidable candidate.IsNameable :=
  decidable_of_iff (candidate.location.all (!Disk.hasNul ·) = true) (by
    rw [Candidate.IsNameable]
    cases candidate.location <;> simp)

/-- What adding candidates to entries and diagnostics comes to: it fails if one of those that are looked up
cannot be handed to the system. -/
def outcome (policy : FailurePolicy) (disk : Listing) (cwd : List String) (candidates : List Candidate)
    (entries : List Path) (diagnostics : List Diagnostic) : Except Failure Built :=
  if ∀ candidate ∈ lookedUp policy disk cwd candidates, candidate.IsNameable then
    .ok (assembled policy disk cwd candidates entries diagnostics)
  else .error .embeddedNul

section

variable {candidate : Candidate} {rest candidates : List Candidate} {entries : List Path}
  {diagnostics : List Diagnostic}

theorem lookedUp_of_fine (fine : isFailure disk cwd candidate.location = false) :
    lookedUp policy disk cwd (candidate :: rest) = candidate :: lookedUp policy disk cwd rest := by
  simp [lookedUp, FailurePolicy.reached, fine]

theorem lookedUp_tolerant (disk : Listing) (cwd : List String) (candidates : List Candidate) :
    lookedUp .tolerant disk cwd candidates = candidates :=
  FailurePolicy.reached_tolerant _ candidates

/-- If no problem ends the run, all candidates are looked up. -/
theorem lookedUp_of_goesOn (goesOn : policy.stopped (candidates.filterMap (·.problem? disk cwd)) = none) :
    lookedUp policy disk cwd candidates = candidates := by
  cases policy with
  | tolerant => exact lookedUp_tolerant disk cwd candidates
  | failFast =>
      induction candidates with
      | nil => rfl
      | cons candidate rest ih =>
          rcases candidate.problem?_cases disk cwd with ⟨noProblem, fine⟩ | ⟨cause, problem, -⟩
          · rw [List.filterMap_cons_none noProblem] at goesOn
            rw [lookedUp_of_fine fine, ih goesOn]
          · rw [List.filterMap_cons_some problem] at goesOn
            contradiction

theorem outcome_nil : outcome policy disk cwd [] entries diagnostics =
    .ok ⟨some ⟨entries⟩, diagnostics, none⟩ := by
  simp [outcome, lookedUp, FailurePolicy.reached, assembled, places, List.removeAll]

section

variable {path : Path} (nameable : candidate.IsNameable)
  (place : place? disk cwd candidate.location = some path)
  (fine : isFailure disk cwd candidate.location = false)
  (noProblem : candidate.problem? disk cwd = none)

include nameable place fine noProblem

theorem outcome_of_known (known : path ∈ entries) :
    outcome policy disk cwd (candidate :: rest) entries diagnostics =
      outcome policy disk cwd rest entries diagnostics := by
  simp only [outcome, lookedUp_of_fine fine, List.forall_mem_cons, nameable, true_and, assembled,
    List.filterMap_cons_none noProblem, places_cons_some place, removeAll_cons_of_mem known]

theorem outcome_of_new (new : path ∉ entries) :
    outcome policy disk cwd (candidate :: rest) entries diagnostics =
      outcome policy disk cwd rest (entries ++ [path]) diagnostics := by
  simp only [outcome, lookedUp_of_fine fine, List.forall_mem_cons, nameable, true_and, assembled,
    List.filterMap_cons_none noProblem, places_cons_some place, append_eraseDups_of_notMem new]

end

section

variable {diagnostic : Diagnostic} (nameable : candidate.IsNameable)
  (problem : candidate.problem? disk cwd = some diagnostic)

include nameable problem

theorem outcome_of_tolerated (place : place? disk cwd candidate.location = none) :
    outcome .tolerant disk cwd (candidate :: rest) entries diagnostics =
      outcome .tolerant disk cwd rest entries (diagnostics ++ [diagnostic]) := by
  simp only [outcome, lookedUp_tolerant, List.forall_mem_cons, nameable, true_and, assembled,
    List.filterMap_cons_some problem, places_cons_none place, FailurePolicy.stopped,
    FailurePolicy.met, List.append_assoc, List.singleton_append]

theorem outcome_of_stopped (fails : isFailure disk cwd candidate.location = true) :
    outcome .failFast disk cwd (candidate :: rest) entries diagnostics =
      .ok ⟨none, diagnostics ++ [diagnostic], some diagnostic⟩ := by
  simp [outcome, lookedUp, FailurePolicy.reached, fails, nameable, assembled,
    List.filterMap_cons_some problem, FailurePolicy.stopped, FailurePolicy.met]

end

theorem outcome_of_refused (unnameable : ¬ candidate.IsNameable) :
    outcome policy disk cwd (candidate :: rest) entries diagnostics = .error .embeddedNul :=
  if_neg fun nameable => unnameable (nameable _ (FailurePolicy.mem_reached_first _ _ _ _))

/-- What adding candidates comes to depends on the files, the policy and the candidates alone. -/
theorem addCandidates_gives (policy : FailurePolicy) (sink : Sink) (candidates : List Candidate)
    (entries : List Path) (diagnostics : List Diagnostic) (world : World) :
    (addCandidates policy sink candidates entries diagnostics).Gives world
      (outcome policy world.disk world.cwd candidates entries diagnostics) := by
  induction candidates generalizing entries diagnostics world with
  | nil =>
      rw [outcome_nil]
      exact gives_pure _ world
  | cons candidate rest ih =>
      obtain ⟨result, gives, verdict⟩ := candidate.exists_verdict world
      rw [addCandidates]
      cases verdict with
      | found path nameable place fine noProblem =>
          refine gives.bind_ok fun middle calm => ?_
          dsimp only
          split
          · next known =>
              rw [outcome_of_known nameable place fine noProblem (by simpa using known), ← calm.disk,
                ← calm.cwd]
              exact ih _ _ middle
          · next new =>
              rw [outcome_of_new nameable place fine noProblem (by simpa using new)]
              refine (gives_log _ middle).bind_ok fun last calm' => ?_
              have calm := calm.trans calm'
              rw [← calm.disk, ← calm.cwd]
              exact ih _ _ last
      | failed cause nameable place fails problem =>
          refine gives.bind_ok fun middle calm => ?_
          refine (gives_report _ _ middle).bind_ok fun reported calm' => ?_
          have calm := calm.trans calm'
          cases policy with
          | failFast =>
              rw [outcome_of_stopped nameable problem fails]
              exact (gives_log _ reported).bind_ok fun last _ => gives_pure _ last
          | tolerant =>
              rw [outcome_of_tolerated nameable problem place]
              refine (gives_log _ reported).bind_ok fun last calm' => ?_
              have calm := calm.trans calm'
              rw [← calm.disk, ← calm.cwd]
              exact ih _ _ last
      | refused unnameable =>
          rw [outcome_of_refused unnameable]
          exact gives.bind_error

end

/-! ## What building comes to -/

theorem logSkipped_gives (dependencies : List Dependency) (world : World) :
    (logSkipped dependencies).Gives world (.ok ()) := by
  induction dependencies generalizing world with
  | nil => exact gives_pure _ world
  | cons dependency dependencies ih =>
      rw [logSkipped]
      split
      · exact (gives_log _ world).bind_ok fun middle _ => ih middle
      · exact ih world

theorem build_gives (policy : FailurePolicy) (sink : Sink) (root : Path)
    (dependencies : List Dependency) (world : World) :
    (build policy sink root dependencies).Gives world
      (outcome policy world.disk world.cwd (candidates root dependencies) [] []) := by
  refine (logSkipped_gives dependencies world).bind_ok fun middle calm => ?_
  rw [← calm.disk, ← calm.cwd]
  exact addCandidates_gives policy sink _ _ _ middle

/-- Whether all locations that are looked up can be handed to the system. -/
def Answerable (policy : FailurePolicy) (disk : Listing) (cwd : List String) (root : Path)
    (dependencies : List Dependency) : Prop :=
  ∀ location ∈ policy.reached (isFailure disk cwd) (sought root dependencies),
    ∀ path, location = some path → Disk.hasNul path = false

theorem answerable_iff : Answerable policy disk cwd root dependencies ↔
    ∀ candidate ∈ lookedUp policy disk cwd (candidates root dependencies), candidate.IsNameable := by
  rw [Answerable, ← map_location_candidates, ← FailurePolicy.map_reached, List.forall_mem_map]
  rfl

/-- Building a class path comes to an end exactly if all locations that are looked up can be handed to the
system, and what it comes to is said by the files, the policy and the candidates alone. -/
theorem build_ok_iff : (∃ after, build policy sink root dependencies world = .ok built after) ↔
    Answerable policy world.disk world.cwd root dependencies ∧
      built = assembled policy world.disk world.cwd (candidates root dependencies) [] [] := by
  obtain ⟨last, ends, -⟩ := build_gives policy sink root dependencies world
  rw [answerable_iff, ends, outcome]
  split
  · next nameable =>
      constructor
      · rintro ⟨after, done⟩
        cases done
        exact ⟨nameable, rfl⟩
      · rintro ⟨-, rfl⟩
        exact ⟨last, rfl⟩
  · next refused =>
      constructor
      · rintro ⟨after, done⟩
        cases done
      · exact fun both => absurd both.1 refused

/-! ## What is known of an outcome -/

/-- What building a class path comes to, given the diagnostics there were before. -/
inductive Comes (policy : FailurePolicy) (before : List Diagnostic) : Built → Prop
  /-- There is a class path; what could not be resolved was left out. -/
  | complete (classpath : Classpath) (problems : List Diagnostic)
      (stage : ∀ diagnostic ∈ problems, diagnostic.stage = .classpath)
      (tolerated : policy = .failFast → problems = []) :
      Comes policy before ⟨some classpath, before ++ problems, none⟩
  /-- The first problem ended the run. -/
  | stopped (diagnostic : Diagnostic) (stage : diagnostic.stage = .classpath)
      (failFast : policy = .failFast) :
      Comes policy before ⟨none, before ++ [diagnostic], some diagnostic⟩

section

variable {candidates : List Candidate} {entries : List Path} {diagnostics : List Diagnostic}

theorem comes_of_assembled (policy : FailurePolicy) (disk : Listing) (cwd : List String)
    (candidates : List Candidate) (entries : List Path) (diagnostics : List Diagnostic) :
    Comes policy diagnostics (assembled policy disk cwd candidates entries diagnostics) := by
  have stage : ∀ diagnostic ∈ candidates.filterMap (·.problem? disk cwd),
      diagnostic.stage = .classpath := by
    intro diagnostic member
    obtain ⟨candidate, -, isProblem⟩ := List.mem_filterMap.1 member
    obtain ⟨cause, rfl⟩ := Candidate.exists_cause isProblem
    rfl
  rw [assembled]
  generalize candidates.filterMap (·.problem? disk cwd) = problems at stage
  cases policy with
  | tolerant => exact .complete _ problems stage nofun
  | failFast =>
      cases problems with
      | nil => exact .complete _ [] stage fun _ => rfl
      | cons first rest => exact .stopped first (stage first List.mem_cons_self) rfl

theorem addCandidates_ok
    (done : addCandidates policy sink candidates entries diagnostics world = .ok built after) :
    Comes policy diagnostics built := by
  obtain ⟨last, ends, -⟩ := addCandidates_gives policy sink candidates entries diagnostics world
  rw [done, outcome] at ends
  split at ends
  · cases ends
    exact comes_of_assembled _ _ _ _ _ _
  · cases ends

end

section

variable (done : build policy sink root dependencies world = .ok built after)

include done

theorem build_ok : Comes policy [] built := by
  obtain ⟨-, rfl⟩ := build_ok_iff.1 ⟨after, done⟩
  exact comes_of_assembled _ _ _ _ _ _

/-- Building a class path meets with the problems that there are. -/
theorem build_problems :
    built.diagnostics = policy.met (problems world.disk world.cwd root dependencies) ∧
      built.abort = policy.stopped (problems world.disk world.cwd root dependencies) := by
  obtain ⟨-, rfl⟩ := build_ok_iff.1 ⟨after, done⟩
  exact ⟨List.nil_append _, rfl⟩

end

/-- If all candidates can be handed to the system, building a class path comes to an end. -/
theorem build_gives_of_nameable
    (nameable : ∀ candidate ∈ candidates root dependencies, candidate.IsNameable)
    (policy : FailurePolicy) (sink : Sink) (world : World) :
    (build policy sink root dependencies).Gives world
      (.ok (assembled policy world.disk world.cwd (candidates root dependencies) [] [])) := by
  have gives := build_gives policy sink root dependencies world
  rwa [outcome, if_pos fun candidate looked => nameable candidate (FailurePolicy.reached_subset looked)]
    at gives

/-- If no problem ends the run, all candidates can be handed to the system. -/
theorem build_nameable (done : build policy sink root dependencies world = .ok built after)
    (goesOn : built.abort = none) :
    ∀ candidate ∈ candidates root dependencies, candidate.IsNameable := by
  obtain ⟨answerable, rfl⟩ := build_ok_iff.1 ⟨after, done⟩
  rwa [answerable_iff, lookedUp_of_goesOn goesOn] at answerable

end Classpath

end Enhance
