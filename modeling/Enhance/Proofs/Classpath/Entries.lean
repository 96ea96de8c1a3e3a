import Enhance.Proofs.Classpath.Assembly
import Mathlib.Data.List.Basic

/-!
# The entries of a class path

The entries of a class path are the real places of the locations it is made of, each where it occurs
first; the problems are about the locations that have none.  From this follow what is known of the order
and the number of entries and problems, when building answers at all, and what the first entry is.
-/

namespace Enhance

open Program

/-! ## Small trees -/

namespace Sample

/-- A directory with class files beside an archive, to which a link leads. Another link leads back to
itself. -/
def aliased : World :=
  { disk :=
      .dir "w" (.link "alias.jar" "../w/lib.jar" (.dir "classes" .empty
        (.file "lib.jar" ⟨[], 0o644, false⟩ (.link "loop" "loop" .empty)))) .empty
    cwd := ["w"]
    now := default }

/-- The directory of the class files. -/
def classes : Path := ⟨.relative, ["classes"], by decide⟩

/-- A path that never ends. -/
def endless : Path := ⟨.relative, ["loop"], by decide⟩

/-- The archive, named by the link to it. -/
def archive : Dependency :=
  { file := some ⟨.relative, ["alias.jar"], by decide⟩ }

/-- The archive, named in three ways, a dependency of the tests and one that leads nowhere. -/
def spellings : List Dependency :=
  [{ file := some ⟨.relative, ["classes", "..", "lib.jar"], by decide⟩ },
    { file := none, scope := .test },
    { file := some ⟨.root, ["w", "alias.jar"], by decide⟩, scope := .runtime },
    { file := some endless },
    { file := some ⟨.relative, ["lib.jar"], by decide⟩, scope := .provided }]

/-- The settings of a dependency whose file no call of the system can be about. -/
def unspeakable : Value :=
  .mapping [(.text "file", .text "nul\x00.jar")]

/-- The dependency that these settings describe. -/
def unnameable : Dependency :=
  { file := some ⟨.relative, ["nul\x00.jar"], by decide⟩ }

end Sample

namespace Classpath

variable {policy : FailurePolicy} {sink : Sink} {built : Built} {world after : World}
  {disk : Listing} {cwd : List String} {root : Path} {dependencies : List Dependency}

/-! ## What is found, and where it fails -/

theorem places_candidates (disk : Listing) (cwd : List String) (root : Path)
    (dependencies : List Dependency) :
    places disk cwd (candidates root dependencies) =
      (sought root dependencies).filterMap (place? disk cwd) := by
  rw [← map_location_candidates, List.filterMap_map]
  rfl

/-- What is sought is the root and the files of the dependencies that are not left to tests. -/
theorem mem_sought_iff {location : Option Path} : location ∈ sought root dependencies ↔
    location = some root ∨
      ∃ dependency ∈ dependencies, dependency.isTest = false ∧ dependency.file = location := by
  simp [sought, and_assoc]

theorem mem_places_iff {place : Path} :
    place ∈ (sought root dependencies).filterMap (place? disk cwd) ↔
      Disk.resolve disk cwd root = .ok place ∨
        ∃ dependency ∈ dependencies, dependency.isTest = false ∧
          ∃ file, dependency.file = some file ∧ Disk.resolve disk cwd file = .ok place := by
  simp only [List.mem_filterMap, mem_sought_iff, place?_eq_some_iff]
  constructor
  · rintro ⟨location, rfl | ⟨dependency, member, used, rfl⟩, path, same, resolves⟩
    · cases same
      exact .inl resolves
    · exact .inr ⟨dependency, member, used, path, same, resolves⟩
  · rintro (resolves | ⟨dependency, member, used, file, same, resolves⟩)
    · exact ⟨some root, .inl rfl, root, rfl, resolves⟩
    · exact ⟨dependency.file, .inr ⟨dependency, member, used, rfl⟩, file, same, resolves⟩

/-- There is one problem about each location that is a failure, in the order of the locations. -/
theorem map_problems (list : List Candidate) (disk : Listing) (cwd : List String) :
    (list.filterMap (·.problem? disk cwd)).map (fun problem =>
        (problem.path, problem.severity, problem.stage)) =
      ((list.map (·.location)).filter (isFailure disk cwd)).map fun location =>
        (location, .warning, .classpath) := by
  induction list with
  | nil => rfl
  | cons candidate rest ih =>
      rw [List.map_cons]
      rcases candidate.problem?_cases disk cwd with ⟨none, fine⟩ | ⟨cause, problem, fails⟩
      · rw [List.filterMap_cons_none none, List.filter_cons_of_neg (by simp [fine]), ih]
      · rw [List.filterMap_cons_some problem, List.filter_cons_of_pos fails, List.map_cons,
          List.map_cons, ih]
        rfl

theorem problems_eq_nil_iff : problems disk cwd root dependencies = [] ↔
    ∀ location ∈ sought root dependencies, isFailure disk cwd location = false := by
  have same := map_problems (candidates root dependencies) disk cwd
  rw [map_location_candidates] at same
  rw [problems, ← List.map_eq_nil_iff, same]
  simp

/-- There is a class path unless a problem ended the building, and then its entries are the places of what
is sought, each where it occurs first. -/
theorem classpath_of_assembled {classpath : Classpath}
    (found : (assembled policy disk cwd (candidates root dependencies) [] []).classpath =
      some classpath) : policy.stopped (problems disk cwd root dependencies) = none ∧
      classpath.entries = ((sought root dependencies).filterMap (place? disk cwd)).eraseDups := by
  simp only [assembled, List.nil_append] at found
  split at found
  · next goesOn =>
      cases found
      rw [← places_candidates, List.removeAll_nil]
      exact ⟨goesOn, rfl⟩
  · contradiction

/-! ## Order, number and policy -/

/-- When building a class path comes to an end, the entries are the real places of the root and of the
dependencies that are not left to tests, in order, each where it occurs first: all are absolute, none
occurs twice, and a place is among them exactly if one of these leads to it.  Dependencies that are left to
tests make no difference.  A tolerant run goes on with one warning about each location that is a failure, in
order; otherwise there is no class path exactly if there is such a location, and the first one ends the
run. -/
theorem build_collects (done : build policy sink root dependencies world = .ok built after) :
    (∀ classpath, built.classpath = some classpath →
      classpath.entries =
          ((sought root dependencies).filterMap (place? world.disk world.cwd)).eraseDups ∧
        (∀ entry ∈ classpath.entries, entry.isAbsolute = true) ∧ classpath.entries.Nodup ∧
        ∀ place, place ∈ classpath.entries ↔
          Disk.resolve world.disk world.cwd root = .ok place ∨
            ∃ dependency ∈ dependencies, dependency.isTest = false ∧
              ∃ file, dependency.file = some file ∧
                Disk.resolve world.disk world.cwd file = .ok place) ∧
    (∀ others, others.filter (!·.isTest) = dependencies.filter (!·.isTest) →
      ∃ after', build policy sink root others world = .ok built after') ∧
    (problems world.disk world.cwd root dependencies).map (fun problem =>
        (problem.path, problem.severity, problem.stage)) =
      ((sought root dependencies).filter (isFailure world.disk world.cwd)).map (fun location =>
        (location, .warning, .classpath)) ∧
    (policy = .tolerant → built.classpath.isSome = true ∧ built.abort = none ∧
      built.diagnostics = problems world.disk world.cwd root dependencies) ∧
    (policy = .failFast →
      (built.classpath = none ↔
        ∃ location ∈ sought root dependencies, isFailure world.disk world.cwd location = true) ∧
      built.abort = (problems world.disk world.cwd root dependencies).head? ∧
      built.diagnostics = built.abort.toList) := by
  obtain ⟨answerable, rfl⟩ := build_ok_iff.1 ⟨after, done⟩
  refine ⟨?entries, ?tests, ?subjects, ?tolerant, ?failFast⟩
  case entries =>
    intro classpath found
    obtain ⟨-, same⟩ := classpath_of_assembled found
    have mem (place : Path) : place ∈ classpath.entries ↔
        place ∈ (sought root dependencies).filterMap (place? world.disk world.cwd) := by
      rw [same, List.mem_eraseDups]
    refine ⟨same, ?_, ?_, fun place => (mem place).trans mem_places_iff⟩
    · intro entry member
      rcases mem_places_iff.1 ((mem entry).1 member) with resolves | ⟨_, _, _, _, _, resolves⟩
      · exact Disk.isAbsolute_of_resolve resolves
      · exact Disk.isAbsolute_of_resolve resolves
    · rw [same]
      exact nodup_eraseDups _
  case tests =>
    intro others same
    have asked : sought root others = sought root dependencies := by
      rw [sought, same, sought]
    apply build_ok_iff.2
    rw [Answerable, asked, candidates_congr same]
    exact ⟨answerable, rfl⟩
  case subjects =>
    rw [← map_location_candidates]
    exact map_problems _ _ _
  case tolerant =>
    rintro rfl
    exact ⟨rfl, rfl, List.nil_append _⟩
  case failFast =>
    rintro rfl
    refine ⟨?_, rfl, ?_⟩
    · have none_iff : (assembled .failFast world.disk world.cwd (candidates root dependencies) []
          []).classpath = none ↔ problems world.disk world.cwd root dependencies ≠ [] := by
        simp [assembled, problems, FailurePolicy.stopped]
      rw [none_iff, Ne, problems_eq_nil_iff]
      simp
    · change [] ++ (problems _ _ _ _).take 1 = (problems _ _ _ _).head?.toList
      cases problems world.disk world.cwd root dependencies <;> rfl

/-- Locations that are the same place written differently become one entry, and a path that never ends
becomes a warning. -/
theorem build_collects_spellings : ∃ (built : Built) (classpath : Classpath) (after : World),
    build .tolerant .collecting Sample.classes Sample.spellings Sample.aliased = .ok built after ∧
      built.classpath = some classpath ∧
      classpath.entries.map Path.toString = ["/w/classes", "/w/lib.jar"] ∧
      classpath.entries =
        ((sought Sample.classes Sample.spellings).filterMap
          (place? Sample.aliased.disk Sample.aliased.cwd)).eraseDups ∧
      classpath.entries.Nodup ∧
      built.diagnostics = problems Sample.aliased.disk Sample.aliased.cwd Sample.classes
        Sample.spellings ∧
      built.diagnostics.map (·.path) = [some Sample.endless] ∧
      ∃ after', build .tolerant .collecting Sample.classes (Sample.spellings.eraseIdx 1)
        Sample.aliased = .ok built after' := by
  have ends : (build .tolerant .collecting Sample.classes Sample.spellings).endsWith (fun built =>
      built.classpath.map (·.entries.map Path.toString) = some ["/w/classes", "/w/lib.jar"] &&
        built.diagnostics.map (·.path) = [some Sample.endless]) Sample.aliased = true := by
    decide +kernel
  obtain ⟨built, after, done, checked⟩ := ok_of_endsWith ends
  simp only [Bool.and_eq_true, decide_eq_true_eq] at checked
  obtain ⟨entries, tests, -, tolerant, -⟩ := build_collects done
  obtain ⟨classpath, found, shown⟩ := Option.map_eq_some_iff.1 checked.1
  obtain ⟨same, -, distinct, -⟩ := entries classpath found
  obtain ⟨-, -, diagnostics⟩ := tolerant rfl
  exact ⟨built, classpath, after, done, found, shown, same, distinct, diagnostics, checked.2,
    tests _ (by decide)⟩

/-! ## When there is an answer -/

/-- The problems that building meets with are those of the candidates that are looked up. -/
theorem met_problems (policy : FailurePolicy) (disk : Listing) (cwd : List String)
    (list : List Candidate) : policy.met (list.filterMap (·.problem? disk cwd)) =
      (lookedUp policy disk cwd list).filterMap (·.problem? disk cwd) := by
  cases policy with
  | tolerant => rw [lookedUp_tolerant, FailurePolicy.met]
  | failFast =>
      induction list with
      | nil => rfl
      | cons candidate rest ih =>
          rcases candidate.problem?_cases disk cwd with ⟨none, fine⟩ | ⟨cause, problem, fails⟩
          · rw [lookedUp_of_fine fine, List.filterMap_cons_none none, List.filterMap_cons_none none,
              ih]
          · rw [List.filterMap_cons_some problem]
            simp [lookedUp, FailurePolicy.reached, fails, problem, FailurePolicy.met]

theorem diagnostics_of_assembled :
    (assembled policy disk cwd (candidates root dependencies) [] []).diagnostics.map
        (fun diagnostic => (diagnostic.path, diagnostic.stage)) =
      ((policy.reached (isFailure disk cwd) (sought root dependencies)).filter
        (isFailure disk cwd)).map fun location => (location, .classpath) := by
  have all := congrArg (List.map fun (location, _, stage) => (location, stage))
    (map_problems (lookedUp policy disk cwd (candidates root dependencies)) disk cwd)
  rw [FailurePolicy.map_reached, map_location_candidates, List.map_map, List.map_map] at all
  rw [assembled, List.nil_append, met_problems]
  exact all

/-- A location that can be handed to the system has a place or is a failure. -/
theorem exists_place_of_fine {location : Option Path}
    (nameable : ∀ path, location = some path → Disk.hasNul path = false)
    (fine : isFailure disk cwd location = false) : ∃ place, place? disk cwd location = some place := by
  cases location with
  | none => contradiction
  | some path =>
      obtain ⟨place, resolves | circle⟩ := resolve_of_nameable (nameable path rfl) disk cwd
      · exact ⟨place, place?_eq_some_iff.2 ⟨path, rfl, resolves⟩⟩
      · simp [isFailure, circle] at fine

/-- Building a class path comes to an end exactly if no location that is looked up has a name that no call
of the system can be about.  Locations are texts of characters, so that this is a name with a null
character, and this is all that building can fail with.  When it comes to an end, there is one
diagnostic about each location that was looked up and is a failure, in order, and the place of every other
one is an entry of the class path, if there is one. -/
theorem build_answers_iff (policy : FailurePolicy) (sink : Sink) (root : Path)
    (dependencies : List Dependency) (world : World) :
    ((∃ built after, build policy sink root dependencies world = .ok built after) ↔
      Answerable policy world.disk world.cwd root dependencies) ∧
    (∀ failure after, build policy sink root dependencies world = .error failure after →
      failure = .embeddedNul) ∧
    ∀ built after, build policy sink root dependencies world = .ok built after →
      built.diagnostics.map (fun diagnostic => (diagnostic.path, diagnostic.stage)) =
        ((policy.reached (isFailure world.disk world.cwd) (sought root dependencies)).filter
          (isFailure world.disk world.cwd)).map (fun location => (location, .classpath)) ∧
      ∀ location ∈ policy.reached (isFailure world.disk world.cwd) (sought root dependencies),
        isFailure world.disk world.cwd location = true ∨
          ∃ place, place? world.disk world.cwd location = some place ∧
            ∀ classpath, built.classpath = some classpath → place ∈ classpath.entries := by
  refine ⟨?ends, ?fails, ?answer⟩
  case ends =>
    constructor
    · rintro ⟨built, done⟩
      exact (build_ok_iff.1 done).1
    · intro answerable
      exact ⟨_, build_ok_iff.2 ⟨answerable, rfl⟩⟩
  case fails =>
    intro failure after failed
    obtain ⟨last, ends, -⟩ := build_gives policy sink root dependencies world
    rw [failed, outcome] at ends
    split at ends <;> cases ends
    rfl
  case answer =>
    intro built after done
    obtain ⟨answerable, rfl⟩ := build_ok_iff.1 ⟨after, done⟩
    refine ⟨diagnostics_of_assembled, ?_⟩
    intro location reached
    by_cases fails : isFailure world.disk world.cwd location = true
    · exact .inl fails
    · obtain ⟨place, there⟩ :=
        exists_place_of_fine (answerable location reached) (by simpa using fails)
      refine .inr ⟨place, there, ?_⟩
      intro classpath found
      rw [(classpath_of_assembled found).2, List.mem_eraseDups]
      exact List.mem_filterMap.2 ⟨location, FailurePolicy.reached_subset reached, there⟩

/-- A root that never ends is the only problem of a run that stops at the first failure, although a
dependency has a name that no call of the system can be about. -/
theorem build_answers_iff_endless : ∃ (built : Built) (after : World),
    build .failFast .collecting Sample.endless [Sample.unnameable] Sample.aliased = .ok built after ∧
      ¬ Answerable .tolerant Sample.aliased.disk Sample.aliased.cwd Sample.endless
        [Sample.unnameable] ∧
      built.diagnostics.map (fun diagnostic => (diagnostic.path, diagnostic.stage)) =
        [(some Sample.endless, .classpath)] := by
  have answerable : Answerable .failFast Sample.aliased.disk Sample.aliased.cwd Sample.endless
      [Sample.unnameable] := by
    have reached : FailurePolicy.failFast.reached
        (isFailure Sample.aliased.disk Sample.aliased.cwd)
        (sought Sample.endless [Sample.unnameable]) = [some Sample.endless] := by
      decide +kernel
    rw [Answerable, reached]
    rintro location member path rfl
    cases List.mem_singleton.1 member
    decide
  have refused : ¬ Answerable .tolerant Sample.aliased.disk Sample.aliased.cwd Sample.endless
      [Sample.unnameable] := by
    intro answerable
    have named := answerable Sample.unnameable.file (by decide +kernel) _ rfl
    revert named
    decide
  obtain ⟨ends, -, answer⟩ := build_answers_iff .failFast .collecting Sample.endless
    [Sample.unnameable] Sample.aliased
  obtain ⟨built, after, done⟩ := ends.2 answerable
  refine ⟨built, after, done, refused, ?_⟩
  rw [(answer built after done).1]
  decide +kernel

/-- A dependency that settings may name ends a tolerant run, because its path cannot be resolved at all. -/
theorem build_fails_unspeakable : ∃ (dependency : Dependency) (after : World),
    (Dependency.ofValue Sample.unspeakable).value? = some dependency ∧
      build .tolerant .collecting Sample.classes [dependency] Sample.aliased =
        .error .embeddedNul after := by
  have accepted : (Dependency.ofValue Sample.unspeakable).value? = some Sample.unnameable := by
    decide +kernel
  have fails : (build .tolerant .collecting Sample.classes [Sample.unnameable]).failsWith
      (fun failure => failure = .embeddedNul) Sample.aliased = true := by
    decide +kernel
  obtain ⟨failure, after, failed, same⟩ := error_of_failsWith fails
  rw [decide_eq_true_eq] at same
  exact ⟨Sample.unnameable, after, accepted, same ▸ failed⟩

/-! ## What comes first -/

/-- If there is a class path, the real place of the root is its first entry, unless the root leads in a
circle: then a tolerant run leaves it out with the first of its warnings, and the entries are the places of
the dependencies. -/
theorem build_starts {classpath : Classpath}
    (done : build policy sink root dependencies world = .ok built after)
    (found : built.classpath = some classpath) :
    (∃ place, Disk.resolve world.disk world.cwd root = .ok place ∧
      classpath.root? = some place) ∨
    (policy = .tolerant ∧
      (∃ circle, Disk.resolve world.disk world.cwd root = .error (.linkLoop circle)) ∧
      (∃ diagnostic, built.diagnostics.head? = some diagnostic ∧ diagnostic.path = some root ∧
        diagnostic.stage = .classpath) ∧
      classpath.entries = ((dependencies.filter (!·.isTest)).filterMap fun dependency =>
        place? world.disk world.cwd dependency.file).eraseDups) := by
  obtain ⟨answerable, rfl⟩ := build_ok_iff.1 ⟨after, done⟩
  obtain ⟨goesOn, same⟩ := classpath_of_assembled found
  have nameable := answerable (some root) (FailurePolicy.mem_reached_first _ _ _ _) root rfl
  obtain ⟨place, resolves | circle⟩ := resolve_of_nameable nameable world.disk world.cwd
  · refine .inl ⟨place, resolves, ?_⟩
    have there : place? world.disk world.cwd (some root) = some place :=
      place?_eq_some_iff.2 ⟨root, rfl, resolves⟩
    rw [root?, same, sought, List.filterMap_cons_some there, List.eraseDups_cons]
    rfl
  · have nowhere : place? world.disk world.cwd (some root) = none := by
      simp [place?, circle, Except.toOption]
    have problem : (candidates root dependencies).filterMap (·.problem? world.disk world.cwd) =
        Candidate.diagnostic ⟨some root, "classes root"⟩ (some (.linkLoop place)) ::
          ((dependencies.filter (!·.isTest)).map Candidate.ofDependency).filterMap
            (·.problem? world.disk world.cwd) := by
      apply List.filterMap_cons_some
      simp [Candidate.problem?, circle]
    cases policy with
    | failFast =>
        rw [problems, problem] at goesOn
        contradiction
    | tolerant =>
        refine .inr ⟨rfl, ⟨place, circle⟩,
          ⟨Candidate.diagnostic ⟨some root, "classes root"⟩ (some (.linkLoop place)), ?_, rfl, rfl⟩, ?_⟩
        · rw [assembled, List.nil_append, FailurePolicy.met, problem]
          rfl
        · rw [same, sought, List.filterMap_cons_none nowhere, List.filterMap_map]
          rfl

/-- A class path starts with the root that it is built for. -/
theorem build_starts_spellings : ∃ (built : Built) (classpath : Classpath) (after : World),
    build .tolerant .collecting Sample.classes Sample.spellings Sample.aliased = .ok built after ∧
      built.classpath = some classpath ∧
      ∃ place, Disk.resolve Sample.aliased.disk Sample.aliased.cwd Sample.classes = .ok place ∧
        classpath.root? = some place := by
  have ends : (build .tolerant .collecting Sample.classes Sample.spellings).endsWith (fun built =>
      built.classpath.isSome && (built.diagnostics.map (·.path)).head? ≠ some (some Sample.classes))
      Sample.aliased = true := by
    decide +kernel
  obtain ⟨built, after, done, checked⟩ := ok_of_endsWith ends
  simp only [Bool.and_eq_true, decide_eq_true_eq] at checked
  obtain ⟨classpath, found⟩ := Option.isSome_iff_exists.1 checked.1
  refine ⟨built, classpath, after, done, found, ?_⟩
  obtain starts | ⟨-, -, ⟨diagnostic, first, about, -⟩, -⟩ := build_starts done found
  · exact starts
  · exact absurd (by rw [List.head?_map, first, Option.map_some, about]) checked.2

/-- The class path of a root that never ends starts with a dependency, and without dependencies it has no
first entry. -/
theorem build_starts_elsewhere : ∃ (built without : Built) (one none' : Classpath)
    (after after' : World) (place : Path),
    build .tolerant .collecting Sample.endless [Sample.archive] Sample.aliased = .ok built after ∧
      built.classpath = some one ∧ one.root? = some place ∧
      (∃ file, Sample.archive.file = some file ∧
        Disk.resolve Sample.aliased.disk Sample.aliased.cwd file = .ok place) ∧
      (∀ place', Disk.resolve Sample.aliased.disk Sample.aliased.cwd Sample.endless ≠ .ok place') ∧
      build .tolerant .collecting Sample.endless [] Sample.aliased = .ok without after' ∧
      without.classpath = some none' ∧ none'.root? = none := by
  have ends : (build .tolerant .collecting Sample.endless [Sample.archive]).endsWith (fun built =>
      built.classpath = some ⟨[⟨.root, ["w", "lib.jar"], by decide⟩]⟩) Sample.aliased = true := by
    decide +kernel
  have alone : (build .tolerant .collecting Sample.endless []).endsWith (fun built =>
      built.classpath = some ⟨[]⟩) Sample.aliased = true := by
    decide +kernel
  have leads : Disk.resolve Sample.aliased.disk Sample.aliased.cwd
      ⟨.relative, ["alias.jar"], by decide⟩ = .ok ⟨.root, ["w", "lib.jar"], by decide⟩ := by
    decide +kernel
  have circles : Disk.resolve Sample.aliased.disk Sample.aliased.cwd Sample.endless =
      .error (.linkLoop ⟨.root, ["w", "loop"], by decide⟩) := by
    decide +kernel
  obtain ⟨built, after, done, found⟩ := ok_of_endsWith ends
  obtain ⟨without, after', done', nothing⟩ := ok_of_endsWith alone
  rw [decide_eq_true_eq] at found nothing
  refine ⟨built, without, ⟨[⟨.root, ["w", "lib.jar"], by decide⟩]⟩, ⟨[]⟩, after, after',
    ⟨.root, ["w", "lib.jar"], by decide⟩, done, found, rfl, ⟨_, rfl, leads⟩, ?_, done', nothing, rfl⟩
  intro place' resolves
  cases circles.symm.trans resolves

end Classpath

end Enhance
