import Enhance.Proofs.Transformer.Selection

/-!
# What selecting a transformer promises

Every name to choose from selects what has this name (`create_advertised`).  If a name leads nowhere, there
is no such transformer, unless looking it up fails otherwise (`resolve_lacking`).  What is selected is what
the name designates or what comes of calling it (`create_yields`).
-/

namespace Enhance

/-! ## What can be selected from in the examples -/

namespace Sample

/-- A module with a class of transformers and a function that gives the class. -/
def tools : Module :=
  { name := "tools"
    attributes := [
      ("Upper", .classOf (.capitals "Upper")),
      ("make", .callable { kind := "function" } (.ok (.classOf (.capitals "Upper"))))] }

/-- An installed package that offers a class of transformers. -/
def offer (name kind : String) : EntryPoint :=
  { name, reference := "tools:Upper", load := .ok (.classOf (.capitals kind)) }

/-- Two packages offer something under one name, one under the name of the built-in transformer in other
letters, and one under a name with a colon. -/
def crowded : Plugins :=
  { modules := { known := [tools] }
    entryPoints := [.noOp, offer "shout" "First", offer "shout" "Second", offer "NOOP" "Third",
      offer "a:b" "Fourth"] }

/-- A package that is installed and cannot be loaded. -/
def damaged : Plugins :=
  { modules := { known := [tools] }
    entryPoints := [{
      name := "broken"
      reference := "gone:Upper"
      load := .error (.raised "ImportError" "broken plugin") }] }

end Sample

namespace Plugins

variable {plugins : Plugins} {name : String} {object target : Object}

/-! ## Names to choose from -/

/-- Whether all entry points load classes that make transformers. -/
def IsSound (plugins : Plugins) : Prop :=
  ∀ entryPoint ∈ plugins.entryPoints, ∃ traits object,
    entryPoint.load = .ok (.type traits (.ok object)) ∧ object.IsUsable

/-- What comes of an entry point that loads a class. -/
theorem create_of_class {entryPoint : EntryPoint} {traits : Traits} (isInstalled : IsInstalled name)
    (first : plugins.FirstNamed name entryPoint)
    (loads : entryPoint.load = .ok (.type traits (.ok object))) (usable : object.IsUsable) :
    (plugins.create name).result = .ok object := by
  have yields : (Object.type traits (.ok object)).Yields object :=
    .called rfl rfl (Object.isTransformer_of_isUsable usable)
  rw [create_of_designates (.loaded isInstalled first loads), ofTarget_of_yields yields]

theorem exists_create_of_available (sound : plugins.IsSound) (listed : name ∈ plugins.available)
    (isInstalled : IsInstalled name) :
    ∃ entryPoint traits object, plugins.FirstNamed name entryPoint ∧
      entryPoint.load = .ok (.type traits (.ok object)) ∧ object.IsUsable ∧
      (plugins.create name).result = .ok object := by
  obtain ⟨entryPoint, first⟩ := exists_firstNamed listed isInstalled.other
  obtain ⟨traits, object, loads, usable⟩ := sound entryPoint first.mem
  exact ⟨entryPoint, traits, object, first, loads, usable, create_of_class isInstalled first loads usable⟩

/-- If all entry points can be loaded, a name is absent only if it cannot be chosen. -/
theorem notMem_available_of_absent {absentee : String} {listed : List String}
    {cause : Option ImportError} (sound : plugins.IsSound) (isInstalled : IsInstalled name)
    (fails : (plugins.create name).result = .error (.absent absentee listed cause)) :
    absentee = name ∧ listed = plugins.available ∧ name ∉ listed := by
  have unlisted : name ∉ plugins.available := by
    intro isListed
    obtain ⟨_, _, _, -, -, -, gives⟩ := exists_create_of_available sound isListed isInstalled
    rw [gives] at fails
    cases fails
  have unnamed : ∀ entryPoint ∈ plugins.entryPoints, entryPoint.name ≠ name := by
    intro entryPoint member same
    apply unlisted
    exact mem_available_iff.2 (.inr ⟨entryPoint, member, same⟩)
  rw [create_of_unnamed isInstalled unnamed] at fails
  cases fails
  exact ⟨rfl, rfl, unlisted⟩

/-- What a reference selects comes of the attribute that it leads to. -/
theorem create_reference_eq_ok_iff {moduleName member : String} (free : ':' ∉ moduleName.toList) :
    (plugins.create (moduleName ++ ":" ++ member)).result = .ok object ↔
      ∃ target, plugins.modules.follow moduleName.toList member.toList = .ok target ∧
        target.Yields object := by
  rw [create_of_reference free]
  cases plugins.modules.follow moduleName.toList member.toList with
  | error error => simp [result_ofImportError_ne_ok]
  | ok target =>
      constructor
      · intro gives
        exact ⟨target, rfl, yields_of_ofTarget gives⟩
      · rintro ⟨_, ⟨⟩, yields⟩
        exact congrArg Selection.result (ofTarget_of_yields yields)

/-- If all entry points load classes that make transformers, every name to choose from that is no reference
selects something: the built-in transformer if it is its name, in letters of any case, and else what comes of
the first entry point that has just this name.  So no such name is said to be absent while it can be chosen.
A name that is a reference selects the same whatever the entry points are. -/
theorem create_advertised (sound : plugins.IsSound) :
    (∀ name ∈ plugins.available, ':' ∉ name.toList →
      (IsBuiltIn name → (plugins.create name).result = .ok (.ofTransformer .noOp)) ∧
      (¬ IsBuiltIn name → ∃ entryPoint traits object, plugins.FirstNamed name entryPoint ∧
        entryPoint.load = .ok (.type traits (.ok object)) ∧ object.IsUsable ∧
        (plugins.create name).result = .ok object)) ∧
    (∀ name absentee listed cause, ':' ∉ name.toList →
      (plugins.create name).result = .error (.absent absentee listed cause) →
      absentee = name ∧ listed = plugins.available ∧ name ∉ listed) ∧
    ∀ (name : String) (entryPoints : List EntryPoint) (object : Object), ':' ∈ name.toList →
      (({ plugins with entryPoints }.create name).result = .ok object ↔
        (plugins.create name).result = .ok object) := by
  refine ⟨?chosen, ?missing, ?reference⟩
  case chosen =>
    intro name listed bare
    constructor
    · intro isBuiltIn
      rw [create_of_isBuiltIn isBuiltIn]
    · intro foreign
      exact exists_create_of_available sound listed ⟨bare, foreign⟩
  case missing =>
    intro name absentee listed cause bare fails
    by_cases isBuiltIn : IsBuiltIn name
    · rw [create_of_isBuiltIn isBuiltIn] at fails
      cases fails
    · exact notMem_available_of_absent sound ⟨bare, isBuiltIn⟩ fails
  case reference =>
    intro name entryPoints object isReference
    cases form name with
    | builtIn isBuiltIn => exact absurd isReference (colon_notMem_of_isBuiltIn isBuiltIn)
    | reference member free => rw [create_reference_eq_ok_iff free, create_reference_eq_ok_iff free]
    | installed isInstalled => exact absurd isReference isInstalled.bare

theorem isSound_crowded : Sample.crowded.IsSound := by
  have offered (name kind : String) : ∃ traits object,
      (Sample.offer name kind).load = .ok (.type traits (.ok object)) ∧ object.IsUsable :=
    ⟨_, _, rfl, rfl, _, rfl⟩
  intro entryPoint member
  simp only [Sample.crowded, List.mem_cons, List.not_mem_nil, or_false] at member
  rcases member with rfl | rfl | rfl | rfl | rfl
  · exact ⟨_, _, rfl, rfl, _, rfl⟩
  all_goals exact offered _ _

/-- The first of two packages is taken, and the name of the built-in transformer selects it. -/
theorem create_advertised_crowded :
    Sample.crowded.IsSound ∧ "shout" ∈ Sample.crowded.available ∧
    (Sample.crowded.create "shout").result = .ok (.ofTransformer (.capitals "First")) ∧
    (Sample.crowded.create "noop").result = .ok (.ofTransformer .noOp) ∧
    (Sample.crowded.create "other").result = .error (.absent "other" Sample.crowded.available none) ∧
    "other" ∉ Sample.crowded.available ∧
    ({ Sample.crowded with entryPoints := [] }.create "tools:Upper").result =
      .ok (.ofTransformer (.capitals "Upper")) := by
  obtain ⟨chosen, missing, reference⟩ := create_advertised isSound_crowded
  have shout : "shout" ∈ Sample.crowded.available := mem_available_iff.2 (.inr (by decide))
  have noop : "noop" ∈ Sample.crowded.available := mem_available_iff.2 (.inl rfl)
  obtain ⟨entryPoint, traits, object, first, loads, -, gives⟩ :=
    (chosen "shout" shout (by decide)).2 (by decide)
  have other : (Sample.crowded.create "other").result =
      .error (.absent "other" Sample.crowded.available none) :=
    congrArg Selection.result (create_of_unnamed ⟨by decide, by decide⟩ (by decide))
  have upper : (Sample.crowded.create "tools:Upper").result =
      .ok (.ofTransformer (.capitals "Upper")) := by rfl
  refine ⟨isSound_crowded, shout, ?_, (chosen "noop" noop (by decide)).1 (by decide), other,
    (missing _ _ _ _ (by decide) other).2.2, (reference _ [] _ (by decide)).2 upper⟩
  have same : Sample.offer "shout" "First" = entryPoint :=
    Option.some.inj (find?_eq_some_iff.2 first)
  rw [← same] at loads
  cases loads
  exact gives

/-- The built-in transformer is selected although a package has just this name, and a name with a colon is
said to be absent while it can be chosen. -/
theorem create_advertised_shadowed :
    Sample.crowded.IsSound ∧ "NOOP" ∈ Sample.crowded.available ∧ "NOOP" ≠ builtIn ∧
    Sample.crowded.FirstNamed "NOOP" (Sample.offer "NOOP" "Third") ∧
    (Sample.crowded.create "NOOP").result = .ok (.ofTransformer .noOp) ∧
    "a:b" ∈ Sample.crowded.available ∧
    (Sample.crowded.create "a:b").result =
      .error (.absent "a:b" Sample.crowded.available (some (.noModule "a"))) := by
  refine ⟨isSound_crowded, mem_available_iff.2 (.inr (by decide)), by decide,
    find?_eq_some_iff.1 rfl, ?_, mem_available_iff.2 (.inr (by decide)), rfl⟩
  rw [create_of_isBuiltIn (by decide)]

/-! ## Names that lead nowhere -/

theorem result_resolve (plugins : Plugins) (name : Option String) :
    (plugins.resolve name).result =
      (plugins.create (plugins.selected name)).result.map Object.toTransformer := by
  rw [resolve]
  split
  next => rfl
  next => rfl

/-- A name that leads nowhere is that of no transformer, and the names to choose from are told in ascending
order, each once, unless looking the name up fails otherwise: the name of a module is empty or relative, its
code fails with something else than that a thing is not there, or what a package offers cannot be loaded. -/
theorem resolve_lacking (plugins : Plugins) (name : Option String)
    (foreign : ¬ IsBuiltIn (plugins.selected name))
    (lacks : ∀ target, ¬ plugins.Designates (plugins.selected name) target) :
    plugins.available.Pairwise (· < ·) ∧
    (∀ listed, listed ∈ plugins.available ↔
      listed = builtIn ∨ ∃ entryPoint ∈ plugins.entryPoints, entryPoint.name = listed) ∧
    ((∃ cause, (plugins.resolve name).result =
        .error (.absent (plugins.selected name) plugins.available cause)) ↔
      ∀ error, ¬ plugins.Trips (plugins.selected name) error) ∧
    ∀ error, plugins.Trips (plugins.selected name) error →
      (plugins.resolve name).result = .error error := by
  have escapes : ∀ error, plugins.Trips (plugins.selected name) error →
      (plugins.resolve name).result = .error error := by
    intro error trips
    rw [result_resolve, create_of_trips trips]
    rfl
  refine ⟨pairwise_sortedOnce _, fun _ => mem_available_iff, ?absent, escapes⟩
  constructor
  · rintro ⟨cause, fails⟩ error trips
    rw [escapes error trips] at fails
    cases fails
    exact not_trips_absent trips
  · intro calm
    obtain ⟨cause, fails⟩ := create_of_lacks foreign lacks calm
    refine ⟨cause, ?_⟩
    rw [result_resolve, fails]
    rfl

/-- An attribute that a module does not have, and a name that no package offers. -/
theorem resolve_lacking_misspelt :
    ¬ IsBuiltIn "tools:Uper" ∧ (∀ target, ¬ Sample.damaged.Designates "tools:Uper" target) ∧
    (Sample.damaged.resolve (some "tools:Uper")).result =
      .error (.absent "tools:Uper" Sample.damaged.available (some (.noAttribute "tools" "Uper"))) ∧
    (∀ error, ¬ Sample.damaged.Trips "tools:Uper" error) ∧
    ¬ IsBuiltIn "brokn" ∧ (∀ target, ¬ Sample.damaged.Designates "brokn" target) ∧
    (Sample.damaged.resolve (some "brokn")).result =
      .error (.absent "brokn" Sample.damaged.available none) ∧
    (∀ error, ¬ Sample.damaged.Trips "brokn" error) ∧
    Sample.damaged.available.Pairwise (· < ·) ∧ "broken" ∈ Sample.damaged.available := by
  have noAttribute : ∀ target, ¬ Sample.damaged.Designates "tools:Uper" target :=
    not_designates_of_isNone (by rfl)
  have noPackage : ∀ target, ¬ Sample.damaged.Designates "brokn" target :=
    not_designates_of_isNone (by rfl)
  have misspelt : (Sample.damaged.resolve (some "tools:Uper")).result =
      .error (.absent "tools:Uper" Sample.damaged.available (some (.noAttribute "tools" "Uper"))) := rfl
  have unnamed : (Sample.damaged.resolve (some "brokn")).result =
      .error (.absent "brokn" Sample.damaged.available none) := by
    have selected : Sample.damaged.selected (some "brokn") = "brokn" := rfl
    rw [result_resolve, selected, create_of_unnamed ⟨by decide, by decide⟩ (by decide)]
    rfl
  obtain ⟨ascending, listed, referred, -⟩ :=
    resolve_lacking Sample.damaged (some "tools:Uper") (by decide) noAttribute
  obtain ⟨-, -, installed, -⟩ := resolve_lacking Sample.damaged (some "brokn") (by decide) noPackage
  exact ⟨by decide, noAttribute, misspelt, referred.1 ⟨_, misspelt⟩, by decide, noPackage, unnamed,
    installed.1 ⟨_, unnamed⟩, ascending, (listed "broken").2 (.inr (by decide))⟩

/-- A package that cannot be loaded is no absent transformer, although there is nothing to select. -/
theorem resolve_lacking_damaged :
    ¬ IsBuiltIn (Sample.damaged.selected (some "broken")) ∧
    (∀ target, ¬ Sample.damaged.Designates (Sample.damaged.selected (some "broken")) target) ∧
    "broken" ∈ Sample.damaged.available ∧
    (Sample.damaged.resolve (some "broken")).result =
      .error (.failed (.raised "ImportError" "broken plugin")) := by
  refine ⟨by decide, not_designates_of_isNone (by rfl), mem_available_iff.2 (.inr (by decide)), ?_⟩
  have trips : Sample.damaged.Trips "broken" (.failed (.raised "ImportError" "broken plugin")) :=
    .unloadable ⟨by decide, by decide⟩ (find?_eq_some_iff.1 rfl) rfl
  have selected : Sample.damaged.selected (some "broken") = "broken" := rfl
  rw [result_resolve, selected, create_of_trips trips]
  rfl

/-! ## What is selected -/

/-- What is selected is the built-in transformer, or comes of the object that the name designates: itself if
it is a transformer and no class, and else what calling it gives, if this is a transformer.  It can be used
on class files unless it is a class that the call gave, or what it has in place of a method cannot be called.
If the call fails, its failure is passed on, and if nothing comes of the object there is no such
transformer. -/
theorem create_yields (plugins : Plugins) (name : String) :
    (∀ object, (plugins.create name).result = .ok object ↔
      IsBuiltIn name ∧ object = .ofTransformer .noOp ∨
        ∃ target, plugins.Designates name target ∧ target.Yields object) ∧
    (∀ object, (plugins.create name).result = .ok object → object.IsUsable ∨
      (object.isType = true ∧ ∃ target, plugins.Designates name target ∧ target.isCalled = true ∧
        target.called? = some (.ok object)) ∨
      ∃ kind, object.traits.transform = some (.value kind)) ∧
    ∀ target, plugins.Designates name target →
      (∀ failure, target.Refuses failure → (plugins.create name).result = .error (.failed failure)) ∧
      ((∀ object, ¬ target.Yields object) → (∀ failure, ¬ target.Refuses failure) →
        (plugins.create name).result = .error (.absent name plugins.available none)) := by
  refine ⟨fun object => create_eq_ok_iff, ?usable, ?otherwise⟩
  case usable =>
    intro object selects
    rcases create_eq_ok_iff.1 selects with ⟨-, rfl⟩ | ⟨target, designates, yields⟩
    · exact .inl ⟨rfl, _, rfl⟩
    · cases complete : object.traits.transform with
      | none => simpa [Object.isTransformer, complete] using Object.isTransformer_of_yields yields
      | some transform =>
          cases transform with
          | value kind => exact .inr (.inr ⟨kind, rfl⟩)
          | method act =>
              cases yields with
              | itself uncalled => exact .inl ⟨Object.isType_of_not_isCalled uncalled, act, complete⟩
              | called isCalled gives =>
                  cases isType : object.isType with
                  | false => exact .inl ⟨isType, act, complete⟩
                  | true => exact .inr (.inl ⟨rfl, target, designates, isCalled, gives⟩)
  case otherwise =>
    intro target designates
    rw [create_of_designates designates]
    constructor
    · intro failure refuses
      rw [ofTarget_of_refuses refuses]
    · exact ofTarget_of_useless

/-- A class is called, and what comes of it is used. -/
theorem create_yields_instance :
    Sample.crowded.Designates "tools:Upper" (.classOf (.capitals "Upper")) ∧
    (Object.classOf (.capitals "Upper")).Yields (.ofTransformer (.capitals "Upper")) ∧
    (Sample.crowded.create "tools:Upper").result = .ok (.ofTransformer (.capitals "Upper")) ∧
    (Object.ofTransformer (.capitals "Upper")).IsUsable := by
  have designates : Sample.crowded.Designates "tools:Upper" (.classOf (.capitals "Upper")) :=
    designates_iff.2 rfl
  have yields : (Object.classOf (.capitals "Upper")).Yields (.ofTransformer (.capitals "Upper")) :=
    .called rfl rfl rfl
  have selects := ((create_yields Sample.crowded "tools:Upper").1 _).2 (.inr ⟨_, designates, yields⟩)
  exact ⟨designates, yields, selects, rfl, _, rfl⟩

/-- A function gives a class, which is selected although it misses an object: it fails on every class
file. -/
theorem create_yields_class :
    (Sample.crowded.create "tools:make").result = .ok (.classOf (.capitals "Upper")) ∧
    (Object.classOf (.capitals "Upper")).isType = true ∧
    ¬ (Object.classOf (.capitals "Upper")).IsUsable ∧
    ∀ file classpath capabilities,
      (Object.classOf (.capitals "Upper")).toTransformer.transform file classpath capabilities =
        throw (.raised "TypeError" "Upper.transform() missing 1 required positional argument: 'data'") := by
  refine ⟨rfl, rfl, ?_, fun _ _ _ => rfl⟩
  rintro ⟨isInstance, -⟩
  cases isInstance

end Plugins

end Enhance
