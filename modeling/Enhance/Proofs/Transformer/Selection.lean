import Enhance.Proofs.Distinct
import Enhance.Proofs.Transformer.Import
import Enhance.Text.LowerCase
import Enhance.Transformer.Selection

/-!
# What a name selects

A name is that of the built-in transformer, in letters of any case, or designates an object
(`Plugins.Designates`), or nothing.  An object that is designated is used itself or called
(`Object.Yields`).  So three cases settle how selecting a transformer ends: `create_of_isBuiltIn`,
`create_of_designates` and `create_of_lacks`.
-/

namespace Enhance

open Enhance.Text

/-! ## Objects and what is made of them -/

namespace Object

variable {target object : Object} {failure : Failure}

/-- Whether an object is not used itself where it is designated. -/
def isCalled (target : Object) : Bool :=
  target.isType || !target.isTransformer

/-- Whether an object can be used on class files: it is no class, and there is a method to call. -/
def IsUsable (object : Object) : Prop :=
  object.isType = false ∧ ∃ act, object.traits.transform = some (.method act)

/-- What is used where an object is designated: itself, or a transformer that comes of calling it. -/
inductive Yields (target : Object) : Object → Prop where
  | itself (uncalled : target.isCalled = false) : Yields target target
  | called {object : Object} (isCalled : target.isCalled = true)
      (gives : target.called? = some (.ok object)) (complete : object.isTransformer = true) :
      Yields target object

theorem isTransformer_of_isUsable (usable : object.IsUsable) : object.isTransformer = true := by
  obtain ⟨-, act, isMethod⟩ := usable
  rw [isTransformer, isMethod]
  rfl

/-- An object is called at most once. -/
theorem instantiated_eq (target : Object) :
    target.instantiated =
      if target.isCalled then target.called?.getD (.ok target) else .ok target := by
  cases target with
  | type traits make =>
      cases make with
      | error failure => rfl
      | ok object => exact ite_self _
  | callable traits call =>
      change (if (callable traits call).isTransformer then _ else _) = _
      cases complete : (callable traits call).isTransformer with
      | true => simp [isCalled, isType, complete, pure, Except.pure]
      | false => simp [isCalled, isType, complete, called?]
  | plain traits =>
      change (if (plain traits).isTransformer then _ else _) = _
      simp [called?, pure, Except.pure]

theorem isTransformer_of_not_isCalled (uncalled : target.isCalled = false) :
    target.isTransformer = true := by
  simp only [isCalled, Bool.or_eq_false_iff, Bool.not_eq_false'] at uncalled
  exact uncalled.2

theorem isType_of_not_isCalled (uncalled : target.isCalled = false) : target.isType = false := by
  simp only [isCalled, Bool.or_eq_false_iff] at uncalled
  exact uncalled.1

/-- What is used is a transformer. -/
theorem isTransformer_of_yields (yields : target.Yields object) : object.isTransformer = true := by
  cases yields with
  | itself uncalled => exact isTransformer_of_not_isCalled uncalled
  | called _ _ complete => exact complete

theorem called?_of_isType (isType : target.isType = true) : target.called?.isSome = true := by
  cases target <;> simp_all [Object.isType, called?]

theorem yields_iff :
    target.Yields object ↔ target.instantiated = .ok object ∧ object.isTransformer = true := by
  rw [instantiated_eq]
  constructor
  · intro yields
    refine ⟨?_, isTransformer_of_yields yields⟩
    cases yields with
    | itself uncalled => rw [uncalled]; rfl
    | called isCalled gives => rw [isCalled, gives]; rfl
  · rintro ⟨gives, complete⟩
    cases isCalled : target.isCalled with
    | false =>
        rw [isCalled] at gives
        cases gives
        exact .itself isCalled
    | true =>
        rw [isCalled, if_pos rfl] at gives
        cases call : target.called? with
        | some result =>
            rw [call] at gives
            exact .called isCalled (by rw [call]; exact congrArg some gives) complete
        | none =>
            rw [call] at gives
            cases gives
            -- What cannot be called is no class, so it is used itself.
            have isType : target.isType = true := by simpa [Object.isCalled, complete] using isCalled
            simpa [call] using called?_of_isType isType

/-- Whether an object is called where it is designated, and this fails. -/
def Refuses (target : Object) (failure : Failure) : Prop :=
  target.isCalled = true ∧ target.called? = some (.error failure)

theorem instantiated_eq_error_iff :
    target.instantiated = .error failure ↔ target.Refuses failure := by
  rw [instantiated_eq, Refuses]
  cases isCalled : target.isCalled with
  | false => simp
  | true => cases target.called? <;> simp

end Object

/-! ## Names to choose from -/

namespace Plugins

variable {plugins : Plugins} {name moduleName member listed : String} {texts : List String}
  {entryPoint : EntryPoint} {target object : Object} {failure : Failure} {error : SelectionError}

theorem mem_sortedOnce_iff {text : String} : text ∈ sortedOnce texts ↔ text ∈ texts := by
  rw [sortedOnce, List.mem_mergeSort, List.mem_eraseDups]

theorem pairwise_sortedOnce (texts : List String) : (sortedOnce texts).Pairwise (· < ·) := by
  have ordered : (sortedOnce texts).Pairwise fun first second => decide (first ≤ second) = true := by
    apply List.pairwise_mergeSort
    · intro first second third before behind
      simp only [decide_eq_true_eq] at before behind ⊢
      exact String.le_trans before behind
    · intro first second
      simpa using String.le_total first second
  have once : (sortedOnce texts).Nodup :=
    (List.mergeSort_perm _ _).nodup_iff.2 (nodup_eraseDups texts)
  apply ordered.imp₂ _ once
  intro first second before different
  apply String.not_le.1
  intro behind
  exact different (String.le_antisymm (of_decide_eq_true before) behind)

/-- The name of the built-in transformer can be chosen, and those of the entry points. -/
theorem mem_available_iff : listed ∈ plugins.available ↔
    listed = builtIn ∨ ∃ entryPoint ∈ plugins.entryPoints, entryPoint.name = listed := by
  rw [available, mem_sortedOnce_iff, List.mem_cons, List.mem_map]

/-! ## What a name designates -/

/-- Whether a name is that of the built-in transformer, in letters of any case. -/
def IsBuiltIn (name : String) : Prop :=
  Lowers name.toList builtIn.toList

theorem isPlain_of_mem_builtIn : ∀ c ∈ builtIn.toList, isPlain c = true :=
  List.all_eq_true.1 (by decide)

theorem isBuiltIn_iff_toList : IsBuiltIn name ↔ name.toList.map Char.toLower = builtIn.toList :=
  lowers_iff_of_plain isPlain_of_mem_builtIn

instance (name : String) : Decidable (IsBuiltIn name) :=
  decidable_of_iff _ isBuiltIn_iff_toList.symm

theorem isBuiltIn_iff : IsBuiltIn name ↔ name.map Char.toLower = builtIn := by
  rw [isBuiltIn_iff_toList, ← String.toList_inj, String.toList_map]

theorem colon_notMem_of_isBuiltIn (isBuiltIn : IsBuiltIn name) : ':' ∉ name.toList :=
  notMem_of_lowers isBuiltIn isPlain_of_mem_builtIn (by decide) (by decide)

/-- Whether an entry point is the first one of that name. -/
def FirstNamed (plugins : Plugins) (name : String) (entryPoint : EntryPoint) : Prop :=
  entryPoint.name = name ∧ ∃ before after,
    plugins.entryPoints = before ++ entryPoint :: after ∧ ∀ other ∈ before, other.name ≠ name

theorem find?_eq_some_iff :
    plugins.entryPoints.find? (·.name = name) = some entryPoint ↔
      plugins.FirstNamed name entryPoint := by
  rw [List.find?_eq_some_iff_append, FirstNamed]
  simp

theorem FirstNamed.mem (first : plugins.FirstNamed name entryPoint) :
    entryPoint ∈ plugins.entryPoints :=
  List.mem_of_find?_eq_some (find?_eq_some_iff.2 first)

/-- A name to choose from that is not that of the built-in transformer is that of an entry point. -/
theorem exists_firstNamed (listed : name ∈ plugins.available) (foreign : ¬ IsBuiltIn name) :
    ∃ entryPoint, plugins.FirstNamed name entryPoint := by
  rcases mem_available_iff.1 listed with rfl | ⟨entryPoint, member, same⟩
  · exact absurd (by decide) foreign
  · have found : (plugins.entryPoints.find? (·.name = name)).isSome = true := by
      rw [List.find?_isSome]
      exact ⟨entryPoint, member, decide_eq_true same⟩
    obtain ⟨first, search⟩ := Option.isSome_iff_exists.1 found
    exact ⟨first, find?_eq_some_iff.1 search⟩

/-- Whether a name is neither a reference nor the name of the built-in transformer. -/
structure IsInstalled (name : String) : Prop where
  bare : ':' ∉ name.toList
  other : ¬ IsBuiltIn name

/-- What a name designates: the attribute of a module, or what the first entry point of that name loads. -/
inductive Designates (plugins : Plugins) : String → Object → Prop where
  | referred {moduleName member : String} {found : Module} {target : Object}
      (isAbsolute : Modules.IsAbsolute moduleName.toList) (free : ':' ∉ moduleName.toList)
      (known : plugins.modules.known? moduleName = some found)
      (isAttribute : found.attribute? member = some target) :
      Designates plugins (moduleName ++ ":" ++ member) target
  | loaded {name : String} {entryPoint : EntryPoint} {target : Object} (isInstalled : IsInstalled name)
      (first : plugins.FirstNamed name entryPoint) (loads : entryPoint.load = .ok target) :
      Designates plugins name target

/-- The forms of names. -/
inductive Form : String → Prop where
  | builtIn {name : String} (isBuiltIn : IsBuiltIn name) : Form name
  | reference {moduleName : String} (member : String) (free : ':' ∉ moduleName.toList) :
      Form (moduleName ++ ":" ++ member)
  | installed {name : String} (isInstalled : IsInstalled name) : Form name

theorem toList_reference (moduleName member : String) :
    (moduleName ++ ":" ++ member).toList = moduleName.toList ++ ':' :: member.toList := by
  simp

/-- Every name has a form; one with a colon is cut at the first one. -/
theorem form (name : String) : Form name := by
  cases cut : splitFirst ':' name.toList with
  | none =>
      by_cases isBuiltIn : IsBuiltIn name
      · exact .builtIn isBuiltIn
      · exact .installed ⟨splitFirst_eq_none_iff.1 cut, isBuiltIn⟩
  | some parts =>
      have whole := splitFirst_eq_some_iff.1 cut
      have same : name = String.ofList parts.1 ++ ":" ++ String.ofList parts.2 := by
        rw [← String.toList_inj, toList_reference, String.toList_ofList, String.toList_ofList, whole.1]
      rw [same]
      apply Form.reference
      rw [String.toList_ofList]
      exact whole.2

/-- The object that a name designates, if it designates one. -/
def designated? (plugins : Plugins) (name : String) : Option Object :=
  match splitFirst ':' name.toList with
  | some (moduleName, member) => (plugins.modules.follow moduleName member).toOption
  | none =>
    if IsBuiltIn name then none
    else (plugins.entryPoints.find? (·.name = name)).bind fun entryPoint => entryPoint.load.toOption

theorem designated?_of_isBuiltIn (isBuiltIn : IsBuiltIn name) : plugins.designated? name = none := by
  rw [designated?, splitFirst_eq_none_iff.2 (colon_notMem_of_isBuiltIn isBuiltIn)]
  exact if_pos isBuiltIn

theorem designated?_reference (free : ':' ∉ moduleName.toList) :
    plugins.designated? (moduleName ++ ":" ++ member) =
      (plugins.modules.follow moduleName.toList member.toList).toOption := by
  rw [designated?, toList_reference, splitFirst_append free]

theorem designated?_of_isInstalled (isInstalled : IsInstalled name) :
    plugins.designated? name = (plugins.entryPoints.find? (·.name = name)).bind fun entryPoint =>
      entryPoint.load.toOption := by
  rw [designated?, splitFirst_eq_none_iff.2 isInstalled.bare]
  exact if_neg isInstalled.other

theorem toOption_eq_some_iff {ε α : Type} {result : Except ε α} {value : α} :
    result.toOption = some value ↔ result = .ok value := by
  cases result <;> simp [Except.toOption]

theorem follow_eq_ok_iff :
    plugins.modules.follow moduleName.toList member.toList = .ok target ↔
      Modules.IsAbsolute moduleName.toList ∧ ∃ found, plugins.modules.known? moduleName = some found ∧
        found.attribute? member = some target := by
  rw [Modules.follow_eq_ok_iff, String.ofList_toList, String.ofList_toList]

theorem designates_iff : plugins.Designates name target ↔ plugins.designated? name = some target := by
  constructor
  · intro designates
    cases designates with
    | referred isAbsolute free known isAttribute =>
        rw [designated?_reference free, toOption_eq_some_iff, follow_eq_ok_iff]
        exact ⟨isAbsolute, _, known, isAttribute⟩
    | loaded isInstalled first loads =>
        rw [designated?_of_isInstalled isInstalled, find?_eq_some_iff.2 first]
        exact toOption_eq_some_iff.2 loads
  · intro found
    cases form name with
    | builtIn isBuiltIn =>
        rw [designated?_of_isBuiltIn isBuiltIn] at found
        cases found
    | reference member free =>
        rw [designated?_reference free, toOption_eq_some_iff, follow_eq_ok_iff] at found
        obtain ⟨isAbsolute, _, known, isAttribute⟩ := found
        exact .referred isAbsolute free known isAttribute
    | installed isInstalled =>
        rw [designated?_of_isInstalled isInstalled, Option.bind_eq_some_iff] at found
        obtain ⟨entryPoint, search, loads⟩ := found
        exact .loaded isInstalled (find?_eq_some_iff.1 search) (toOption_eq_some_iff.1 loads)

theorem not_designates_of_isNone (nothing : (plugins.designated? name).isNone = true) (target : Object) :
    ¬ plugins.Designates name target := by
  intro designates
  rw [designates_iff.1 designates] at nothing
  cases nothing

/-- How looking a name up fails with something else than that there is no such transformer. -/
inductive Trips (plugins : Plugins) : String → SelectionError → Prop where
  | nameless (member : String) : Trips plugins (":" ++ member) (.reference .emptyName)
  | relative {moduleName : String} (member : String) (free : ':' ∉ moduleName.toList)
      (isRelative : moduleName.toList.head? = some '.') :
      Trips plugins (moduleName ++ ":" ++ member) (.reference (.relativeName moduleName))
  | broken {moduleName : String} (member : String) {broken : BrokenModule}
      (isAbsolute : Modules.IsAbsolute moduleName.toList) (free : ':' ∉ moduleName.toList)
      (breaks : plugins.modules.Breaks moduleName.toList broken)
      (otherwise : broken.lacksSomething = false) :
      Trips plugins (moduleName ++ ":" ++ member) (.failed broken.failure)
  | unloadable {name : String} {entryPoint : EntryPoint} {failure : Failure}
      (isInstalled : IsInstalled name) (first : plugins.FirstNamed name entryPoint)
      (fails : entryPoint.load = .error failure) :
      Trips plugins name (.failed failure)

/-- That there is no such transformer is none of these failures. -/
theorem not_trips_absent {absentee : String} {available : List String} {cause : Option ImportError} :
    ¬ plugins.Trips name (.absent absentee available cause) := by
  intro trips
  cases trips

/-! ## How selecting ends -/

theorem ofTarget_of_yields (yields : target.Yields object) :
    plugins.ofTarget name target = ⟨[], .ok object⟩ := by
  obtain ⟨gives, complete⟩ := Object.yields_iff.1 yields
  simp only [ofTarget, gives, complete, ↓reduceIte]

theorem ofTarget_of_refuses (refuses : target.Refuses failure) :
    plugins.ofTarget name target = ⟨[], .error (.failed failure)⟩ := by
  simp only [ofTarget, Object.instantiated_eq_error_iff.2 refuses]

theorem ofTarget_of_useless (useless : ∀ object, ¬ target.Yields object)
    (calm : ∀ failure, ¬ target.Refuses failure) :
    (plugins.ofTarget name target).result = .error (.absent name plugins.available none) := by
  cases made : target.instantiated with
  | error failure => exact absurd (Object.instantiated_eq_error_iff.1 made) (calm failure)
  | ok object =>
      have incomplete : ¬ object.isTransformer = true := fun complete =>
        useless object (Object.yields_iff.2 ⟨made, complete⟩)
      simp only [ofTarget, made, incomplete, Bool.false_eq_true, ↓reduceIte, absent]

theorem yields_of_ofTarget (gives : (plugins.ofTarget name target).result = .ok object) :
    target.Yields object := by
  by_cases some : ∃ other, target.Yields other
  · obtain ⟨other, yields⟩ := some
    rw [ofTarget_of_yields yields] at gives
    cases gives
    exact yields
  · by_cases refuses : ∃ failure, target.Refuses failure
    · obtain ⟨failure, refuses⟩ := refuses
      rw [ofTarget_of_refuses refuses] at gives
      cases gives
    · rw [ofTarget_of_useless (not_exists.1 some) (not_exists.1 refuses)] at gives
      cases gives

/-- A reference that cannot be followed selects nothing. -/
theorem result_ofImportError_ne_ok {importError : ImportError} :
    (plugins.ofImportError name importError).result ≠ .ok object := by
  unfold ofImportError
  split
  · simp [absent]
  · split <;> simp

theorem create_of_isBuiltIn (isBuiltIn : IsBuiltIn name) :
    plugins.create name = ⟨[], .ok (.ofTransformer .noOp)⟩ := by
  rw [create, splitFirst_eq_none_iff.2 (colon_notMem_of_isBuiltIn isBuiltIn)]
  exact if_pos (isBuiltIn_iff.1 isBuiltIn)

theorem create_of_reference (free : ':' ∉ moduleName.toList) :
    plugins.create (moduleName ++ ":" ++ member) =
      match plugins.modules.follow moduleName.toList member.toList with
      | .ok target => plugins.ofTarget (moduleName ++ ":" ++ member) target
      | .error error => plugins.ofImportError (moduleName ++ ":" ++ member) error := by
  have cut : splitFirst ':' (moduleName ++ ":" ++ member).toList =
      some (moduleName.toList, member.toList) := by
    rw [toList_reference, splitFirst_append free]
  unfold create
  split
  next same =>
    rw [cut] at same
    cases same
    rfl
  next uncut =>
    rw [cut] at uncut
    cases uncut

/-- What an entry point loads takes the place of the name. -/
theorem create_of_firstNamed (isInstalled : IsInstalled name)
    (first : plugins.FirstNamed name entryPoint) :
    (plugins.create name).result =
      match entryPoint.load with
      | .ok target => (plugins.ofTarget name target).result
      | .error failure => .error (.failed failure) := by
  rw [create, splitFirst_eq_none_iff.2 isInstalled.bare, find?_eq_some_iff.2 first]
  simp only [mt isBuiltIn_iff.2 isInstalled.other, ↓reduceIte]
  cases entryPoint.load <;> rfl

theorem create_of_unnamed (isInstalled : IsInstalled name)
    (unnamed : ∀ entryPoint ∈ plugins.entryPoints, entryPoint.name ≠ name) :
    plugins.create name = plugins.absent name none none := by
  have none : plugins.entryPoints.find? (·.name = name) = none := by
    simpa using unnamed
  rw [create, splitFirst_eq_none_iff.2 isInstalled.bare, none]
  simp only [mt isBuiltIn_iff.2 isInstalled.other, ↓reduceIte]

/-- An object that is designated decides what is selected. -/
theorem create_of_designates (designates : plugins.Designates name target) :
    (plugins.create name).result = (plugins.ofTarget name target).result := by
  cases designates with
  | referred isAbsolute free known isAttribute =>
      rw [create_of_reference free, follow_eq_ok_iff.2 ⟨isAbsolute, _, known, isAttribute⟩]
  | loaded isInstalled first loads => rw [create_of_firstNamed isInstalled first, loads]

theorem create_of_trips (trips : plugins.Trips name error) :
    (plugins.create name).result = .error error := by
  cases trips with
  | nameless member =>
      have same : ":" ++ member = "" ++ ":" ++ member := by rw [String.empty_append]
      rw [same, create_of_reference (by simp), String.toList_empty, Modules.follow_nil]
      rfl
  | @relative moduleName member free isRelative =>
      rw [create_of_reference free, Modules.follow_of_relative isRelative, String.ofList_toList]
      rfl
  | @broken moduleName member broken isAbsolute free breaks otherwise =>
      have fails : plugins.modules.follow moduleName.toList member.toList =
          .error (.broken broken.failure false) :=
        (Modules.trips_iff.1 (.broken isAbsolute breaks otherwise)).1
      rw [create_of_reference free, fails]
      rfl
  | unloadable isInstalled first fails => rw [create_of_firstNamed isInstalled first, fails]

/-- What goes wrong with a reference goes wrong with the name. -/
theorem exists_trips_of_modules {importError : ImportError} (free : ':' ∉ moduleName.toList)
    (trips : plugins.modules.Trips moduleName.toList importError) (member : String) :
    ∃ error, plugins.Trips (moduleName ++ ":" ++ member) error := by
  generalize shown : moduleName.toList = text at trips
  cases trips with
  | nameless =>
      rw [String.toList_eq_nil_iff.1 shown, String.empty_append]
      exact ⟨_, .nameless member⟩
  | relative isRelative =>
      rw [← shown] at isRelative
      exact ⟨_, .relative member free isRelative⟩
  | broken isAbsolute breaks otherwise =>
      rw [← shown] at isAbsolute breaks
      exact ⟨_, .broken member isAbsolute free breaks otherwise⟩

/-- A name that designates nothing is that of no transformer, unless looking it up fails otherwise. -/
theorem create_of_lacks (foreign : ¬ IsBuiltIn name) (lacks : ∀ target, ¬ plugins.Designates name target)
    (calm : ∀ error, ¬ plugins.Trips name error) :
    ∃ cause, (plugins.create name).result = .error (.absent name plugins.available cause) := by
  cases form name with
  | builtIn isBuiltIn => exact absurd isBuiltIn foreign
  | @reference moduleName member free =>
      rw [create_of_reference free]
      cases leads : plugins.modules.follow moduleName.toList member.toList with
      | ok target =>
          obtain ⟨isAbsolute, found, known, isAttribute⟩ := follow_eq_ok_iff.1 leads
          exact absurd (.referred isAbsolute free known isAttribute) (lacks target)
      | error error =>
          cases means : error.meansAbsent with
          | true => exact ⟨some error, by simp only [ofImportError, means, ↓reduceIte, absent]⟩
          | false =>
              have trips := exists_trips_of_modules free (Modules.trips_iff.2 ⟨leads, means⟩) member
              exact absurd trips (not_exists.2 calm)
  | installed isInstalled =>
      cases search : plugins.entryPoints.find? (·.name = name) with
      | none =>
          have unnamed : ∀ entryPoint ∈ plugins.entryPoints, entryPoint.name ≠ name := by
            simpa using search
          exact ⟨none, congrArg Selection.result (create_of_unnamed isInstalled unnamed)⟩
      | some entryPoint =>
          have first := find?_eq_some_iff.1 search
          cases loads : entryPoint.load with
          | ok target => exact absurd (.loaded isInstalled first loads) (lacks target)
          | error failure => exact absurd (.unloadable isInstalled first loads) (calm _)

/-- What is selected is the built-in transformer or comes of an object that the name designates. -/
theorem create_eq_ok_iff :
    (plugins.create name).result = .ok object ↔ IsBuiltIn name ∧ object = .ofTransformer .noOp ∨
      ∃ target, plugins.Designates name target ∧ target.Yields object := by
  constructor
  · intro selects
    by_cases isBuiltIn : IsBuiltIn name
    · rw [create_of_isBuiltIn isBuiltIn] at selects
      cases selects
      exact .inl ⟨isBuiltIn, rfl⟩
    · by_cases designates : ∃ target, plugins.Designates name target
      · obtain ⟨target, designates⟩ := designates
        rw [create_of_designates designates] at selects
        exact .inr ⟨target, designates, yields_of_ofTarget selects⟩
      · by_cases trips : ∃ error, plugins.Trips name error
        · obtain ⟨error, trips⟩ := trips
          rw [create_of_trips trips] at selects
          cases selects
        · obtain ⟨cause, fails⟩ :=
            create_of_lacks isBuiltIn (not_exists.1 designates) (not_exists.1 trips)
          rw [fails] at selects
          cases selects
  · rintro (⟨isBuiltIn, rfl⟩ | ⟨target, designates, yields⟩)
    · rw [create_of_isBuiltIn isBuiltIn]
    · rw [create_of_designates designates, ofTarget_of_yields yields]

end Plugins

end Enhance
