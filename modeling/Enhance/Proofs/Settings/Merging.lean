import Enhance.Proofs.Checked
import Enhance.Settings.Overrides
import Mathlib.Data.List.Basic

/-!
# What is given anew

Merging what is given anew into settings writes both as one mapping and checks it.  It comes to replacing
single settings (`Overrides.applied`), unless one of the words that are given is none for its place: then
exactly these are reported (`Overrides.issues`, `Overrides.merge_eq`).
-/

namespace Enhance

open Checked Value

/-! ## Endings and settings that can be accepted -/

/-- A word is an ending of file names: a point and something behind it. -/
def IsExtension (words : String) : Prop :=
  2 ≤ words.length ∧ words.toList.head? = some '.'

instance (words : String) : Decidable (IsExtension words) :=
  inferInstanceAs (Decidable (_ ∧ _))

/-- What is wrong with a word that should be an ending. -/
def extensionIssues (words : String) : List Issue :=
  if IsExtension words then []
  else if words.length < 2 then [⟨[], .tooShort 2⟩]
  else [⟨[], .rule s!"artifact_extension must start with '.', got '{words}'"⟩]

theorem extensionIssues_eq_nil_iff {words : String} : extensionIssues words = [] ↔ IsExtension words := by
  rw [extensionIssues]
  split
  · next isOne => simp [isOne]
  · next isNone => split <;> simp [isNone]

namespace Settings

/-- Settings that the check accepts: the ending is one. -/
def IsValid (settings : Settings) : Prop :=
  IsExtension settings.extension

instance (settings : Settings) : Decidable settings.IsValid :=
  inferInstanceAs (Decidable (IsExtension _))

theorem isValid_default : IsValid {} := by
  decide

theorem isValid_relativeTo {settings : Settings} (valid : settings.IsValid) (base : Path) :
    (settings.relativeTo base).IsValid :=
  valid

/-- Only an ending is accepted as one. -/
theorem isExtension_of_extensionOf {given : Value} {words : String}
    (accepted : extensionOf given = .accepted words) : IsExtension words := by
  obtain ⟨found, long, starts⟩ := andThen_eq_accepted_iff.1 accepted
  obtain ⟨text, -, isLong⟩ := andThen_eq_accepted_iff.1 long
  split at isLong
  · contradiction
  · next short =>
      cases isLong
      split at starts
      · next point =>
          cases starts
          exact ⟨Nat.le_of_not_lt short, point⟩
      · contradiction

theorem extensionOf_text (words : String) :
    extensionOf (.text words) = ofIssues (extensionIssues words) words := by
  change (if words.length < 2 then _ else _ : Checked String).andThen _ = _
  rw [extensionIssues]
  by_cases short : words.length < 2
  · have isNone : ¬ IsExtension words := fun isOne => Nat.not_lt.2 isOne.1 short
    simp only [short, isNone, ↓reduceIte]
    rfl
  · by_cases point : words.toList.head? = some '.'
    · have isOne : IsExtension words := ⟨Nat.le_of_not_lt short, point⟩
      simp [short, isOne, andThen, point]
    · have isNone : ¬ IsExtension words := fun isOne => point isOne.2
      simp only [short, isNone, ↓reduceIte, andThen, point]
      rfl

/-- Settings are accepted with their ending. -/
theorem extension_of_ofValue {given : Value} {settings : Settings}
    (accepted : ofValue given = .accepted settings) :
    ∃ entries, given = .mapping entries ∧
      defaulting "artifact_extension" classExtension extensionOf entries = .accepted settings.extension := by
  obtain ⟨entries, rfl, all⟩ := of_recordOf accepted
  obtain ⟨make, dependencies, six, -, rfl⟩ := seq_eq_accepted_iff.1 all
  obtain ⟨make, extension, five, isExtension, rfl⟩ := seq_eq_accepted_iff.1 six
  obtain ⟨make, strategy, four, -, rfl⟩ := seq_eq_accepted_iff.1 five
  obtain ⟨make, transformer, three, -, rfl⟩ := seq_eq_accepted_iff.1 four
  obtain ⟨make, capabilities, two, -, rfl⟩ := seq_eq_accepted_iff.1 three
  obtain ⟨make, failOnError, one, -, rfl⟩ := seq_eq_accepted_iff.1 two
  obtain ⟨classesDir, -, rfl⟩ := map_eq_accepted_iff.1 one
  exact ⟨entries, rfl, isExtension⟩

/-- What the check accepts is valid. -/
theorem isValid_of_ofValue {given : Value} {settings : Settings}
    (accepted : ofValue given = .accepted settings) : settings.IsValid := by
  obtain ⟨entries, -, isExtension⟩ := extension_of_ofValue accepted
  rcases defaulting_eq_accepted_iff.1 isExtension with ⟨-, same⟩ | ⟨given, -, isOne⟩
  · rw [IsValid, ← same]
    exact isValid_default
  · exact isExtension_of_extensionOf isOne

end Settings

/-! ## What is written can be read -/

namespace Dependency

/-- Reading what was written about a dependency gives it again. -/
theorem ofValue_toValue (dependency : Dependency) :
    ofValue dependency.toValue = .accepted dependency := by
  obtain ⟨file, scope, id⟩ := dependency
  have files := optional_optionalText pathOf_toString file
  have scopes : choiceOf Scope.choices (.text scope.name) = .accepted scope := by
    cases scope <;> rfl
  have ids : optional textOf (optionalText id) = .accepted id := by
    cases id <;> rfl
  refine recordOf_mapping [] ?_ rfl
  rw [defaulting_of_field [] (by simp) files, defaulting_of_field [] (by simp) scopes,
    defaulting_of_field [] (by simp) ids]
  rfl

end Dependency

namespace WriteStrategy

theorem lookup_choices {word : String} {strategy : WriteStrategy} :
    choices.lookup word = some strategy ↔ strategy.name = word := by
  constructor
  · exact name_of_lookup
  · rintro rfl
    cases strategy <;> rfl

end WriteStrategy

/-- What is wrong with a word that should name a strategy. -/
def strategyIssues (word : String) : List Issue :=
  if (WriteStrategy.choices.lookup word).isSome then []
  else [⟨[], .notChoice (WriteStrategy.choices.map (·.1))⟩]

theorem strategyIssues_eq_nil_iff {word : String} :
    strategyIssues word = [] ↔ ∃ strategy : WriteStrategy, strategy.name = word := by
  simp [strategyIssues, Option.isSome_iff_exists, WriteStrategy.lookup_choices]

/-- The strategy that a word names if one is given, and else a known one. -/
theorem choiceOf_given (given : Option String) (usual : WriteStrategy) :
    choiceOf WriteStrategy.choices ((given.map Value.text).getD (.text usual.name)) =
      ofIssues (given.toList.flatMap strategyIssues)
        ((given.bind fun word => WriteStrategy.choices.lookup word).getD usual) := by
  cases given with
  | none => cases usual <;> rfl
  | some word =>
      simp only [Option.map_some, Option.getD_some, Option.toList_some, List.flatMap_cons,
        List.flatMap_nil, List.append_nil, Option.bind_some, choiceOf, textOf, strategyIssues]
      cases WriteStrategy.choices.lookup word <;> rfl

/-- The ending that is given if one is, and else a known one. -/
theorem extensionOf_given (given : Option String) {usual : String} (isOne : IsExtension usual) :
    Settings.extensionOf ((given.map Value.text).getD (.text usual)) =
      ofIssues (given.toList.flatMap extensionIssues) (given.getD usual) := by
  cases given with
  | none =>
      have read := Settings.extensionOf_text usual
      rwa [extensionIssues_eq_nil_iff.2 isOne] at read
  | some words => simpa using Settings.extensionOf_text words

namespace Capabilities

/-- The capabilities that ask for the features that are wanted. -/
def ofWanted (wanted : Feature → Bool) : Capabilities where
  lazyInitialization := wanted .lazyInitialization
  dirtyTracking := wanted .dirtyTracking
  associationManagement := wanted .associationManagement
  extendedEnhancement := wanted .extendedEnhancement

@[simp] theorem has_ofWanted (wanted : Feature → Bool) (feature : Feature) :
    (ofWanted wanted).has feature = wanted feature := by
  cases feature <;> rfl

@[simp] theorem ofWanted_has (capabilities : Capabilities) : ofWanted capabilities.has = capabilities := rfl

theorem field?_features (value : Feature → Value) (rest : List (Value × Value)) (feature : Feature) :
    field? feature.name
      ((Feature.all.map fun feature => (Value.text feature.name, value feature)) ++ rest) =
        some (value feature) := by
  cases feature <;> simp [Feature.all, Feature.name]

/-- Capabilities are read feature by feature. -/
theorem ofValue_mapping {entries : List (Value × Value)} {wanted : Feature → Bool} {stray : List Issue}
    (switch : ∀ feature : Feature,
      defaulting feature.name false boolOf entries = .accepted (wanted feature))
    (strays : entries.filterMap (fun entry => strayEntry? (Feature.all.map Feature.name) entry.1) = stray) :
    ofValue (.mapping entries) = ofIssues stray (ofWanted wanted) := by
  refine recordOf_mapping [] ?_ strays
  simp only [switch]
  rfl

end Capabilities

namespace Overrides

/-- The names that are not those of features, each once. -/
def unknownFeatures (names : List String) : List String :=
  (names.filter fun name => !(Feature.all.map Feature.name).contains name).eraseDups

theorem mem_unknownFeatures {names : List String} {name : String} :
    name ∈ unknownFeatures names ↔ name ∈ names ∧ ∀ feature : Feature, feature.name ≠ name := by
  simp only [unknownFeatures, List.mem_eraseDups, List.mem_filter, Bool.not_eq_true',
    List.contains_eq_mem, decide_eq_false_iff_not, List.mem_map, not_exists, not_and]
  exact and_congr_right fun _ =>
    ⟨fun unknown feature => unknown feature (Feature.mem_all feature), fun unknown feature _ => unknown feature⟩

/-- Of the entries for features and for what is no feature, the latter are reported. -/
theorem strayFeatures (value : Feature → Value) (names : List String) :
    ((Feature.all.map fun feature => (Value.text feature.name, value feature)) ++
        (unknownFeatures names).map fun name => (Value.text name, Value.bool true)).filterMap
      (fun entry => strayEntry? (Feature.all.map Feature.name) entry.1) =
        (unknownFeatures names).map fun name => ⟨[name], .unknownField⟩ := by
  have known (feature : Feature) :
      strayEntry? (Feature.all.map Feature.name) (.text feature.name) = none := by
    cases feature <;> decide
  have unknown (name : String) (member : name ∈ unknownFeatures names) :
      strayEntry? (Feature.all.map Feature.name) (.text name) = some ⟨[name], .unknownField⟩ := by
    have isNone : name ∉ Feature.all.map Feature.name := by
      rw [List.mem_map]
      rintro ⟨feature, -, same⟩
      exact (mem_unknownFeatures.1 member).2 feature same
    simp only [ strayEntry?, List.contains_eq_mem, isNone, decide_false, Bool.false_eq_true, ↓reduceIte]
  rw [List.filterMap_append, List.filterMap_map, List.filterMap_map]
  have none : Feature.all.filterMap ((fun entry : Value × Value =>
      strayEntry? (Feature.all.map Feature.name) entry.1) ∘
        fun feature => (Value.text feature.name, value feature)) = [] :=
    List.filterMap_eq_nil_iff.2 fun feature _ => known feature
  rw [none, List.nil_append, List.filterMap_eq_map_iff_forall_eq_some]
  exact unknown

/-- Switching features on adds them; names of no features are reported. -/
theorem ofValue_withFeatures (capabilities : Capabilities) (names : List String) :
    Capabilities.ofValue (withFeatures capabilities names) =
      ofIssues ((unknownFeatures names).map fun name => ⟨[name], .unknownField⟩)
        (.ofWanted fun feature => capabilities.has feature || names.contains feature.name) := by
  refine Capabilities.ofValue_mapping (fun feature => ?_) (strayFeatures _ names)
  exact defaulting_of_field [] (Capabilities.field?_features _ _ feature) rfl

end Overrides

namespace Settings

/-- Settings are read field by field.  Words for features, for the strategy and for the ending can be
refused. -/
theorem ofValue_mapping {directory flag features transformer strategy extension dependencies : Value}
    {settings : Settings} {i j k : List Issue}
    (directories : pathOf directory = .accepted settings.classesDir)
    (flags : boolOf flag = .accepted settings.failOnError)
    (capabilities : Capabilities.ofValue features = ofIssues i settings.capabilities)
    (transformers : optional textOf transformer = .accepted settings.transformer)
    (strategies : choiceOf WriteStrategy.choices strategy = ofIssues j settings.writeStrategy)
    (extensions : extensionOf extension = ofIssues k settings.extension)
    (files : listOf Dependency.ofValue dependencies = .accepted settings.dependencies) :
    ofValue (.mapping [(.text "classes_dir", directory), (.text "fail_on_error", flag),
        (.text "capabilities", features), (.text "transformer", transformer),
        (.text "write_strategy", strategy), (.text "artifact_extension", extension),
        (.text "dependencies", dependencies)]) =
      ofIssues (i.map (Issue.under "capabilities") ++ j.map (Issue.under "write_strategy") ++
        k.map (Issue.under "artifact_extension")) settings := by
  rw [← List.append_nil (_ ++ _)]
  refine recordOf_mapping _ ?_ rfl
  rw [defaulting_of_field [] (by simp) directories, defaulting_of_field [] (by simp) flags,
    defaulting_of_field i (by simp) capabilities, defaulting_of_field [] (by simp) transformers,
    defaulting_of_field j (by simp) strategies, defaulting_of_field k (by simp) extensions,
    defaulting_of_field [] (by simp) files]
  simp only [map_ofIssues, seq_ofIssues, List.map_nil, List.nil_append, List.append_nil]

end Settings

namespace Overrides

variable {overrides : Overrides} {base : Settings}

/-- What is wrong with what is given, apart from the ending. -/
def otherIssues (overrides : Overrides) : List Issue :=
  ((unknownFeatures overrides.features).map fun name => ⟨["capabilities", name], .unknownField⟩) ++
    ((word overrides.writeStrategy).toList.flatMap strategyIssues).map (Issue.under "write_strategy")

/-- What is wrong with what is given. -/
def issues (overrides : Overrides) : List Issue :=
  overrides.otherIssues ++
    ((word overrides.extension).toList.flatMap extensionIssues).map (Issue.under "artifact_extension")

/-- Settings with what is given in the place of what they say themselves. -/
def applied (overrides : Overrides) (base : Settings) : Settings where
  classesDir := overrides.classesDir.getD base.classesDir
  failOnError := overrides.failOnError.getD base.failOnError
  capabilities := .ofWanted fun feature =>
    base.capabilities.has feature || overrides.features.contains feature.name
  transformer := (word overrides.transformer).or base.transformer
  writeStrategy :=
    ((word overrides.writeStrategy).bind (List.lookup · WriteStrategy.choices)).getD base.writeStrategy
  extension := (word overrides.extension).getD base.extension
  dependencies := base.dependencies ++ overrides.dependencies.map Dependency.parse

theorem field?_entry {α : Type} (name key : String) (toValue : α → Value) (given : Option α) :
    field? name (entry key toValue given) = if key = name then given.map toValue else none := by
  cases given with
  | none => simp [entry]
  | some given => simp [entry]

/-- What stands for a setting in the merged mapping. -/
theorem valueFor_eq (overrides : Overrides) (otherwise : Value) :
    valueFor overrides.replacements "classes_dir" otherwise =
      (overrides.classesDir.map fun path => .text path.toString).getD otherwise ∧
    valueFor overrides.replacements "fail_on_error" otherwise =
      (overrides.failOnError.map .bool).getD otherwise ∧
    valueFor overrides.replacements "transformer" otherwise =
      ((word overrides.transformer).map .text).getD otherwise ∧
    valueFor overrides.replacements "write_strategy" otherwise =
      ((word overrides.writeStrategy).map .text).getD otherwise ∧
    valueFor overrides.replacements "artifact_extension" otherwise =
      ((word overrides.extension).map .text).getD otherwise := by
  simp [valueFor, replacements, field?_append, field?_entry]

/-- Whatever the ending is, merging replaces what else is given, if there is nothing wrong with it. -/
theorem ofValue_mergedWith (overrides : Overrides) (base : Settings) {ending : Value} {words : String}
    {issues : List Issue} (read : Settings.extensionOf ending = ofIssues issues words) :
    Settings.ofValue (overrides.mergedWith base ending) =
      ofIssues (overrides.otherIssues ++ issues.map (Issue.under "artifact_extension"))
        { overrides.applied base with extension := words } := by
  have directories : pathOf (valueFor overrides.replacements "classes_dir"
      (.text base.classesDir.toString)) = .accepted (overrides.applied base).classesDir := by
    rw [(valueFor_eq overrides _).1, applied]
    cases overrides.classesDir <;> exact pathOf_toString _
  have flags : boolOf (valueFor overrides.replacements "fail_on_error" (.bool base.failOnError)) =
      .accepted (overrides.applied base).failOnError := by
    rw [(valueFor_eq overrides _).2.1, applied]
    cases overrides.failOnError <;> rfl
  have transformers : optional textOf (valueFor overrides.replacements "transformer"
      (optionalText base.transformer)) = .accepted (overrides.applied base).transformer := by
    rw [(valueFor_eq overrides _).2.2.1, applied]
    cases word overrides.transformer with
    | some name => rfl
    | none => cases base.transformer <;> rfl
  have strategies := choiceOf_given (word overrides.writeStrategy) base.writeStrategy
  rw [← (valueFor_eq overrides _).2.2.2.1] at strategies
  have files : listOf Dependency.ofValue (.list (base.dependencies.map Dependency.toValue ++
      overrides.dependencies.map fun text => (Dependency.parse text).toValue)) =
        .accepted (overrides.applied base).dependencies := by
    have whole := checkItems_map (fun dependency (_ : dependency ∈ (overrides.applied base).dependencies) =>
      Dependency.ofValue_toValue dependency) 0
    rwa [applied, List.map_append, List.map_map] at whole
  let merged : Settings := { overrides.applied base with extension := words }
  have extensions : Settings.extensionOf ending = ofIssues issues merged.extension := read
  have checked := @Settings.ofValue_mapping _ _ _ _ _ _ _ merged _ _ _ directories flags
    (ofValue_withFeatures base.capabilities overrides.features) transformers strategies extensions files
  rw [List.map_map] at checked
  exact checked

/-- Merging replaces what is given, if there is nothing wrong with it. -/
theorem merge_eq (overrides : Overrides) (valid : base.IsValid) :
    overrides.merge base = ofIssues overrides.issues (overrides.applied base) := by
  have extensions := extensionOf_given (word overrides.extension) valid
  rw [← (valueFor_eq overrides _).2.2.2.2] at extensions
  exact overrides.ofValue_mergedWith base extensions

/-! ## What can be taken over -/

@[simp] theorem word_none : word none = none := rfl

@[simp] theorem word_empty : word (some "") = none := rfl

theorem word_of_ne {words : String} (some : words ≠ "") : word (.some words) = .some words := by
  simp [word, Option.filter, some]

theorem word_eq_some_iff {given : Option String} {words : String} :
    word given = some words ↔ given = some words ∧ words ≠ "" := by
  simp [word, Option.filter_eq_some_iff]

/-- An ending with a half of a character is refused, whatever else is given. -/
theorem mergeEnding_of_half {ending : Text.RawText} (mixed : ending.text? = none) :
    overrides.mergeEnding ending base =
      .rejected (overrides.otherIssues ++ [⟨["artifact_extension"], .undecodableText⟩]) := by
  have refused : Settings.extensionOf (.ofRaw ending) =
      ofIssues [⟨[], .undecodableText⟩] base.extension := by
    rw [Value.ofRaw, mixed]
    rfl
  have merged := ofValue_mergedWith overrides base refused
  rw [ofIssues_of_ne_nil (by simp)] at merged
  rw [mergeEnding, mixed]
  exact merged

/-- Everything that is given can be taken over: features and strategies are known, and an ending is one.
Empty words count as not given. -/
structure Fits (overrides : Overrides) : Prop where
  features : ∀ name ∈ overrides.features, ∃ feature : Feature, feature.name = name
  writeStrategy : ∀ name, overrides.writeStrategy = some name → name ≠ "" →
    ∃ strategy : WriteStrategy, strategy.name = name
  extension : ∀ words, overrides.extension = some words → words ≠ "" → IsExtension words

/-- An issue is one with a word that is given and does not fit its place. -/
inductive Blames (overrides : Overrides) : Issue → Prop
  | feature {name : String} (given : name ∈ overrides.features)
      (unknown : ∀ feature : Feature, feature.name ≠ name) :
      Blames overrides ⟨["capabilities", name], .unknownField⟩
  | writeStrategy {name : String} (given : overrides.writeStrategy = some name) (some : name ≠ "")
      (unknown : ∀ strategy : WriteStrategy, strategy.name ≠ name) :
      Blames overrides ⟨["write_strategy"], .notChoice (WriteStrategy.choices.map (·.1))⟩
  | extension {words : String} {problem : Problem} (given : overrides.extension = some words)
      (some : words ≠ "") (isNone : ¬ IsExtension words) :
      Blames overrides ⟨["artifact_extension"], problem⟩

/-- Only what does not fit is reported. -/
theorem blames_of_mem_issues {issue : Issue} (member : issue ∈ overrides.issues) :
    overrides.Blames issue := by
  simp only [issues, otherIssues, List.mem_append, List.mem_map, List.mem_flatMap, Option.mem_toList,
    word_eq_some_iff] at member
  rcases member with (⟨name, unknown, rfl⟩ | ⟨inner, ⟨name, ⟨given, some⟩, isIssue⟩, rfl⟩) |
    ⟨inner, ⟨words, ⟨given, some⟩, isIssue⟩, rfl⟩
  · obtain ⟨given, unknown⟩ := mem_unknownFeatures.1 unknown
    exact .feature given unknown
  · have unknown := mt strategyIssues_eq_nil_iff.2 (List.ne_nil_of_mem isIssue)
    rw [strategyIssues] at isIssue
    split at isIssue
    · contradiction
    · obtain rfl := List.mem_singleton.1 isIssue
      exact .writeStrategy given some (not_exists.1 unknown)
  · have isNone := mt extensionIssues_eq_nil_iff.2 (List.ne_nil_of_mem isIssue)
    rw [extensionIssues] at isIssue
    split at isIssue
    · contradiction
    · split at isIssue
      all_goals
        obtain rfl := List.mem_singleton.1 isIssue
        exact .extension given some isNone

theorem issues_eq_nil_iff : overrides.issues = [] ↔ overrides.Fits := by
  simp only [issues, otherIssues, List.append_eq_nil_iff, List.map_eq_nil_iff, List.flatMap_eq_nil_iff,
    Option.mem_toList, word_eq_some_iff, strategyIssues_eq_nil_iff, extensionIssues_eq_nil_iff]
  have known : unknownFeatures overrides.features = [] ↔
      ∀ name ∈ overrides.features, ∃ feature : Feature, feature.name = name := by
    simp only [List.eq_nil_iff_forall_not_mem, mem_unknownFeatures, not_and, not_forall, not_not]
  rw [known]
  exact ⟨fun ⟨⟨features, strategy⟩, extension⟩ => ⟨features,
      fun name given some => strategy name ⟨given, some⟩,
      fun words given some => extension words ⟨given, some⟩⟩,
    fun fits => ⟨⟨fits.features, fun name given => fits.writeStrategy name given.1 given.2⟩,
      fun words given => fits.extension words given.1 given.2⟩⟩

theorem merge_of_fits (valid : base.IsValid) (fits : overrides.Fits) :
    overrides.merge base = .accepted (overrides.applied base) := by
  rw [merge_eq overrides valid, issues_eq_nil_iff.2 fits, ofIssues_nil]

theorem merge_of_misfit (valid : base.IsValid) (misfit : ¬ overrides.Fits) :
    overrides.merge base = .rejected overrides.issues := by
  rw [merge_eq overrides valid, ofIssues_of_ne_nil (mt issues_eq_nil_iff.1 misfit)]

theorem fits_nothing : ({} : Overrides).Fits :=
  ⟨nofun, nofun, nofun⟩

/-- Nothing is taken over if nothing is given. -/
theorem applied_nothing (base : Settings) : ({} : Overrides).applied base = base := by
  simp [applied, word]

theorem mergedValue_nothing (base : Settings) : ({} : Overrides).mergedValue base = base.toValue := by
  simp [mergedValue, mergedWith, Settings.toValue, withFeatures, replacements, entry, valueFor, word,
    Capabilities.toValue]

end Overrides

/-- Reading what was written about settings gives them again. -/
theorem Settings.ofValue_toValue {settings : Settings} (valid : settings.IsValid) :
    ofValue settings.toValue = .accepted settings := by
  have merged := Overrides.merge_eq {} valid
  rw [Overrides.merge, Overrides.mergedValue_nothing, Overrides.applied_nothing] at merged
  exact merged

end Enhance
