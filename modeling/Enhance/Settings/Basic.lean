import Enhance.Dependency
import Enhance.Diagnostic

/-!
# Settings

The settings of a run tell where the class files are, which features the transformer is asked
for, how failures are treated and what the class path is made of. They are read from a mapping
and can be written as one.
-/

namespace Enhance

/-- How the bytes of a transformed class replace those in its file. -/
inductive WriteStrategy where
  /-- They are written to a new file, which is then renamed. -/
  | atomic
  /-- The old file is deleted and written anew. -/
  | recreate
  deriving DecidableEq, Repr, Inhabited

namespace WriteStrategy

/-- The name of a strategy. -/
def name : WriteStrategy → String
  | .atomic => "atomic"
  | .recreate => "delete_recreate"

/-- The names of the strategies. -/
def choices : List (String × WriteStrategy) :=
  [atomic, recreate].map fun strategy => (strategy.name, strategy)

end WriteStrategy

/-- What a transformer can be asked for. -/
inductive Feature where
  | lazyInitialization
  | dirtyTracking
  | associationManagement
  | extendedEnhancement
  deriving DecidableEq, Repr, Inhabited

namespace Feature

/-- The name of a feature. -/
def name : Feature → String
  | .lazyInitialization => "enable_lazy_initialization"
  | .dirtyTracking => "enable_dirty_tracking"
  | .associationManagement => "enable_association_management"
  | .extendedEnhancement => "enable_extended_enhancement"

/-- All features, in the order in which they are listed. -/
def all : List Feature :=
  [.lazyInitialization, .dirtyTracking, .associationManagement, .extendedEnhancement]

theorem mem_all (feature : Feature) : feature ∈ all := by
  cases feature <;> decide

end Feature

/-- Which features are asked for. -/
structure Capabilities where
  lazyInitialization : Bool := false
  dirtyTracking : Bool := false
  associationManagement : Bool := false
  extendedEnhancement : Bool := false
  deriving DecidableEq, Repr, Inhabited

namespace Capabilities

/-- Whether a feature is asked for. -/
def has (capabilities : Capabilities) : Feature → Bool
  | .lazyInitialization => capabilities.lazyInitialization
  | .dirtyTracking => capabilities.dirtyTracking
  | .associationManagement => capabilities.associationManagement
  | .extendedEnhancement => capabilities.extendedEnhancement

/-- The features that are asked for. -/
def features (capabilities : Capabilities) : List Feature :=
  Feature.all.filter capabilities.has

/-- The names of the features that are asked for. -/
def names (capabilities : Capabilities) : List String :=
  capabilities.features.map Feature.name

/-- Whether any feature is asked for. -/
def any (capabilities : Capabilities) : Bool :=
  Feature.all.any capabilities.has

/-- The capabilities that a mapping describes. -/
def ofValue : Value → Checked Capabilities :=
  Value.recordOf "CapabilityConfig" (Feature.all.map Feature.name) fun entries =>
    let switch (feature : Feature) : Checked Bool :=
      Value.defaulting feature.name false Value.boolOf entries
    Capabilities.mk
      <$> switch .lazyInitialization
      <*> switch .dirtyTracking
      <*> switch .associationManagement
      <*> switch .extendedEnhancement

/-- The mapping that describes capabilities. -/
def toValue (capabilities : Capabilities) : Value :=
  .mapping (Feature.all.map fun feature => (.text feature.name, .bool (capabilities.has feature)))

end Capabilities

/-- The ending of the names of class files. -/
def classExtension : String := ".class"

/-- Where the class files are unless the settings say otherwise. -/
def defaultClassesDir : Path := Path.ofString "target/classes"

/-- The settings of a run. -/
structure Settings where
  classesDir : Path := defaultClassesDir
  failOnError : Bool := true
  capabilities : Capabilities := {}
  /-- The name of the transformer; none leaves the choice to the environment. -/
  transformer : Option String := none
  writeStrategy : WriteStrategy := .atomic
  /-- The ending of the names of the files to transform. -/
  extension : String := classExtension
  dependencies : List Dependency := []
  deriving DecidableEq, Repr

namespace Settings

/-- How the run treats failures. -/
def policy (settings : Settings) : FailurePolicy :=
  .ofFlag settings.failOnError

/-- An ending of file names: two characters or more, of which the first is a point. -/
def extensionOf (value : Value) : Checked String :=
  (value.textOfLength 2).andThen fun words =>
    if words.toList.head? = some '.' then .accepted words
    else .refused (.rule s!"artifact_extension must start with '.', got '{words}'")

/-- The names of the settings. -/
def names : List String :=
  ["classes_dir", "fail_on_error", "capabilities", "transformer", "write_strategy",
    "artifact_extension", "dependencies"]

/-- The settings that a mapping describes. -/
def ofValue : Value → Checked Settings :=
  Value.recordOf "EnhanceConfig" names fun entries =>
    Settings.mk
      <$> Value.defaulting "classes_dir" defaultClassesDir Value.pathOf entries
      <*> Value.defaulting "fail_on_error" true Value.boolOf entries
      <*> Value.defaulting "capabilities" {} Capabilities.ofValue entries
      <*> Value.defaulting "transformer" none (Value.optional Value.textOf) entries
      <*> Value.defaulting "write_strategy" .atomic (Value.choiceOf WriteStrategy.choices) entries
      <*> Value.defaulting "artifact_extension" classExtension extensionOf entries
      <*> Value.defaulting "dependencies" [] (Value.listOf Dependency.ofValue) entries

/-- The mapping that describes settings. -/
def toValue (settings : Settings) : Value :=
  .mapping [
    (.text "classes_dir", .text settings.classesDir.toString),
    (.text "fail_on_error", .bool settings.failOnError),
    (.text "capabilities", settings.capabilities.toValue),
    (.text "transformer", Value.optionalText settings.transformer),
    (.text "write_strategy", .text settings.writeStrategy.name),
    (.text "artifact_extension", .text settings.extension),
    (.text "dependencies", .list (settings.dependencies.map Dependency.toValue))]

/-- A dependency whose relative file is meant from a base. -/
def anchorDependency (base : Path) (dependency : Dependency) : Dependency :=
  { dependency with file := dependency.file.map (base / ·) }

/-- The settings whose relative paths are meant from a base. Absolute paths stay. -/
def relativeTo (settings : Settings) (base : Path) : Settings :=
  { settings with
    classesDir := base / settings.classesDir
    dependencies := settings.dependencies.map (anchorDependency base) }

end Settings

end Enhance
