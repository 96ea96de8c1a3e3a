import Enhance.Settings.Basic

/-!
# Overriding settings

Single settings can be given anew. An empty word for the transformer, the strategy or the ending
counts as not given. Features can only be switched on, and further dependencies come after the
ones that are there. The result is checked like settings that were read.
-/

namespace Enhance

/-- Settings that are given anew. -/
structure Overrides where
  classesDir : Option Path := none
  failOnError : Option Bool := none
  transformer : Option String := none
  writeStrategy : Option String := none
  extension : Option String := none
  /-- The names of the features to switch on. -/
  features : List String := []
  /-- The further dependencies, as they are written. -/
  dependencies : List String := []
  deriving DecidableEq, Repr

namespace Overrides

/-- The entry for a setting that is given. -/
def entry {α : Type} (name : String) (toValue : α → Value) (given : Option α) :
    List (Value × Value) :=
  (given.map fun value => (Value.text name, toValue value)).toList

/-- A word that is given and not empty. -/
def word (given : Option String) : Option String :=
  given.filter (· ≠ "")

/-- The settings that replace others, by their names. -/
def replacements (overrides : Overrides) : List (Value × Value) :=
  entry "classes_dir" (fun path => .text path.toString) overrides.classesDir ++
    entry "fail_on_error" .bool overrides.failOnError ++
    entry "transformer" .text (word overrides.transformer) ++
    entry "write_strategy" .text (word overrides.writeStrategy) ++
    entry "artifact_extension" .text (word overrides.extension)

/-- The value for a name, if the entries have one, and else another value. -/
def valueFor (entries : List (Value × Value)) (name : String) (otherwise : Value) : Value :=
  (Value.field? name entries).getD otherwise

/-- The capabilities with some features switched on. A feature that is not known is kept, so that
it is refused. -/
def withFeatures (capabilities : Capabilities) (names : List String) : Value :=
  let known := Feature.all.map fun feature =>
    (Value.text feature.name,
      Value.bool (capabilities.has feature || names.contains feature.name))
  let unknown := (names.filter fun name => !(Feature.all.map Feature.name).contains name).eraseDups
  .mapping (known ++ unknown.map fun name => (.text name, .bool true))

/-- The mapping that describes settings with overrides and some ending. -/
def mergedWith (overrides : Overrides) (base : Settings) (ending : Value) : Value :=
  let entries := overrides.replacements
  .mapping [
    (.text "classes_dir", valueFor entries "classes_dir" (.text base.classesDir.toString)),
    (.text "fail_on_error", valueFor entries "fail_on_error" (.bool base.failOnError)),
    (.text "capabilities", withFeatures base.capabilities overrides.features),
    (.text "transformer", valueFor entries "transformer" (Value.optionalText base.transformer)),
    (.text "write_strategy", valueFor entries "write_strategy" (.text base.writeStrategy.name)),
    (.text "artifact_extension", ending),
    (.text "dependencies", .list (base.dependencies.map Dependency.toValue ++
      overrides.dependencies.map fun text => (Dependency.parse text).toValue))]

/-- The mapping that describes settings with overrides. -/
def mergedValue (overrides : Overrides) (base : Settings) : Value :=
  overrides.mergedWith base
    (valueFor overrides.replacements "artifact_extension" (.text base.extension))

/-- Settings with overrides. -/
def merge (overrides : Overrides) (base : Settings) : Checked Settings :=
  Settings.ofValue (overrides.mergedValue base)

/-- Settings with overrides and with an ending that need not be a text of characters. -/
def mergeEnding (overrides : Overrides) (ending : Text.RawText) (base : Settings) :
    Checked Settings :=
  match ending.text? with
  | some words => { overrides with extension := some words }.merge base
  | none => Settings.ofValue (overrides.mergedWith base (.ofRaw ending))

end Overrides

end Enhance
