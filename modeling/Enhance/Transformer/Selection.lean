import Enhance.Transformer.Import
import Enhance.UserError

/-!
# Selecting a transformer

A transformer is selected by name: one that is built in, one that an installed package offers
under that name, or the attribute of a module, written as the name of the module, a colon and
the name of the attribute. Without a name the environment decides.
-/

namespace Enhance

open Enhance.Text

/-- A transformer offered by an installed package. Loading it may fail. -/
structure EntryPoint where
  name : String
  /-- The reference to what is offered. -/
  reference : String
  load : Except Failure Object

/-- The transformer that the program itself offers. -/
def EntryPoint.noOp : EntryPoint :=
  { name := "noop"
    reference := "enhance.transformer:NoOpTransformer"
    load := .ok (.classOf .noOp) }

/-- What transformers can be selected from. -/
structure Plugins where
  modules : Modules := {}
  entryPoints : List EntryPoint := [.noOp]
  /-- The name that the environment gives. -/
  preferred : Option String := none

/-- Why no transformer was selected. -/
inductive SelectionError where
  /-- There is no such transformer. -/
  | absent (name : String) (available : List String) (cause : Option ImportError)
  /-- The reference makes no sense. -/
  | reference (error : ImportError)
  /-- Loading or making the transformer failed. -/
  | failed (failure : Failure)

/-- The outcome of selecting something and what it leaves in the log. -/
structure Selection (α : Type) where
  log : List LogEntry
  result : Except SelectionError α

/-- A selection of which only an image is used. -/
def Selection.map {α β : Type} (image : α → β) (selection : Selection α) : Selection β :=
  { selection with result := selection.result.map image }

namespace Plugins

/-- The name of the transformer that is built in. -/
def builtIn : String := "noop"

/-- The texts in ascending order, each once. -/
def sortedOnce (texts : List String) : List String :=
  (texts.eraseDups).mergeSort fun first second => first ≤ second

/-- The names to choose from. -/
def available (plugins : Plugins) : List String :=
  sortedOnce (builtIn :: plugins.entryPoints.map EntryPoint.name)

/-- The name that counts if none is given. -/
def defaultName (plugins : Plugins) : String :=
  plugins.preferred.getD builtIn

/-- That there is no such transformer; technical details go to the log. -/
def absent (plugins : Plugins) (name : String) (cause : Option ImportError)
    (details : Option String) : Selection Object :=
  let available := plugins.available
  { log := details.toList.map fun details =>
      (UserError.noTransformer name available).logEntry details
    result := .error (.absent name available cause) }

/-- What comes of an object that a name designates. -/
def ofTarget (plugins : Plugins) (name : String) (target : Object) : Selection Object :=
  match target.instantiated with
  | .error failure => ⟨[], .error (.failed failure)⟩
  | .ok object =>
    if object.isTransformer then ⟨[], .ok object⟩
    else plugins.absent name none s!"{object.traits.kind} has no transform() method"

/-- What comes of a reference that cannot be followed. -/
def ofImportError (plugins : Plugins) (name : String) (error : ImportError) : Selection Object :=
  if error.meansAbsent then
    plugins.absent name (some error) (some s!"{error.kind}: {error.message}")
  else
    match error with
    | .broken failure _ => ⟨[], .error (.failed failure)⟩
    | _ => ⟨[], .error (.reference error)⟩

/-- The entry about loading what a package offers. -/
def loadEntry (name : String) (entryPoint : EntryPoint) : LogEntry :=
  { source := .transformers
    level := .debug
    event := "transformer_entry_point_loaded"
    fields := [("name", .str name), ("value", .str entryPoint.reference)] }

/-- Selects the transformer of that name. -/
def create (plugins : Plugins) (name : String) : Selection Object :=
  match splitFirst ':' name.toList with
  | some (moduleName, member) =>
    match plugins.modules.follow moduleName member with
    | .ok target => plugins.ofTarget name target
    | .error error => plugins.ofImportError name error
  | none =>
    if name.map Char.toLower = builtIn then ⟨[], .ok (.ofTransformer .noOp)⟩
    else
      match plugins.entryPoints.find? (·.name = name) with
      | none => plugins.absent name none none
      | some entryPoint =>
        let selection := match entryPoint.load with
          | .ok target => plugins.ofTarget name target
          | .error failure => ⟨[], .error (.failed failure)⟩
        { selection with log := loadEntry name entryPoint :: selection.log }

/-- The name that counts: that in the settings or else that in the environment. -/
def selected (plugins : Plugins) (name : Option String) : String :=
  (name.filter (· ≠ "")).getD plugins.defaultName

/-- Selects the transformer for a run. -/
def resolve (plugins : Plugins) (name : Option String) : Selection Transformer :=
  let selected := plugins.selected name
  let selection := (plugins.create selected).map Object.toTransformer
  match selection.result with
  | .error _ => selection
  | .ok transformer =>
    { selection with
      log := selection.log ++ [{
        source := .transformers
        level := .info
        event := "transformer_selected"
        fields := [("transformer", .str selected), ("type", .str transformer.kind)] }] }

end Plugins

end Enhance
