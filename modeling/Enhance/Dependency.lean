import Enhance.Value.Check

/-!
# Dependencies

A dependency of the build is an archive or a directory of classes together with the scope it
is used in. On the command line it is written as a path, optionally followed by a colon and
the name of a scope.
-/

namespace Enhance

open Enhance.Text

/-- What a dependency is used for. -/
inductive Scope where
  | compile
  | provided
  | runtime
  | test
  | system
  | imported
  deriving DecidableEq, Repr, Inhabited

namespace Scope

/-- The name of a scope. -/
def name : Scope → String
  | .compile => "compile"
  | .provided => "provided"
  | .runtime => "runtime"
  | .test => "test"
  | .system => "system"
  | .imported => "import"

/-- All scopes. -/
def all : List Scope := [.compile, .provided, .runtime, .test, .system, .imported]

/-- The names of the scopes. -/
def choices : List (String × Scope) :=
  all.map fun scope => (scope.name, scope)

/-- The scope of that name. -/
def ofName? (words : String) : Option Scope :=
  all.find? (·.name = words)

theorem mem_all (scope : Scope) : scope ∈ all := by
  cases scope <;> decide

theorem ofName?_name (scope : Scope) : ofName? scope.name = some scope := by
  cases scope <;> decide

end Scope

/-- A dependency of the build. -/
structure Dependency where
  /-- Where it is; none if the build could not find it. -/
  file : Option Path := none
  scope : Scope := .compile
  /-- Its coordinates, for messages. -/
  id : Option String := none
  deriving DecidableEq, Repr

namespace Dependency

/-- Whether a dependency is only used by tests. -/
def isTest (dependency : Dependency) : Bool :=
  dependency.scope = .test

/-- What messages call a dependency. -/
def label (dependency : Dependency) : String :=
  match dependency.id, dependency.file with
  | some id, file => if id ≠ "" then id else (file.map Path.toString).getD "<unresolved>"
  | none, some file => file.toString
  | none, none => "<unresolved>"

/-- The scope that a word names, whatever the case of its letters. No letter outside ASCII
has one of the letters of these names as its small form. -/
def scopeOfWord? (word : List Char) : Option Scope :=
  Scope.ofName? (String.ofList (word.map Char.toLower))

/-- The dependency that a text writes. What follows the last colon is a scope only if it names
one and a path stands before it, so that a path may hold colons. -/
def parse (text : String) : Dependency :=
  let whole : Dependency := { file := some (Path.ofString text) }
  match splitLast ':' text.toList with
  | none => whole
  | some ([], _) => whole
  | some (front, word) =>
    match scopeOfWord? word with
    | some scope => { file := some (Path.ofString (String.ofList front)), scope }
    | none => whole

/-- The dependency that a mapping describes. -/
def ofValue : Value → Checked Dependency :=
  Value.recordOf "Dependency" ["file", "scope", "id"] fun entries =>
    Dependency.mk
      <$> Value.defaulting "file" none (Value.optional Value.pathOf) entries
      <*> Value.defaulting "scope" .compile (Value.choiceOf Scope.choices) entries
      <*> Value.defaulting "id" none (Value.optional Value.textOf) entries

/-- The mapping that describes a dependency. -/
def toValue (dependency : Dependency) : Value :=
  .mapping [
    (.text "file", Value.optionalText (dependency.file.map Path.toString)),
    (.text "scope", .text dependency.scope.name),
    (.text "id", Value.optionalText dependency.id)]

end Dependency

end Enhance
