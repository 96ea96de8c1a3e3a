import Enhance.Value.Check

/-!
# Outcomes

What became of one class file: it is left as it is, there are new bytes for it, or it could
not be transformed. There are bytes exactly if it was transformed, by the shape of the type.
-/

namespace Enhance

/-- What became of a class file. -/
inductive Outcome where
  | unchanged
  | transformed (data : List UInt8)
  | failed (message : String) (cause : Option Failure)
  deriving DecidableEq, Repr

/-- The kinds of outcome. -/
inductive OutcomeKind where
  | unchanged
  | transformed
  | failed
  deriving DecidableEq, Repr

namespace OutcomeKind

/-- The name of a kind of outcome. -/
def name : OutcomeKind → String
  | .unchanged => "unchanged"
  | .transformed => "transformed"
  | .failed => "failed"

/-- The names of the kinds of outcome. -/
def choices : List (String × OutcomeKind) :=
  [unchanged, transformed, failed].map fun kind => (kind.name, kind)

end OutcomeKind

/-- The record of an outcome: every field has a value whatever the kind of the outcome. -/
structure OutcomeRecord where
  kind : OutcomeKind
  data : Option (List UInt8)
  message : String
  cause : Option Failure
  /-- There are bytes exactly if the class was transformed. -/
  data_iff : kind = .transformed ↔ data.isSome = true

namespace OutcomeRecord

/-- The record with these fields, if there are bytes exactly when there have to be. -/
def ofFields (kind : OutcomeKind) (data : Option (List UInt8)) (message : String)
    (cause : Option Failure) : Checked OutcomeRecord :=
  if h : kind = .transformed ↔ data.isSome = true then .accepted ⟨kind, data, message, cause, h⟩
  else .refused (.rule "data must be set if and only if outcome is 'transformed'")

/-- The record that a mapping describes. -/
def ofValue (value : Value) : Checked OutcomeRecord :=
  (Value.recordOf "TransformResult" ["outcome", "data", "message", "cause"] (fun entries =>
    (fun kind data message cause => (kind, data, message, cause))
      <$> Value.required "outcome" (Value.choiceOf OutcomeKind.choices) entries
      <*> Value.defaulting "data" none (Value.optional Value.bytesOf) entries
      <*> Value.defaulting "message" "" Value.textOf entries
      <*> Value.defaulting "cause" none (Value.optional Value.failureOf) entries) value).andThen
    fun fields => ofFields fields.1 fields.2.1 fields.2.2.1 fields.2.2.2

/-- The record of an outcome. -/
def ofOutcome : Outcome → OutcomeRecord
  | .unchanged => ⟨.unchanged, none, "", none, by simp⟩
  | .transformed data => ⟨.transformed, some data, "", none, by simp⟩
  | .failed message cause => ⟨.failed, none, message, cause, by simp⟩

end OutcomeRecord

end Enhance
