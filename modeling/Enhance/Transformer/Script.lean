import Enhance.Disk.Setup
import Enhance.Transformer.Basic

/-!
# Scripted transformers

A transformer that follows a table: what it does with a class is looked up by the name of the
file.
-/

namespace Enhance.Transformer

/-- What a script answers. -/
inductive Reply where
  | answer (answer : Answer)
  | failure (failure : Failure)
  /-- The bytes of a class on the class path. -/
  | copyOf (className : String)
  | append (more : List UInt8)
  | reversed
  | same
  deriving DecidableEq, Repr

/-- What a script does with a class. -/
structure Rule where
  /-- Changes of the files that are made first. -/
  setup : List Disk.Item := []
  reply : Reply
  deriving DecidableEq, Repr

/-- A table of what to do with which class. -/
structure Script where
  rules : List (String × Rule)
  otherwise : Rule
  deriving DecidableEq, Repr

/-- The answer of a reply. -/
def Reply.give (reply : Reply) (data : List UInt8) (classpath : Classpath) : Program Answer :=
  match reply with
  | .answer given => pure given
  | .failure cause => throw cause
  | .copyOf className => do
    match ← Program.ask fun disk cwd => classpath.readClass disk cwd className with
    | some bytes => pure (.bytes bytes)
    | none => pure .nothing
  | .append more => pure (.bytes (data ++ more))
  | .reversed => pure (.bytes data.reverse)
  | .same => pure (.bytes data)

/-- The transformer that follows a script. -/
def ofScript (script : Script) : Transformer :=
  { kind := "Script"
    transform := fun file classpath _ => do
      let rule := (script.rules.lookup file.name).getD script.otherwise
      if rule.setup ≠ [] then Program.setUp rule.setup
      rule.reply.give file.data classpath }

end Enhance.Transformer
