import Enhance.Transformer.Basic

/-!
# Objects that may be transformers

What a package offers are objects of any kind. An object counts as a transformer if there is
something under the name `transform`, whatever it is. A class is not used itself: an object is
made of it. What is no transformer is called if it can be called, and what comes of that is
taken instead.
-/

namespace Enhance

/-- What stands under the name `transform` of an object. -/
inductive Attribute where
  /-- Something that can be called with a class file. -/
  | method (act : ClassFile → Classpath → Capabilities → Program Answer)
  /-- A value of some kind that cannot be called. It is not the one that stands for nothing. -/
  | value (kind : String)

/-- What can be seen of an object without calling it. -/
structure Traits where
  /-- The name of its class. -/
  kind : String
  transform : Option Attribute := none

/-- An object of a package, with what comes of calling it. -/
inductive Object where
  /-- A class; calling it makes an object. -/
  | type (traits : Traits) (make : Except Failure Object)
  /-- An object that can be called and is no class. -/
  | callable (traits : Traits) (call : Except Failure Object)
  | plain (traits : Traits)

namespace Object

/-- What can be seen of an object. -/
def traits : Object → Traits
  | .type traits _ | .callable traits _ | .plain traits => traits

/-- Whether an object is a class. -/
def isType : Object → Bool
  | .type .. => true
  | _ => false

/-- What comes of calling an object, if it can be called. -/
def called? : Object → Option (Except Failure Object)
  | .type _ result | .callable _ result => some result
  | .plain _ => none

/-- Whether an object counts as a transformer. -/
def isTransformer (object : Object) : Bool :=
  object.traits.transform.isSome

/-- The object that is used where another one is designated. -/
def instantiated (target : Object) : Except Failure Object := do
  let first ← match target with
    | .type _ make => make
    | _ => .ok target
  if first.isTransformer then return first
  match target with
  | .callable _ call => call
  | _ => return first

/-- A transformer as an object. -/
def ofTransformer (transformer : Transformer) : Object :=
  .plain { kind := transformer.kind, transform := some (.method transformer.transform) }

/-- A class that makes a transformer. Its own method misses the object that it belongs to. -/
def classOf (transformer : Transformer) : Object :=
  let message := s!"{transformer.kind}.transform() missing 1 required positional argument: 'data'"
  .type
    { kind := "type"
      transform := some (.method fun _ _ _ => throw (.raised "TypeError" message)) }
    (.ok (.ofTransformer transformer))

/-- What an object does when it is used as a transformer. -/
def toTransformer (object : Object) : Transformer :=
  let kind := object.traits.kind
  match object.traits.transform with
  | some (.method act) => { kind, transform := act }
  | some (.value other) => .failing kind (.raised "TypeError" s!"'{other}' object is not callable")
  | none =>
    .failing kind (.raised "AttributeError" s!"'{kind}' object has no attribute 'transform'")

@[simp] theorem toTransformer_ofTransformer (transformer : Transformer) :
    (ofTransformer transformer).toTransformer = transformer := rfl

end Object

end Enhance
