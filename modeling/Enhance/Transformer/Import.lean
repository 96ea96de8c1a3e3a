import Enhance.Text.Pieces
import Enhance.Transformer.Object

/-!
# Importing modules

A module is imported by its name. A dotted name leads through the modules that its beginnings
name, the last of which has to be a package. A module that is not known yet runs its code,
which may fail.
-/

namespace Enhance

open Enhance.Text

/-- A module and its attributes. -/
structure Module where
  name : String
  /-- Whether there may be other modules inside. -/
  isPackage : Bool := false
  attributes : List (String × Object)

/-- A module whose code fails. -/
structure BrokenModule where
  name : String
  failure : Failure
  /-- Whether it is an error of importing another module or of looking up an attribute. -/
  lacksSomething : Bool

/-- The modules that can be found. -/
structure Modules where
  known : List Module := []
  broken : List BrokenModule := []

/-- Why a reference cannot be followed. -/
inductive ImportError where
  | emptyName
  /-- The name starts with a point, which says that it is relative to another one. -/
  | relativeName (name : String)
  | noModule (name : String)
  /-- There is a module, which has no others inside. -/
  | notAPackage (name parent : String)
  | noAttribute (moduleName name : String)
  /-- The code of a module fails. -/
  | broken (failure : Failure) (lacksSomething : Bool)
  deriving DecidableEq, Repr

namespace ImportError

/-- The class of an error. -/
def kind : ImportError → String
  | .emptyName => "ValueError"
  | .relativeName _ => "TypeError"
  | .noModule _ | .notAPackage .. => "ModuleNotFoundError"
  | .noAttribute .. => "AttributeError"
  | .broken failure _ => failure.kind

/-- Why a reference cannot be followed. -/
def message : ImportError → String
  | .emptyName => "Empty module name"
  | .relativeName name =>
    s!"the 'package' argument is required to perform a relative import for {quoted name}"
  | .noModule name => s!"No module named {quoted name}"
  | .notAPackage name parent =>
    s!"No module named {quoted name}; {quoted parent} is not a package"
  | .noAttribute moduleName name => s!"module {quoted moduleName} has no attribute {quoted name}"
  | .broken failure _ => failure.message

/-- Whether an error means that something is not there. -/
def meansAbsent : ImportError → Bool
  | .emptyName | .relativeName _ => false
  | .broken _ lacksSomething => lacksSomething
  | _ => true

end ImportError

/-- The name that parts make, given last part first. -/
def dotted (parts : List (List Char)) : String :=
  String.ofList (joined ['.'] parts.reverse)

namespace Modules

/-- The known module of that name. -/
def known? (modules : Modules) (name : String) : Option Module :=
  modules.known.find? (·.name = name)

/-- What comes of looking for a module that is not known. -/
def search (modules : Modules) (name : String) : ImportError :=
  match modules.broken.find? (·.name = name) with
  | some found => .broken found.failure found.lacksSomething
  | none => .noModule name

/-- Imports a module, whose name is given by its parts, last part first. -/
def find (modules : Modules) : List (List Char) → Except ImportError Module
  | [] => .error .emptyName
  | part :: outer =>
    let name := dotted (part :: outer)
    match modules.known? name with
    | some found => .ok found
    | none =>
      if outer = [] then .error (modules.search name)
      else
        match modules.find outer with
        | .error error => .error error
        | .ok parent =>
          if parent.isPackage then .error (modules.search name)
          else .error (.notAPackage name parent.name)

end Modules

namespace Module

/-- An object that cannot be called. -/
def inert (kind : String) : Object := .plain { kind }

/-- A method of a module that gives an object of some kind. -/
def giving (kind result : String) : Object :=
  .callable { kind } (.ok (inert result))

/-- A method of a module that cannot be called without arguments. -/
def refusing (kind message : String) : Object :=
  .callable { kind } (.error (.raised "TypeError" message))

/-- The attributes that every module has. -/
def common : List (String × Object) :=
  let wrapper := "method-wrapper"
  let builtin := "builtin_function_or_method"
  let nameless := "module() missing required argument 'name' (pos 1)"
  let lonely := refusing wrapper "expected 1 argument, got 0"
  [("__name__", inert "str"), ("__doc__", inert "NoneType"),
    ("__package__", inert "NoneType"), ("__loader__", inert "NoneType"),
    ("__spec__", inert "NoneType"), ("__dict__", inert "dict"),
    ("__annotations__", inert "dict"),
    ("__class__", .type { kind := "type" } (.error (.raised "TypeError" nameless))),
    ("__init__", refusing wrapper nameless),
    ("__new__", refusing builtin "module.__new__(): not enough arguments"),
    ("__repr__", giving wrapper "str"), ("__str__", giving wrapper "str"),
    ("__hash__", giving wrapper "int"), ("__sizeof__", giving builtin "int"),
    ("__dir__", giving builtin "list"), ("__getstate__", giving builtin "dict"),
    ("__init_subclass__", giving builtin "NoneType"),
    ("__subclasshook__", giving builtin "NotImplementedType"),
    ("__eq__", lonely), ("__ne__", lonely), ("__lt__", lonely), ("__le__", lonely),
    ("__gt__", lonely), ("__ge__", lonely), ("__getattribute__", lonely),
    ("__delattr__", lonely), ("__setattr__", refusing wrapper " expected 2 arguments, got 0"),
    ("__format__", refusing builtin "__format__() takes exactly one argument (0 given)"),
    ("__reduce__", refusing builtin "cannot pickle 'module' object"),
    ("__reduce_ex__", refusing builtin "__reduce_ex__() takes exactly one argument (0 given)")]

/-- The attribute of a module with that name. -/
def attribute? (found : Module) (name : String) : Option Object :=
  (found.attributes ++ common).lookup name

end Module

/-- What the reference to an attribute of a module leads to. -/
def Modules.follow (modules : Modules) (moduleName member : List Char) :
    Except ImportError Object := do
  if moduleName.head? = some '.' then throw (.relativeName (String.ofList moduleName))
  if moduleName = [] then throw .emptyName
  let found ← modules.find (pieces '.' moduleName).reverse
  let name := String.ofList member
  match found.attribute? name with
  | some object => return object
  | none => throw (.noAttribute found.name name)

end Enhance
