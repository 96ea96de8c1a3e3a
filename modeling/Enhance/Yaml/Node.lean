import Enhance.Text.Half
import Enhance.Yaml.Error
import Enhance.Yaml.Tag

/-!
# The nodes of a document

A document is a graph of nodes: an alias leads to the node that has the anchor, so that a node may
occur at several places and even inside itself. Nodes are known by their number.
-/

namespace Enhance.Yaml

/-- What a node holds. -/
inductive Body where
  | scalar (text : Text.RawText)
  | sequence (items : List Nat)
  | mapping (entries : List (Nat × Nat))
  deriving DecidableEq, Repr, Inhabited

/-- How messages name the kind of a node. -/
def Body.kind : Body → String
  | .scalar _ => "scalar"
  | .sequence _ => "sequence"
  | .mapping _ => "mapping"

/-- A node with its tag. -/
structure Node where
  tag : String
  start : Position
  body : Body
  deriving DecidableEq, Repr, Inhabited

/-- The nodes of a document by their numbers. -/
structure Graph where
  nodes : Array Node := #[]
  deriving Repr

namespace Graph

/-- The node with a number. -/
def node (graph : Graph) (n : Nat) : Node :=
  graph.nodes.getD n ⟨Tag.common "null", {}, .scalar ""⟩

/-- Adds a node, which gets the next number. -/
def add (graph : Graph) (node : Node) : Graph :=
  ⟨graph.nodes.push node⟩

/-- Changes what a node holds. -/
def fill (graph : Graph) (n : Nat) (body : Body) : Graph :=
  ⟨graph.nodes.modify n fun node => { node with body }⟩

/-- Changes the tag of a node. -/
def retag (graph : Graph) (n : Nat) (tag : String) : Graph :=
  ⟨graph.nodes.modify n fun node => { node with tag }⟩

@[simp] theorem size_fill (graph : Graph) (n : Nat) (body : Body) :
    (graph.fill n body).nodes.size = graph.nodes.size := by
  simp [fill]

@[simp] theorem size_add (graph : Graph) (node : Node) :
    (graph.add node).nodes.size = graph.nodes.size + 1 := by
  simp [add]

end Graph

end Enhance.Yaml
