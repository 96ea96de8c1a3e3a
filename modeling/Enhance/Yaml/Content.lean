import Enhance.Yaml.Scalar

/-!
# The values of nodes

Each node is given one value, however often it occurs. Collections are given their place first
and are filled later, in the order in which they were reached, so that a collection may occur
inside itself. The keys of a mapping are scalars; of several equal keys the first one keeps its
place and the last one gives the value. A merged mapping stands before the entries of its own.
-/

namespace Enhance.Yaml

/-- The value of a node: its own, or that of a collection. -/
inductive Datum where
  | value (value : Value)
  | collection (n : Nat)
  deriving Inhabited

/-- What a collection holds. -/
inductive Filling where
  | list (items : List Datum)
  | mapping (entries : List (Value × Datum))
  | set (keys : List Value)
  | pairs (pairs : List (Datum × Datum))
  deriving Inhabited

/-- The kinds of collections. -/
inductive CollectionKind where
  | list
  | mapping
  | set
  | pairs
  deriving DecidableEq, Repr

/-- A collection that holds nothing. -/
def CollectionKind.empty : CollectionKind → Filling
  | .list => .list []
  | .mapping => .mapping []
  | .set => .set []
  | .pairs => .pairs []

/-- What is known while the values are made. -/
structure Content where
  graph : Graph
  /-- The values of the nodes that have one. -/
  data : List (Nat × Datum) := []
  fillings : List (Nat × Filling) := []
  /-- The collections that are to be filled, in order. -/
  waiting : List (Nat × CollectionKind) := []

/-- A computation that makes values. -/
abbrev Making (α : Type) := EStateM Error Content α

namespace Making

/-- The node with a number. -/
def node (n : Nat) : Making Node := do
  return (← get).graph.node n

/-- Stops at a place. -/
def fail {α : Type} (problem : ContentError) (position : Position) : Making α :=
  throw (.content problem position)

/-! ## Equal keys -/

/-- The number that a key is, if it is one. -/
def numberOf? : Value → Option Float
  | .bool value => some (if value then 1.0 else 0.0)
  | .int value => some (Float.ofInt value)
  | .float value => some value
  | _ => none

/-- The whole number that a key is, if it is one. -/
def wholeOf? : Value → Option Int
  | .bool value => some (if value then 1 else 0)
  | .int value => some value
  | .float value => if Number.isWhole value then some (Number.truncated value) else none
  | _ => none

/-- The number of seconds and microseconds up to a point in time, without its offset. -/
def instantOf (moment : Timestamp) : Int :=
  let days := (List.range (moment.date.year - 1)).foldl
    (fun sum year => sum + if isLeapYear (year + 1) then 366 else 365) 0
  let days := (List.range (moment.date.month - 1)).foldl
    (fun sum month => sum + daysInMonth moment.date.year (month + 1)) days
  let seconds : Int :=
    (((days + moment.date.day) * 24 + moment.hour) * 60 + moment.minute) * 60 + moment.second
  (seconds - moment.offset.getD 0) * 1000000 + moment.microsecond

/-- Whether two keys are equal. Numbers of different kinds are equal if they are the same
number, and points in time if they are the same one. -/
def sameKey (first second : Value) : Bool :=
  match first, second with
  | .null, .null => true
  | .text a, .text b => a = b
  | .raw a, .raw b => a = b
  | .bytes a, .bytes b => a = b
  | .date a, .date b => a = b
  | .time a, .time b => a.offset.isSome = b.offset.isSome && instantOf a = instantOf b
  | _, _ =>
    match wholeOf? first, wholeOf? second with
    | some a, some b => a = b
    | none, none =>
      match numberOf? first, numberOf? second with
      | some a, some b => a == b || (a.isNaN && b.isNaN)
      | _, _ => false
    | _, _ => false

/-- Adds an entry. An equal key keeps its place and is given the new value. -/
def insert {α : Type} (entries : List (Value × α)) (key : Value) (value : α) : List (Value × α) :=
  match entries with
  | [] => [(key, value)]
  | entry :: rest =>
    if sameKey entry.1 key then (entry.1, value) :: rest else entry :: insert rest key value

/-! ## Merging -/

/-- The key of merged mappings. -/
def mergeTag : String := Tag.common "merge"

/-- The tag of the key that holds the value of a mapping that is used as a scalar. -/
def valueTag : String := Tag.common "value"

/-- The entries of a mapping. -/
def entriesOf (n : Nat) : Making (List (Nat × Nat)) := do
  match (← node n).body with
  | .mapping entries => return entries
  | _ => return []

mutual

/-- Merges the mappings that a mapping asks for into it, looking at its entries from `index`
on. `merged` is what was merged so far. -/
def merge : (fuel : Nat) → (n index : Nat) → (merged : List (Nat × Nat)) → Making Unit
  | 0, _, _, _ => pure ()
  | fuel + 1, n, index, merged => do
    let entries ← entriesOf n
    match entries[index]? with
    | none =>
      if merged ≠ [] then
        modify fun content =>
          { content with graph := content.graph.fill n (.mapping (merged ++ entries)) }
    | some (key, value) =>
      let tag := (← node key).tag
      if tag = mergeTag then
        modify fun content =>
          { content with graph := content.graph.fill n (.mapping (entries.eraseIdx index)) }
        let source ← node value
        match source.body with
        | .mapping _ =>
          merge fuel value 0 []
          merge fuel n index (merged ++ (← entriesOf value))
        | .sequence items =>
          let sources ← mergeAll fuel n items
          merge fuel n index (merged ++ sources.reverse.flatten)
        | .scalar _ => fail (.mergeOfOther source.body.kind) source.start
      else
        if tag = valueTag then
          modify fun content => { content with graph := content.graph.retag key (Tag.common "str") }
        merge fuel n (index + 1) merged

/-- The entries of mappings that a mapping asks for together. -/
def mergeAll : (fuel : Nat) → (n : Nat) → List Nat → Making (List (List (Nat × Nat)))
  | _, _, [] => pure []
  | 0, _, _ => pure []
  | fuel + 1, n, item :: items => do
    let source ← node item
    match source.body with
    | .mapping _ =>
      merge fuel item 0 []
      let entries ← entriesOf item
      return entries :: (← mergeAll fuel n items)
    | _ => fail (.mergeOfOtherItem source.body.kind) source.start

end

/-! ## Scalars -/

/-- The text of a node: its own, or that of the value that a mapping has as a scalar. -/
def textOf : (fuel : Nat) → (n : Nat) → Making Text.RawText
  | 0, _ => return ""
  | fuel + 1, n => do
    let found ← node n
    match found.body with
    | .scalar text => return text
    | .mapping entries =>
      let graph := (← get).graph
      match entries.find? fun entry => (graph.node entry.1).tag = valueTag with
      | some (_, value) => textOf fuel value
      | none => fail (.notScalar found.body.kind) found.start
    | .sequence _ => fail (.notScalar found.body.kind) found.start

/-- The text of a node that is used as a scalar. -/
def scalarText (n : Nat) : Making Text.RawText := do
  textOf ((← get).graph.nodes.size + 1) n

/-- The text of a node, of which something else than a text is made. -/
def wholeText (n : Nat) : Making String := do
  match (← scalarText n).text? with
  | some text => return text
  | none => throw .half

/-- A converted value. -/
def converted {α : Type} (result : Except ConversionError α) : Making α :=
  match result with
  | .ok value => pure value
  | .error problem => throw (.conversion problem)

/-- The point in time that a node stands for. -/
def time (n : Nat) : Making Value := do
  let text ← wholeText n
  match (← node n).body with
  | .scalar _ => converted (Scalar.timeOf text)
  | _ => throw (.conversion .timeOfCollection)

/-- The bytes that a node stands for. -/
def bytes (n : Nat) : Making (List UInt8) := do
  let text ← wholeText n
  match Scalar.bytesOf text with
  | .ok bytes => return bytes
  | .error problem => fail problem (← node n).start

/-! ## Nodes -/

/-- The collection that a tag asks for. -/
def collectionOf? (tag : String) : Option CollectionKind :=
  if tag = Tag.common "seq" then some .list
  else if tag = Tag.common "map" then some .mapping
  else if tag = Tag.common "set" then some .set
  else if tag = Tag.common "omap" || tag = Tag.common "pairs" then some .pairs
  else none

/-- The value of a node that is no collection. -/
def scalar (n : Nat) : Making Value := do
  let found ← node n
  let tag := found.tag
  if tag = Tag.common "null" then
    let _ ← scalarText n
    return .null
  else if tag = Tag.common "bool" then return .bool (← converted (Scalar.boolOf (← wholeText n)))
  else if tag = Tag.common "int" then return .int (← converted (Scalar.intOf (← wholeText n)))
  else if tag = Tag.common "float" then
    return .float (← converted (Scalar.floatOf (← wholeText n)))
  else if tag = Tag.common "binary" then return .bytes (← bytes n)
  else if tag = Tag.common "timestamp" then time n
  else if tag = Tag.common "str" then return .ofRaw (← scalarText n)
  else fail (.unknownTag tag) found.start

/-- The value of a node. A collection is left to be filled. -/
def datum (n : Nat) : Making Datum := do
  match (← get).data.lookup n with
  | some datum => return datum
  | none =>
    let datum ← match collectionOf? (← node n).tag with
      | some kind => do
        modify fun content =>
          { content with
            waiting := content.waiting ++ [(n, kind)]
            fillings := (n, kind.empty) :: content.fillings }
        pure (Datum.collection n)
      | none => Datum.value <$> scalar n
    modify fun content => { content with data := (n, datum) :: content.data }
    return datum

/-- The values of the entries of a mapping, in order. -/
def mappingData : List (Nat × Nat) → (soFar : List (Value × Datum)) →
    Making (List (Value × Datum))
  | [], soFar => pure soFar
  | (key, value) :: entries, soFar => do
    match ← datum key with
    | .collection _ => fail .collectionAsKey (← node key).start
    | .value name =>
      let content ← datum value
      mappingData entries (insert soFar name content)

/-- What a mapping holds. -/
def mappingOf (n : Nat) : Making (List (Value × Datum)) := do
  let graph := (← get).graph
  let entryCount := graph.nodes.foldl (fun sum node => sum + match node.body with
    | .mapping entries => entries.length
    | .sequence items => items.length
    | .scalar _ => 0) 0
  match (← node n).body with
  | .mapping _ =>
    merge ((entryCount + 2) * (entryCount + 2)) n 0 []
    mappingData (← entriesOf n) []
  | body => fail (.notMapping body.kind) (← node n).start

/-- The only entry of a mapping in a row of pairs. -/
def pairOf (n : Nat) : Making (Datum × Datum) := do
  let found ← node n
  match found.body with
  | .mapping [(key, value)] =>
    let key ← datum key
    return (key, ← datum value)
  | .mapping entries => fail (.pairOfOtherSize entries.length) found.start
  | body => fail (.pairNotMapping body.kind) found.start

/-- What a collection holds. -/
def filling (n : Nat) (kind : CollectionKind) : Making Filling := do
  let found ← node n
  match kind with
  | .list =>
    match found.body with
    | .sequence items => return .list (← items.mapM datum)
    | body => fail (.notSequence body.kind) found.start
  | .mapping => return .mapping (← mappingOf n)
  | .set => return .set ((← mappingOf n).map (·.1))
  | .pairs =>
    match found.body with
    | .sequence items => return .pairs (← items.mapM pairOf)
    | body => fail (.pairsNotSequence body.kind) found.start

/-- Fills the collections that wait, in order. -/
def fillAll : (fuel : Nat) → Making Unit
  | 0 => pure ()
  | fuel + 1 => do
    match (← get).waiting with
    | [] => pure ()
    | (n, kind) :: waiting =>
      modify fun content => { content with waiting }
      let filling ← filling n kind
      modify fun content => { content with fillings := (n, filling) :: content.fillings }
      fillAll fuel

/-- The value of the root with all collections. -/
def root (n : Nat) : Making Datum := do
  let datum ← datum n
  fillAll ((← get).graph.nodes.size + 1)
  return datum

end Making

/-- The value of a node down to a depth. Collections below it are shown empty. -/
def Content.value (content : Content) : (depth : Nat) → Datum → Value
  | _, .value value => value
  | 0, .collection n =>
    match content.fillings.lookup n with
    | some (.mapping _) => .mapping []
    | some (.set _) => .set []
    | _ => .list []
  | depth + 1, .collection n =>
    match content.fillings.lookup n with
    | some (.list items) => .list (items.map (content.value depth))
    | some (.mapping entries) =>
      .mapping (entries.map fun entry => (entry.1, content.value depth entry.2))
    | some (.set keys) => .set keys
    | some (.pairs pairs) =>
      .list (pairs.map fun pair => .row [content.value depth pair.1, content.value depth pair.2])
    | none => .null

/-- The value of the root of a graph down to a depth. -/
def Graph.value (graph : Graph) (depth root : Nat) : Except Error Value :=
  match (Making.root root).run { graph } with
  | .ok datum content => .ok (content.value depth datum)
  | .error error _ => .error error

end Enhance.Yaml
