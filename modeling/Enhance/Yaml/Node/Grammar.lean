import Enhance.Yaml.Node
import Enhance.Yaml.Token.Lexer

/-!
# From tokens to nodes

The tokens are read in order, each when it is needed, so that the first error in the text is
the one that is reported. A value that is left out is an empty plain scalar.
-/

namespace Enhance.Yaml

/-- What is known while the nodes are read. -/
structure Builder where
  tokens : List Token
  /-- What stopped the tokens. -/
  stopped : Option Error
  /-- The handles of tags and what they stand for. -/
  handles : List (String × String) := []
  /-- The anchors and the nodes that have them, the latest first. -/
  anchors : List (String × Nat) := []
  graph : Graph := {}

/-- A computation that reads nodes. -/
abbrev Building (α : Type) := EStateM Error Builder α

namespace Building

/-- Stops at a token. -/
def fail {α : Type} (problem : GrammarError) (position : Position) : Building α :=
  throw (.grammar problem position)

/-- The next token. -/
def peek : Building Token := do
  let builder ← get
  match builder.tokens with
  | token :: _ => return token
  | [] => throw (builder.stopped.getD (.lexical .endOfText {}))

/-- The next word. -/
def peekWord : Building Word := do
  return (← peek).word

/-- Takes the next token. -/
def next : Building Token := do
  let token ← peek
  modify fun builder => { builder with tokens := builder.tokens.tail }
  return token

/-- Whether the next word is one of these. -/
def sees (words : List Word) : Building Bool := do
  return words.contains (← peekWord)

/-! ## Instructions -/

/-- The handles that need no instruction. -/
def usualHandles : List (String × String) :=
  [("!", "!"), ("!!", Tag.common "")]

/-- Reads the instructions before a document. -/
def directives : (fuel : Nat) → (versionSeen : Bool) → (handles : List (String × String)) →
    Building (List (String × String))
  | 0, _, handles => pure handles
  | fuel + 1, versionSeen, handles => do
    match ← peek with
    | ⟨.directive directive, start, _⟩ =>
      let _ ← next
      match directive with
      | .version major _ =>
        if versionSeen then fail .secondVersion start
        if major ≠ 1 then fail .otherVersion start
        directives fuel true handles
      | .handle handle front =>
        if (handles.lookup handle).isSome then fail (.secondHandle handle) start
        directives fuel versionSeen (handles ++ [(handle, front)])
      | .other _ => directives fuel versionSeen handles
    | _ => return handles

/-- Skips the marks at the end of a document. -/
def skipEnds : (fuel : Nat) → Building Unit
  | 0 => pure ()
  | fuel + 1 => do
    if ← sees [.documentEnd] then
      let _ ← next
      skipEnds fuel

/-- Reads the start of a document with a mark, and says where it begins; no document starts at
the end of the text. -/
def explicitStart : Building (Option Position) := do
  let fuel := (← get).tokens.length
  skipEnds fuel
  let first ← peek
  if first.word = .streamEnd then
    let _ ← next
    return none
  let handles ← directives fuel false []
  let mark ← peek
  if mark.word ≠ .documentStart then fail (.noDocumentStart mark.word.name) mark.start
  let _ ← next
  modify fun builder => { builder with handles := handles ++ usualHandles }
  return some first.start

/-! ## Nodes -/

/-- Adds a node. -/
def add (node : Node) : Building Nat := do
  let builder ← get
  set { builder with graph := builder.graph.add node }
  return builder.graph.nodes.size

/-- Fills a collection. -/
def fill (n : Nat) (body : Body) : Building Nat := do
  modify fun builder => { builder with graph := builder.graph.fill n body }
  return n

/-- Adds the empty scalar that stands for a value that is left out. -/
def addEmpty (position : Position) : Building Nat :=
  add ⟨Tag.ofPlain "", position, .scalar ""⟩

/-- What stands before a node. -/
structure Properties where
  anchor : Option String := none
  tag : Option String := none
  /-- Where the first of them stands. -/
  start : Option Position := none

/-- The full tag for a handle and the rest of the tag. -/
def fullTag (handle : Option String) (suffix : String) (position : Position) : Building String := do
  match handle with
  | none => return suffix
  | some handle =>
    match (← get).handles.lookup handle with
    | some front => return front ++ suffix
    | none => fail (.unknownHandle handle) position

/-- Reads the anchor and the tag before a node, in any order. -/
def properties : Building Properties := do
  let first ← peek
  match first.word with
  | .anchor name =>
    let _ ← next
    let second ← peek
    match second.word with
    | .tag handle suffix =>
      let _ ← next
      let tag ← fullTag handle suffix second.start
      return ⟨some name, some tag, some first.start⟩
    | _ => return ⟨some name, none, some first.start⟩
  | .tag handle suffix =>
    let _ ← next
    let second ← peek
    let anchor ← match second.word with
      | .anchor name => do
        let _ ← next
        pure (some name)
      | _ => pure none
    let tag ← fullTag handle suffix first.start
    return ⟨anchor, some tag, some first.start⟩
  | _ => return {}

/-- Adds a node with its properties. A single exclamation mark as its tag counts as none. -/
def addWith (properties : Properties) (start : Position) (usualTag : String) (body : Body) :
    Building Nat := do
  let builder ← get
  if let some name := properties.anchor then
    if (builder.anchors.lookup name).isSome then throw (.reference .secondAnchor start)
  let tag := match properties.tag with
    | none | some "!" => usualTag
    | some tag => tag
  let n ← add ⟨tag, start, body⟩
  if let some name := properties.anchor then
    modify fun builder => { builder with anchors := (name, n) :: builder.anchors }
  return n

/-- The tag of a scalar that has none of its own. With a half of a character it is a text. -/
def scalarTag (properties : Properties) (text : Text.RawText) (plain : Bool) : String :=
  match text.text? with
  | some words =>
    if plain || properties.tag = some "!" then Tag.ofPlain words else Tag.common "str"
  | none => Tag.common "str"

/-- The node that an alias leads to. -/
def referenced (name : String) (position : Position) : Building Nat := do
  match (← get).anchors.lookup name with
  | some n => return n
  | none => throw (.reference (.unknownAnchor name) position)

/-- Where a node stands. -/
inductive Context where
  /-- Between brackets, where no block can begin. -/
  | flow
  | block
  /-- In a block mapping, where the items of a sequence need no further indentation. -/
  | blockValue
  deriving DecidableEq, Repr

/-- Whether blocks can begin there. -/
def Context.allowsBlocks (context : Context) : Bool :=
  context ≠ .flow

/-- The empty scalar that properties alone stand for. -/
def emptyOr (properties : Properties) (start : Position) (token : Token) : Building Nat :=
  if properties.start.isSome then
    addWith properties start (scalarTag properties "" properties.tag.isNone) (.scalar "")
  else fail (.noContent token.word.name) token.start

mutual

/-- Reads a node. -/
def node : (fuel : Nat) → Context → Building Nat
  | 0, _ => throw (.lexical .endOfText {})
  | fuel + 1, context => do
    let first ← peek
    if let .reference name := first.word then
      let _ ← next
      return ← referenced name first.start
    let properties ← properties
    let token ← peek
    let start := properties.start.getD token.start
    let sequence := addWith properties start (Tag.common "seq") (.sequence [])
    let mapping := addWith properties start (Tag.common "map") (.mapping [])
    if context = .blockValue && token.word = .blockEntry then
      let n ← sequence
      return ← fill n (.sequence (← indentlessItems fuel))
    match token.word with
    | .scalar text plain =>
      let _ ← next
      addWith properties start (scalarTag properties text plain) (.scalar text)
    | .flowSequenceStart =>
      let n ← sequence
      let _ ← next
      fill n (.sequence (← flowItems fuel true))
    | .flowMappingStart =>
      let n ← mapping
      let _ ← next
      fill n (.mapping (← flowEntries fuel true))
    | .blockSequenceStart =>
      if context.allowsBlocks then
        let n ← sequence
        let _ ← next
        fill n (.sequence (← blockItems fuel))
      else emptyOr properties start token
    | .blockMappingStart =>
      if context.allowsBlocks then
        let n ← mapping
        let _ ← next
        fill n (.mapping (← blockEntries fuel))
      else emptyOr properties start token
    | _ => emptyOr properties start token

/-- Reads a node, unless one of some words shows that it is left out. -/
def nodeUnless (words : List Word) (position : Position) : (fuel : Nat) → Context → Building Nat
  | 0, _ => throw (.lexical .endOfText {})
  | fuel + 1, context => do
    if ← sees words then addEmpty position else node fuel context

/-- The items of a block sequence. -/
def blockItems : (fuel : Nat) → Building (List Nat)
  | 0 => pure []
  | fuel + 1 => do
    let token ← peek
    if token.word = .blockEntry then
      let _ ← next
      let item ← nodeUnless [.blockEntry, .blockEnd] token.finish fuel .block
      return item :: (← blockItems fuel)
    if token.word ≠ .blockEnd then fail (.noBlockEnd token.word.name) token.start
    let _ ← next
    return []

/-- The items of a sequence that is not indented further than the mapping around it. -/
def indentlessItems : (fuel : Nat) → Building (List Nat)
  | 0 => pure []
  | fuel + 1 => do
    let token ← peek
    if token.word = .blockEntry then
      let _ ← next
      let item ← nodeUnless [.blockEntry, .key, .value, .blockEnd] token.finish fuel .block
      return item :: (← indentlessItems fuel)
    return []

/-- The entries of a block mapping. -/
def blockEntries : (fuel : Nat) → Building (List (Nat × Nat))
  | 0 => pure []
  | fuel + 1 => do
    let token ← peek
    if token.word = .key then
      let _ ← next
      let key ← nodeUnless [.key, .value, .blockEnd] token.finish fuel .blockValue
      let colon ← peek
      let value ←
        if colon.word = .value then do
          let _ ← next
          nodeUnless [.key, .value, .blockEnd] colon.finish fuel .blockValue
        else addEmpty colon.start
      return (key, value) :: (← blockEntries fuel)
    if token.word ≠ .blockEnd then fail (.noBlockEnd token.word.name) token.start
    let _ ← next
    return []

/-- The value after a key between brackets that end with a word. -/
def flowValue (last : Word) : (fuel : Nat) → Building Nat
  | 0 => throw (.lexical .endOfText {})
  | fuel + 1 => do
    let colon ← peek
    if colon.word = .value then
      let _ ← next
      nodeUnless [.flowEntry, last] colon.finish fuel .flow
    else addEmpty colon.start

/-- The items of a sequence in brackets. A key stands for a mapping with one entry. -/
def flowItems : (fuel : Nat) → (isFirst : Bool) → Building (List Nat)
  | 0, _ => pure []
  | fuel + 1, isFirst => do
    let token ← peek
    if token.word ≠ .flowSequenceEnd then
      if !isFirst then
        if token.word ≠ .flowEntry then fail (.openSequence token.word.name) token.start
        let _ ← next
      let token ← peek
      if token.word = .key then
        let pair ← add ⟨Tag.common "map", token.start, .mapping []⟩
        let _ ← next
        let key ← nodeUnless [.value, .flowEntry, .flowSequenceEnd] token.finish fuel .flow
        let value ← flowValue .flowSequenceEnd fuel
        let _ ← peek
        let _ ← fill pair (.mapping [(key, value)])
        return pair :: (← flowItems fuel false)
      if token.word ≠ .flowSequenceEnd then
        let item ← node fuel .flow
        return item :: (← flowItems fuel false)
    let _ ← next
    return []

/-- The entries of a mapping in braces. A value or a colon may be left out. -/
def flowEntries : (fuel : Nat) → (isFirst : Bool) → Building (List (Nat × Nat))
  | 0, _ => pure []
  | fuel + 1, isFirst => do
    let token ← peek
    if token.word ≠ .flowMappingEnd then
      if !isFirst then
        if token.word ≠ .flowEntry then fail (.openMapping token.word.name) token.start
        let _ ← next
      let token ← peek
      if token.word = .key then
        let _ ← next
        let key ← nodeUnless [.value, .flowEntry, .flowMappingEnd] token.finish fuel .flow
        let value ← flowValue .flowMappingEnd fuel
        return (key, value) :: (← flowEntries fuel false)
      if token.word ≠ .flowMappingEnd then
        let key ← node fuel .flow
        let value ← addEmpty (← peek).start
        return (key, value) :: (← flowEntries fuel false)
    let _ ← next
    return []

end

/-! ## Documents -/

/-- Reads what a document holds. -/
def content (fuel : Nat) (isExplicit : Bool) : Building Nat := do
  let token ← peek
  let isEmpty := match token.word with
    | .directive _ | .documentStart | .documentEnd | .streamEnd => true
    | _ => false
  if isExplicit && isEmpty then addEmpty token.start else node fuel .block

/-- Reads the only document of a text, if there is one. -/
def document : Building (Option Nat) := do
  let fuel := 4 * (← get).tokens.length + 8
  let first ← peek
  let isExplicit := match first.word with
    | .directive _ | .documentStart | .streamEnd => true
    | _ => false
  if isExplicit then
    if (← explicitStart) = none then return none
  else
    modify fun builder => { builder with handles := usualHandles }
  let root ← content fuel isExplicit
  if ← sees [.documentEnd] then
    let _ ← next
  match ← explicitStart with
  | some start => throw (.reference .secondDocument start)
  | none => return some root

end Building

/-- The nodes of the only document of a text and the number of its root, if there is a
document. -/
def Graph.ofTokens? (tokens : Tokens) : Except Error (Graph × Option Nat) :=
  match Building.document.run { tokens := tokens.tokens, stopped := tokens.stopped } with
  | .ok root builder => .ok (builder.graph, root)
  | .error error _ => .error error

end Enhance.Yaml
