import Enhance.Yaml.Token.Scalar

/-!
# From a text to its tokens

Blocks are marked by their indentation, and a key of a mapping is known only by the colon behind
it. A token that may be a key is therefore held back until the colon is seen or cannot come any
more: on the same line and at most `maxKeyLength` characters on. What is wrong with the text is
reported where the first token is missing.
-/

namespace Enhance.Yaml

/-- How many characters a key without a mark may be long. -/
def maxKeyLength : Nat := 1024

/-- A token that may turn out to be a key. -/
structure PossibleKey where
  /-- The number of the token. -/
  number : Nat
  /-- Whether nothing else can stand at this place. -/
  isRequired : Bool
  position : Position
  deriving DecidableEq, Repr

/-- What is known while the tokens are read. -/
structure Lexer where
  cursor : Cursor
  /-- The tokens that are held back. -/
  queue : List Token := []
  /-- The number of tokens that were given out. -/
  taken : Nat := 0
  /-- The number of open brackets. -/
  depth : Nat := 0
  /-- The column of the innermost block, or -1. -/
  indent : Int := -1
  /-- The columns of the blocks around it, the inner ones first. -/
  outer : List Int := []
  /-- Whether the next token may be a key. -/
  keyAllowed : Bool := true
  /-- The possible keys by the number of brackets around them. -/
  keys : List (Nat × PossibleKey) := []
  isDone : Bool := false
  deriving Repr

/-- A computation that reads tokens. -/
abbrev Lexing (α : Type) := EStateM Error Lexer α

namespace Lexing

/-- Reads on in the text. -/
def read {α : Type} (reading : Reading α) : Lexing α := do
  let lexer ← get
  match reading.run lexer.cursor with
  | .ok value cursor =>
    set { lexer with cursor }
    return value
  | .error error _ => throw error

/-- The present place. -/
def position : Lexing Position := do
  return (← get).cursor.position

/-- Stops at the present place. -/
def fail {α : Type} (problem : LexicalError) : Lexing α := do
  throw (.lexical problem (← position))

/-- Whether the text stands outside of all brackets. -/
def inBlock : Lexing Bool := do
  return (← get).depth = 0

/-- Adds a token. -/
def add (word : Word) (start finish : Position) : Lexing Unit :=
  modify fun lexer => { lexer with queue := lexer.queue ++ [⟨word, start, finish⟩] }

/-- Adds a token for the next characters. -/
def addChars (word : Word) (length : Nat) : Lexing Unit := do
  let start ← position
  read (Reading.skip length)
  add word start (← position)

/-- Says whether the next token may be a key. -/
def allowKey (allowed : Bool) : Lexing Unit :=
  modify fun lexer => { lexer with keyAllowed := allowed }

/-! ## Indentation -/

/-- Ends the blocks that are indented by more than a column. -/
def endBlocks (column : Int) : (outer : List Int) → Lexing Unit
  | [] => pure ()
  | _ :: further => do
    let lexer ← get
    if lexer.indent ≤ column then return
    let here := lexer.cursor.position
    match lexer.outer with
    | [] => set { lexer with indent := -1 }
    | indent :: outer => set { lexer with indent, outer }
    add .blockEnd here here
    endBlocks column further

/-- Ends the blocks that are indented by more than a column, unless brackets are open. -/
def unindent (column : Int) : Lexing Unit := do
  let lexer ← get
  if lexer.depth = 0 then endBlocks column lexer.outer

/-- Begins a block at a column if it is indented by more than the present one. -/
def indent (column : Nat) : Lexing Bool := do
  let lexer ← get
  if lexer.indent < column then
    set { lexer with indent := column, outer := lexer.indent :: lexer.outer }
    return true
  else return false

/-! ## Possible keys -/

/-- Drops the possible keys that can have no colon any more. -/
def dropStaleKeys : Lexing Unit := do
  let lexer ← get
  let here := lexer.cursor.position
  let isStale (key : PossibleKey) : Bool :=
    key.position.line ≠ here.line || maxKeyLength < here.index - key.position.index
  if lexer.keys.any fun entry => entry.2.isRequired && isStale entry.2 then fail .keyWithoutColon
  set { lexer with keys := lexer.keys.filter (!isStale ·.2) }

/-- Drops the possible key inside the present brackets. -/
def dropKey : Lexing Unit := do
  let lexer ← get
  match lexer.keys.lookup lexer.depth with
  | none => pure ()
  | some key =>
    if key.isRequired then fail .keyWithoutColon
    set { lexer with keys := lexer.keys.filter (·.1 ≠ lexer.depth) }

/-- Notes that the next token may be a key. -/
def noteKey : Lexing Unit := do
  if (← get).keyAllowed then
    dropKey
    let lexer ← get
    let here := lexer.cursor.position
    let isRequired := lexer.depth = 0 && lexer.indent = here.column
    let key : PossibleKey := ⟨lexer.taken + lexer.queue.length, isRequired, here⟩
    set { lexer with keys := (lexer.depth, key) :: lexer.keys }

/-! ## Tokens -/

/-- Skips blanks, comments and line breaks. Outside of brackets a line may start with a key. -/
def skipToToken : (fuel : Nat) → Lexing Unit
  | 0 => pure ()
  | fuel + 1 => do
    read Reading.blanksAndComment
    let broken ← read Reading.lineBreak
    if broken ≠ [] then
      if ← inBlock then allowKey true
      skipToToken fuel

/-- The end of the text. -/
def streamEnd : Lexing Unit := do
  unindent (-1)
  dropKey
  allowKey false
  modify fun lexer => { lexer with keys := [], isDone := true }
  let here ← position
  add .streamEnd here here

/-- Ends all blocks, as directives and the marks between documents do. -/
def endAllBlocks : Lexing Unit := do
  unindent (-1)
  dropKey
  allowKey false

/-- An instruction before a document. -/
def directive : Lexing Unit := do
  endAllBlocks
  let start ← position
  let (directive, finish) ← read Reading.directive
  add (.directive directive) start finish

/-- A mark between documents. -/
def documentMark (word : Word) : Lexing Unit := do
  endAllBlocks
  addChars word 3

/-- An opening bracket. -/
def openBracket (word : Word) : Lexing Unit := do
  noteKey
  modify fun lexer => { lexer with depth := lexer.depth + 1, keyAllowed := true }
  addChars word 1

/-- A closing bracket. -/
def closeBracket (word : Word) : Lexing Unit := do
  dropKey
  modify fun lexer => { lexer with depth := lexer.depth - 1, keyAllowed := false }
  addChars word 1

/-- A comma between brackets. -/
def flowEntry : Lexing Unit := do
  allowKey true
  dropKey
  addChars .flowEntry 1

/-- Begins a block at the present place, unless it has begun. -/
def beginBlock (word : Word) : Lexing Unit := do
  let here ← position
  if ← indent here.column then add word here here

/-- An item of a block sequence. -/
def blockEntry : Lexing Unit := do
  if ← inBlock then
    unless (← get).keyAllowed do fail .entryOutOfPlace
    beginBlock .blockSequenceStart
  allowKey true
  dropKey
  addChars .blockEntry 1

/-- A key with a mark. -/
def key : Lexing Unit := do
  let isBlock ← inBlock
  if isBlock then
    unless (← get).keyAllowed do fail .keyOutOfPlace
    beginBlock .blockMappingStart
  allowKey isBlock
  dropKey
  addChars .key 1

/-- Marks a token that was held back as a key, and begins a block there if need be. -/
def markKey (key : PossibleKey) : Lexing Unit := do
  let begins ← if ← inBlock then indent key.position.column else pure false
  let mark (word : Word) : Token := ⟨word, key.position, key.position⟩
  let marks := if begins then [mark .blockMappingStart, mark .key] else [mark .key]
  modify fun lexer =>
    let place := key.number - lexer.taken
    { lexer with queue := lexer.queue.take place ++ marks ++ lexer.queue.drop place }

/-- The colon before a value. -/
def value : Lexing Unit := do
  let lexer ← get
  match lexer.keys.lookup lexer.depth with
  | some key =>
    set { lexer with keys := lexer.keys.filter (·.1 ≠ lexer.depth) }
    markKey key
    allowKey false
  | none =>
    let isBlock ← inBlock
    if isBlock then
      unless lexer.keyAllowed do fail .valueOutOfPlace
      beginBlock .blockMappingStart
    allowKey isBlock
    dropKey
  addChars .value 1

/-- A token that may be a key: an anchor, a tag or a scalar on one line. -/
def keyToken (reading : Reading Word) : Lexing Unit := do
  noteKey
  allowKey false
  let start ← position
  let word ← read reading
  add word start (← position)

/-- A plain scalar. The line after it may start with a key. -/
def plain : Lexing Unit := do
  noteKey
  allowKey false
  let lexer ← get
  let start := lexer.cursor.position
  let plain ← read (Reading.plainScalar (lexer.depth ≠ 0) (lexer.indent + 1).toNat)
  if plain.brokeLine then allowKey true
  add (.scalar (String.ofList plain.text) true) start plain.finish

/-- A block scalar. -/
def blockScalar (isFolded : Bool) : Lexing Unit := do
  allowKey true
  dropKey
  let lexer ← get
  let start := lexer.cursor.position
  let (text, finish) ← read (Reading.blockScalar isFolded (lexer.indent + 1).toNat)
  add (.scalar text false) start finish

/-- Whether a plain scalar can start with a character. -/
def startsPlain (inFlow : Bool) (first : Char) (second : Option Char) : Bool :=
  (!isWhite first && !"-?:,[]\x7b\x7d#&*!|>'\"%@`".contains first) ||
    (!endsAt isWhite second && (first = '-' || (!inFlow && (first = '?' || first = ':'))))

/-- Reads the next token, and the marks of blocks before it. -/
def next : Lexing Unit := do
  let cursor := (← get).cursor
  if cursor.position.index = 0 && cursor.peek = some byteOrderMark then read (Reading.skip 1)
  skipToToken (cursor.rest.length + 1)
  dropStaleKeys
  unindent (← position).column
  let lexer ← get
  let cursor := lexer.cursor
  let atStart := cursor.position.column = 0
  let inFlow := lexer.depth ≠ 0
  let second := cursor.peekAt 1
  match cursor.peek with
  | none => streamEnd
  | some c =>
    if c = '%' && atStart then directive
    else if atStart && cursor.startsIndicator '-' then documentMark .documentStart
    else if atStart && cursor.startsIndicator '.' then documentMark .documentEnd
    else if c = '[' then openBracket .flowSequenceStart
    else if c = '\x7b' then openBracket .flowMappingStart
    else if c = ']' then closeBracket .flowSequenceEnd
    else if c = '\x7d' then closeBracket .flowMappingEnd
    else if c = ',' then flowEntry
    else if c = '-' && endsAt isWhite second then blockEntry
    else if c = '?' && (inFlow || endsAt isWhite second) then key
    else if c = ':' && (inFlow || endsAt isWhite second) then value
    else if c = '*' then keyToken (.reference <$> Reading.anchorName)
    else if c = '&' then keyToken (.anchor <$> Reading.anchorName)
    else if c = '!' then keyToken Reading.tag
    else if c = '|' && !inFlow then blockScalar false
    else if c = '>' && !inFlow then blockScalar true
    else if c = '\'' then keyToken ((.scalar · false) <$> Reading.quotedScalar false)
    else if c = '"' then keyToken ((.scalar · false) <$> Reading.quotedScalar true)
    else if startsPlain inFlow c second then plain
    else fail (.noToken c)

/-- Whether the first token in the queue may be given out: there is one, and no colon can turn
it into a key any more. -/
def isReady : Lexing Bool := do
  let lexer ← get
  if lexer.isDone then return true
  if lexer.queue = [] then return false
  dropStaleKeys
  return (← get).keys.all (·.2.number ≠ lexer.taken)

/-- All tokens. -/
def all : (fuel : Nat) → Lexer → Tokens
  | 0, _ => ⟨[], none⟩
  | fuel + 1, lexer =>
    match isReady.run lexer with
    | .error error _ => ⟨[], some error⟩
    | .ok false lexer =>
      match next.run lexer with
      | .error error _ => ⟨[], some error⟩
      | .ok () lexer => all fuel lexer
    | .ok true lexer =>
      match lexer.queue with
      | [] => ⟨[], none⟩
      | token :: queue =>
        let more := all fuel { lexer with queue, taken := lexer.taken + 1 }
        { more with tokens := token :: more.tokens }

end Lexing

/-- The tokens of a text. -/
def tokens (text : List Char) : Tokens :=
  Lexing.all (8 * (text.length + 2)) { cursor := ⟨text, {}⟩ }

end Enhance.Yaml
