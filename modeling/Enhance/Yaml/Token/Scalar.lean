import Enhance.Text.Hex
import Enhance.Text.Utf8
import Enhance.Archive.Error
import Enhance.Yaml.Token

/-!
# Scalars, names and directives

Reading the tokens that are more than a character: quoted, plain and block scalars, anchors,
tags and directives. Line breaks inside a scalar are folded: a single one is read as a blank, of
several the first one is left out.
-/

namespace Enhance.Yaml

/-- A computation that reads on in a text. -/
abbrev Reading (α : Type) := EStateM Error Cursor α

namespace Reading

open Enhance.Text

/-- Stops at the present place. -/
def fail {α : Type} (problem : LexicalError) : Reading α := do
  throw (.lexical problem (← get).position)

/-- The next character. -/
def peek : Reading (Option Char) := do
  return (← get).peek

/-- A character further on. -/
def peekAt (n : Nat) : Reading (Option Char) := do
  return (← get).peekAt n

/-- Skips some characters. -/
def skip (n : Nat) : Reading Unit :=
  modify (·.skip n)

/-- Skips the characters of a class and gives them. -/
def takeWhile (p : Char → Bool) : Reading (List Char) := do
  let taken := (← get).rest.takeWhile p
  skip taken.length
  return taken

/-- Skips some characters and gives them. -/
def take (n : Nat) : Reading (List Char) := do
  let taken := (← get).rest.take n
  skip n
  return taken

/-- Checks that the next character is of a class, or that there is none. -/
def expectEnd (stops : Char → Bool) (what : String) : Reading Unit := do
  let next ← peek
  unless endsAt stops next do fail (.expected what next)

/-- Skips a line break, which is read as a line feed if it is one of the usual ones. -/
def lineBreak : Reading (List Char) := do
  match ← peek with
  | some c =>
    if isBreak c then
      skip 1
      return [if c = '\u0085' then '\n' else c]
    else return []
  | none => return []

/-- Skips blanks and a comment. -/
def blanksAndComment : Reading Unit := do
  let _ ← takeWhile (· = ' ')
  if (← peek) = some '#' then
    let _ ← takeWhile (!isBreak ·)

/-- Skips the end of a line, where only a comment may be. -/
def ignoredLine : Reading Unit := do
  blanksAndComment
  expectEnd isBreak "a comment or a line break"
  let _ ← lineBreak

/-! ## Names -/

/-- The characters of names. -/
def isNameChar (c : Char) : Bool :=
  c.isAlphanum || c = '-' || c = '_'

/-- What is expected where a name should be. -/
def aName : String := "alphabetic or numeric character"

/-- A name, and behind it a character of a class. -/
def name (stops : Char → Bool) : Reading String := do
  let name ← takeWhile isNameChar
  if name = [] then fail (.expected aName (← peek))
  expectEnd stops aName
  return String.ofList name

/-- The name of an anchor, with the mark before it. -/
def anchorName : Reading String := do
  skip 1
  name fun c => isWhite c || "?:,]\x7d%@`".contains c

/-! ## Tags -/

/-- Reads the escaped bytes of a tag. -/
def escapedBytes : (fuel : Nat) → Reading (List UInt8)
  | 0 => pure []
  | fuel + 1 => do
    if (← peek) ≠ some '%' then return []
    skip 1
    let what := "URI escape sequence of 2 hexadecimal numbers"
    let digits ← [0, 1].mapM fun n => do
      let next ← peekAt n
      match next.bind hexValue? with
      | some value => pure value
      | none => fail (.expected what next)
    skip 2
    let more ← escapedBytes fuel
    return UInt8.ofNat (digits.foldl (· * 16 + ·) 0) :: more

/-- The text that escaped bytes stand for. -/
def escapedText : Reading (List Char) := do
  let cursor ← get
  let bytes ← escapedBytes cursor.rest.length
  match decodeUtf8 bytes with
  | .ok text => return text.toList
  | .error error => throw (.lexical (.escapedBytes error.message) cursor.position)

/-- The characters of tags. -/
def isTagChar (c : Char) : Bool :=
  c.isAlphanum || "-;/?:@&=+$,_.!~*'()[]".contains c

/-- The pieces of the text of a tag. -/
def tagPieces : (fuel : Nat) → Reading (List Char)
  | 0 => pure []
  | fuel + 1 => do
    let piece ← takeWhile isTagChar
    if (← peek) = some '%' then
      let escaped ← escapedText
      let more ← tagPieces fuel
      return piece ++ escaped ++ more
    else return piece

/-- The text of a tag, which is not empty. -/
def tagText : Reading String := do
  let first ← peek
  if endsAt (fun c => !isTagChar c && c ≠ '%') first then fail (.expected "URI" first)
  return String.ofList (← tagPieces ((← get).rest.length + 1))

/-- The handle of a tag: a name between exclamation marks, or one mark alone before a blank. -/
def tagHandle : Reading String := do
  let first ← peek
  if first ≠ some '!' then fail (.expected "'!'" first)
  if (← peekAt 1) = some ' ' then
    skip 1
    return "!"
  let cursor ← get
  let length := 1 + ((cursor.rest.drop 1).takeWhile isNameChar).length
  let last ← peekAt length
  if last ≠ some '!' then
    skip length
    fail (.expected "'!'" last)
  return String.ofList (← take (length + 1))

/-- A tag. -/
def tag : Reading Word := do
  let next ← peekAt 1
  let word ←
    if next = some '<' then do
      skip 2
      let text ← tagText
      let last ← peek
      if last ≠ some '>' then fail (.expected "'>'" last)
      skip 1
      pure (Word.tag none text)
    else if endsAt isWhite next then do
      skip 1
      pure (Word.tag none "!")
    else do
      let shown := ((← get).rest.drop 1).takeWhile (!isSpace ·)
      let handle ← if shown.contains '!' then tagHandle else do
        skip 1
        pure "!"
      pure (Word.tag (some handle) (← tagText))
  expectEnd isSpace "' '"
  return word

/-! ## Directives -/

/-- A number of a version. -/
def versionNumber : Reading Nat := do
  let digits ← takeWhile Char.isDigit
  if digits = [] then fail (.expected "a digit" (← peek))
  return digits.foldl (fun n c => n * 10 + (c.toNat - '0'.toNat)) 0

/-- What a directive says. -/
def directiveValue (name : String) : Reading Directive := do
  if name = "YAML" then
    let _ ← takeWhile (· = ' ')
    let major ← versionNumber
    let point ← peek
    if point ≠ some '.' then fail (.expected "a digit or '.'" point)
    skip 1
    let minor ← versionNumber
    expectEnd isSpace "a digit or ' '"
    return .version major minor
  else if name = "TAG" then
    let _ ← takeWhile (· = ' ')
    let handle ← tagHandle
    let next ← peek
    if next ≠ some ' ' then fail (.expected "' '" next)
    let _ ← takeWhile (· = ' ')
    let front ← tagText
    expectEnd isSpace "' '"
    return .handle handle front
  else
    let _ ← takeWhile (!isBreak ·)
    return .other name

/-- A directive with the mark before it, and the place where it ends. -/
def directive : Reading (Directive × Position) := do
  skip 1
  let name ← name isSpace
  let directive ← directiveValue name
  let finish := (← get).position
  ignoredLine
  return (directive, finish)

/-! ## Quoted scalars -/

/-- The characters that a letter after a backslash stands for. -/
def escapedChar? : Char → Option Char
  | '0' => some '\x00'
  | 'a' => some '\x07'
  | 'b' => some '\x08'
  | 't' | '\t' => some '\t'
  | 'n' => some '\n'
  | 'v' => some '\x0b'
  | 'f' => some '\x0c'
  | 'r' => some '\r'
  | 'e' => some '\x1b'
  | ' ' => some ' '
  | '"' => some '"'
  | '\\' => some '\\'
  | '/' => some '/'
  | 'N' => some '\u0085'
  | '_' => some '\u00a0'
  | 'L' => some '\u2028'
  | 'P' => some '\u2029'
  | _ => none

/-- How many digits follow a letter after a backslash. -/
def escapeWidth? : Char → Option Nat
  | 'x' => some 2
  | 'u' => some 4
  | 'U' => some 8
  | _ => none

/-- The line breaks at the start of a line, and the blanks between them. -/
def quotedBreaks : (fuel : Nat) → Reading (List Char)
  | 0 => pure []
  | fuel + 1 => do
    if (← get).startsSeparator then fail .documentSeparator
    let _ ← takeWhile fun c => c = ' ' || c = '\t'
    let first ← lineBreak
    if first = [] then return []
    let more ← quotedBreaks fuel
    return first ++ more

/-- Line breaks folded: a first line feed is a blank if no other break follows. -/
def folded (first more : List Char) : List Char :=
  if first ≠ ['\n'] then first ++ more
  else if more = [] then [' ']
  else more

/-- The blanks and line breaks inside a quoted scalar. -/
def quotedGap : Reading (List Char) := do
  let blanks ← takeWhile fun c => c = ' ' || c = '\t'
  match ← peek with
  | none => fail .endOfText
  | some c =>
    if isBreak c then
      let first ← lineBreak
      let more ← quotedBreaks ((← get).rest.length + 1)
      return folded first more
    else return blanks

/-- The sign with the number that digits after a backslash give. Halves are not put together. -/
def numberedSign (width : Nat) : Reading Sign := do
  let digits ← (List.range width).mapM fun n => do
    let next ← peekAt n
    match next.bind hexValue? with
    | some value => pure value
    | none => fail (.expected s!"escape sequence of {width} hexadecimal numbers" next)
  let number := digits.foldl (· * 16 + ·) 0
  if 0x110000 ≤ number then throw (.conversion (.noCharacter number))
  skip width
  return if number.isValidChar then .whole (Char.ofNat number) else .ofHalf (number - 0xd800)

/-- What a backslash and the characters after it stand for. -/
def escape : Reading (List Sign) := do
  skip 1
  let next ← peek
  match next with
  | none => fail (.unknownEscape next)
  | some c =>
    match escapedChar? c, escapeWidth? c with
    | some meant, _ =>
      skip 1
      return [.whole meant]
    | _, some width =>
      skip 1
      return [← numberedSign width]
    | _, _ =>
      if isBreak c then
        let _ ← lineBreak
        let breaks ← quotedBreaks ((← get).rest.length + 1)
        return breaks.map .whole
      else fail (.unknownEscape next)

/-- The signs of a quoted scalar up to a blank, a line break or the end. -/
def quotedWords (double : Bool) : (fuel : Nat) → Reading (List Sign)
  | 0 => pure []
  | fuel + 1 => do
    let run ← takeWhile fun c => !isWhite c && c ≠ '\'' && c ≠ '"' && c ≠ '\\'
    let next ← peek
    let found ←
      if !double && next = some '\'' && (← peekAt 1) = some '\'' then do
        skip 2
        pure (some [.whole '\''])
      else if (double && next = some '\'') ||
          (!double && (next = some '"' || next = some '\\')) then do
        pure (some ((← take 1).map .whole))
      else if double && next = some '\\' then do
        pure (some (← escape))
      else pure none
    let run := run.map Sign.whole
    match found with
    | none => return run
    | some part =>
      let more ← quotedWords double fuel
      return run ++ part ++ more

/-- The words and gaps of a quoted scalar. -/
def quotedBody (double : Bool) : (fuel : Nat) → Reading (List Sign)
  | 0 => pure []
  | fuel + 1 => do
    let words ← quotedWords double ((← get).rest.length + 1)
    if (← peek) = some (if double then '"' else '\'') then return words
    let gap ← quotedGap
    let more ← quotedBody double fuel
    return words ++ gap.map .whole ++ more

/-- A quoted scalar. -/
def quotedScalar (double : Bool) : Reading RawText := do
  skip 1
  let body ← quotedBody double ((← get).rest.length + 1)
  skip 1
  return ⟨body⟩

/-! ## Plain scalars -/

/-- The number of characters up to the end of a word of a plain scalar. -/
def plainWordLength (inFlow : Bool) : List Char → Nat
  | [] => 0
  | c :: rest =>
    if isWhite c || (inFlow && ",?[]\x7b\x7d".contains c) ||
        (c = ':' && endsAt (fun c => isWhite c || (inFlow && ",[]\x7b\x7d".contains c)) rest.head?)
    then 0
    else plainWordLength inFlow rest + 1

/-- The further line breaks between the lines of a plain scalar, unless the document ends
there. -/
def plainBreaks : (fuel : Nat) → Reading (Option (List Char))
  | 0 => pure (some [])
  | fuel + 1 => do
    let _ ← takeWhile (· = ' ')
    let first ← lineBreak
    if first = [] then return some []
    if (← get).startsSeparator then return none
    let more ← plainBreaks fuel
    return more.map (first ++ ·)

/-- The gap after a word of a plain scalar, and whether it holds a line break. There is no gap
where the scalar ends. -/
def plainGap : Reading (Option (List Char) × Bool) := do
  let blanks ← takeWhile (· = ' ')
  if endsAt (!isBreak ·) (← peek) then
    return (if blanks = [] then none else some blanks, false)
  let first ← lineBreak
  if (← get).startsSeparator then return (none, true)
  let more ← plainBreaks ((← get).rest.length + 1)
  return (more.map (folded first), true)

/-- What is read of a plain scalar. -/
structure Plain where
  text : List Char
  /-- Where the last word ends. -/
  finish : Position
  /-- Whether a line break was read after the last word. -/
  brokeLine : Bool

/-- A plain scalar whose further lines are indented by at least `indent`. `gap` is what was
read before the present word. -/
def plainFrom (inFlow : Bool) (indent : Nat) : (fuel : Nat) → (soFar : Plain) →
    (gap : List Char) → Reading Plain
  | 0, soFar, _ => pure soFar
  | fuel + 1, soFar, gap => do
    if (← peek) = some '#' then return soFar
    let length := plainWordLength inFlow (← get).rest
    if length = 0 then return soFar
    let word ← take length
    let finish := (← get).position
    let (next, brokeLine) ← plainGap
    let soFar : Plain := ⟨soFar.text ++ gap ++ word, finish, brokeLine⟩
    let cursor ← get
    match next with
    | none => return soFar
    | some gap =>
      if cursor.peek = some '#' || (!inFlow && cursor.position.column < indent) then return soFar
      plainFrom inFlow indent fuel soFar gap

/-- A plain scalar. -/
def plainScalar (inFlow : Bool) (indent : Nat) : Reading Plain := do
  let cursor ← get
  plainFrom inFlow indent (cursor.rest.length + 1) ⟨[], cursor.position, false⟩ []

/-! ## Block scalars -/

/-- What becomes of the line breaks at the end of a block scalar. -/
inductive Chomping where
  | strip
  | clip
  | keep
  deriving DecidableEq, Repr

/-- The chomping, if a sign gives it. -/
def chomping : Reading (Option Chomping) := do
  match ← peek with
  | some '+' => skip 1; return some .keep
  | some '-' => skip 1; return some .strip
  | _ => return none

/-- The indentation, if a digit gives it. -/
def indentation : Reading (Option Nat) := do
  match ← peek with
  | some c =>
    if c = '0' then fail .zeroIndentation
    if c.isDigit then
      skip 1
      return some (c.toNat - '0'.toNat)
    return none
  | none => return none

/-- The signs behind the mark of a block scalar, in any order. -/
def blockHeader : Reading (Chomping × Option Nat) := do
  let before ← chomping
  let width ← indentation
  let after ← if before = none && width ≠ none then chomping else pure none
  expectEnd isSpace "chomping or indentation indicators"
  return ((before.or after).getD .clip, width)

/-- Blank lines, with the greatest number of blanks at the start of one of them. -/
def leadingLines : (fuel : Nat) → (widest : Nat) → Reading (List Char × Nat)
  | 0, widest => pure ([], widest)
  | fuel + 1, widest => do
    match ← peek with
    | some ' ' =>
      skip 1
      leadingLines fuel (max widest (← get).position.column)
    | _ =>
      let first ← lineBreak
      if first = [] then return ([], widest)
      let (more, widest) ← leadingLines fuel widest
      return (first ++ more, widest)

/-- Skips blanks up to a column. -/
def blanksTo (column : Nat) : Reading Unit := do
  let cursor ← get
  let blanks := (cursor.rest.takeWhile (· = ' ')).length
  skip (min blanks (column - cursor.position.column))

/-- Blank lines, up to the indentation of the line that follows. -/
def blankLines (indent : Nat) : (fuel : Nat) → Reading (List Char)
  | 0 => pure []
  | fuel + 1 => do
    blanksTo indent
    let first ← lineBreak
    if first = [] then return []
    let more ← blankLines indent fuel
    return first ++ more

/-- Whether a line of a folded scalar is one of those that are not folded. -/
def startsBlank (next : Option Char) : Bool :=
  next = some ' ' || next = some '\t'

/-- The lines of a block scalar: the text, the last line break and the blank lines after it.
`before` is what stands between the last line and the present one. -/
def blockLines (isFolded : Bool) (indent : Nat) : (fuel : Nat) → (before : List Char) →
    Reading (List Char × List Char × List Char)
  | 0, before => pure (before, [], [])
  | fuel + 1, before => do
    let first ← peek
    let words ← takeWhile (!isBreak ·)
    let last ← lineBreak
    let blank ← blankLines indent ((← get).rest.length + 1)
    let cursor ← get
    if cursor.position.column = indent && cursor.peek ≠ none then
      let gap :=
        if isFolded && last = ['\n'] && !startsBlank first && !startsBlank cursor.peek then
          if blank = [] then [' '] else []
        else last
      let (text, ending) ← blockLines isFolded indent fuel (gap ++ blank)
      return (before ++ words ++ text, ending)
    else return (before ++ words, last, blank)

/-- A block scalar inside a block of that indentation. -/
def blockScalar (isFolded : Bool) (outer : Nat) : Reading (String × Position) := do
  skip 1
  let (chomping, width) ← blockHeader
  ignoredLine
  let fuel := (← get).rest.length + 1
  let least := max 1 outer
  let (blank, indent) ← match width with
    | some width => do
      let indent := least + width - 1
      pure (← blankLines indent fuel, indent)
    | none => do
      let (blank, widest) ← leadingLines fuel 0
      pure (blank, max least widest)
  let cursor ← get
  let (text, last, after) ←
    if cursor.position.column = indent && cursor.peek ≠ none then
      blockLines isFolded indent fuel blank
    else pure ([], [], blank)
  let text := match chomping with
    | .strip => text
    | .clip => text ++ last
    | .keep => text ++ last ++ after
  return (String.ofList text, (← get).position)

end Reading

end Enhance.Yaml
