import Enhance.Text.Quoted
import Enhance.Timestamp
import Enhance.Yaml.Position

/-!
# What can be wrong with a document

A document is refused for its characters, its words, their grammar, the use of its anchors or
the values that it asks for. All but the first kind of error and the failed conversions have a
place.

One kind of document is not read here. An escape can stand for half of a character; what comes of a text
with a half that is said to be a number, a truth value, a point in time or bytes is left open.
-/

namespace Enhance.Yaml

open Enhance.Text

/-- A character that was found, with the character of number zero for the end of the text. -/
def foundText (found : Option Char) : String :=
  quoted (String.singleton (found.getD '\x00'))

/-- What is wrong with the words of a document. -/
inductive LexicalError where
  | keyWithoutColon
  | entryOutOfPlace
  | keyOutOfPlace
  | valueOutOfPlace
  | noToken (found : Option Char)
  /-- Something else was expected. -/
  | expected (what : String) (found : Option Char)
  | zeroIndentation
  | unknownEscape (found : Option Char)
  | endOfText
  | documentSeparator
  /-- The bytes that escapes stand for are no text. -/
  | escapedBytes (message : String)
  deriving DecidableEq, Repr

/-- What is wrong with the words of a document. -/
def LexicalError.message : LexicalError → String
  | .keyWithoutColon => "could not find expected ':'"
  | .entryOutOfPlace => "sequence entries are not allowed here"
  | .keyOutOfPlace => "mapping keys are not allowed here"
  | .valueOutOfPlace => "mapping values are not allowed here"
  | .noToken found => s!"found character {foundText found} that cannot start any token"
  | .expected what found => s!"expected {what}, but found {foundText found}"
  | .zeroIndentation => "expected indentation indicator in the range 1-9, but found 0"
  | .unknownEscape found => s!"found unknown escape character {foundText found}"
  | .endOfText => "found unexpected end of stream"
  | .documentSeparator => "found unexpected document separator"
  | .escapedBytes message => message

/-- What is wrong with the order of the words. -/
inductive GrammarError where
  | noDocumentStart (found : String)
  | secondVersion
  | otherVersion
  | secondHandle (handle : String)
  | unknownHandle (handle : String)
  | noContent (found : String)
  | noBlockEnd (found : String)
  | openSequence (found : String)
  | openMapping (found : String)
  deriving DecidableEq, Repr

/-- What is wrong with the order of the words. -/
def GrammarError.message : GrammarError → String
  | .noDocumentStart found => s!"expected '<document start>', but found {quoted found}"
  | .secondVersion => "found duplicate YAML directive"
  | .otherVersion => "found incompatible YAML document (version 1.* is required)"
  | .secondHandle handle => s!"duplicate tag handle {quoted handle}"
  | .unknownHandle handle => s!"found undefined tag handle {quoted handle}"
  | .noContent found => s!"expected the node content, but found {quoted found}"
  | .noBlockEnd found => s!"expected <block end>, but found {quoted found}"
  | .openSequence found => s!"expected ',' or ']', but got {quoted found}"
  | .openMapping found => "expected ',' or '\x7d', but got " ++ quoted found

/-- What is wrong with the anchors and the number of documents. -/
inductive ReferenceError where
  | unknownAnchor (name : String)
  | secondAnchor
  | secondDocument
  deriving DecidableEq, Repr

/-- What is wrong with the anchors and the number of documents. -/
def ReferenceError.message : ReferenceError → String
  | .unknownAnchor name => s!"found undefined alias {quoted name}"
  | .secondAnchor => "second occurrence"
  | .secondDocument => "but found another document"

/-- Why a node does not have a value. -/
inductive ContentError where
  | unknownTag (tag : String)
  | notScalar (found : String)
  | notSequence (found : String)
  | notMapping (found : String)
  /-- A collection is the key of a mapping. -/
  | collectionAsKey
  | mergeOfOther (found : String)
  | mergeOfOtherItem (found : String)
  | notAscii (message : String)
  | notBase64 (message : String)
  /-- An ordered mapping is no sequence. -/
  | pairsNotSequence (found : String)
  | pairNotMapping (found : String)
  | pairOfOtherSize (size : Nat)
  deriving DecidableEq, Repr

/-- Why a node does not have a value. -/
def ContentError.message : ContentError → String
  | .unknownTag tag => s!"could not determine a constructor for the tag {quoted tag}"
  | .notScalar found => s!"expected a scalar node, but found {found}"
  | .notSequence found => s!"expected a sequence node, but found {found}"
  | .notMapping found => s!"expected a mapping node, but found {found}"
  | .collectionAsKey => "found unhashable key"
  | .mergeOfOther found =>
    s!"expected a mapping or list of mappings for merging, but found {found}"
  | .mergeOfOtherItem found => s!"expected a mapping for merging, but found {found}"
  | .notAscii message => s!"failed to convert base64 data into ascii: {message}"
  | .notBase64 message => s!"failed to decode base64 data: {message}"
  | .pairsNotSequence found => s!"expected a sequence, but found {found}"
  | .pairNotMapping found => s!"expected a mapping of length 1, but found {found}"
  | .pairOfOtherSize size => s!"expected a single mapping item, but found {size} items"

/-- Why a text does not stand for a value of the kind that it is said to be of. -/
inductive ConversionError where
  | notInteger (base : Nat) (text : String)
  | tooManyDigits (count : Nat)
  | notFloat (text : String)
  /-- A number without any character. -/
  | empty
  | notBool (text : String)
  | notTime
  /-- The text of a collection was asked for its time. -/
  | timeOfCollection
  | time (error : TimestampError)
  | noCharacter (number : Nat)
  deriving DecidableEq, Repr

namespace ConversionError

/-- The class of a failed conversion. -/
def kind : ConversionError → String
  | .notInteger .. | .tooManyDigits _ | .notFloat _ | .time _ => "ValueError"
  | .empty => "IndexError"
  | .notBool _ => "KeyError"
  | .notTime => "AttributeError"
  | .timeOfCollection => "TypeError"
  | .noCharacter number => if number < 0x80000000 then "ValueError" else "OverflowError"

/-- Why a conversion failed. -/
def message : ConversionError → String
  | .notInteger base text => s!"invalid literal for int() with base {base}: {quoted text}"
  | .tooManyDigits count =>
    s!"Exceeds the limit (4300 digits) for integer string conversion: value has {count} " ++
      "digits; use sys.set_int_max_str_digits() to increase the limit"
  | .notFloat text => s!"could not convert string to float: {quoted text}"
  | .empty => "string index out of range"
  | .notBool text => quoted text
  | .notTime => "'NoneType' object has no attribute 'groupdict'"
  | .timeOfCollection => "expected string or bytes-like object, got 'list'"
  | .time error => error.message
  | .noCharacter number =>
    if number < 0x80000000 then "chr() arg not in range(0x110000)"
    else "Python int too large to convert to C int"

end ConversionError

/-- Why a document cannot be read. -/
inductive Error where
  /-- A character that no document may hold. -/
  | character (c : Char) (index : Nat)
  | lexical (problem : LexicalError) (position : Position)
  | grammar (problem : GrammarError) (position : Position)
  | reference (problem : ReferenceError) (position : Position)
  | content (problem : ContentError) (position : Position)
  | conversion (problem : ConversionError)
  /-- Something else than a text is said to be written with half of a character. Such a document is not
  read. -/
  | half
  deriving DecidableEq, Repr

namespace Error

/-- The class of an error. -/
def kind : Error → String
  | .character .. => "ReaderError"
  | .lexical .. => "ScannerError"
  | .grammar .. => "ParserError"
  | .reference .. => "ComposerError"
  | .content .. => "ConstructorError"
  | .conversion problem => problem.kind
  | .half => "Unread"

/-- Where the error is and what it is, if it has a place. -/
def placed? : Error → Option (Position × String)
  | .lexical problem position => some (position, problem.message)
  | .grammar problem position => some (position, problem.message)
  | .reference problem position => some (position, problem.message)
  | .content problem position => some (position, problem.message)
  | .character .. | .conversion _ | .half => none

/-- Whether the document itself is wrong, and not only a value that was asked for. -/
def isSyntax : Error → Bool
  | .conversion _ | .half => false
  | _ => true

/-- The text of an error in the document of that name. -/
def message (name : String) : Error → String
  | .character c index =>
    s!"unacceptable character #x{String.ofList (hexDigits 4 c.toNat)}: " ++
      "special characters are not allowed\n  in \"" ++ name ++ s!"\", position {index}"
  | .conversion problem => problem.message
  | .half => "a value is written with half of a character"
  | error =>
    match error.placed? with
    | some (position, problem) =>
      s!"YAML syntax error at line {position.line + 1}, column {position.column + 1}: {problem}"
    | none => ""

end Error

end Enhance.Yaml
