import Enhance.Text.Half
import Enhance.Yaml.Error

/-!
# The words of a document

A document is read as a row of tokens. Most of them stand for a character of the document; the
tokens for the start and the end of a block stand for a change of the indentation.
-/

namespace Enhance.Yaml

/-- An instruction before a document. -/
inductive Directive where
  | version (major minor : Nat)
  /-- Tags that start with the handle stand for those that start with the front. -/
  | handle (handle front : String)
  | other (name : String)
  deriving DecidableEq, Repr

/-- A word of a document. -/
inductive Word where
  | streamEnd
  | directive (directive : Directive)
  | documentStart
  | documentEnd
  | blockSequenceStart
  | blockMappingStart
  | blockEnd
  | flowSequenceStart
  | flowSequenceEnd
  | flowMappingStart
  | flowMappingEnd
  | key
  | value
  | blockEntry
  | flowEntry
  | reference (name : String)
  | anchor (name : String)
  | tag (handle : Option String) (suffix : String)
  | scalar (text : Text.RawText) (plain : Bool)
  deriving DecidableEq, Repr, Inhabited

/-- How messages name a word. -/
def Word.name : Word → String
  | .streamEnd => "<stream end>"
  | .directive _ => "<directive>"
  | .documentStart => "<document start>"
  | .documentEnd => "<document end>"
  | .blockSequenceStart => "<block sequence start>"
  | .blockMappingStart => "<block mapping start>"
  | .blockEnd => "<block end>"
  | .flowSequenceStart => "["
  | .flowSequenceEnd => "]"
  | .flowMappingStart => "\x7b"
  | .flowMappingEnd => "\x7d"
  | .key => "?"
  | .value => ":"
  | .blockEntry => "-"
  | .flowEntry => ","
  | .reference _ => "<alias>"
  | .anchor _ => "<anchor>"
  | .tag .. => "<tag>"
  | .scalar .. => "<scalar>"

/-- A word and where it starts and ends. -/
structure Token where
  word : Word
  start : Position
  finish : Position
  deriving DecidableEq, Repr, Inhabited

/-- The tokens of a text up to the end or to an error. -/
structure Tokens where
  tokens : List Token
  stopped : Option Error
  deriving Repr

end Enhance.Yaml
