import Enhance.Text.Quoted
import Enhance.Text.Utf8

/-!
# What can be wrong with an archive

An archive is damaged, or it uses something that is not supported. `Error.kind` names the
class of the error and `Error.message` says what is wrong.
-/

namespace Enhance.Text

/-- What is wrong with bytes that are no text. -/
def EncodingError.message (error : EncodingError) : String :=
  match error.bytes with
  | [byte] =>
    s!"'utf-8' codec can't decode byte 0x{String.ofList (hexDigits 2 byte.toNat)} in position " ++
      s!"{error.position}: {error.reason}"
  | _ =>
    s!"'utf-8' codec can't decode bytes in position {error.position}-" ++
      s!"{error.position + error.span - 1}: {error.reason}"

end Enhance.Text

namespace Enhance.Archive

open Enhance.Text

/-- What is wrong with compressed data. -/
inductive InflateError where
  | blockType
  | storedLengths
  | tooManySymbols
  | codeLengths
  | repeatedLength
  | missingEnd
  | literalCodes
  | distanceCodes
  | literalCode
  | distanceCode
  | distanceTooFar
  deriving DecidableEq, Repr

/-- What is wrong with compressed data. -/
def InflateError.message : InflateError → String
  | .blockType => "invalid block type"
  | .storedLengths => "invalid stored block lengths"
  | .tooManySymbols => "too many length or distance symbols"
  | .codeLengths => "invalid code lengths set"
  | .repeatedLength => "invalid bit length repeat"
  | .missingEnd => "invalid code -- missing end-of-block"
  | .literalCodes => "invalid literal/lengths set"
  | .distanceCodes => "invalid distances set"
  | .literalCode => "invalid literal/length code"
  | .distanceCode => "invalid distance code"
  | .distanceTooFar => "invalid distance too far back"

/-- Why reading compressed data comes to a halt. -/
inductive Halt where
  /-- The data end before what is read. -/
  | ended
  | corrupt
  deriving DecidableEq, Repr

/-- Why an archive or one of its members cannot be read. -/
inductive Error where
  | notAnArchive
  | severalDisks
  | directoryOffset
  | directoryTruncated
  | directoryMagic
  /-- A field of the extra data is longer than these. -/
  | extraField (tag size : Nat)
  /-- The extra data lack a value that does not fit its place in the directory. -/
  | wideField (name : String)
  /-- Reading the member needs a later version of the format, given in tenths. -/
  | version (tenths : Nat)
  | nameEncoding (error : EncodingError)
  | headerTruncated
  | headerMagic
  | patchedData
  | strongEncryption
  /-- The member has another name in the directory than in its header. -/
  | nameMismatch (name : String) (header : List UInt8)
  /-- The data of the member reach into those of the next one. -/
  | overlap (name : String)
  | encrypted (name : String)
  | compressionMethod
  | checksum (name : String)
  | inflate (error : InflateError)
  /-- The blocks of a member make no sense. -/
  | blocks
  /-- The data of a member that is coded by chances make no sense. -/
  | coding
  /-- A member is coded by chances in an unknown way. -/
  | codingOptions
  /-- The archive ends inside the data of the member. -/
  | dataTruncated
  | missing (name : String)
  deriving DecidableEq, Repr

namespace Error

/-- The class of an error. -/
def kind : Error → String
  | .version _ | .patchedData | .strongEncryption | .compressionMethod => "NotImplementedError"
  | .nameEncoding _ => "UnicodeDecodeError"
  | .encrypted _ => "RuntimeError"
  | .inflate _ => "error"
  | .blocks => "OSError"
  | .coding | .codingOptions => "LZMAError"
  | .dataTruncated => "EOFError"
  | .missing _ => "KeyError"
  | _ => "BadZipFile"

/-- What is wrong. -/
def message : Error → String
  | .notAnArchive => "File is not a zip file"
  | .severalDisks => "zipfiles that span multiple disks are not supported"
  | .directoryOffset => "Bad offset for central directory"
  | .directoryTruncated => "Truncated central directory"
  | .directoryMagic => "Bad magic number for central directory"
  | .extraField tag size =>
    s!"Corrupt extra field {String.ofList (hexDigits 4 tag)} (size={size})"
  | .wideField name => s!"Corrupt zip64 extra field. {name} not found."
  | .version tenths => s!"zip file version {tenths / 10}.{tenths % 10}"
  | .nameEncoding error => error.message
  | .headerTruncated => "Truncated file header"
  | .headerMagic => "Bad magic number for file header"
  | .patchedData => "compressed patched data (flag bit 5)"
  | .strongEncryption => "strong encryption (flag bit 6)"
  | .nameMismatch name header =>
    s!"File name in directory {quoted name} and header {quotedBytes header} differ."
  | .overlap name => s!"Overlapped entries: {quoted name} (possible zip bomb)"
  | .encrypted name => s!"File {quoted name} is encrypted, password required for extraction"
  | .compressionMethod => "That compression method is not supported"
  | .checksum name => s!"Bad CRC-32 for file {quoted name}"
  | .inflate error => s!"Error -3 while decompressing data: {error.message}"
  | .blocks => "Invalid data stream"
  | .coding => "Corrupt input data"
  | .codingOptions => "Invalid or unsupported options"
  | .dataTruncated => ""
  | .missing name => quoted s!"There is no item named {quoted name} in the archive"

end Error

end Enhance.Archive
