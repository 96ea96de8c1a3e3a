import Enhance.Archive.Error
import Enhance.Text.CodePage437

/-!
# The directory of an archive

An archive ends with a record that tells where its directory is; a comment may follow the
record and other data may stand before the archive. The directory lists the members. Of two
members of one name the later one counts.
-/

namespace Enhance.Archive

open Enhance.Text

/-- The number that bytes write, lowest byte first. -/
def number (bytes : List UInt8) : Nat :=
  bytes.foldr (fun byte high => byte.toNat + 256 * high) 0

/-- The number that `width` bytes write from an offset on. -/
def numberAt (bytes : List UInt8) (offset width : Nat) : Nat :=
  number ((bytes.drop offset).take width)

/-- The bytes that mark the record at the end. -/
def endMark : List UInt8 := [0x50, 0x4b, 5, 6]

/-- The bytes that mark an entry of the directory. -/
def entryMark : List UInt8 := [0x50, 0x4b, 1, 2]

/-- The bytes that mark the header of a member. -/
def headerMark : List UInt8 := [0x50, 0x4b, 3, 4]

/-- The bytes that mark the record at the end of a large archive. -/
def wideEndMark : List UInt8 := [0x50, 0x4b, 6, 6]

/-- The bytes that mark the locator of that record. -/
def locatorMark : List UInt8 := [0x50, 0x4b, 6, 7]

/-- The sizes of these records. -/
def endSize : Nat := 22

def entrySize : Nat := 46

def headerSize : Nat := 30

def wideEndSize : Nat := 56

def locatorSize : Nat := 20

/-- What the record at the end says. -/
structure EndRecord where
  /-- Where the record is. -/
  location : Nat
  /-- The number of bytes of the directory. -/
  size : Nat
  /-- Where the directory says it is. -/
  offset : Nat
  /-- The number of bytes between the directory and the record. -/
  gap : Nat

/-- The last place at which bytes begin. -/
def lastIndexOf (mark : List UInt8) : List UInt8 → Option Nat
  | [] => none
  | byte :: bytes =>
    match lastIndexOf mark bytes with
    | some n => some (n + 1)
    | none => if mark.isPrefixOf (byte :: bytes) then some 0 else none

/-- Where the record at the end begins: at the very end, or before a comment of at most 64
KiB. -/
def endLocation? (bytes : List UInt8) : Option Nat :=
  let size := bytes.length
  if size < endSize then none
  else
    let tail := bytes.drop (size - endSize)
    if endMark.isPrefixOf tail && tail.drop (endSize - 2) = [0, 0] then some (size - endSize)
    else
      let first := size - 65536 - endSize
      match lastIndexOf endMark (bytes.drop first) with
      | none => none
      | some n => if first + n + endSize ≤ size then some (first + n) else none

/-- The record at the end, if there is one. The values of a large archive stand in a record of
their own before it. -/
def endRecord (bytes : List UInt8) : Except Error (Option EndRecord) :=
  match endLocation? bytes with
  | none => .ok none
  | some location =>
    let record := bytes.drop location
    let narrow : EndRecord := ⟨location, numberAt record 12 4, numberAt record 16 4, 0⟩
    if location < locatorSize then .ok (some narrow)
    else
      let locator := bytes.drop (location - locatorSize)
      if !locatorMark.isPrefixOf locator then .ok (some narrow)
      else if numberAt locator 4 4 ≠ 0 || 1 < numberAt locator 16 4 then .error .severalDisks
      else if location < locatorSize + wideEndSize then .ok none
      else
        let wide := bytes.drop (location - locatorSize - wideEndSize)
        if !wideEndMark.isPrefixOf wide then .ok (some narrow)
        else
          .ok (some ⟨location, numberAt wide 40 8, numberAt wide 48 8, wideEndSize + locatorSize⟩)

/-- A member of an archive. -/
structure Member where
  /-- The name up to the first NUL. -/
  name : String
  /-- The name as it stands in the directory. -/
  fullName : String
  /-- Where the header of the member is. -/
  header : Int
  flags : Nat
  method : Nat
  checksum : Nat
  /-- The number of bytes in the archive. -/
  packedSize : Nat
  /-- The number of bytes of the member itself. -/
  size : Nat
  /-- Where the header of the next member or the directory begins. -/
  limit : Int := 0

/-- The name that bytes of an archive write. -/
def decodeName (flags : Nat) (bytes : List UInt8) : Except Error String :=
  if flags.testBit 11 then (decodeUtf8 bytes).mapError .nameEncoding
  else .ok (decode437 bytes)

/-- The values that did not fit their places, from the extra data of a member: takes the next
value for each place that is full. -/
def wideValues (data : List UInt8) (size packedSize : Nat) (header : Nat) :
    Except Error (Nat × Nat × Nat) := do
  let next (name : String) (full : Bool) (value : Nat) (data : List UInt8) :
      Except Error (Nat × List UInt8) :=
    if !full then .ok (value, data)
    else if data.length < 8 then .error (.wideField name)
    else .ok (numberAt data 0 8, data.drop 8)
  let (size, data) ← next "File size" (size = 0xffffffff) size data
  let (packedSize, data) ← next "Compress size" (packedSize = 0xffffffff) packedSize data
  let (header, _) ← next "Header offset" (header = 0xffffffff) header data
  return (size, packedSize, header)

/-- Reads the extra data of a member. -/
def readExtra : (fuel : Nat) → List UInt8 → (size packedSize header : Nat) →
    Except Error (Nat × Nat × Nat)
  | 0, _, size, packedSize, header => .ok (size, packedSize, header)
  | fuel + 1, extra, size, packedSize, header =>
    if extra.length < 4 then .ok (size, packedSize, header)
    else
      let tag := numberAt extra 0 2
      let width := numberAt extra 2 2
      if extra.length < width + 4 then .error (.extraField tag width)
      else if tag = 1 then do
        let (size, packedSize, header) ←
          wideValues ((extra.drop 4).take width) size packedSize header
        readExtra fuel (extra.drop (width + 4)) size packedSize header
      else readExtra fuel (extra.drop (width + 4)) size packedSize header

/-- The latest version of the format that is understood, in tenths. -/
def latestVersion : Nat := 63

/-- The name without what follows its first NUL. -/
def upToNul (name : String) : String :=
  String.ofList (name.toList.takeWhile (· ≠ '\x00'))

/-- Reads the entries of the directory. `shift` is the number of bytes before the archive. -/
def readEntries (shift : Int) : (fuel : Nat) → (left : Int) → List UInt8 →
    Except Error (List Member)
  | 0, _, _ => .ok []
  | fuel + 1, left, bytes => do
    if left ≤ 0 then return []
    if bytes.length < entrySize then throw .directoryTruncated
    if !entryMark.isPrefixOf bytes then throw .directoryMagic
    let nameLength := numberAt bytes 28 2
    let extraLength := numberAt bytes 30 2
    let commentLength := numberAt bytes 32 2
    let flags := numberAt bytes 8 2
    let fullName ← decodeName flags ((bytes.drop entrySize).take nameLength)
    let extra := (bytes.drop (entrySize + nameLength)).take extraLength
    let version := numberAt bytes 6 1
    if latestVersion < version then throw (.version version)
    let (size, packedSize, header) ←
      readExtra (extra.length + 1) extra (numberAt bytes 24 4) (numberAt bytes 20 4)
        (numberAt bytes 42 4)
    let member : Member := {
      name := upToNul fullName
      fullName
      header := header + shift
      flags
      method := numberAt bytes 10 2
      checksum := numberAt bytes 16 4
      packedSize
      size }
    let whole := entrySize + nameLength + extraLength + commentLength
    let others ← readEntries shift fuel (left - whole) (bytes.drop whole)
    return member :: others

/-- Gives each member the header of the next one, or the directory, as its limit. -/
def withLimits (directory : Int) (members : List Member) : List Member :=
  let order := members.zipIdx.mergeSort fun first second => second.1.header ≤ first.1.header
  let limits := (order.zip (directory :: order.map (·.1.header))).map
    fun pair => (pair.1.2, pair.2)
  members.zipIdx.map fun (member, n) => { member with limit := (limits.lookup n).getD 0 }

/-- The members of an archive in the order of the directory. -/
def members (bytes : List UInt8) : Except Error (List Member) := do
  match ← endRecord bytes with
  | none => throw .notAnArchive
  | some record =>
    let shift : Int := record.location - record.size - record.offset - record.gap
    let start : Int := record.offset + shift
    if start < 0 then throw .directoryOffset
    let data := (bytes.drop start.toNat).take record.size
    let found ← readEntries shift (data.length + 1) record.size data
    return withLimits start found

/-- The member of that name: the last one, if there are several. -/
def find? (name : String) (members : List Member) : Option Member :=
  members.reverse.find? (·.name = name)

/-- Whether bytes look like an archive: whether there is a record at their end. -/
def looksLikeArchive (bytes : List UInt8) : Except Error Bool :=
  (endRecord bytes).map Option.isSome

end Enhance.Archive
