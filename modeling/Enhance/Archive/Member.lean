import Enhance.Archive.Bzip2
import Enhance.Archive.Checksum
import Enhance.Archive.Directory
import Enhance.Archive.Lzma
import Enhance.Failure

/-!
# Reading members of archives

The data of a member follow its header. The header has to agree with the directory, the data
have to end before the next member, and what they stand for has to have the checksum that the
directory gives.
-/

namespace Enhance.Archive

open Enhance.Text

/-- Where the data of a member begin, once its header is found to agree with the directory. -/
def dataOffset (bytes : List UInt8) (member : Member) : Except Failure Nat := do
  if member.header < 0 then throw (.system { code := SystemError.invalidArgument })
  let header := bytes.drop member.header.toNat
  let bad (error : Error) : Except Failure Nat := throw (.archive error)
  if header.length < headerSize then bad .headerTruncated
  else if !headerMark.isPrefixOf header then bad .headerMagic
  else
    let nameLength := numberAt header 26 2
    let extraLength := numberAt header 28 2
    let name := (header.drop headerSize).take nameLength
    if member.flags.testBit 5 then bad .patchedData
    else if member.flags.testBit 6 then bad .strongEncryption
    else
      let fullName ← (decodeName (numberAt header 6 2) name).mapError .archive
      if fullName ≠ member.fullName then bad (.nameMismatch member.fullName name)
      else
        let after := min bytes.length (member.header.toNat + headerSize + nameLength + extraLength)
        if member.limit < (after : Int) + member.packedSize then bad (.overlap member.fullName)
        else return after

/-- The bytes that data stand for that are compressed by a method, and whether they tell their end. -/
def decompress (method : Nat) (data : List UInt8) : Except Error (List UInt8 × Bool) :=
  match method with
  | 0 => .ok (data, false)
  | 8 => (inflate data).mapError .inflate
  | 12 =>
    match Bzip2.unbzip2 data with
    | none => .error .blocks
    | some result => .ok result
  | 14 => Lzma.unpacked data
  | _ => .error .compressionMethod

/-- Whether members that are compressed by a method can be read. -/
def isKnownMethod (method : Nat) : Bool :=
  [0, 8, 12, 14].contains method

/-- The bytes that the data of a member stand for, and whether they end as they should. -/
def unpack (member : Member) (data : List UInt8) : Except Error (List UInt8 × Bool) :=
  let whole := data.length = member.packedSize
  (decompress member.method data).map fun (written, complete) =>
    (written.take member.size, complete || whole || member.size ≤ written.length)

/-- The bytes of the member that a class file is in. -/
def readMember (bytes : List UInt8) (member : Member) (wanted : String) :
    Except Failure (List UInt8) := do
  let start ← dataOffset bytes member
  if member.flags.testBit 0 then throw (.archive (.encrypted wanted))
  if !isKnownMethod member.method then throw (.archive .compressionMethod)
  let data := (bytes.drop start).take member.packedSize
  if data = [] && member.packedSize ≠ 0 then throw (.archive .dataTruncated)
  let (written, ended) ← (unpack member data).mapError .archive
  if !ended then throw (.archive .dataTruncated)
  else if crc32 written ≠ member.checksum then throw (.archive (.checksum member.name))
  else return written

/-- The bytes of the class file of that name in an archive. -/
def readClass (bytes : List UInt8) (wanted : String) : Except Failure (List UInt8) := do
  let members ← (members bytes).mapError .archive
  match find? wanted members with
  | some member => readMember bytes member wanted
  | none => throw (.archive (.missing wanted))

/-- Whether an archive has a class file of that name. Bytes that do not look like an archive
have none. -/
def hasClass (bytes : List UInt8) (wanted : String) : Except Error Bool := do
  if ← looksLikeArchive bytes then
    return (find? wanted (← members bytes)).isSome
  else return false

end Enhance.Archive
