import Enhance.Archive.Error

/-!
# Decompressing archive members

Compressed data are a row of blocks. A block holds its bytes as they are, or as codes for
bytes and for repetitions of earlier bytes. Codes are prefix codes given by their lengths; the
codes of a block are the standard ones or stand in front of it, compressed themselves.

The data are read as a list of bits. `inflate` gives the bytes as far as the data go, and
tells whether the last block was complete.
-/

namespace Enhance.Archive

/-- What reading from a list of bits gives. -/
inductive Scan (α : Type) where
  | got (value : α) (rest : List Bool)
  /-- The bits end before the value does. -/
  | ended
  | bad (error : InflateError)

namespace Scan

/-- Reads a second value after a first one. -/
def andThen {α β : Type} (scan : Scan α) (next : α → List Bool → Scan β) : Scan β :=
  match scan with
  | .got value rest => next value rest
  | .ended => .ended
  | .bad error => .bad error

end Scan

/-- The bits of bytes, the lowest bit of a byte first. -/
def bitsOf (bytes : List UInt8) : List Bool :=
  bytes.flatMap fun byte => (List.range 8).map byte.toNat.testBit

/-- The number that the next bits write, lowest first. -/
def readNumber : (width : Nat) → List Bool → Scan Nat
  | 0, bits => .got 0 bits
  | _ + 1, [] => .ended
  | width + 1, bit :: bits =>
    (readNumber width bits).andThen fun high rest => .got (2 * high + bit.toNat) rest

/-- A prefix code: how many codes there are of each length from one on, and the symbols in the
order of their codes. -/
structure Codes where
  counts : List Nat
  symbols : Array Nat

namespace Codes

/-- The code with these lengths of the codes of the symbols; zero for symbols without one. -/
def ofLengths (longest : Nat) (lengths : List Nat) : Codes :=
  let numbered := lengths.zipIdx
  let ofLength (n : Nat) : List Nat := (numbered.filter (·.1 = n)).map (·.2)
  let groups := (List.range longest).map fun n => ofLength (n + 1)
  let used := (groups.reverse.dropWhile (· = [])).reverse
  { counts := used.map List.length, symbols := used.flatten.toArray }

/-- How much of the space of codes is free, in codes of the greatest length; negative if the
codes do not fit. -/
def free (codes : Codes) : Int :=
  codes.counts.foldl (fun (left : Int) (count : Nat) => 2 * left - count) 1

/-- Whether some prefix of the codes does not fit. -/
def overfull (codes : Codes) : Bool :=
  (codes.counts.foldl (fun (left, full) count =>
    let left := 2 * left - (count : Int)
    (left, full || decide (left < 0))) ((1 : Int), false)).2

/-- Whether codes are not fit for use. Free space is tolerated only beside a single code of
one bit, and only where `single` allows that. -/
def faulty (codes : Codes) (single : Bool) : Bool :=
  codes.overfull ||
    (codes.counts ≠ [] && decide (0 < codes.free) && !(single && codes.counts.length = 1))

/-- Reads a symbol: the number of a code among those of its length decides. -/
def readFrom (codes : Codes) (error : InflateError) :
    (counts : List Nat) → (code first index : Nat) → List Bool → Scan Nat
  | [], _, _, _, _ => .bad error
  | _ :: _, _, _, _, [] => .ended
  | count :: counts, code, first, index, bit :: bits =>
    let code := code + bit.toNat
    if code < first + count then
      match codes.symbols[index + (code - first)]? with
      | some symbol => .got symbol bits
      | none => .bad error
    else readFrom codes error counts (2 * code) (2 * (first + count)) (index + count) bits

/-- Reads a symbol. A code without symbols needs a bit to be found out. -/
def read (codes : Codes) (error : InflateError) (bits : List Bool) : Scan Nat :=
  readFrom codes error (if codes.counts = [] then [0] else codes.counts) 0 0 0 bits

end Codes

/-- The longest code that is possible. -/
def longestCode : Nat := 15

/-- The least lengths of repetitions and the numbers of bits that are added to them. -/
def lengthTable : Array (Nat × Nat) := #[
  (3, 0), (4, 0), (5, 0), (6, 0), (7, 0), (8, 0), (9, 0), (10, 0), (11, 1), (13, 1), (15, 1),
  (17, 1), (19, 2), (23, 2), (27, 2), (31, 2), (35, 3), (43, 3), (51, 3), (59, 3), (67, 4),
  (83, 4), (99, 4), (115, 4), (131, 5), (163, 5), (195, 5), (227, 5), (258, 0)]

/-- The least distances of repetitions and the numbers of bits that are added to them. -/
def distanceTable : Array (Nat × Nat) := #[
  (1, 0), (2, 0), (3, 0), (4, 0), (5, 1), (7, 1), (9, 2), (13, 2), (17, 3), (25, 3), (33, 4),
  (49, 4), (65, 5), (97, 5), (129, 6), (193, 6), (257, 7), (385, 7), (513, 8), (769, 8),
  (1025, 9), (1537, 9), (2049, 10), (3073, 10), (4097, 11), (6145, 11), (8193, 12), (12289, 12),
  (16385, 13), (24577, 13)]

/-- Repeats bytes from so far back; the bytes already written are given latest first. -/
def repeatBytes (distance : Nat) : (count : Nat) → List UInt8 → List UInt8
  | 0, written => written
  | count + 1, written =>
    repeatBytes distance count ((written[distance - 1]?).getD 0 :: written)

/-- How far the data of a member could be decompressed. -/
structure Inflated where
  /-- The bytes, latest first. -/
  written : List UInt8
  /-- The bits after the block, if it is complete. -/
  rest : Option (List Bool)

/-- The outcome of reading a symbol for a repetition: its length and distance. -/
def readRepetition (distances : Codes) (symbol : Nat) (bits : List Bool) : Scan (Nat × Nat) :=
  match lengthTable[symbol - 257]? with
  | none => .bad .literalCode
  | some (least, extra) =>
    (readNumber extra bits).andThen fun more rest =>
      (distances.read .distanceCode rest).andThen fun place rest =>
        match distanceTable[place]? with
        | none => .bad .distanceCode
        | some (near, extra) =>
          (readNumber extra rest).andThen fun further rest =>
            .got (least + more, near + further) rest

/-- Reads the codes of a block up to the one that ends it. -/
def readCoded (literals distances : Codes) : (fuel : Nat) → (written : List UInt8) →
    List Bool → Except InflateError Inflated
  | 0, written, _ => .ok ⟨written, none⟩
  | fuel + 1, written, bits =>
    match literals.read .literalCode bits with
    | .ended => .ok ⟨written, none⟩
    | .bad error => .error error
    | .got symbol rest =>
      if symbol < 256 then
        readCoded literals distances fuel (UInt8.ofNat symbol :: written) rest
      else if symbol = 256 then .ok ⟨written, some rest⟩
      else
        match readRepetition distances symbol rest with
        | .ended => .ok ⟨written, none⟩
        | .bad error => .error error
        | .got (count, distance) rest =>
          if written.length < distance then .error .distanceTooFar
          else readCoded literals distances fuel (repeatBytes distance count written) rest

/-- Copies bytes that stand in a block as they are. -/
def readPlain : (count : Nat) → (written : List UInt8) → List Bool → Inflated
  | 0, written, bits => ⟨written, some bits⟩
  | count + 1, written, bits =>
    match readNumber 8 bits with
    | .got byte rest => readPlain count (UInt8.ofNat byte :: written) rest
    | _ => ⟨written, none⟩

/-- The lengths of the standard codes. -/
def standardLiterals : List Nat :=
  List.replicate 144 8 ++ List.replicate 112 9 ++ List.replicate 24 7 ++ List.replicate 8 8

/-- The order in which the lengths of the codes for code lengths are given. -/
def lengthOrder : List Nat :=
  [16, 17, 18, 0, 8, 7, 9, 6, 10, 5, 11, 4, 12, 3, 13, 2, 14, 1, 15]

/-- Reads numbers of three bits. -/
def readLengths : (count : Nat) → List Bool → Scan (List Nat)
  | 0, bits => .got [] bits
  | count + 1, bits =>
    (readNumber 3 bits).andThen fun first rest =>
      (readLengths count rest).andThen fun more rest => .got (first :: more) rest

/-- How many bits a repeating symbol has behind it, and how often it repeats at least. -/
def repetition (symbol : Nat) : Nat × Nat :=
  if symbol = 16 then (2, 3) else if symbol = 17 then (3, 3) else (7, 11)

/-- Reads code lengths until there are `total`; those already read are given latest first. -/
def readCodeLengths (codes : Codes) (total : Nat) : (fuel : Nat) → (seen : List Nat) →
    List Bool → Scan (List Nat)
  | 0, _, _ => .ended
  | fuel + 1, seen, bits =>
    if total ≤ seen.length then .got seen.reverse bits
    else
      let symbol := if codes.counts = [] then (readNumber 1 bits).andThen fun _ rest => .got 0 rest
        else codes.read .codeLengths bits
      symbol.andThen fun symbol rest =>
        if symbol < 16 then readCodeLengths codes total fuel (symbol :: seen) rest
        else
          let (extra, least) := repetition symbol
          if rest.length < extra then .ended
          else if symbol = 16 && seen = [] then .bad .repeatedLength
          else
            (readNumber extra rest).andThen fun more rest =>
              let value := if symbol = 16 then seen.headD 0 else 0
              if total < seen.length + least + more then .bad .repeatedLength
              else
                let seen := List.replicate (least + more) value ++ seen
                readCodeLengths codes total fuel seen rest

/-- Reads the codes that stand in front of a block: those of literals and of distances. -/
def readCodes (bits : List Bool) : Scan (Codes × Codes) :=
  (readNumber 5 bits).andThen fun literals rest =>
  (readNumber 5 rest).andThen fun distances rest =>
  (readNumber 4 rest).andThen fun lengths rest =>
    let literals := literals + 257
    let distances := distances + 1
    if 286 < literals || 30 < distances then .bad .tooManySymbols
    else
      (readLengths (lengths + 4) rest).andThen fun given rest =>
        let lengthOf (symbol : Nat) : Nat :=
          ((lengthOrder.zip given).lookup symbol).getD 0
        let codes := Codes.ofLengths longestCode ((List.range 19).map lengthOf)
        if codes.faulty false then .bad .codeLengths
        else
          (readCodeLengths codes (literals + distances) (bits.length + 1) [] rest).andThen
            fun lengths rest =>
              let literalLengths := lengths.take literals
              let literalCodes := Codes.ofLengths longestCode literalLengths
              let distanceCodes := Codes.ofLengths longestCode (lengths.drop literals)
              if (literalLengths[256]?).getD 0 = 0 then .bad .missingEnd
              else if literalCodes.faulty true then .bad .literalCodes
              else if distanceCodes.faulty true then .bad .distanceCodes
              else .got (literalCodes, distanceCodes) rest

/-- Reads the rest of a block of a kind. -/
def readBlock (kind : Nat) (written : List UInt8) (bits : List Bool) :
    Except InflateError Inflated :=
  match kind with
  | 0 =>
    let aligned := bits.drop (bits.length % 8)
    match readNumber 16 aligned with
    | .got size rest =>
      match readNumber 16 rest with
      | .got check rest =>
        if size + check = 0xffff then .ok (readPlain size written rest)
        else .error .storedLengths
      | _ => .ok ⟨written, none⟩
    | _ => .ok ⟨written, none⟩
  | 1 =>
    readCoded (Codes.ofLengths longestCode standardLiterals) (Codes.ofLengths longestCode (List.replicate 32 5))
      (bits.length + 1) written bits
  | 2 =>
    match readCodes bits with
    | .got (literals, distances) rest => readCoded literals distances (rest.length + 1) written rest
    | .ended => .ok ⟨written, none⟩
    | .bad error => .error error
  | _ => .error .blockType

/-- Reads blocks up to the last one. -/
def readBlocks : (fuel : Nat) → (written : List UInt8) → List Bool →
    Except InflateError Inflated
  | 0, written, _ => .ok ⟨written, none⟩
  | fuel + 1, written, bits =>
    match readNumber 1 bits with
    | .got last rest =>
      match readNumber 2 rest with
      | .got kind rest =>
        match readBlock kind written rest with
        | .error error => .error error
        | .ok block =>
          match block.rest with
          | none => .ok block
          | some rest =>
            if last = 1 then .ok block else readBlocks fuel block.written rest
      | _ => .ok ⟨written, none⟩
    | _ => .ok ⟨written, none⟩

/-- The bytes that compressed data stand for, as far as the data go, and whether the last block
is complete. -/
def inflate (data : List UInt8) : Except InflateError (List UInt8 × Bool) :=
  let bits := bitsOf data
  (readBlocks (bits.length + 1) [] bits).map fun result =>
    (result.written.reverse, result.rest.isSome)

end Enhance.Archive
