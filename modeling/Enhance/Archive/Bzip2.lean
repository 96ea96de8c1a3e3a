import Enhance.Archive.Inflate

/-!
# Decompressing members that are sorted in blocks

The data are blocks of a limited size. The bytes of a block, in which long runs are cut short, are
sorted by what follows them; a byte then stands as its place in the order in which bytes were seen last,
and the places are written by up to six prefix codes that take turns. Each block has a checksum, and the
end of the data has one of all blocks.

The data are read as a list of bits, the highest bit of a byte first. `unbzip2` gives the bytes of the
blocks that are complete, and tells whether the end was found.
-/

namespace Enhance.Archive.Bzip2

/-- Reading from a list of bits. -/
abbrev Reader := StateT (List Bool) (Except Halt)

/-- Reads a bit. -/
def bit : Reader Bool := do
  match ← get with
  | [] => throw .ended
  | bit :: rest =>
    set rest
    return bit

/-- Reads a number, highest bit first. -/
def number : (width : Nat) → Reader Nat
  | 0 => return 0
  | width + 1 => do
    let high ← number width
    return 2 * high + (← bit).toNat

/-- Fails unless something holds of the data. -/
def demand (holds : Bool) : Reader Unit :=
  if holds then pure () else throw .corrupt

/-- Reads the same thing several times. -/
def times {α : Type} (reader : Reader α) : (count : Nat) → Reader (List α)
  | 0 => return []
  | count + 1 => do
    let first ← reader
    return first :: (← times reader count)

/-- Reads bytes that have to be these. -/
def expect : List Nat → Reader Unit
  | [] => return
  | byte :: bytes => do
    demand ((← number 8) = byte)
    expect bytes

/-! ## Codes of a block -/

/-- The longest code that is possible. -/
def longest : Nat := 20

/-- How many symbols a code is used for at a time. -/
def turnLength : Nat := 50

/-- The most turns that count. -/
def mostTurns : Nat := 18002

/-- Counts ones up to a zero; there has to be less of them than `room`. -/
def ones : (room : Nat) → Reader Nat
  | 0 => throw .corrupt
  | room + 1 => do
    if ← bit then return (← ones room) + 1 else return 0

/-- Takes an item of a list out and puts it to the front. -/
def toFront {α : Type} (order : List α) (place : Nat) : Reader (α × List α) :=
  match order[place]? with
  | some item => return (item, item :: order.eraseIdx place)
  | none => throw .corrupt

/-- What stands at places in an order that changes: each item that was used goes to the front. -/
def recalled {α : Type} : (order : List α) → List Nat → Reader (List α)
  | _, [] => return []
  | order, place :: places => do
    let (item, order) ← toFront order place
    return item :: (← recalled order places)

/-- Reads the length of a code, which is given by steps from the one before. -/
def codeLength : (fuel : Nat) → (current : Nat) → Reader Nat
  | 0, _ => throw .ended
  | fuel + 1, current => do
    demand (1 ≤ current && current ≤ longest)
    if ← bit then codeLength fuel (if ← bit then current - 1 else current + 1)
    else return current

/-- Reads the lengths of the codes of so many symbols. -/
def codeLengths : (count : Nat) → (current : Nat) → Reader (List Nat)
  | 0, _ => return []
  | count + 1, current => do
    let length ← codeLength ((← get).length + 1) current
    return length :: (← codeLengths count length)

/-- Reads the codes of so many symbols. -/
def readCodes (symbols : Nat) : Reader Codes := do
  return .ofLengths longest (← codeLengths symbols (← number 5))

/-- Reads a symbol. That a code is too long shows one bit behind the longest one. -/
def symbol (codes : Codes) : Reader Nat := do
  let counts := codes.counts ++ List.replicate (longest + 1 - codes.counts.length) 0
  match codes.readFrom .literalCode counts 0 0 0 (← get) with
  | .got symbol rest =>
    set rest
    return symbol
  | .ended => throw .ended
  | .bad _ => throw .corrupt

/-! ## Bytes of a block -/

/-- The codes that come. The first of them has been used for some symbols. -/
structure Turns where
  used : Nat := 0
  coming : List Codes

/-- Reads a symbol by the code whose turn it is. -/
def Turns.symbol (turns : Turns) : Reader (Nat × Turns) := do
  let turns := if turns.used = turnLength then ⟨0, turns.coming.drop 1⟩ else turns
  match turns.coming with
  | [] => throw .corrupt
  | codes :: _ => return (← Bzip2.symbol codes, { turns with used := turns.used + 1 })

/-- What has been read of a block. -/
structure Written where
  /-- The bytes in the order in which they were seen last. -/
  order : List UInt8
  /-- How often the first of them is to be repeated, as far as that is known, and what the next
  digit of this number is worth. -/
  run : Nat := 0
  worth : Nat := 1
  count : Nat := 0
  /-- The bytes, latest first. -/
  bytes : List UInt8 := []

/-- Puts so many copies of a byte behind what has been read. -/
def Written.push (written : Written) (limit count : Nat) (byte : UInt8) : Reader Written := do
  demand (written.count + count ≤ limit)
  return { written with
    run := 0
    worth := 1
    count := written.count + count
    bytes := List.replicate count byte ++ written.bytes }

/-- The most that a digit of a repetition is worth. -/
def mostWorth : Nat := 2 * 1024 * 1024

/-- Reads symbols up to the last one of a block: digits of repetitions and places of bytes. -/
def readSymbols (limit last : Nat) : (fuel : Nat) → Turns → Written → Reader Written
  | 0, _, _ => throw .ended
  | fuel + 1, turns, written => do
    let (symbol, turns) ← turns.symbol
    if symbol ≤ 1 then
      demand (written.worth < mostWorth)
      readSymbols limit last fuel turns { written with
        run := written.run + (symbol + 1) * written.worth, worth := 2 * written.worth }
    else
      let written ← written.push limit written.run (written.order.headD 0)
      if symbol = last then return written
      else
        let (byte, order) ← toFront written.order (symbol - 1)
        readSymbols limit last fuel turns { ← written.push limit 1 byte with order }

/-- The places of bytes in ascending order of the bytes, those of equal bytes as they stand. -/
def sortedPlaces (bytes : Array UInt8) : Array Nat :=
  let buckets := (bytes.toList.zipIdx.foldl
    (fun (buckets : Array (List Nat)) (byte, place) => buckets.modify byte.toNat (place :: ·))
    (Array.replicate 256 []))
  (buckets.toList.flatMap List.reverse).toArray

/-- The bytes that are met on going from place to place. -/
def follow (bytes : Array UInt8) (next : Array Nat) : (count place : Nat) → List UInt8 → List UInt8
  | 0, _, met => met.reverse
  | count + 1, place, met =>
    follow bytes next count (next[place]?.getD 0) ((bytes[place]?).getD 0 :: met)

/-- The bytes of a block before they were sorted. -/
def unsorted (sorted : List UInt8) (start : Nat) : List UInt8 :=
  let bytes := sorted.toArray
  let next := sortedPlaces bytes
  follow bytes next bytes.size (next[start]?.getD 0) []

/-- The distances of the bytes that are changed in a block to make it easier to sort. -/
def disturbances : Array Nat := #[
  619, 720, 127, 481, 931, 816, 813, 233, 566, 247, 985, 724, 205, 454, 863, 491, 741, 242, 949,
  214, 733, 859, 335, 708, 621, 574, 73, 654, 730, 472, 419, 436, 278, 496, 867, 210, 399, 680,
  480, 51, 878, 465, 811, 169, 869, 675, 611, 697, 867, 561, 862, 687, 507, 283, 482, 129, 807,
  591, 733, 623, 150, 238, 59, 379, 684, 877, 625, 169, 643, 105, 170, 607, 520, 932, 727, 476,
  693, 425, 174, 647, 73, 122, 335, 530, 442, 853, 695, 249, 445, 515, 909, 545, 703, 919, 874,
  474, 882, 500, 594, 612, 641, 801, 220, 162, 819, 984, 589, 513, 495, 799, 161, 604, 958, 533,
  221, 400, 386, 867, 600, 782, 382, 596, 414, 171, 516, 375, 682, 485, 911, 276, 98, 553, 163,
  354, 666, 933, 424, 341, 533, 870, 227, 730, 475, 186, 263, 647, 537, 686, 600, 224, 469, 68,
  770, 919, 190, 373, 294, 822, 808, 206, 184, 943, 795, 384, 383, 461, 404, 758, 839, 887, 715,
  67, 618, 276, 204, 918, 873, 777, 604, 560, 951, 160, 578, 722, 79, 804, 96, 409, 713, 940, 652,
  934, 970, 447, 318, 353, 859, 672, 112, 785, 645, 863, 803, 350, 139, 93, 354, 99, 820, 908,
  609, 772, 154, 274, 580, 184, 79, 626, 630, 742, 653, 282, 762, 623, 680, 81, 927, 626, 789,
  125, 411, 521, 938, 300, 821, 78, 343, 175, 128, 250, 170, 774, 972, 275, 999, 639, 495, 78,
  352, 126, 857, 956, 358, 619, 580, 124, 737, 594, 701, 612, 669, 112, 134, 694, 363, 992, 809,
  743, 168, 974, 944, 375, 748, 52, 600, 747, 642, 182, 862, 81, 344, 805, 988, 739, 511, 655,
  814, 334, 249, 515, 897, 955, 664, 981, 649, 113, 974, 459, 893, 228, 433, 837, 553, 268, 926,
  240, 102, 654, 459, 51, 686, 754, 806, 760, 493, 403, 415, 394, 687, 700, 946, 670, 656, 610,
  738, 392, 760, 799, 887, 653, 978, 321, 576, 617, 626, 502, 894, 679, 243, 440, 680, 879, 194,
  572, 640, 724, 926, 56, 204, 700, 707, 151, 457, 449, 797, 195, 791, 558, 945, 679, 297, 59, 87,
  824, 713, 663, 412, 693, 342, 606, 134, 108, 571, 364, 631, 212, 174, 643, 304, 329, 343, 97,
  430, 751, 497, 314, 983, 374, 822, 928, 140, 206, 73, 263, 980, 736, 876, 478, 430, 305, 170,
  514, 364, 692, 829, 82, 855, 953, 676, 246, 369, 970, 294, 750, 807, 827, 150, 790, 288, 923,
  804, 378, 215, 828, 592, 281, 565, 555, 710, 82, 896, 831, 547, 261, 524, 462, 293, 465, 502,
  56, 661, 821, 976, 991, 658, 869, 905, 758, 745, 193, 768, 550, 608, 933, 378, 286, 215, 979,
  792, 961, 61, 688, 793, 644, 986, 403, 106, 366, 905, 644, 372, 567, 466, 434, 645, 210, 389,
  550, 919, 135, 780, 773, 635, 389, 707, 100, 626, 958, 165, 504, 920, 176, 193, 713, 857, 265,
  203, 50, 668, 108, 645, 990, 626, 197, 510, 357, 358, 850, 858, 364, 936, 638]

/-- Undoes these changes: of so many bytes that are left of a stretch, the last but one is changed. -/
def undisturbed : (left turn : Nat) → List UInt8 → List UInt8
  | _, _, [] => []
  | left, turn, byte :: bytes =>
    let (left, turn) :=
      if left = 0 then ((disturbances[turn]?).getD 1, (turn + 1) % disturbances.size)
      else (left, turn)
    (if left = 2 then byte ^^^ 1 else byte) :: undisturbed (left - 1) turn bytes

/-- Repeats what was cut short: behind four equal bytes stands how many more there are. The bytes are
collected latest first. -/
def lengthened : (run : Nat) → (last : UInt8) → (met : List UInt8) → List UInt8 →
    Option (List UInt8)
  | run, _, met, [] => if run = 4 then none else some met
  | run, last, met, byte :: bytes =>
    if run = 4 then lengthened 0 byte (List.replicate byte.toNat last ++ met) bytes
    else if run ≠ 0 && byte = last then lengthened (run + 1) byte (byte :: met) bytes
    else lengthened 1 byte (byte :: met) bytes

/-! ## Blocks -/

/-- The remainder of a division by the polynomial `04c11db7` after one more bit. -/
def crcShift (remainder : UInt32) : UInt32 :=
  if remainder &&& 0x80000000 ≠ 0 then (remainder <<< 1) ^^^ 0x04c11db7 else remainder <<< 1

/-- The remainder after one more byte. -/
def crcByte (remainder : UInt32) (byte : UInt8) : UInt32 :=
  (List.range 8).foldl (fun r _ => crcShift r) (remainder ^^^ (byte.toUInt32 <<< 24))

/-- The checksum of the bytes of a block. -/
def checksum (bytes : List UInt8) : UInt32 :=
  bytes.foldl crcByte 0xffffffff ^^^ 0xffffffff

/-- The checksum of several blocks with one more. -/
def combined (earlier block : UInt32) : UInt32 :=
  (earlier <<< 1 ||| earlier >>> 31) ^^^ block

/-- What stands where a block may begin. -/
inductive Stretch where
  /-- A block with its bytes, latest first, and its checksum. -/
  | block (bytes : List UInt8) (checksum : UInt32)
  /-- The end, with the checksum of all blocks. -/
  | finish (checksum : UInt32)

/-- Reads which bytes there are in a block. -/
def readUsed : Reader (List UInt8) := do
  let groups ← times bit 16
  let rows ← groups.mapM fun isUsed => if isUsed then times bit 16 else return List.replicate 16 false
  return (rows.flatten.zipIdx.filter (·.1)).map fun (_, byte) => UInt8.ofNat byte

/-- Reads a block behind its mark. -/
def readBlock (limit : Nat) : Reader Stretch := do
  let expected ← number 32
  let isDisturbed ← bit
  let start ← number 24
  demand (start ≤ limit + 10)
  let used ← readUsed
  demand (used ≠ [])
  let tables ← number 3
  demand (2 ≤ tables && tables ≤ 6)
  let turns ← number 15
  demand (1 ≤ turns)
  let places ← times (ones tables) turns
  let choices ← recalled (List.range tables) (places.take mostTurns)
  let codes ← times (readCodes (used.length + 2)) tables
  let coming := choices.filterMap fun choice => codes[choice]?
  let written ← readSymbols limit (used.length + 1) ((← get).length + 1) { coming } { order := used }
  demand (start < written.count)
  let plain := unsorted written.bytes.reverse start
  match lengthened 0 0 [] (if isDisturbed then undisturbed 0 0 plain else plain) with
  | none => throw .corrupt
  | some bytes =>
    demand ((checksum bytes.reverse).toNat = expected)
    return .block bytes (UInt32.ofNat expected)

/-- Reads a block or the end. -/
def readStretch (limit : Nat) : Reader Stretch := do
  let mark ← number 8
  if mark = 0x17 then
    expect [0x72, 0x45, 0x38, 0x50, 0x90]
    return .finish (UInt32.ofNat (← number 32))
  else
    demand (mark = 0x31)
    expect [0x41, 0x59, 0x26, 0x53, 0x59]
    readBlock limit

/-- Reads what stands before the blocks: the most bytes that a block has. -/
def readLimit : Reader Nat := do
  expect [0x42, 0x5a, 0x68]
  let level ← number 8
  demand (0x31 ≤ level && level ≤ 0x39)
  return 100000 * (level - 0x30)

/-- Reads blocks up to the end. The bytes are collected latest first. -/
def readStretches (limit : Nat) : (fuel : Nat) → (check : UInt32) → (met : List UInt8) →
    List Bool → Option (List UInt8 × Bool)
  | 0, _, met, _ => some (met, false)
  | fuel + 1, check, met, bits =>
    match readStretch limit bits with
    | .error .ended => some (met, false)
    | .error .corrupt => none
    | .ok (.finish expected, _) => if check = expected then some (met, true) else none
    | .ok (.block bytes block, rest) =>
      readStretches limit fuel (combined check block) (bytes ++ met) rest

/-- The bytes that compressed data stand for, as far as their blocks are complete, and whether the end
was found; nothing if something is wrong with the data. -/
def unbzip2 (data : List UInt8) : Option (List UInt8 × Bool) :=
  let bits := data.flatMap fun byte => (List.range 8).reverse.map byte.toNat.testBit
  match readLimit bits with
  | .error .ended => some ([], false)
  | .error .corrupt => none
  | .ok (limit, rest) =>
    (readStretches limit (rest.length + 1) 0 [] rest).map fun (met, isComplete) =>
      (met.reverse, isComplete)

end Enhance.Archive.Bzip2
