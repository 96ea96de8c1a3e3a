import Enhance.Archive.Error

/-!
# Decompressing members that are coded by chances

The data are symbols: bytes, repetitions of earlier bytes at a distance, repetitions at one of the last
four distances, and an end. A symbol is a row of bits, each with a chance that depends on what was read
before and adapts to the bits that are read with it. All bits together are one long fraction, of which a
stretch as wide as the chances so far is known at any time.

`unlzma` gives the bytes of the symbols that are complete, and tells whether the end was found.
-/

namespace Enhance.Archive.Lzma

/-- How the data are coded: the number of high bits of the byte before that the chances of a byte
depend on, and the numbers of low bits of the place that those of a byte and of a symbol depend on. -/
structure Options where
  context : Nat
  placeOfByte : Nat
  placeOfSymbol : Nat
  /-- How far back repetitions may reach. -/
  reach : Nat
  deriving DecidableEq, Repr

/-- The least reach. -/
def leastReach : Nat := 4096

/-- The options that five bytes write. -/
def Options.ofBytes? (bytes : List UInt8) : Option Options :=
  match bytes with
  | [packed, a, b, c, d] =>
    let packed := packed.toNat
    let context := packed % 9
    let placeOfByte := packed / 9 % 5
    let size := a.toNat + 256 * (b.toNat + 256 * (c.toNat + 256 * d.toNat))
    if 225 ≤ packed || 4 < context + placeOfByte then none
    else some { context, placeOfByte, placeOfSymbol := packed / 45
                reach := (max size leastReach + 15) / 16 * 16 }
  | _ => none

/-! ## Bits with chances -/

/-- A chance is given in parts of this. -/
def whole : Nat := 2048

/-- What is known of the fraction, and the chances. -/
structure Coder where
  width : Nat
  /-- How far the fraction is into the stretch. -/
  offset : Nat
  rest : List UInt8
  chances : Array Nat

/-- Reading from a fraction. -/
abbrev Reader := StateT Coder (Except Halt)

/-- Takes one more byte into account when the stretch is too narrow. -/
def widen : Reader Unit := do
  let coder ← get
  if coder.width < 0x1000000 then
    match coder.rest with
    | [] => throw .ended
    | byte :: rest =>
      set { coder with width := coder.width * 256, offset := coder.offset * 256 + byte.toNat, rest }

/-- Reads a bit by the chance at a place, which adapts. -/
def bit (place : Nat) : Reader Nat := do
  widen
  let coder ← get
  let chance := (coder.chances[place]?).getD (whole / 2)
  let bound := coder.width / whole * chance
  if coder.offset < bound then
    set { coder with
      width := bound
      chances := coder.chances.setIfInBounds place (chance + (whole - chance) / 32) }
    return 0
  else
    set { coder with
      width := coder.width - bound
      offset := coder.offset - bound
      chances := coder.chances.setIfInBounds place (chance - chance / 32) }
    return 1

/-- Reads bits with even chances, highest first. -/
def evenBits : (count : Nat) → (high : Nat) → Reader Nat
  | 0, high => return high
  | count + 1, high => do
    widen
    let coder ← get
    let half := coder.width / 2
    if coder.offset < half then
      set { coder with width := half }
      evenBits count (2 * high)
    else
      set { coder with width := half, offset := coder.offset - half }
      evenBits count (2 * high + 1)

/-- Reads bits, highest first; the chance of each depends on those before, which `node` tells. -/
def branch (place : Nat) : (count : Nat) → (node : Nat) → Reader Nat
  | 0, node => return node
  | count + 1, node => do branch place count (2 * node + (← bit (place + node)))

/-- Reads a number of so many bits, highest first. -/
def tree (place count : Nat) : Reader Nat := do
  return (← branch place count 1) - 1 <<< count

/-- Reads a number of so many bits, lowest first. -/
def reversedFrom (place : Nat) : (count : Nat) → (node : Nat) → Reader Nat
  | 0, _ => return 0
  | count + 1, node => do
    let low ← bit (place + node)
    return low + 2 * (← reversedFrom place count (2 * node + low))

def reversedTree (place count : Nat) : Reader Nat :=
  reversedFrom place count 1

/-! ## Where the chances are -/

def isRepetitionAt : Nat := 0
def isLastAt : Nat := 192
def isNotFirstAt : Nat := 204
def isNotSecondAt : Nat := 216
def isNotThirdAt : Nat := 228
def isLongAt : Nat := 240
def slotAt : Nat := 432
def nearAt : Nat := 688
def alignedAt : Nat := 802
def lengthAt : Nat := 818
def lastLengthAt : Nat := 1332
def byteAt : Nat := 1846

/-- The number of chances for a byte. -/
def byteChances : Nat := 0x300

/-- All chances are even at first. -/
def evenChances (options : Options) : Array Nat :=
  .replicate (byteAt + byteChances <<< (options.context + options.placeOfByte)) (whole / 2)

/-! ## Symbols -/

/-- What has been decoded. -/
structure Written where
  bytes : Array UInt8 := #[]
  /-- The kinds of the latest symbols, as one of twelve states. -/
  state : Nat := 0
  /-- The latest distances, less one. -/
  distances : Nat × Nat × Nat × Nat := (0, 0, 0, 0)

namespace Written

/-- The byte that stands a distance, less one, back. -/
def back (written : Written) (distance : Nat) : UInt8 :=
  if distance < written.bytes.size then (written.bytes[written.bytes.size - 1 - distance]?).getD 0
  else 0

/-- Whether a repetition may reach back a distance, less one. -/
def reaches (written : Written) (options : Options) (distance : Nat) : Bool :=
  distance < min written.bytes.size options.reach

/-- Repeats bytes from the latest distance. -/
def repeated (written : Written) : (count : Nat) → Written
  | 0 => written
  | count + 1 =>
    let earlier := written.repeated count
    { earlier with bytes := earlier.bytes.push (earlier.back earlier.distances.1) }

end Written

/-- Reads the bits of a byte along those of the byte that would be repeated, as long as they agree. -/
def matchedBits (place : Nat) : (count : Nat) → (like : Nat) → (node : Nat) → Reader Nat
  | 0, _, node => return node
  | count + 1, like, node => do
    let expected := like / 128 % 2
    let read ← bit (place + (1 + expected) * 256 + node)
    let next := 2 * node + read
    if read = expected then matchedBits place count (2 * like) next
    else branch place count next

/-- Reads a byte. -/
def readByte (options : Options) (written : Written) : Reader Written := do
  let high := (written.back 0).toNat >>> (8 - options.context)
  let low := written.bytes.size % 1 <<< options.placeOfByte
  let place := byteAt + byteChances * (low <<< options.context + high)
  let code ←
    if written.state < 7 then branch place 8 1
    else matchedBits place 8 (written.back written.distances.1).toNat 1
  let state := if written.state < 4 then 0 else
    if written.state < 10 then written.state - 3 else written.state - 6
  return { written with bytes := written.bytes.push (UInt8.ofNat (code - 256)), state }

/-- Reads how many bytes are repeated. -/
def readLength (place placeState : Nat) : Reader Nat := do
  if (← bit place) = 0 then return 2 + (← tree (place + 2 + 8 * placeState) 3)
  else if (← bit (place + 1)) = 0 then return 10 + (← tree (place + 130 + 8 * placeState) 3)
  else return 18 + (← tree (place + 258) 8)

/-- Reads a distance, less one, for a length. -/
def readDistance (length : Nat) : Reader Nat := do
  let slot ← tree (slotAt + 64 * (min length 5 - 2)) 6
  if slot < 4 then return slot
  else
    let count := slot / 2 - 1
    let base := (2 + slot % 2) <<< count
    if slot < 14 then return base + (← reversedTree (nearAt + base - slot - 1) count)
    else
      let middle ← evenBits (count - 4) 0
      return base + 16 * middle + (← reversedTree alignedAt 4)

/-- The distance that means the end. -/
def endDistance : Nat := 0xffffffff

/-- What a symbol comes to. -/
inductive Step where
  | more (written : Written)
  | finish

/-- Reads a repetition at a distance of its own, or the end. -/
def readRepetition (options : Options) (placeState : Nat) (written : Written) : Reader Step := do
  let length ← readLength lengthAt placeState
  let distance ← readDistance length
  if distance = endDistance then
    widen
    if (← get).offset = 0 then return .finish else throw .corrupt
  else if !written.reaches options distance then throw .corrupt
  else
    let (first, second, third, _) := written.distances
    let written := { written with
      distances := (distance, first, second, third)
      state := if written.state < 7 then 7 else 10 }
    return .more (written.repeated length)

/-- Reads a repetition at one of the latest distances. -/
def readAgain (options : Options) (placeState : Nat) (written : Written) : Reader Step := do
  let (first, second, third, fourth) := written.distances
  if !written.reaches options 0 then throw .corrupt
  let again (distances : Nat × Nat × Nat × Nat) : Reader Step := do
    let length ← readLength lastLengthAt placeState
    let written := { written with distances, state := if written.state < 7 then 8 else 11 }
    return .more (written.repeated length)
  if (← bit (isNotFirstAt + written.state)) = 0 then
    if (← bit (isLongAt + 16 * written.state + placeState)) = 0 then
      let written := { written with state := if written.state < 7 then 9 else 11 }
      return .more (written.repeated 1)
    else again (first, second, third, fourth)
  else if (← bit (isNotSecondAt + written.state)) = 0 then again (second, first, third, fourth)
  else if (← bit (isNotThirdAt + written.state)) = 0 then again (third, first, second, fourth)
  else again (fourth, first, second, third)

/-- Reads a symbol. -/
def readSymbol (options : Options) (written : Written) : Reader Step := do
  let placeState := written.bytes.size % 1 <<< options.placeOfSymbol
  if (← bit (isRepetitionAt + 16 * written.state + placeState)) = 0 then
    return .more (← readByte options written)
  else if (← bit (isLastAt + written.state)) = 0 then readRepetition options placeState written
  else readAgain options placeState written

/-- Reads symbols up to the end of the data. -/
def readSymbols (options : Options) : (fuel : Nat) → Written → Coder →
    Option (Array UInt8 × Bool)
  | 0, written, _ => some (written.bytes, false)
  | fuel + 1, written, coder =>
    match readSymbol options written coder with
    | .error .ended => some (written.bytes, false)
    | .error .corrupt => none
    | .ok (.finish, _) => some (written.bytes, true)
    | .ok (.more written, coder) => readSymbols options fuel written coder

/-- The most symbols that so many bytes hold: a bit with the best chance narrows the stretch by a
sixty-sixth, so that it takes less than 366 of them to use up a byte. -/
def mostSymbols (bytes : Nat) : Nat :=
  366 * (bytes + 4)

/-- The bytes that coded data stand for, as far as their symbols are complete, and whether the end was
found; nothing if something is wrong with the data. -/
def unlzma (options : Options) (data : List UInt8) : Option (List UInt8 × Bool) :=
  match data with
  | zero :: a :: b :: c :: d :: rest =>
    if zero ≠ 0 then none
    else
      let offset := [a, b, c, d].foldl (fun high byte => 256 * high + byte.toNat) 0
      let coder := { width := 0xffffffff, offset, rest, chances := evenChances options }
      (readSymbols options (mostSymbols rest.length) {} coder).map fun (bytes, isComplete) =>
        (bytes.toList, isComplete)
  | zero :: _ => if zero ≠ 0 then none else some ([], false)
  | [] => some ([], false)

/-- The bytes that the data of a member stand for, and whether the end was found. The data begin with
a version and their options, behind the number of bytes of these. Too few data are the beginning of a
member. -/
def unpacked (data : List UInt8) : Except Error (List UInt8 × Bool) :=
  let width := match data.drop 2 with
    | low :: high :: _ => low.toNat + 256 * high.toNat
    | _ => 0
  if data.length ≤ 4 + width then .ok ([], false)
  else
    match Options.ofBytes? ((data.drop 4).take width) with
    | none => .error .codingOptions
    | some options =>
      match unlzma options (data.drop (4 + width)) with
      | none => .error .coding
      | some result => .ok result

end Enhance.Archive.Lzma
