/-!
# Similar words

Two words are the more similar the more characters they have in common blocks, where the longest
block is found first and the rest of the words is compared before and after it.
-/

namespace Enhance.Text

/-- The number of characters that two texts have in common at their start. -/
def commonFront : List Char → List Char → Nat
  | c :: first, d :: second => if c = d then commonFront first second + 1 else 0
  | _, _ => 0

/-- A block that two texts have in common: where it begins in them and its length. -/
structure CommonBlock where
  first : Nat
  second : Nat
  length : Nat

/-- The longest block of two texts, the earliest one if there are several. -/
def longestBlock (first second : List Char) : CommonBlock :=
  (List.range first.length).foldl (fun best i =>
    (List.range second.length).foldl (fun best j =>
      let length := commonFront (first.drop i) (second.drop j)
      if best.length < length then ⟨i, j, length⟩ else best) best) ⟨0, 0, 0⟩

/-- The number of characters in the blocks that two texts have in common. -/
def commonCount : (fuel : Nat) → List Char → List Char → Nat
  | 0, _, _ => 0
  | fuel + 1, first, second =>
    let block := longestBlock first second
    if block.length = 0 then 0
    else
      block.length + commonCount fuel (first.take block.first) (second.take block.second) +
        commonCount fuel (first.drop (block.first + block.length))
          (second.drop (block.second + block.length))

/-- Whether six tenths of the characters of two words are in common blocks. -/
def areSimilar (first second : String) : Bool :=
  let common := commonCount (first.length + 1) first.toList second.toList
  6 * (first.length + second.length) ≤ 20 * common

/-- The most suggestions that are made for a word. -/
def maxSuggestions : Nat := 3

/-- The names that are most similar to a word, in alphabetical order. -/
def similarNames (word : String) (names : List String) : List String :=
  let share (name : String) : Nat × Nat :=
    (commonCount (name.length + 1) name.toList word.toList, name.length + word.length)
  let isBefore (a b : String) : Bool :=
    let (commonA, lengthA) := share a
    let (commonB, lengthB) := share b
    if commonA * lengthB = commonB * lengthA then b ≤ a else commonB * lengthA < commonA * lengthB
  let best := ((names.filter (areSimilar · word)).mergeSort isBefore).take maxSuggestions
  best.mergeSort (· ≤ ·)

end Enhance.Text
