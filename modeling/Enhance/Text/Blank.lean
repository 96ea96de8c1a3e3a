/-!
# White space

White space separates the words of a text. It includes the separators of lines, files, groups
and records and the blanks of all widths.
-/

namespace Enhance.Text

/-- Whether a character is white space. -/
def isBlank (c : Char) : Bool :=
  (9 ≤ c.toNat && c.toNat ≤ 13) || (28 ≤ c.toNat && c.toNat ≤ 32) || c.toNat = 0x85 ||
    c.toNat = 0xa0 || c.toNat = 0x1680 || (0x2000 ≤ c.toNat && c.toNat ≤ 0x200a) ||
    c.toNat = 0x2028 || c.toNat = 0x2029 || c.toNat = 0x202f || c.toNat = 0x205f ||
    c.toNat = 0x3000

/-- Whether a character separates lines in the widest sense. -/
def isLineEnd (c : Char) : Bool :=
  (10 ≤ c.toNat && c.toNat ≤ 13) || (28 ≤ c.toNat && c.toNat ≤ 30) || c.toNat = 0x85 ||
    c.toNat = 0x2028 || c.toNat = 0x2029

/-- What separates lines is white space. -/
theorem isBlank_of_isLineEnd {c : Char} (h : isLineEnd c = true) : isBlank c = true := by
  simp only [isLineEnd, isBlank, Bool.or_eq_true, Bool.and_eq_true, decide_eq_true_eq] at *
  omega

/-- A text without the white space at its end. -/
def trimmedEnd (text : List Char) : List Char :=
  (text.reverse.dropWhile isBlank).reverse

/-- A text without the white space around it. -/
def trimmed (text : List Char) : List Char :=
  trimmedEnd (text.dropWhile isBlank)

/-- The longest pieces of a text that hold none of some characters. -/
def runsWithout (isGap : Char → Bool) : List Char → List (List Char)
  | [] => [[]]
  | c :: rest =>
    if isGap c then [] :: runsWithout isGap rest
    else
      match runsWithout isGap rest with
      | [] => [[c]]
      | run :: runs => (c :: run) :: runs

/-- The words of a text. -/
def wordsOf (text : List Char) : List (List Char) :=
  (runsWithout isBlank text).filter (· ≠ [])

end Enhance.Text
