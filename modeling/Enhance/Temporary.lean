/-!
# The names of temporary files

A temporary file is named by a mark, eight letters or digits and a second mark, so that no scan
takes it for a class file and its name says what it was for if it is ever left behind.
-/

namespace Enhance.Temporary

/-- What the names of temporary files start with. -/
def front : String := ".weaver-"

/-- What the names of temporary files end with. -/
def back : String := ".weaving"

/-- The characters between the marks are small letters, digits and `_`. -/
def isMiddle (c : Char) : Bool :=
  c.isLower || c.isDigit || c = '_'

/-- The name of a temporary file, for a number of at most eight digits. -/
def nameOf (n : Nat) : String :=
  let digits := Nat.toDigits 10 n
  front ++ String.ofList (List.replicate (8 - digits.length) '0' ++ digits) ++ back

/-- Whether a name is that of a temporary file. -/
def isName (name : String) : Bool :=
  let text := name.toList
  let middle := (text.drop front.length).take 8
  front.toList.isPrefixOf text && middle.length = 8 && middle.all isMiddle &&
    text.drop (front.length + 8) = back.toList

end Enhance.Temporary
