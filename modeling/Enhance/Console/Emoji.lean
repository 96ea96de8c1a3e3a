import Enhance.Console.Emoji.Table
import Enhance.Text.LowerCase

/-!
# Pictographs by name

A name between colons stands for a pictograph, in letters of either case. A name that is not known
stands for itself, and so does everything else. Behind the name, `-text` or `-emoji` asks for one
of two looks.
-/

namespace Enhance.Console.Emoji

/-- The mark for a look behind a name, and the name without it. -/
def splitLook (name : List Char) : List Char × List Char :=
  if "-text".toList.isSuffixOf name then (name.take (name.length - 5), ['\ufe0e'])
  else if "-emoji".toList.isSuffixOf name then (name.take (name.length - 6), ['\ufe0f'])
  else (name, [])

/-- A name in small letters. No name in the table holds a letter whose small form depends on the
letters around it or is more than one character. -/
def smallName (name : List Char) : String :=
  String.ofList (name.map fun c => Char.ofNat (Text.smallCode c.toNat))

/-- The pictograph for what stands between colons. -/
def ofName? (between : List Char) : Option (List Char) :=
  let (name, look) := splitLook between
  (table.lookup (smallName name)).map (· ++ look)

end Enhance.Console.Emoji
