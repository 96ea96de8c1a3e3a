/-!
# Names of classes and of their files

A class is named with points or with slashes between the parts of its name, with or without
the ending `.class`. The file of a class has slashes between the parts and the ending.
-/

namespace Enhance.Classpath

/-- The ending of the files of classes. -/
def ending : List Char := ['.', 'c', 'l', 'a', 's', 's']

/-- A text without the ending, if it has the ending. -/
def withoutEnding (text : List Char) : List Char :=
  if ending.isSuffixOf text then text.take (text.length - ending.length) else text

/-- The name of the file of a class. -/
def resourceChars (className : List Char) : List Char :=
  (withoutEnding className).map (fun c => if c = '.' then '/' else c) ++ ending

/-- The name of the file of a class. -/
def resource (className : String) : String :=
  String.ofList (resourceChars className.toList)

/-- Of a text with the ending, what stands before it is left. -/
theorem withoutEnding_append (text : List Char) : withoutEnding (text ++ ending) = text := by
  unfold withoutEnding
  rw [if_pos (List.isSuffixOf_iff_suffix.2 (List.suffix_append _ _))]
  simp

/-- A text that does not have the ending is left as it is. -/
theorem withoutEnding_of_not_suffix {text : List Char} (free : ¬ ending <:+ text) :
    withoutEnding text = text := by
  rw [withoutEnding, if_neg]
  rwa [List.isSuffixOf_iff_suffix]

/-- Slashes for the points leave no point. -/
theorem point_notMem_map (text : List Char) :
    '.' ∉ text.map fun c => if c = '.' then '/' else c := by
  intro member
  obtain ⟨c, -, same⟩ := List.mem_map.1 member
  split at same
  · contradiction
  · contradiction

/-- A text without points is left as it is. -/
theorem map_of_point_notMem {text : List Char} (free : '.' ∉ text) :
    text.map (fun c => if c = '.' then '/' else c) = text := by
  refine (List.map_congr_left fun c member => ?_).trans (List.map_id text)
  have noPoint : c ≠ '.' := by
    rintro rfl
    exact free member
  exact if_neg noPoint

/-- Naming the file of a file of a class changes nothing. -/
theorem resource_resource (className : String) :
    resource (resource className) = resource className := by
  have again (text : List Char) : resourceChars (resourceChars text) = resourceChars text := by
    rw [resourceChars, resourceChars, withoutEnding_append, map_of_point_notMem (point_notMem_map _)]
  rw [resource, resource, String.toList_ofList, again]

end Enhance.Classpath
