/-!
# Lists in which everything occurs once

What is left of a list when everything is kept only where it occurs first.
-/

namespace Enhance

variable {α : Type} [BEq α] [LawfulBEq α]

theorem nodup_eraseDups (list : List α) : list.eraseDups.Nodup := by
  cases list with
  | nil => simp
  | cons first rest =>
      rw [List.eraseDups_cons, List.nodup_cons]
      constructor
      · simp
      · exact nodup_eraseDups _
termination_by list.length
decreasing_by exact Nat.lt_succ_of_le (List.length_filter_le _ _)

/-- What is in a list already adds nothing to it. -/
theorem removeAll_cons_of_mem {entries : List α} {entry : α} (known : entry ∈ entries)
    (others : List α) : (entry :: others).removeAll entries = others.removeAll entries := by
  simp [List.removeAll, known]

/-- What is not yet in a list is added, and after it those that are neither in the list nor the same. -/
theorem append_eraseDups_of_notMem {entries : List α} {entry : α} (new : entry ∉ entries)
    (others : List α) : entries ++ ((entry :: others).removeAll entries).eraseDups =
      entries ++ [entry] ++ (others.removeAll (entries ++ [entry])).eraseDups := by
  have left : (others.removeAll entries).filter (!· == entry) = others.removeAll (entries ++ [entry]) := by
    simp only [List.removeAll, List.filter_filter]
    apply List.filter_congr
    intro other _
    by_cases same : other = entry <;> simp [same]
  have kept : (entry :: others).removeAll entries = entry :: others.removeAll entries := by
    simp [List.removeAll, new]
  rw [kept, List.eraseDups_cons, left, List.append_assoc, List.singleton_append]

end Enhance
