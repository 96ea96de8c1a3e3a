import Enhance.Proofs.Disk.Leads

/-!
# Leaves of a tree

A leaf is what a path leads to if no directory is reached through it: a file, a link to one or a
place that is free.  The calls that change a leaf change nothing else (`Sets`), and after such a
change every path to a directory or to another leaf still leads there.
-/

namespace Enhance.Disk

open Listing

/-- A change of what a single row of names leads to. -/
structure Sets (before : Listing) (row : List String) (entry : Option Node) (after : Listing) :
    Prop where
  here : after.at? row = entry
  elsewhere : ∀ other, other ≠ row → after.bareAt? other = before.bareAt? other

variable {disk disk' : Listing} {cwd row place : List String} {path : Path} {name : String}
  {entry : Option Node} {node : Node} {data : FileData}

theorem sets_put {inside : Listing} (found : disk.at? place = some (.dir inside))
    (plain : node.isDir = false) (before : ∀ inner, disk.at? (place ++ [name]) ≠ some (.dir inner)) :
    Sets disk (place ++ [name]) (some node) (put disk place name node) :=
  ⟨at?_put_same found node, fun _ ne => bareAt?_put_of_ne found plain before ne⟩

theorem sets_take {inside : Listing} (found : disk.at? place = some (.dir inside))
    (before : ∀ inner, disk.at? (place ++ [name]) ≠ some (.dir inner)) :
    Sets disk (place ++ [name]) none (take disk place name) :=
  ⟨at?_take_same found, fun _ ne => bareAt?_take_of_ne found before ne⟩

namespace Sets

theorem trans {middle : Listing} {first : Option Node} (one : Sets disk row first middle)
    (two : Sets middle row entry disk') : Sets disk row entry disk' :=
  ⟨two.here, fun other ne => (two.elsewhere other ne).trans (one.elsewhere other ne)⟩

theorem sameWays (sets : Sets disk row entry disk') (deadEnd : IsDeadEnd disk row) :
    SameWays disk disk' := by
  intro other
  by_cases same : other = row
  · exact .inr (same ▸ deadEnd)
  · exact .inl (sets.elsewhere other same)

/-- A row that leads to nothing again leads to what it led to before, and so does every other. -/
theorem bareAt?_eq (sets : Sets disk row entry disk') (same : disk.at? row = entry)
    (other : List String) : disk'.bareAt? other = disk.bareAt? other := by
  by_cases here : other = row
  · rw [here, bareAt?, bareAt?, sets.here, same]
  · exact sets.elsewhere other here

end Sets

/-- A path leads to a name in a directory, given by the whole row of names. -/
def LeadsTo (disk : Listing) (cwd : List String) (path : Path) (row : List String) : Prop :=
  ∃ place name, row = place ++ [name] ∧ Leads disk cwd path place name

namespace LeadsTo

/-- What a path leads to, links at the end not followed. -/
theorem lookup (leads : LeadsTo disk cwd path row) (there : disk.at? row = some node) :
    Disk.lookup disk cwd false path = .found row node := by
  obtain ⟨place, name, rfl, leads⟩ := leads
  rw [leads.lookup, there]

/-- The entry of the name. -/
theorem linkStat (leads : LeadsTo disk cwd path row) :
    Disk.linkStat disk cwd path = (disk.at? row).elim (.error SystemError.noEntry) .ok := by
  obtain ⟨place, name, rfl, leads⟩ := leads
  rw [Disk.linkStat, leads.lookup]
  cases disk.at? (place ++ [name]) <;> rfl

theorem of_sameWays (leads : LeadsTo disk cwd path row) (ways : SameWays disk disk') :
    LeadsTo disk' cwd path row := by
  obtain ⟨place, name, same, leads⟩ := leads
  exact ⟨place, name, same, leads.of_sameWays ways⟩

theorem stat_file (leads : LeadsTo disk cwd path row)
    (there : disk.at? row = some (.file data)) : stat disk cwd path = .ok (.file data) := by
  obtain ⟨place, name, rfl, leads⟩ := leads
  exact leads.stat_file there

theorem isDeadEnd_of_stat_file (leads : LeadsTo disk cwd path row)
    (found : stat disk cwd path = .ok (.file data)) : IsDeadEnd disk row := by
  obtain ⟨place, name, rfl, leads⟩ := leads
  obtain ⟨end', found⟩ := lookup_of_stat found
  exact leads.isDeadEnd_of_lookup_file found

end LeadsTo

/-- A path to a file leads to a name in a directory. -/
theorem leadsTo_of_stat {top : Listing} (start : disk.at? (lookupStart cwd path) = some (.dir top))
    (found : stat disk cwd path = .ok (.file data)) : ∃ row, LeadsTo disk cwd path row := by
  obtain ⟨end', looked⟩ := lookup_of_stat found
  rcases List.eq_nil_or_concat path.names with none | ⟨front, name, names⟩
  · have short := (fits_of_lookup looked).short
    rw [lookup, if_neg (Nat.not_lt.2 short), none] at looked
    change follow disk true linkLimit (lookupStart cwd path) [] = _ at looked
    rw [follow_nil true start] at looked
    cases looked
  · rw [List.concat_eq_append] at names
    by_cases down : name = ".."
    · -- A path that ends in `..` leads to a directory.
      subst down
      have short := (fits_of_lookup looked).short
      rw [lookup, if_neg (Nat.not_lt.2 short), names] at looked
      change follow disk true linkLimit (lookupStart cwd path) (front ++ [".."]) = _ at looked
      obtain ⟨place, inside, above⟩ := follow_front start (by
        intro code
        rw [looked]
        simp)
      obtain ⟨fewer, onwards⟩ := follow_append above
      obtain ⟨upper, isDir⟩ := exists_dir_dropLast (at?_of_follow above)
      rw [onwards true [".."] (by simp), follow_dots, follow_nil true isDir] at looked
      cases looked
    · obtain ⟨place, leads⟩ := leads_of_lookup names down start (by
        intro code
        rw [looked]
        simp)
      exact ⟨place ++ [name], place, name, rfl, leads⟩

/-- A path leads to a name through which no directory is reached. -/
structure Leaf (disk : Listing) (cwd : List String) (path : Path) (row : List String) : Prop where
  leads : LeadsTo disk cwd path row
  deadEnd : IsDeadEnd disk row

/-- A file is made under a name that is free. -/
theorem leaf_of_create {front : List String} {mode : Nat} (names : path.names = front ++ [name])
    (proper : isEntryName name = true) (absolute : path.isAbsolute = true)
    (done : create disk cwd path mode = .ok disk') :
    ∃ row, disk.at? row = none ∧ Leaf disk cwd path row := by
  have start : disk.at? (lookupStart cwd path) = some (.dir disk) := by
    rw [lookupStart, if_pos absolute]
    rfl
  rw [create] at done
  cases found : lookup disk cwd false path with
  | found place node => simp [found] at done
  | failed code => simp [found] at done
  | absent place last =>
      obtain ⟨place', leads⟩ := leads_of_lookup names (isEntryName_iff.1 proper).2 start
        (by rw [found]; simp)
      have absent : disk.at? (place' ++ [name]) = none := by
        rw [leads.lookup] at found
        split at found
        · assumption
        · contradiction
      exact ⟨_, absent, ⟨place', name, rfl, leads⟩, isDeadEnd_of_at?_none absent⟩

namespace Leaf

theorem ne_dir (leaf : Leaf disk cwd path row) (inside : Listing) :
    disk.at? row ≠ some (.dir inside) :=
  at?_ne_dir_of_isDeadEnd leaf.deadEnd inside

theorem isDir_eq_false (leaf : Leaf disk cwd path row) (there : disk.at? row = some node) :
    node.isDir = false := by
  cases node with
  | file | link => rfl
  | dir inside => exact absurd there (leaf.ne_dir inside)

/-- A leaf that becomes a file is a leaf. -/
theorem of_sets_file (leaf : Leaf disk cwd path row)
    (sets : Sets disk row (some (.file data)) disk') : Leaf disk' cwd path row :=
  ⟨leaf.leads.of_sameWays (sets.sameWays leaf.deadEnd), isDeadEnd_of_at?_file sets.here⟩

/-- A leaf that is taken away leaves a place that is free. -/
theorem of_sets_none (leaf : Leaf disk cwd path row) (sets : Sets disk row none disk') :
    Leaf disk' cwd path row :=
  ⟨leaf.leads.of_sameWays (sets.sameWays leaf.deadEnd), isDeadEnd_of_at?_none sets.here⟩

/-! ## The calls of the system -/

theorem create (leaf : Leaf disk cwd path row) (absent : disk.at? row = none) (mode : Nat) :
    ∃ disk', Disk.create disk cwd path mode = .ok disk' ∧
      Sets disk row (some (.file ⟨[], mode, true⟩)) disk' := by
  obtain ⟨⟨place, name, rfl, leads⟩, -⟩ := leaf
  obtain ⟨inside, above⟩ := leads.exists_dir
  exact ⟨_, leads.create absent mode, sets_put above rfl (by simp [absent])⟩

theorem write (leaf : Leaf disk cwd path row) (there : disk.at? row = some (.file data))
    (bytes : List UInt8) :
    ∃ disk', Disk.write disk cwd path bytes = .ok disk' ∧
      Sets disk row (some (.file ⟨bytes, data.mode, true⟩)) disk' := by
  obtain ⟨⟨place, name, rfl, leads⟩, -⟩ := leaf
  obtain ⟨inside, above⟩ := leads.exists_dir
  exact ⟨_, leads.write there bytes, sets_put above rfl (by simp [there])⟩

theorem setMode (leaf : Leaf disk cwd path row) (there : disk.at? row = some (.file data))
    (mode : Nat) :
    ∃ disk', Disk.setMode disk cwd path mode = .ok disk' ∧
      Sets disk row (some (.file { data with mode })) disk' := by
  obtain ⟨⟨place, name, rfl, leads⟩, -⟩ := leaf
  obtain ⟨inside, above⟩ := leads.exists_dir
  exact ⟨_, leads.setMode there mode, sets_put above rfl (by simp [there])⟩

theorem unlink (leaf : Leaf disk cwd path row) (there : disk.at? row = some node) :
    ∃ disk', Disk.unlink disk cwd path = .ok disk' ∧ Sets disk row none disk' := by
  have plain := leaf.isDir_eq_false there
  have noDir := leaf.ne_dir
  obtain ⟨⟨place, name, rfl, leads⟩, -⟩ := leaf
  obtain ⟨inside, above⟩ := leads.exists_dir
  exact ⟨_, leads.unlink there plain, sets_take above noDir⟩

/-- Moving a file over another entry takes it out of its place and then sets the entry. -/
theorem rename {target : Path} {row' : List String} {old : Node} (source : Leaf disk cwd path row)
    (leads' : LeadsTo disk cwd target row') (there : disk.at? row = some (.file data))
    (there' : disk.at? row' = some old) (plain : old.isDir = false) (ne : row' ≠ row) :
    ∃ middle disk', Disk.rename disk cwd path target = .ok disk' ∧ Sets disk row none middle ∧
      Sets middle row' (some (.file data)) disk' := by
  have noDir := source.ne_dir
  have taken := source.deadEnd
  obtain ⟨⟨place, name, rfl, leads⟩, -⟩ := source
  obtain ⟨place', name', rfl, leads'⟩ := leads'
  obtain ⟨inside, above⟩ := leads.exists_dir
  obtain ⟨inside', above'⟩ := leads'.exists_dir
  have takes : Sets disk (place ++ [name]) none (take disk place name) := sets_take above noDir
  obtain ⟨inner, stillAbove⟩ := exists_dir_of_sameWays (takes.sameWays taken) above'
  have still : (take disk place name).at? (place' ++ [name']) = some old :=
    at?_of_bareAt?_eq (takes.elsewhere _ ne) plain there'
  refine ⟨_, _, leads.rename leads' there there' plain ne, takes, sets_put stillAbove rfl ?_⟩
  rintro inner same
  rw [still] at same
  cases same
  contradiction

end Leaf

end Enhance.Disk
