import Enhance.Proofs.Disk.Walk

/-!
# Paths to names in directories

A path that does not end in `..` leads to a name in a directory.  What the calls of the system do
with such a path is said by the entry of that name alone: `Leads.lookup` and the lemmas after it.
A path leads to the same name as long as only dead ends of the tree change (`Leads.of_sameWays`).
-/

namespace Enhance.Disk

open Listing

/-- Where following a path starts. -/
def lookupStart (cwd : List String) (path : Path) : List String :=
  if path.isAbsolute then [] else cwd

/-- A path leads to a name in a directory, whether or not there is an entry of that name. -/
structure Leads (disk : Listing) (cwd : List String) (path : Path) (place : List String)
    (name : String) : Prop where
  short : path.toString.utf8ByteSize ≤ pathLimit
  shortName : name.utf8ByteSize ≤ nameLimit
  isEntryName : isEntryName name = true
  front : ∃ front inside, path.names = front ++ [name] ∧
    follow disk true linkLimit (lookupStart cwd path) front = .found place (.dir inside)

theorem isEntryName_iff {name : String} :
    isEntryName name = true ↔ isName name = true ∧ name ≠ ".." := by
  simp [isEntryName]

theorem ne_dot_of_isName {name : String} (proper : isName name = true) : name ≠ "." := by
  rintro rfl
  revert proper
  decide

variable {disk : Listing} {cwd place : List String} {path : Path} {name : String}

theorem hasNul_eq_false_iff : hasNul path = false ↔ ∀ name ∈ path.names, '\x00' ∉ name.toList := by
  simp [hasNul]

/-- The names of directories lead into them, unless one is too long, and on from there. -/
theorem follow_down_append {followLast : Bool} {links : Nat} {here names : List String} {inside : Listing}
    (proper : ∀ name ∈ names, isEntryName name = true)
    (short : ∀ name ∈ names, name.utf8ByteSize ≤ nameLimit)
    (there : disk.at? (here ++ names) = some (.dir inside)) (rest : List String) :
    follow disk followLast links here (names ++ rest) =
      follow disk followLast links (here ++ names) rest := by
  induction names generalizing here with
  | nil => rw [List.append_nil, List.nil_append]
  | cons name names ih =>
      obtain ⟨named, down⟩ := isEntryName_iff.1 (proper name List.mem_cons_self)
      rw [List.append_cons] at there ⊢
      have above : ∃ inner, disk.at? (here ++ [name]) = some (.dir inner) := by
        cases names with
        | nil => exact ⟨inside, by rwa [List.append_nil] at there⟩
        | cons => exact exists_dir_of_at?_append there (by simp)
      obtain ⟨inner, above⟩ := above
      rw [List.cons_append, follow_cons followLast (ne_dot_of_isName named) down,
        if_neg (Nat.not_lt.2 (short name List.mem_cons_self)), above]
      exact ih (fun other member => proper other (List.mem_cons_of_mem _ member))
        (fun other member => short other (List.mem_cons_of_mem _ member)) there

theorem follow_down {links : Nat} {here names : List String} {inside : Listing}
    (proper : ∀ name ∈ names, isEntryName name = true)
    (short : ∀ name ∈ names, name.utf8ByteSize ≤ nameLimit)
    (there : disk.at? (here ++ names) = some (.dir inside)) :
    follow disk true links here names = .found (here ++ names) (.dir inside) := by
  have along : follow disk true links here (names ++ []) = follow disk true links (here ++ names) [] :=
    follow_down_append proper short there []
  rwa [List.append_nil, follow_nil true there] at along

/-- What a path leads to is there. -/
theorem at?_of_lookup {followLast : Bool} {node : Node}
    (found : lookup disk cwd followLast path = .found place node) : disk.at? place = some node := by
  rw [lookup] at found
  split at found
  · contradiction
  · exact at?_of_follow found

/-- Neither a path nor one of its names is too long for the system. -/
structure Fits (path : Path) : Prop where
  short : path.toString.utf8ByteSize ≤ pathLimit
  names : ∀ name ∈ path.names, name.utf8ByteSize ≤ nameLimit

theorem fits_of_lookup {followLast : Bool} {node : Node}
    (found : lookup disk cwd followLast path = .found place node) : Fits path := by
  rw [lookup] at found
  split at found
  · contradiction
  · next short => exact ⟨Nat.le_of_not_lt short, short_of_follow found⟩

theorem lookup_of_stat {node : Node} (found : stat disk cwd path = .ok node) :
    ∃ place, lookup disk cwd true path = .found place node := by
  rw [stat] at found
  split at found
  · next place other leads =>
      cases found
      exact ⟨place, leads⟩
  · contradiction
  · contradiction

/-- A question is affirmed only about an entry. -/
theorem ask_eq_true_iff {question : Node → Bool} : ask disk cwd path question = .ok true ↔
    hasNul path = false ∧ ∃ node, stat disk cwd path = .ok node ∧ question node = true := by
  rw [ask]
  cases hasNul path with
  | true => simp
  | false =>
      cases stat disk cwd path with
      | ok node => simp
      | error code =>
          simp only [Bool.false_eq_true, ↓reduceIte, reduceCtorEq, false_and, exists_false, and_false,
            iff_false]
          split <;> simp

theorem isDir_iff : isDir disk cwd path = .ok true ↔
    hasNul path = false ∧ ∃ inside, stat disk cwd path = .ok (.dir inside) := by
  rw [isDir, ask_eq_true_iff]
  refine and_congr_right fun _ => ⟨?_, fun ⟨inside, found⟩ => ⟨.dir inside, found, rfl⟩⟩
  rintro ⟨node, found, isDirectory⟩
  cases node with
  | dir inside => exact ⟨inside, found⟩
  | file | link => contradiction

theorem stat_of_isFile (isOne : isFile disk cwd path = .ok true) :
    hasNul path = false ∧ ∃ data, stat disk cwd path = .ok (.file data) := by
  obtain ⟨noNul, node, found, isOne⟩ := ask_eq_true_iff.1 isOne
  cases node with
  | file data => exact ⟨noNul, data, found⟩
  | dir | link => contradiction

/-- A path that does not lead nowhere leads to its last name. -/
theorem leads_of_lookup {front : List String} {followLast : Bool} {top : Listing}
    (names : path.names = front ++ [name]) (proper : name ≠ "..")
    (start : disk.at? (lookupStart cwd path) = some (.dir top))
    (leads : ∀ code, lookup disk cwd followLast path ≠ .failed code) :
    ∃ place, Leads disk cwd path place name := by
  have named : isName name = true := path.proper name (by simp [names])
  unfold lookup at leads
  split at leads
  · exact absurd rfl (leads _)
  · next short =>
      rw [names] at leads
      obtain ⟨place, inside, found⟩ := follow_front start leads
      refine ⟨place, Nat.le_of_not_lt short, ?_, isEntryName_iff.2 ⟨named, proper⟩, front, inside,
        names, found⟩
      obtain ⟨fewer, onwards⟩ := follow_append found
      apply Nat.le_of_not_lt
      intro long
      apply leads SystemError.nameTooLong
      change follow disk followLast linkLimit (lookupStart cwd path) (front ++ [name]) = _
      rw [onwards followLast [name] (by simp),
        follow_cons followLast (ne_dot_of_isName named) proper, if_pos long]

namespace Leads

theorem exists_dir (leads : Leads disk cwd path place name) :
    ∃ inside, disk.at? place = some (.dir inside) := by
  obtain ⟨front, inside, -, found⟩ := leads.front
  exact ⟨inside, at?_of_follow found⟩

/-- A path that leads to a name fits into a system call. -/
theorem fits (leads : Leads disk cwd path place name) : Fits path := by
  obtain ⟨front, inside, names, found⟩ := leads.front
  constructor
  · exact leads.short
  · intro other member
    rw [names, List.mem_append, List.mem_singleton] at member
    rcases member with onTheWay | rfl
    · exact short_of_follow found other onTheWay
    · exact leads.shortName

/-- What a path leads to, links at the end not followed. -/
theorem lookup (leads : Leads disk cwd path place name) :
    Disk.lookup disk cwd false path =
      match disk.at? (place ++ [name]) with
      | none => .absent place name
      | some node => .found (place ++ [name]) node := by
  obtain ⟨named, down⟩ := isEntryName_iff.1 leads.isEntryName
  obtain ⟨front, inside, names, found⟩ := leads.front
  obtain ⟨fewer, onwards⟩ := follow_append found
  unfold Disk.lookup
  rw [if_neg (Nat.not_lt.2 leads.short), names]
  change follow disk false linkLimit (lookupStart cwd path) (front ++ [name]) = _
  rw [onwards false [name] (by simp), follow_cons false (ne_dot_of_isName named) down,
    if_neg (Nat.not_lt.2 leads.shortName)]
  cases there : disk.at? (place ++ [name]) with
  | none => rfl
  | some node =>
      cases node with
      | file | link => rfl
      | dir inner => exact follow_nil false there

/-- Following links at the end makes no difference if there is no link. -/
theorem lookup_true (leads : Leads disk cwd path place name)
    (plain : ∀ target, disk.at? (place ++ [name]) ≠ some (.link target)) :
    Disk.lookup disk cwd true path = Disk.lookup disk cwd false path := by
  obtain ⟨named, down⟩ := isEntryName_iff.1 leads.isEntryName
  obtain ⟨front, inside, names, found⟩ := leads.front
  obtain ⟨fewer, onwards⟩ := follow_append found
  unfold Disk.lookup
  rw [if_neg (Nat.not_lt.2 leads.short), if_neg (Nat.not_lt.2 leads.short), names]
  change follow disk true linkLimit (lookupStart cwd path) (front ++ [name]) =
    follow disk false linkLimit (lookupStart cwd path) (front ++ [name])
  rw [onwards true [name] (by simp), onwards false [name] (by simp),
    follow_cons true (ne_dot_of_isName named) down, follow_cons false (ne_dot_of_isName named) down]
  cases there : disk.at? (place ++ [name]) with
  | none => rfl
  | some node =>
      cases node with
      | file => rfl
      | link target => exact absurd there (plain target)
      | dir inner => simp [follow_nil _ there]

/-- A link that leads to a file is a dead end. -/
theorem isDeadEnd_of_lookup_file (leads : Leads disk cwd path place name) {end' : List String}
    {data : FileData} (found : Disk.lookup disk cwd true path = .found end' (.file data)) :
    IsDeadEnd disk (place ++ [name]) := by
  cases there : disk.at? (place ++ [name]) with
  | none => exact isDeadEnd_of_at?_none there
  | some node =>
      cases node with
      | file => exact isDeadEnd_of_at?_file there
      | dir inner =>
          rw [leads.lookup_true (by simp [there]), leads.lookup, there] at found
          cases found
      | link target =>
          obtain ⟨named, down⟩ := isEntryName_iff.1 leads.isEntryName
          obtain ⟨front, inside, names, here⟩ := leads.front
          obtain ⟨fewer, onwards⟩ := follow_append here
          unfold Disk.lookup at found
          rw [if_neg (Nat.not_lt.2 leads.short), names] at found
          change follow disk true linkLimit (lookupStart cwd path) (front ++ [name]) = _ at found
          rw [onwards true [name] (by simp), follow_cons true (ne_dot_of_isName named) down,
            if_neg (Nat.not_lt.2 leads.shortName), there] at found
          obtain ⟨left, -, beyond⟩ := jump_eq_found_iff.1 found
          obtain ⟨top, start⟩ := exists_dir_linkStart target (at?_of_follow here)
          simp only [IsDeadEnd, there, List.dropLast_concat]
          intro links names place' inner
          rw [List.append_nil] at beyond
          exact follow_beyond_file start beyond links names place' inner

/-- Changes of dead ends do not change which name a path leads to. -/
theorem of_sameWays {disk' : Listing} (leads : Leads disk cwd path place name)
    (ways : SameWays disk disk') : Leads disk' cwd path place name := by
  obtain ⟨front, inside, names, found⟩ := leads.front
  obtain ⟨inside', found'⟩ := follow_of_sameWays ways found
  exact ⟨leads.short, leads.shortName, leads.isEntryName, front, inside', names, found'⟩

/-! ## The calls of the system -/

theorem namesNoEntry_eq_false (leads : Leads disk cwd path place name) :
    namesNoEntry path = false := by
  obtain ⟨front, inside, names, -⟩ := leads.front
  have down := (isEntryName_iff.1 leads.isEntryName).2
  simp [namesNoEntry, names, down]

variable {node : Node} {data : FileData}

theorem stat_file (leads : Leads disk cwd path place name)
    (there : disk.at? (place ++ [name]) = some (.file data)) :
    stat disk cwd path = .ok (.file data) := by
  rw [stat, leads.lookup_true (by simp [there]), leads.lookup, there]

theorem create (leads : Leads disk cwd path place name)
    (absent : disk.at? (place ++ [name]) = none) (mode : Nat) :
    Disk.create disk cwd path mode = .ok (put disk place name (.file ⟨[], mode, true⟩)) := by
  rw [Disk.create, leads.lookup, absent]

theorem write (leads : Leads disk cwd path place name)
    (there : disk.at? (place ++ [name]) = some (.file data)) (bytes : List UInt8) :
    Disk.write disk cwd path bytes = .ok (put disk place name (.file ⟨bytes, data.mode, true⟩)) := by
  rw [Disk.write, leads.lookup_true (by simp [there]), leads.lookup, there]
  simp [replaceAt]

theorem setMode (leads : Leads disk cwd path place name)
    (there : disk.at? (place ++ [name]) = some (.file data)) (mode : Nat) :
    Disk.setMode disk cwd path mode = .ok (put disk place name (.file { data with mode })) := by
  rw [Disk.setMode, leads.lookup_true (by simp [there]), leads.lookup, there]
  simp [replaceAt]

theorem unlink (leads : Leads disk cwd path place name)
    (there : disk.at? (place ++ [name]) = some node) (plain : node.isDir = false) :
    Disk.unlink disk cwd path = .ok (take disk place name) := by
  rw [Disk.unlink, leads.lookup, there]
  simp [plain, leads.namesNoEntry_eq_false]

/-- Moving a file over another entry takes it out of its place and puts it into the other one. -/
theorem rename {target : Path} {place' : List String} {name' : String} {old : Node}
    (source : Leads disk cwd path place name) (leads : Leads disk cwd target place' name')
    (there : disk.at? (place ++ [name]) = some node)
    (there' : disk.at? (place' ++ [name']) = some old) (plain : old.isDir = false)
    (ne : place' ++ [name'] ≠ place ++ [name]) :
    Disk.rename disk cwd path target = .ok (put (take disk place name) place' name' node) := by
  rw [Disk.rename, source.lookup, there]
  simp [leads.namesNoEntry_eq_false, leads.lookup, there', plain, ne, replaceAt]

end Leads

end Enhance.Disk
