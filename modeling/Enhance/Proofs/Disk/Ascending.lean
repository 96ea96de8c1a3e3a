import Enhance.Proofs.Disk.Proper

/-!
# Trees whose entries are in order

A directory lists its entries ascending by name, and the calls that put an entry into a directory or take
one out of it keep this order (`isAscending_put`, `isAscending_take`).  Two trees in order are the same if
they have the same entries (`eq_of_alike`).
-/

namespace Enhance

namespace Node

theorem eq_of_bare_eq {node node' : Node} (plain : node.isDir = false) (same : node'.bare = node.bare) :
    node' = node := by
  cases node with
  | dir inside => contradiction
  | file | link => cases node' <;> simp_all [bare]

theorem exists_dir_of_bare_eq {node : Node} {inside : Listing} (same : node.bare = (dir inside).bare) :
    ∃ inside', node = .dir inside' := by
  cases node with
  | dir inside' => exact ⟨inside', rfl⟩
  | file | link => contradiction

end Node

namespace Listing

variable {listing rest : Listing} {name new other : String} {node : Node} {change : Listing → Listing}

/-- Whether the entries of every directory are ascending by name. -/
def isAscending : Listing → Bool
  | .empty => true
  | .file name _ rest | .link name _ rest => rest.names.all (name < ·) && rest.isAscending
  | .dir name inside rest => rest.names.all (name < ·) && inside.isAscending && rest.isAscending

theorem isAscending_cons : (cons name node rest).isAscending = true ↔
    (∀ other ∈ rest.names, name < other) ∧ rest.isAscending = true ∧
      ∀ inside, node = .dir inside → inside.isAscending = true := by
  cases node with
  | file | link => simp [cons, isAscending]
  | dir inside => simp [cons, isAscending, and_comm, and_assoc]

theorem eq_empty_or_cons (listing : Listing) :
    listing = .empty ∨ ∃ name node rest, listing = cons name node rest := by
  cases listing with
  | empty => exact .inl rfl
  | file name data rest => exact .inr ⟨name, .file data, rest, rfl⟩
  | link name target rest => exact .inr ⟨name, .link target, rest, rfl⟩
  | dir name inside rest => exact .inr ⟨name, .dir inside, rest, rfl⟩

/-! ## Taking an entry away -/

theorem erase_cons (unwanted : String) : (cons name node rest).erase unwanted =
    if name = unwanted then rest.erase unwanted else cons name node (rest.erase unwanted) := by
  cases node <;> rfl

theorem mem_names_of_erase (member : other ∈ (listing.erase name).names) : other ∈ listing.names := by
  rw [mem_names_iff] at member ⊢
  by_cases same : name = other
  · simp [same] at member
  · rwa [find?_erase_of_ne same] at member

theorem isAscending_erase (ascending : listing.isAscending = true) (unwanted : String) :
    (listing.erase unwanted).isAscending = true := by
  induction listing using cons_induction with
  | empty => rfl
  | cons first entry rest _ ih =>
      obtain ⟨before, restAscending, inside⟩ := isAscending_cons.1 ascending
      rw [erase_cons]
      split
      · exact ih restAscending
      · exact isAscending_cons.2
          ⟨fun other member => before other (mem_names_of_erase member), ih restAscending, inside⟩

/-! ## Adding an entry -/

theorem place_cons (new : String) (entry : Node) : (cons name node rest).place new entry =
    if new < name then cons new entry (cons name node rest)
    else cons name node (rest.place new entry) := by
  cases node <;> rfl

theorem mem_names_of_place (member : other ∈ (listing.place new node).names) :
    other = new ∨ other ∈ listing.names := by
  by_cases same : new = other
  · exact .inl same.symm
  · rw [mem_names_iff, find?_place_of_ne same] at member
    exact .inr (mem_names_iff.2 member)

theorem isAscending_place (ascending : listing.isAscending = true) (absent : listing.find? new = none)
    (inner : ∀ inside, node = .dir inside → inside.isAscending = true) :
    (listing.place new node).isAscending = true := by
  induction listing using cons_induction with
  | empty => exact isAscending_cons.2 ⟨by simp [names, entries], rfl, inner⟩
  | cons first entry rest _ ih =>
      obtain ⟨before, restAscending, inside⟩ := isAscending_cons.1 ascending
      rw [find?_cons] at absent
      split at absent
      · contradiction
      · next ne =>
          rw [place_cons]
          split
          · next less =>
              refine isAscending_cons.2 ⟨?_, ascending, inner⟩
              rw [names_cons, List.forall_mem_cons]
              exact ⟨less, fun other member => String.lt_trans less (before other member)⟩
          · next notLess =>
              have less : first < new := by
                rcases Std.lt_trichotomy first new with less | same | less
                · exact less
                · exact absurd same ne
                · exact absurd less notLess
              refine isAscending_cons.2 ⟨?_, ih restAscending absent, inside⟩
              intro other member
              rcases mem_names_of_place member with rfl | member
              · exact less
              · exact before other member

theorem isAscending_insert (ascending : listing.isAscending = true) (name : String)
    (plain : node.isDir = false) : (listing.insert name node).isAscending = true := by
  refine isAscending_place (isAscending_erase ascending name) (find?_erase_same name listing) ?_
  rintro inside rfl
  contradiction

/-! ## Changes inside directories -/

theorem names_inside (wanted : String) (change : Listing → Listing) (listing : Listing) :
    (listing.inside wanted change).names = listing.names := by
  induction listing with
  | empty => rfl
  | file name data rest ih | link name target rest ih =>
      rw [names] at ih ⊢
      simp [inside, entries, ih, names]
  | dir name inner rest _ ih =>
      rw [names] at ih ⊢
      rw [inside]
      split
      · simp [names, entries]
      · simp [entries, ih, names]

theorem isAscending_inside (ascending : listing.isAscending = true) (wanted : String)
    (keeps : ∀ inner, inner.isAscending = true → (change inner).isAscending = true) :
    (listing.inside wanted change).isAscending = true := by
  induction listing with
  | empty => rfl
  | file name data rest ih | link name target rest ih =>
      rw [isAscending, Bool.and_eq_true] at ascending
      rw [inside, isAscending, names_inside, Bool.and_eq_true]
      exact ⟨ascending.1, ih ascending.2⟩
  | dir name inner rest _ ih =>
      rw [isAscending, Bool.and_eq_true, Bool.and_eq_true] at ascending
      obtain ⟨⟨before, inAscending⟩, restAscending⟩ := ascending
      rw [inside]
      split
      · rw [isAscending, Bool.and_eq_true, Bool.and_eq_true]
        exact ⟨⟨before, keeps inner inAscending⟩, restAscending⟩
      · rw [isAscending, names_inside, Bool.and_eq_true, Bool.and_eq_true]
        exact ⟨⟨before, inAscending⟩, ih restAscending⟩

theorem isAscending_modify (ascending : listing.isAscending = true) (front : List String)
    (keeps : ∀ inner, inner.isAscending = true → (change inner).isAscending = true) :
    (listing.modify change front).isAscending = true := by
  induction front generalizing listing with
  | nil => exact keeps listing ascending
  | cons name front ih => exact isAscending_inside ascending name fun inner => ih

/-! ## Trees that are the same -/

/-- Two trees with the same entries, in whatever order their directories list them. -/
def Alike (listing listing' : Listing) : Prop :=
  ∀ row, listing'.bareAt? row = listing.bareAt? row

namespace Alike

variable {listing' listing'' : Listing}

theorem refl (listing : Listing) : listing.Alike listing :=
  fun _ => rfl

theorem symm (alike : listing.Alike listing') : listing'.Alike listing :=
  fun row => (alike row).symm

theorem trans (one : listing.Alike listing') (two : listing'.Alike listing'') : listing.Alike listing'' :=
  fun row => (two row).trans (one row)

end Alike

/-- Names that come before all others of a directory in order are not among these. -/
theorem find?_eq_none_of_before (before : ∀ other ∈ rest.names, name < other) :
    rest.find? name = none := by
  cases found : rest.find? name with
  | none => rfl
  | some node => exact absurd (before name (mem_names_iff.2 ⟨node, found⟩)) (String.lt_irrefl name)

/-- An entry of a directory is seen under its name. -/
theorem bareAt?_cons_self (name : String) (node : Node) (rest : Listing) :
    (cons name node rest).bareAt? [name] = some node.bare := by
  rw [bareAt?, at?_singleton, find?_cons, if_pos rfl]
  rfl

/-- The names of a directory are those under which there is an entry. -/
theorem mem_names_iff_bareAt? : name ∈ listing.names ↔ listing.bareAt? [name] ≠ none := by
  rw [mem_names_iff, bareAt?, at?_singleton]
  cases listing.find? name <;> simp

/-- The first entry of a directory in order has the least name. -/
theorem not_lt_first (ascending : (cons name node rest).isAscending = true)
    (member : other ∈ (cons name node rest).names) : ¬ other < name := by
  rw [names_cons, List.mem_cons] at member
  rcases member with rfl | member
  · exact String.lt_irrefl _
  · intro less
    have before := (isAscending_cons.1 ascending).1 other member
    exact String.lt_irrefl _ (String.lt_trans less before)

theorem bareAt?_cons_of_ne (ne : name ≠ other) (row : List String) :
    (cons name node rest).bareAt? (other :: row) = rest.bareAt? (other :: row) := by
  rw [bareAt?, bareAt?, at?_cons, at?_cons, find?_cons, if_neg ne]

theorem bareAt?_eq_none_of_find? (absent : listing.find? name = none) (row : List String) :
    listing.bareAt? (name :: row) = none := by
  rw [bareAt?, at?_cons, absent]
  rfl

theorem mem_names_iff_of_alike {listing' : Listing} (alike : listing.Alike listing') (name : String) :
    name ∈ listing'.names ↔ name ∈ listing.names := by
  rw [mem_names_iff_bareAt?, mem_names_iff_bareAt?, alike]

/-- Trees that are alike are alike behind a first entry of one name. -/
theorem alike_behind {rest' : Listing} {node' : Node} (free : rest.find? name = none)
    (free' : rest'.find? name = none) (same : (cons name node rest).Alike (cons name node' rest')) :
    rest.Alike rest' := by
  intro row
  cases row with
  | nil => rfl
  | cons first row =>
      by_cases isFirst : name = first
      · subst isFirst
        rw [bareAt?_eq_none_of_find? free, bareAt?_eq_none_of_find? free']
      · rw [← bareAt?_cons_of_ne isFirst, same, bareAt?_cons_of_ne isFirst]

/-- Trees that are alike are alike in a first directory of one name. -/
theorem alike_inside {inside inside' rest' : Listing}
    (same : (cons name (.dir inside) rest).Alike (cons name (.dir inside') rest')) :
    inside.Alike inside' := by
  intro row
  have both := same (name :: row)
  rwa [bareAt?, bareAt?, at?_cons_dir, at?_cons_dir] at both

/-- Trees in order are the same if they have the same entries. -/
theorem eq_of_alike {listing' : Listing} (ascending : listing.isAscending = true)
    (ascending' : listing'.isAscending = true) (same : listing.Alike listing') : listing' = listing := by
  induction listing using cons_induction generalizing listing' with
  | empty =>
      rcases eq_empty_or_cons listing' with rfl | ⟨name, node, rest, rfl⟩
      · rfl
      · have member := (mem_names_iff_of_alike same name).1 (by simp)
        simp [names, entries] at member
  | cons first node rest ihInside ih =>
      obtain ⟨before, restAscending, insideAscending⟩ := isAscending_cons.1 ascending
      rcases eq_empty_or_cons listing' with rfl | ⟨first', node', rest', rfl⟩
      · have member := (mem_names_iff_of_alike same first).2 (by simp)
        simp [names, entries] at member
      · obtain ⟨before', restAscending', insideAscending'⟩ := isAscending_cons.1 ascending'
        have notBefore := not_lt_first ascending ((mem_names_iff_of_alike same first').1 (by simp))
        have notBefore' := not_lt_first ascending' ((mem_names_iff_of_alike same first).2 (by simp))
        obtain rfl : first' = first :=
          ((Std.lt_trichotomy first' first).resolve_left notBefore).resolve_right notBefore'
        have sameRest : rest.Alike rest' :=
          alike_behind (find?_eq_none_of_before before) (find?_eq_none_of_before before') same
        have sameNode : node' = node := by
          have sameBare := same [first']
          rw [bareAt?_cons_self, bareAt?_cons_self, Option.some_inj] at sameBare
          cases node with
          | file data => exact Node.eq_of_bare_eq rfl sameBare
          | link target => exact Node.eq_of_bare_eq rfl sameBare
          | dir inside =>
              obtain ⟨inside', rfl⟩ := Node.exists_dir_of_bare_eq sameBare
              rw [ihInside inside rfl (insideAscending inside rfl) (insideAscending' inside' rfl)
                (alike_inside same)]
        rw [ih restAscending restAscending' sameRest, sameNode]

end Listing

namespace Disk

open Listing

variable {disk : Listing} {front : List String} {name : String} {node : Node}

theorem isAscending_put (ascending : disk.isAscending = true) (plain : node.isDir = false) :
    (put disk front name node).isAscending = true :=
  isAscending_modify ascending front fun _ inner => isAscending_insert inner name plain

theorem isAscending_take (ascending : disk.isAscending = true) :
    (take disk front name).isAscending = true :=
  isAscending_modify ascending front fun _ inner => isAscending_erase inner name

theorem isAscending_replaceAt (ascending : disk.isAscending = true) (row : List String)
    (plain : node.isDir = false) : (replaceAt disk row node).isAscending = true := by
  rw [replaceAt]
  split
  · exact isAscending_put ascending plain
  · exact ascending

/-! ## The calls of the system -/

variable {disk' : Listing} {cwd : List String} {path : Path} {mode : Nat} {bytes : List UInt8}

theorem isAscending_create (ascending : disk.isAscending = true)
    (done : create disk cwd path mode = .ok disk') : disk'.isAscending = true := by
  rw [create] at done
  split at done
  · cases done
    exact isAscending_put ascending rfl
  · contradiction
  · contradiction

theorem isAscending_write (ascending : disk.isAscending = true)
    (done : write disk cwd path bytes = .ok disk') : disk'.isAscending = true := by
  rw [write] at done
  split at done
  · cases done
    exact isAscending_replaceAt ascending _ rfl
  · contradiction
  · contradiction
  · contradiction

theorem isAscending_setMode (ascending : disk.isAscending = true)
    (done : setMode disk cwd path mode = .ok disk') : disk'.isAscending = true := by
  rw [setMode] at done
  split at done
  · cases done
    exact isAscending_replaceAt ascending _ rfl
  · cases done
    exact ascending
  · contradiction
  · contradiction

theorem isAscending_unlink (ascending : disk.isAscending = true)
    (done : unlink disk cwd path = .ok disk') : disk'.isAscending = true := by
  rw [unlink] at done
  split at done
  · split at done
    · contradiction
    · split at done
      · cases done
        exact isAscending_take ascending
      · contradiction
  · contradiction
  · contradiction

theorem isAscending_rename {source target : Path} (ascending : disk.isAscending = true)
    (file : ∃ row data, lookup disk cwd false source = .found row (.file data))
    (done : rename disk cwd source target = .ok disk') : disk'.isAscending = true := by
  obtain ⟨row, data, found⟩ := file
  rw [rename, found] at done
  dsimp only at done
  split at done
  · split at done <;> contradiction
  · split at done
    · split at done
      · contradiction
      · split at done
        · cases done
          exact ascending
        · cases done
          exact isAscending_replaceAt (isAscending_take ascending) _ rfl
    · cases done
      exact isAscending_put (isAscending_take ascending) rfl
    · contradiction
    · contradiction

end Disk

end Enhance
