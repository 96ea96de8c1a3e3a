import Enhance.Proofs.Disk.Entry
import Mathlib.Data.List.Nodup

/-!
# Proper trees

In a proper tree every entry of a directory has a name of its own.  The directories of the tree are
then proper again (`isProper_of_at?`), and the order in which a directory lists its entries never puts
an entry before itself (`listsBefore_irrefl`).
-/

namespace Enhance

namespace Listing

variable {listing rest : Listing} {name : String} {node found : Node} {row : List String}

/-- A proper tree is made of entries with names of their own and proper trees inside them. -/
theorem isProper_cons_iff : (cons name node rest).isProper = true ↔
    isEntryName name = true ∧ rest.find? name = none ∧ rest.isProper = true ∧
      ∀ inside, node = .dir inside → inside.isProper = true := by
  cases node with
  | file | link => simp [cons, isProper, and_assoc]
  | dir inside =>
      simp only [cons, isProper, Bool.and_eq_true, Option.isNone_iff_eq_none, Node.dir.injEq,
        forall_eq']
      rw [and_assoc, and_assoc, @and_comm (inside.isProper = true)]

theorem isProper_cons (proper : (cons name node rest).isProper = true) :
    isEntryName name = true ∧ rest.find? name = none ∧ rest.isProper = true ∧
      ∀ inside, node = .dir inside → inside.isProper = true :=
  isProper_cons_iff.1 proper

/-- What is inside a directory in front of others is found under its name. -/
theorem at?_cons_dir (inside : Listing) (names : List String) :
    (cons name (.dir inside) rest).at? (name :: names) = inside.at? names := by
  rw [at?_cons, find?_cons, if_pos rfl]
  rfl

/-- A tree is empty or has an entry in front of others; of a directory what is inside counts, too. -/
theorem cons_induction {motive : Listing → Prop} (empty : motive .empty)
    (cons : ∀ name node rest, (∀ inside, node = .dir inside → motive inside) → motive rest →
      motive (cons name node rest)) (listing : Listing) : motive listing := by
  induction listing with
  | empty => exact empty
  | file name data rest ih => exact cons name (.file data) rest (by simp) ih
  | link name target rest ih => exact cons name (.link target) rest (by simp) ih
  | dir name inside rest ihInside ih =>
      refine cons name (.dir inside) rest ?_ ih
      rintro _ ⟨⟩
      exact ihInside

/-- The names that lead to an entry of a proper tree are names of entries. -/
theorem isEntryName_of_at? (proper : listing.isProper = true)
    (there : listing.at? row = some found) : ∀ name ∈ row, isEntryName name = true := by
  induction listing using cons_induction generalizing row with
  | empty =>
      cases row with
      | nil => simp
      | cons => simp [at?_cons, find?] at there
  | cons first node rest ihInside ih =>
      obtain ⟨named, -, properRest, properInside⟩ := isProper_cons proper
      cases row with
      | nil => simp
      | cons second others =>
          by_cases same : first = second
          · subst same
            rw [at?_cons, find?_cons, if_pos rfl] at there
            rw [List.forall_mem_cons]
            refine ⟨named, ?_⟩
            cases node with
            | dir inside => exact ihInside inside rfl (properInside inside rfl) there
            | file | link =>
                cases others with
                | nil => simp
                | cons => simp [Node.at?] at there
          · apply ih properRest
            rwa [at?_cons, find?_cons, if_neg same, ← at?_cons] at there

theorem isProper_of_find? (proper : listing.isProper = true) {inside : Listing}
    (there : listing.find? name = some (.dir inside)) : inside.isProper = true := by
  induction listing using cons_induction with
  | empty => simp [find?] at there
  | cons first node rest _ ih =>
      obtain ⟨-, -, properRest, properInside⟩ := isProper_cons proper
      rw [find?_cons] at there
      split at there
      · exact properInside inside (Option.some.inj there)
      · exact ih properRest there

/-- The directories of a proper tree are proper trees. -/
theorem isProper_of_at? (proper : listing.isProper = true) {inside : Listing}
    (there : listing.at? row = some (.dir inside)) : inside.isProper = true := by
  induction row generalizing listing with
  | nil =>
      cases there
      exact proper
  | cons name names ih =>
      rw [at?_cons] at there
      cases here : listing.find? name with
      | none => simp [here] at there
      | some node =>
          cases node with
          | dir inner =>
              rw [here] at there
              exact ih (isProper_of_find? proper here) there
          | file | link => cases names <;> simp [here, Node.at?] at there

/-! ## The order of a listing -/

/-- The names of the entries in the order in which they are listed. -/
def names (listing : Listing) : List String :=
  listing.entries.map (·.1)

@[simp] theorem names_cons (name : String) (node : Node) (rest : Listing) :
    (cons name node rest).names = name :: rest.names := by
  cases node <;> rfl

/-- The names that are listed are those under which an entry is found. -/
theorem mem_names_iff : name ∈ listing.names ↔ ∃ node, listing.find? name = some node := by
  induction listing using cons_induction with
  | empty => simp [names, entries, find?]
  | cons first node rest _ ih =>
      rw [names_cons, List.mem_cons, find?_cons, ih]
      by_cases same : first = name
      · simp [same]
      · simp [same, Ne.symm same]

theorem length_names_le (listing : Listing) : listing.names.length ≤ listing.entryCount := by
  induction listing with
  | empty => simp [names, entries, entryCount]
  | file name data rest ih | link name target rest ih | dir name inside rest _ ih =>
      simp only [names, entries, List.map_cons, List.length_cons, entryCount] at ih ⊢
      omega

theorem entryCount_le_of_find? {inside : Listing} (there : listing.find? name = some (.dir inside)) :
    inside.entryCount ≤ listing.entryCount := by
  induction listing with
  | empty => simp [find?] at there
  | file other data rest ih | link other target rest ih =>
      by_cases same : other = name
      · simp [find?, same] at there
      · rw [find?, if_neg same] at there
        exact Nat.le_trans (ih there) (Nat.le_add_right _ _)
  | dir other inner rest _ ih =>
      rw [entryCount]
      by_cases same : other = name
      · simp only [find?, same, ↓reduceIte, Option.some.injEq, Node.dir.injEq] at there
        subst there
        omega
      · rw [find?, if_neg same] at there
        have fewer := ih there
        omega

/-- A directory has no more entries than the whole tree. -/
theorem entryCount_le_of_at? {inside : Listing} {row : List String}
    (there : listing.at? row = some (.dir inside)) : inside.entryCount ≤ listing.entryCount := by
  induction row generalizing listing with
  | nil =>
      cases there
      exact Nat.le_refl _
  | cons first others ih =>
      rw [at?_cons] at there
      cases found : listing.find? first with
      | none => simp [found] at there
      | some node =>
          rw [found, Option.bind_some] at there
          cases node with
          | dir inner => exact Nat.le_trans (ih there) (entryCount_le_of_find? found)
          | file | link => cases others <;> cases there

theorem names_nodup (proper : listing.isProper = true) : listing.names.Nodup := by
  induction listing using cons_induction with
  | empty => exact .nil
  | cons first node rest _ ih =>
      obtain ⟨-, free, properRest, -⟩ := isProper_cons proper
      rw [names_cons, List.nodup_cons, mem_names_iff]
      exact ⟨by simp [free], ih properRest⟩

/-- Whether a directory lists the entry of one name before that of another one. -/
def ListsBefore (listing : Listing) (one two : String) : Prop :=
  [one, two].Sublist listing.names

theorem listsBefore_irrefl (proper : listing.isProper = true) (name : String) :
    ¬ listing.ListsBefore name name :=
  List.nodup_iff_sublist.1 (names_nodup proper) name

/-- Of two entries of a proper tree at most one is listed before the other. -/
theorem ListsBefore.asymm {one two : String} (before : listing.ListsBefore one two)
    (proper : listing.isProper = true) : ¬ listing.ListsBefore two one := by
  intro back
  have nodup := names_nodup proper
  rw [ListsBefore] at before back
  generalize listing.names = names at nodup before back
  induction names with
  | nil => cases before
  | cons first names ih =>
      obtain ⟨notIn, nodup⟩ := List.nodup_cons.1 nodup
      rcases List.sublist_cons_iff.1 before with below | ⟨_, isFirst, below⟩ <;>
        rcases List.sublist_cons_iff.1 back with below' | ⟨_, isFirst', below'⟩
      · exact ih nodup below below'
      · cases isFirst'
        exact notIn (below.subset (by simp))
      · cases isFirst
        exact notIn (below'.subset (by simp))
      · cases isFirst
        cases isFirst'
        exact notIn (below.subset (by simp))

theorem ListsBefore.cons {one two : String} (before : rest.ListsBefore one two) (name : String)
    (node : Node) : (cons name node rest).ListsBefore one two := by
  rw [ListsBefore, names_cons]
  exact List.Sublist.cons name before

/-- The first entry is listed before all others. -/
theorem listsBefore_first {other : String} (there : rest.find? other = some found) (name : String)
    (node : Node) : (Listing.cons name node rest).ListsBefore name other := by
  rw [ListsBefore, names_cons, List.cons_sublist_cons, List.singleton_sublist]
  exact mem_names_iff.2 ⟨found, there⟩

/-- One row of names comes before another one in post-order: entries of subdirectories come before
entries beside them, subdirectories and entries in the order in which they are listed. -/
inductive PostOrder : Listing → List String → List String → Prop where
  | apart {listing : Listing} {one two : String} {row others : List String} (more : row ≠ [])
      (more' : others ≠ []) (before : listing.ListsBefore one two) :
      PostOrder listing (one :: row) (two :: others)
  | nested {listing : Listing} {one two : String} {row : List String} (more : row ≠ []) :
      PostOrder listing (one :: row) [two]
  | beside {listing : Listing} {one two : String} (before : listing.ListsBefore one two) :
      PostOrder listing [one] [two]
  | within {listing inside : Listing} {name : String} {row others : List String}
      (there : listing.find? name = some (.dir inside)) (before : PostOrder inside row others) :
      PostOrder listing (name :: row) (name :: others)

namespace PostOrder

variable {one two : List String}

/-- No row of names comes before itself in a proper tree. -/
theorem ne (before : PostOrder listing one two) (proper : listing.isProper = true) : one ≠ two := by
  induction before with
  | apart more more' before =>
      rintro ⟨⟩
      exact listsBefore_irrefl proper _ before
  | nested more =>
      rintro ⟨⟩
      contradiction
  | beside before =>
      rintro ⟨⟩
      exact listsBefore_irrefl proper _ before
  | within there before ih =>
      rintro ⟨⟩
      exact ih (isProper_of_find? proper there) rfl

theorem ne_nil (before : PostOrder listing one two) : one ≠ [] ∧ two ≠ [] := by
  cases before <;> simp

/-- Of two rows of names at most one comes before the other. -/
theorem asymm (before : PostOrder listing one two) (proper : listing.isProper = true) :
    ¬ PostOrder listing two one := by
  induction before with
  | apart more more' before =>
      intro back
      cases back with
      | apart _ _ back => exact before.asymm proper back
      | nested | beside => contradiction
      | within => exact listsBefore_irrefl proper _ before
  | nested more =>
      intro back
      cases back with
      | apart more' => contradiction
      | nested | beside => contradiction
      | within there back => exact back.ne_nil.1 rfl
  | beside before =>
      intro back
      cases back with
      | apart more => contradiction
      | nested more => contradiction
      | beside back => exact before.asymm proper back
      | within there back => exact back.ne_nil.1 rfl
  | within there before ih =>
      intro back
      cases back with
      | apart _ _ back => exact listsBefore_irrefl proper _ back
      | nested | beside => exact before.ne_nil.1 rfl
      | within there' back =>
          rw [there] at there'
          cases there'
          exact ih (isProper_of_find? proper there) back

/-- An entry in front of others does not change their order. -/
theorem behind (before : PostOrder rest one two) {name : String} (free : rest.find? name = none)
    (node : Node) : PostOrder (.cons name node rest) one two := by
  cases before with
  | apart more more' before => exact .apart more more' (before.cons name node)
  | nested more => exact .nested more
  | beside before => exact .beside (before.cons name node)
  | within there before =>
      refine .within ?_ before
      rw [find?_cons, if_neg ?_]
      · exact there
      · rintro rfl
        simp [free] at there

end PostOrder

end Listing

end Enhance
