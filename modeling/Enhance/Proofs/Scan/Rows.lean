import Enhance.Proofs.Disk.Leads
import Enhance.Proofs.Disk.Proper
import Enhance.Proofs.Path
import Enhance.Scan

/-!
# Rows of names that a scan follows

What a scan finds below a directory is described by rows of names that lead from the directory to an
entry.  `Scanner.listed` gives the rows of the directories that the system lets be listed when the scan
asks for them.  `Scanner.Meets` says that a row leads, through directories that were listed, to an
entry with the ending of which a question holds; it is taken apart along the entries of a directory
(`meets_behind`, `meets_under`).
-/

namespace Enhance

namespace Scanner

open Disk

variable {scanner : Scanner} {directory : Path} {listing : Listing}

/-! ## Directories that are listed -/

/-- Whether the system lets a directory be listed, and the faults after it was asked. -/
def lists (directory : Path) (faults : List Fault) : Bool × List Fault :=
  let asked := Fault.ask .listDirectory directory.name faults
  (asked.1.isNone && decide (directory.toString.utf8ByteSize ≤ pathLimit), asked.2)

/-- The rows of names that lead to the directories below a directory that are listed, each asked for
after those listed before it and those inside these, and the faults after they were asked for. -/
def listedBelow (directory : Path) : Listing → List Fault → List (List String) × List Fault
  | .empty, faults => ([], faults)
  | .file _ _ rest, faults => listedBelow directory rest faults
  | .link _ _ rest, faults => listedBelow directory rest faults
  | .dir name inside rest, faults =>
    let asked := lists (directory.child name) faults
    let inner :=
      if asked.1 then
        let below := listedBelow (directory.child name) inside asked.2
        ([] :: below.1, below.2)
      else ([], asked.2)
    let others := listedBelow directory rest inner.2
    (inner.1.map (name :: ·) ++ others.1, others.2)

/-- The rows of names that lead from a directory to the directories that are listed, itself among
them, and the faults after they were asked for. -/
def listed (directory : Path) (listing : Listing) (faults : List Fault) :
    List (List String) × List Fault :=
  let asked := lists directory faults
  if asked.1 then
    let below := listedBelow directory listing asked.2
    ([] :: below.1, below.2)
  else ([], asked.2)

theorem listedBelow_dir (directory : Path) (name : String) (inside rest : Listing)
    (faults : List Fault) :
    listedBelow directory (.dir name inside rest) faults =
      let inner := listed (directory.child name) inside faults
      let others := listedBelow directory rest inner.2
      (inner.1.map (name :: ·) ++ others.1, others.2) := rfl

theorem listed_of_lists {faults : List Fault} (opens : (lists directory faults).1 = true) :
    listed directory listing faults =
      let below := listedBelow directory listing (lists directory faults).2
      ([] :: below.1, below.2) := by
  rw [listed, opens]
  rfl

theorem listed_of_not_lists {faults : List Fault} (shut : (lists directory faults).1 = false) :
    listed directory listing faults = ([], (lists directory faults).2) := by
  rw [listed, shut]
  rfl

/-- The rows of the directories below a directory start with the names of entries. -/
theorem ne_of_mem_listedBelow {faults : List Fault} {name : String} {row : List String}
    (free : listing.find? name = none) : name :: row ∉ (listedBelow directory listing faults).1 := by
  induction listing using Listing.cons_induction generalizing faults with
  | empty => simp [listedBelow]
  | cons first node rest _ ih =>
      rw [Listing.find?_cons] at free
      split at free
      · contradiction
      · next ne =>
          cases node with
          | file | link => exact ih free
          | dir inside =>
              rw [Listing.cons, listedBelow_dir]
              simp [ne, ih free]

/-! ## Rows of names that lead to an entry -/

/-- Whether an entry, which a path leads to, is a file or a link to one. -/
def IsFileEntry (disk : Listing) (cwd : List String) (path : Path) : Node → Prop
  | .file _ => True
  | .link _ => ∃ data, stat disk cwd path = .ok (.file data)
  | .dir _ => False

/-- Whether an entry, which a path leads to, is a link that the system refuses to follow. That a link
leads to a missing entry is no refusal. -/
def IsRefused (disk : Listing) (cwd : List String) (path : Path) : Node → Prop
  | .link _ => ∃ code, stat disk cwd path = .error code ∧ code ≠ SystemError.noEntry
  | _ => False

/-- Whether all directories on the way along a row of names are among given ones. -/
def IsOpen (opened : List (List String)) (row : List String) : Prop :=
  ∀ front, front <+: row → front ≠ row → front ∈ opened

/-- A row of names leads from a directory, through directories that were opened, to an entry whose
name has the ending and of which a question holds. -/
structure Meets (scanner : Scanner) (directory : Path) (listing : Listing)
    (opened : List (List String)) (question : Path → Node → Prop) (row : List String) : Prop where
  isOpen : IsOpen opened row
  hasEnding : ∃ name, row.getLast? = some name ∧ scanner.matchesName name = true
  there : ∃ node, listing.at? row = some node ∧ question (directory.descend row) node

/-- The entry of a name in a directory has the ending, and a question about it holds. -/
structure Offers (scanner : Scanner) (directory : Path) (listing : Listing)
    (question : Path → Node → Prop) (name : String) : Prop where
  hasEnding : scanner.matchesName name = true
  there : ∃ node, listing.find? name = some node ∧ question (directory.child name) node

theorem isOpen_cons {opened : List (List String)} {name : String} {row : List String} :
    IsOpen opened (name :: row) ↔
      [] ∈ opened ∧ ∀ front, front <+: row → front ≠ row → name :: front ∈ opened := by
  constructor
  · intro isOpen
    refine ⟨isOpen [] (List.nil_prefix) (by simp), ?_⟩
    intro front inFront ne
    apply isOpen
    · simpa using inFront
    · simpa using ne
  · rintro ⟨here, below⟩ front inFront ne
    rcases List.prefix_cons_iff.1 inFront with rfl | ⟨others, rfl, inRow⟩
    · exact here
    · exact below others inRow (by simpa using ne)

section

variable {rest inside : Listing} {opened inner others : List (List String)} {name first : String}
  {node : Node} {row : List String} {question : Path → Node → Prop}

theorem not_meets_nil : ¬ scanner.Meets directory listing opened question [] := by
  rintro ⟨-, ⟨name, last, -⟩, -⟩
  simp at last

theorem Meets.ne_nil (meets : scanner.Meets directory listing opened question row) : row ≠ [] := by
  rintro rfl
  exact not_meets_nil meets

/-- Nothing is met if not even the directory itself was opened. -/
theorem not_meets_unopened : ¬ scanner.Meets directory listing [] question row := by
  intro meets
  cases row with
  | nil => exact not_meets_nil meets
  | cons name row => simpa using (isOpen_cons.1 meets.isOpen).1

theorem meets_singleton :
    scanner.Meets directory listing ([] :: opened) question [name] ↔
      scanner.Offers directory listing question name := by
  constructor
  · rintro ⟨-, ⟨_, ⟨⟩, hasEnding⟩, node, there, holds⟩
    rw [Listing.at?_singleton] at there
    exact ⟨hasEnding, node, there, holds⟩
  · rintro ⟨hasEnding, node, there, holds⟩
    refine ⟨isOpen_cons.2 ⟨List.mem_cons_self, ?_⟩, ⟨name, rfl, hasEnding⟩, node, ?_, holds⟩
    · intro front inFront ne
      exact absurd (List.prefix_nil.1 inFront) ne
    · rwa [Listing.at?_singleton]

/-- Through an entry that is no directory nothing is met. -/
theorem not_meets_through (plain : node.isDir = false) (more : row ≠ []) :
    ¬ scanner.Meets directory (.cons name node rest) opened question (name :: row) := by
  rintro ⟨-, -, found, there, -⟩
  rw [Listing.at?_cons, Listing.find?_cons, if_pos rfl, Option.bind_some,
    Node.at?_of_not_isDir plain more] at there
  contradiction

/-- What is met under another name than that of the first entry is met among the other entries. -/
theorem meets_behind (inner : List (List String)) (ne : first ≠ name) :
    scanner.Meets directory (.cons name node rest) ([] :: (inner.map (name :: ·) ++ others)) question
        (first :: row) ↔
      scanner.Meets directory rest ([] :: others) question (first :: row) := by
  have isOpen : IsOpen ([] :: (inner.map (name :: ·) ++ others)) (first :: row) ↔
      IsOpen ([] :: others) (first :: row) := by
    simp [isOpen_cons, Ne.symm ne]
  have same : (Listing.cons name node rest).at? (first :: row) = rest.at? (first :: row) := by
    rw [Listing.at?_cons, Listing.at?_cons, Listing.find?_cons, if_neg (Ne.symm ne)]
  constructor
  · rintro ⟨open', hasEnding, there⟩
    exact ⟨isOpen.1 open', hasEnding, same ▸ there⟩
  · rintro ⟨open', hasEnding, there⟩
    exact ⟨isOpen.2 open', hasEnding, same ▸ there⟩

/-- What is met under the name of a directory is met inside it. -/
theorem meets_under (plain : ∀ path inside, ¬ question path (.dir inside))
    (free : ∀ row, name :: row ∉ others) :
    scanner.Meets directory (.cons name (.dir inside) rest)
        ([] :: (inner.map (name :: ·) ++ others)) question (name :: row) ↔
      scanner.Meets (directory.child name) inside inner question row := by
  cases row with
  | nil =>
      refine iff_of_false ?_ not_meets_nil
      rintro ⟨-, -, node, there, holds⟩
      rw [Listing.at?_cons_dir] at there
      cases there
      exact plain _ _ holds
  | cons second row =>
      have isOpen : IsOpen ([] :: (inner.map (name :: ·) ++ others)) (name :: second :: row) ↔
          IsOpen inner (second :: row) := by
        rw [isOpen_cons]
        simp [free, IsOpen]
      constructor
      · rintro ⟨open', ⟨last, isLast, hasEnding⟩, node, there, holds⟩
        rw [Listing.at?_cons_dir] at there
        exact ⟨isOpen.1 open', ⟨last, by simpa using isLast, hasEnding⟩, node, there, holds⟩
      · rintro ⟨open', ⟨last, isLast, hasEnding⟩, node, there, holds⟩
        refine ⟨isOpen.2 open', ⟨last, by simpa using isLast, hasEnding⟩, node, ?_, holds⟩
        rwa [Listing.at?_cons_dir]

theorem offers_first :
    scanner.Offers directory (.cons name node rest) question name ↔
      scanner.matchesName name = true ∧ question (directory.child name) node := by
  constructor
  · rintro ⟨hasEnding, found, there, holds⟩
    rw [Listing.find?_cons, if_pos rfl] at there
    cases there
    exact ⟨hasEnding, holds⟩
  · rintro ⟨hasEnding, holds⟩
    exact ⟨hasEnding, node, by simp, holds⟩

theorem offers_behind (ne : first ≠ name) :
    scanner.Offers directory (.cons name node rest) question first ↔
      scanner.Offers directory rest question first := by
  have same : (Listing.cons name node rest).find? first = rest.find? first := by
    rw [Listing.find?_cons, if_neg (Ne.symm ne)]
  constructor
  · rintro ⟨hasEnding, there⟩
    exact ⟨hasEnding, same ▸ there⟩
  · rintro ⟨hasEnding, there⟩
    exact ⟨hasEnding, same ▸ there⟩

theorem Offers.ne_of_free (offers : scanner.Offers directory rest question first)
    (free : rest.find? name = none) : first ≠ name := by
  rintro rfl
  obtain ⟨node, there, -⟩ := offers.there
  simp [free] at there

theorem Offers.behind (offers : scanner.Offers directory rest question first)
    (free : rest.find? name = none) :
    scanner.Offers directory (.cons name node rest) question first :=
  (offers_behind (offers.ne_of_free free)).2 offers

theorem Meets.ne_of_free (meets : scanner.Meets directory rest opened question (first :: row))
    (free : rest.find? name = none) : first ≠ name := by
  rintro rfl
  obtain ⟨node, there, -⟩ := meets.there
  simp [Listing.at?_cons, free] at there

end

end Scanner

end Enhance
