import Enhance.Proofs.Disk.Leaf
import Enhance.Proofs.Disk.Ascending
import Enhance.Disk.Resolve

/-!
# What a tree keeps when files change

Two views of a tree forget what stands in its files.  The outline of a tree keeps the links
(`Listing.outline`), so that it says where paths lead (`Disk.follow_outline`), and the skeleton of a tree
tells links and files apart no longer (`Listing.skeleton`), so that it stays the same when a file is put in
the place of a link.  Both come from one view, under which files and links are replaced by others.
-/

namespace Enhance

/-! ## Trees with other files and links -/

/-- The tree with other entries in the places of files and links. -/
def Listing.mapped (image : Node → Node) : Listing → Listing
  | .empty => .empty
  | .file name data rest => .cons name (image (.file data)) (rest.mapped image)
  | .link name target rest => .cons name (image (.link target)) (rest.mapped image)
  | .dir name inside rest => .dir name (inside.mapped image) (rest.mapped image)

/-- The entry with other entries in the places of files and links. -/
def Node.mapped (image : Node → Node) : Node → Node
  | .dir inside => .dir (inside.mapped image)
  | node => image node

namespace Listing

variable {image : Node → Node} {listing listing' rest : Listing} {name : String} {node : Node}

theorem mapped_cons (name : String) (node : Node) (rest : Listing) :
    (cons name node rest).mapped image = cons name (node.mapped image) (rest.mapped image) := by
  cases node <;> rfl

theorem names_mapped (listing : Listing) : (listing.mapped image).names = listing.names := by
  induction listing using cons_induction with
  | empty => rfl
  | cons name node rest _ ih => rw [mapped_cons, names_cons, names_cons, ih]

theorem find?_mapped (listing : Listing) (name : String) :
    (listing.mapped image).find? name = (listing.find? name).map (·.mapped image) := by
  induction listing using cons_induction with
  | empty => rfl
  | cons first node rest _ ih =>
      rw [mapped_cons, find?_cons, find?_cons]
      split
      · rfl
      · exact ih

theorem ListsBefore.mapped {one two : String} (before : listing.ListsBefore one two) :
    (listing.mapped image).ListsBefore one two := by
  rw [ListsBefore, names_mapped]
  exact before

/-- The order in which rows of names come does not depend on files and links. -/
theorem PostOrder.mapped {one two : List String} (before : PostOrder listing one two) :
    PostOrder (listing.mapped image) one two := by
  induction before with
  | apart more more' before => exact .apart more more' before.mapped
  | nested more => exact .nested more
  | beside before => exact .beside before.mapped
  | within there before ih =>
      refine .within ?_ ih
      rw [find?_mapped, there]
      rfl

variable (plain : ∀ node, node.isDir = false → (image node).isDir = false)

include plain

theorem at?_mapped (listing : Listing) (row : List String) :
    (listing.mapped image).at? row = (listing.at? row).map (·.mapped image) := by
  induction row generalizing listing with
  | nil => rfl
  | cons name row ih =>
      rw [at?_cons, at?_cons, find?_mapped]
      cases listing.find? name with
      | none => rfl
      | some node =>
          have isPlain := plain node
          cases node with
          | dir inside => exact ih inside
          | file | link =>
              cases row with
              | nil =>
                  simp only [Option.map_some, Option.bind_some, Node.mapped]
                  cases other : image _ <;> simp_all [Node.at?, Node.isDir]
              | cons second row =>
                  simp only [Option.map_some, Option.bind_some, Node.mapped]
                  rw [Node.at?_of_not_isDir (isPlain rfl) (by simp)]
                  rfl

theorem isDir_mapped (node : Node) : (node.mapped image).isDir = node.isDir := by
  cases node with
  | dir inside => rfl
  | file data => exact plain (.file data) rfl
  | link target => exact plain (.link target) rfl

/-- What is a directory in the one tree is one in the other. -/
theorem exists_dir_of_mapped {inside : Listing} (same : node.mapped image = .dir inside) :
    ∃ inner, node = .dir inner ∧ inside = inner.mapped image := by
  have isDir := isDir_mapped plain node
  rw [same] at isDir
  cases node with
  | dir inner =>
      cases same
      exact ⟨inner, rfl, rfl⟩
  | file | link => contradiction

theorem bare_mapped (node : Node) : (node.mapped image).bare = node.bare.mapped image := by
  have isDir := isDir_mapped plain node
  cases node with
  | dir inside => rfl
  | file | link =>
      cases other : Node.mapped image _ with
      | dir inside => simp [other, Node.isDir] at isDir
      | file | link => simp [Node.bare, other]

theorem bareAt?_mapped (listing : Listing) (row : List String) :
    (listing.mapped image).bareAt? row = (listing.bareAt? row).map (·.mapped image) := by
  rw [bareAt?, bareAt?, at?_mapped plain]
  cases listing.at? row with
  | none => rfl
  | some node => exact congrArg some (bare_mapped plain node)

/-- Rows of names lead to directories in the one tree exactly if they do so in the other. -/
theorem bareAt?_mapped_eq_dir_iff (listing : Listing) (row : List String) :
    (listing.mapped image).bareAt? row = some (.dir .empty) ↔ listing.bareAt? row = some (.dir .empty) := by
  rw [bareAt?_eq_dir_iff, bareAt?_eq_dir_iff, at?_mapped plain]
  constructor
  · rintro ⟨inside, isDir⟩
    obtain ⟨node, there, same⟩ := Option.map_eq_some_iff.1 isDir
    obtain ⟨inner, rfl, -⟩ := exists_dir_of_mapped plain same
    exact ⟨inner, there⟩
  · rintro ⟨inside, there⟩
    rw [there]
    exact ⟨_, rfl⟩

theorem isAscending_mapped (listing : Listing) :
    (listing.mapped image).isAscending = listing.isAscending := by
  rw [Bool.eq_iff_iff]
  induction listing using cons_induction with
  | empty => rfl
  | cons name node rest ihInside ih =>
      rw [mapped_cons, isAscending_cons, isAscending_cons, names_mapped, ih]
      refine and_congr_right fun _ => and_congr_right fun _ => ⟨?_, ?_⟩
      · rintro inner inside rfl
        exact (ihInside inside rfl).1 (inner _ rfl)
      · intro inner inside same
        obtain ⟨inside', rfl, rfl⟩ := exists_dir_of_mapped plain same
        exact (ihInside inside' rfl).2 (inner inside' rfl)

theorem isProper_mapped (listing : Listing) : (listing.mapped image).isProper = listing.isProper := by
  rw [Bool.eq_iff_iff]
  induction listing using cons_induction with
  | empty => rfl
  | cons name node rest ihInside ih =>
      rw [mapped_cons, isProper_cons_iff, isProper_cons_iff, find?_mapped, Option.map_eq_none_iff, ih]
      refine and_congr_right fun _ => and_congr_right fun _ => and_congr_right fun _ => ⟨?_, ?_⟩
      · rintro inner inside rfl
        exact (ihInside inside rfl).1 (inner _ rfl)
      · intro inner inside same
        obtain ⟨inside', rfl, rfl⟩ := exists_dir_of_mapped plain same
        exact (ihInside inside' rfl).2 (inner inside' rfl)

theorem entryCount_mapped (listing : Listing) :
    (listing.mapped image).entryCount = listing.entryCount := by
  have counts (name : String) {node : Node} (rest : Listing) (isPlain : node.isDir = false) :
      (cons name node rest).entryCount = rest.entryCount + 1 := by
    cases node with
    | file | link => rfl
    | dir => contradiction
  induction listing with
  | empty => rfl
  | file name data rest ih =>
      rw [mapped, counts _ _ (plain (.file data) rfl), ih, entryCount]
  | link name target rest ih =>
      rw [mapped, counts _ _ (plain (.link target) rfl), ih, entryCount]
  | dir name inside rest ihInside ih => rw [mapped, entryCount, entryCount, ihInside, ih]

/-- A tree looks the same, but for the order of its entries, when a file or a link is replaced by one that
looks the same. -/
theorem mapped_alike_of_sets {row : List String} {node' : Node}
    (sets : Disk.Sets listing row (some node') listing') (there : listing.at? row = some node)
    (isPlain : node.isDir = false) (isPlain' : node'.isDir = false)
    (same : node'.mapped image = node.mapped image) :
    (listing.mapped image).Alike (listing'.mapped image) := by
  intro other
  rw [bareAt?_mapped plain, bareAt?_mapped plain]
  by_cases here : other = row
  · subst here
    rw [(bareAt?_eq_some_iff isPlain).2 there, (bareAt?_eq_some_iff isPlain').2 sets.here]
    exact congrArg some same
  · rw [sets.elsewhere other here]

/-- A tree that looks alike looks the same if the entries of both trees are in order. -/
theorem mapped_eq_of_alike (ascending : listing.isAscending = true)
    (ascending' : listing'.isAscending = true)
    (alike : (listing.mapped image).Alike (listing'.mapped image)) :
    listing'.mapped image = listing.mapped image := by
  apply eq_of_alike _ _ alike
  · rwa [isAscending_mapped plain]
  · rwa [isAscending_mapped plain]

end Listing

/-! ## Outlines and skeletons -/

namespace Node

/-- A file in the place of a file; links stay. -/
def blank : Node → Node
  | .file _ => .file ⟨[], 0, false⟩
  | node => node

/-- A file in the place of a file or a link. -/
def bone (_ : Node) : Node :=
  .file ⟨[], 0, false⟩

/-- Where a link leads. -/
def target? : Node → Option String
  | .link target => some target
  | _ => none

theorem isDir_blank (node : Node) (plain : node.isDir = false) : node.blank.isDir = false := by
  cases node with
  | file | link => rfl
  | dir => contradiction

theorem isDir_bone (node : Node) (_ : node.isDir = false) : node.bone.isDir = false := rfl

end Node

namespace Listing

/-- The tree without what stands in its files. -/
abbrev outline (listing : Listing) : Listing :=
  listing.mapped Node.blank

/-- The tree without what stands in its files and where its links lead. -/
abbrev skeleton (listing : Listing) : Listing :=
  listing.mapped Node.bone

theorem linkCount_outline (listing : Listing) : listing.outline.linkCount = listing.linkCount := by
  rw [outline]
  induction listing with
  | empty => rfl
  | file name data rest ih => exact ih
  | link name target rest ih => exact congrArg (· + 1) ih
  | dir name inside rest ihInside ih => rw [mapped, linkCount, linkCount, ihInside, ih]

variable {disk disk' : Listing} {row : List String} {node : Node} {old new : FileData}

/-- Replacing what stands in a file keeps the outline, but for the order of entries. -/
theorem outline_alike_of_sets (sets : Disk.Sets disk row (some (.file new)) disk')
    (there : disk.at? row = some (.file old)) : disk.outline.Alike disk'.outline :=
  mapped_alike_of_sets Node.isDir_blank sets there rfl rfl rfl

theorem outline_eq_of_sets (ascending : disk.isAscending = true) (ascending' : disk'.isAscending = true)
    (sets : Disk.Sets disk row (some (.file new)) disk') (there : disk.at? row = some (.file old)) :
    disk'.outline = disk.outline :=
  mapped_eq_of_alike Node.isDir_blank ascending ascending' (outline_alike_of_sets sets there)

/-- Putting a file in the place of a file or a link keeps the skeleton, but for the order of entries. -/
theorem skeleton_alike_of_sets (sets : Disk.Sets disk row (some (.file new)) disk')
    (there : disk.at? row = some node) (plain : node.isDir = false) :
    disk.skeleton.Alike disk'.skeleton := by
  refine mapped_alike_of_sets Node.isDir_bone sets there plain rfl ?_
  cases node with
  | file | link => rfl
  | dir => contradiction

end Listing

/-! ## Where paths lead -/

namespace Place

/-- Where a path leads in the outline of a tree. -/
def outline : Place → Place
  | .found names node => .found names (node.mapped Node.blank)
  | other => other

end Place

namespace Disk

open Listing

variable {disk disk' : Listing}

/-- The outline of a tree says where names lead. -/
theorem follow_outline (disk : Listing) (followLast : Bool) (links : Nat) (here names : List String) :
    follow disk.outline followLast links here names =
      (follow disk followLast links here names).outline := by
  have there := at?_mapped Node.isDir_blank disk
  induction links, here, names using follow_induction with
  | nil links here =>
      rw [follow_eq_walk, follow_eq_walk, walk, walk, there]
      cases disk.at? here <;> rfl
  | dot links here names ih => rw [follow_dot, follow_dot, ih]
  | dots links here names ih => rw [follow_dots, follow_dots, ih]
  | name links here name names plain down ih next =>
      rw [follow_cons followLast plain down, follow_cons followLast plain down, there]
      split
      · rfl
      · cases disk.at? (here ++ [name]) with
        | none =>
            dsimp only [Option.map_none]
            split <;> rfl
        | some node =>
            cases node with
            | file data =>
                dsimp only [Option.map_some, Node.mapped, Node.blank]
                split <;> rfl
            | dir inside => exact ih
            | link target =>
                dsimp only [Option.map_some, Node.mapped, Node.blank]
                split
                · rfl
                · cases links with
                  | zero => rfl
                  | succ fewer => exact next fewer rfl _ _

theorem lookup_outline (disk : Listing) (cwd : List String) (followLast : Bool) (path : Path) :
    lookup disk.outline cwd followLast path = (lookup disk cwd followLast path).outline := by
  rw [lookup, lookup]
  split
  · rfl
  · exact follow_outline _ _ _ _ _

theorem stat_outline (disk : Listing) (cwd : List String) (path : Path) :
    stat disk.outline cwd path = (stat disk cwd path).map (·.mapped Node.blank) := by
  rw [stat, stat, lookup_outline]
  cases lookup disk cwd true path <;> rfl

theorem linkStat_outline (disk : Listing) (cwd : List String) (path : Path) :
    linkStat disk.outline cwd path = (linkStat disk cwd path).map (·.mapped Node.blank) := by
  rw [linkStat, linkStat, lookup_outline]
  cases lookup disk cwd false path <;> rfl

/-! ## Real paths -/

/-- Two trees in which paths lead to the same links and fail in the same way. -/
structure SameLinks (disk disk' : Listing) (cwd : List String) : Prop where
  count : disk'.linkCount = disk.linkCount
  target : ∀ path, (linkStat disk' cwd path).map Node.target? = (linkStat disk cwd path).map Node.target?
  fails : ∀ path, (stat disk' cwd path).map (fun _ => ()) = (stat disk cwd path).map fun _ => ()

namespace SameLinks

variable {cwd : List String} (links : SameLinks disk disk' cwd)

include links

theorem resolveNames_eq {jump jump' : Path → List String → Seen → Resolution}
    (same : ∀ path names seen, jump' path names seen = jump path names seen)
    (path : Path) (names : List String) (seen : Seen) :
    resolveNames disk' cwd jump' path names seen = resolveNames disk cwd jump path names seen := by
  induction names generalizing path seen with
  | nil => rfl
  | cons name names ih =>
      rw [resolveNames, resolveNames]
      split
      · exact ih _ _
      · have target := links.target (path.child name)
        simp only [same, ih]
        revert target
        cases linkStat disk' cwd (path.child name) with
        | error code =>
            cases linkStat disk cwd (path.child name) with
            | error code' => exact fun _ => rfl
            | ok node => exact nofun
        | ok node' =>
            cases linkStat disk cwd (path.child name) with
            | error code => exact nofun
            | ok node => cases node' <;> cases node <;> simp +contextual [Except.map, Node.target?]

theorem resolveFrom_eq (depth : Nat) (path : Path) (names : List String) (seen : Seen) :
    resolveFrom disk' cwd depth path names seen = resolveFrom disk cwd depth path names seen := by
  induction depth generalizing path names seen with
  | zero => exact links.resolveNames_eq (fun _ _ _ => rfl) path names seen
  | succ depth ih => exact links.resolveNames_eq ih path names seen

/-- The links of a tree say what the real path of a path is, if it has one. -/
theorem resolve_eq (path : Path) : resolve disk' cwd path = resolve disk cwd path := by
  have real : realPath disk' cwd path = realPath disk cwd path := by
    rw [realPath, realPath, links.count, links.resolveFrom_eq]
  have fails := links.fails (realPath disk cwd path)
  rw [resolve, resolve, real]
  dsimp only
  revert fails
  cases stat disk' cwd (realPath disk cwd path) <;> cases stat disk cwd (realPath disk cwd path) <;>
    simp +contextual [Except.map]

end SameLinks

theorem sameLinks_outline (disk : Listing) (cwd : List String) : SameLinks disk disk.outline cwd := by
  refine ⟨linkCount_outline disk, fun path => ?_, fun path => ?_⟩
  · rw [linkStat_outline]
    cases linkStat disk cwd path with
    | error code => rfl
    | ok node => cases node <;> rfl
  · rw [stat_outline]
    cases stat disk cwd path <;> rfl

end Disk

end Enhance
