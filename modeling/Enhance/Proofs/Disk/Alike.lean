import Enhance.Disk.Change
import Enhance.Proofs.Disk.LinkFree
import Enhance.Proofs.Disk.Outline

/-!
# Trees with the same entries in another order

The system lists the entries of a directory in an order of its own, which may be another one after a file
was written.  Two trees are alike if they differ only in this order.  A path leads to the same entry in
both, of directories only as far as it is one (`Disk.lookup_alike`), and it has the same real path
(`Disk.resolve_alike`).  The tree whose entries are ascending by name stands for all trees that are alike
(`Listing.exists_ascending`).
-/

namespace Enhance

/-! ## Entries in order -/

/-- The tree with the entries of every directory ascending by name. -/
def Listing.inOrder : Listing → Listing
  | .empty => .empty
  | .file name data rest => rest.inOrder.place name (.file data)
  | .link name target rest => rest.inOrder.place name (.link target)
  | .dir name inside rest => rest.inOrder.place name (.dir inside.inOrder)

/-- The entry with the entries of every directory ascending by name. -/
def Node.inOrder : Node → Node
  | .dir inside => .dir inside.inOrder
  | node => node

namespace Listing

variable {listing listing' : Listing}

theorem inOrder_cons (name : String) (node : Node) (rest : Listing) :
    (cons name node rest).inOrder = rest.inOrder.place name node.inOrder := by
  cases node <;> rfl

theorem find?_inOrder (proper : listing.isProper = true) (name : String) :
    listing.inOrder.find? name = (listing.find? name).map Node.inOrder := by
  induction listing using cons_induction generalizing name with
  | empty => rfl
  | cons first node rest _ ih =>
      obtain ⟨-, free, properRest, -⟩ := isProper_cons proper
      rw [inOrder_cons, find?_cons]
      by_cases same : first = name
      · subst same
        have free' : rest.inOrder.find? first = none := by
          rw [ih properRest, free]
          rfl
        rw [find?_place_same _ free', if_pos rfl]
        rfl
      · rw [find?_place_of_ne same, if_neg same, ih properRest]

theorem alike_inOrder (proper : listing.isProper = true) : listing.Alike listing.inOrder := by
  intro row
  induction row generalizing listing with
  | nil => rfl
  | cons name row ih =>
      rw [bareAt?, bareAt?, at?_cons, at?_cons, find?_inOrder proper]
      cases here : listing.find? name with
      | none => rfl
      | some node =>
          cases node with
          | file | link => rfl
          | dir inside => exact ih (isProper_of_find? proper here)

theorem isAscending_inOrder (proper : listing.isProper = true) : listing.inOrder.isAscending = true := by
  induction listing using cons_induction with
  | empty => rfl
  | cons name node rest ihInside ih =>
      obtain ⟨-, free, properRest, properInside⟩ := isProper_cons proper
      rw [inOrder_cons]
      refine isAscending_place (ih properRest) ?_ ?_
      · rw [find?_inOrder properRest, free]
        rfl
      · intro inside same
        cases node with
        | file | link => cases same
        | dir inner =>
            cases same
            exact ihInside inner rfl (properInside inner rfl)

/-- A tree in order has the same entries as a proper tree. -/
theorem exists_ascending (proper : listing.isProper = true) :
    ∃ ordered : Listing, listing.Alike ordered ∧ ordered.isAscending = true :=
  ⟨listing.inOrder, alike_inOrder proper, isAscending_inOrder proper⟩

theorem linkCount_cons (name : String) (node : Node) (rest : Listing) :
    (cons name node rest).linkCount = node.linkCount + rest.linkCount := by
  cases node <;> simp [cons, linkCount, Node.linkCount, Nat.add_comm]

theorem linkCount_place (name : String) (node : Node) (listing : Listing) :
    (listing.place name node).linkCount = node.linkCount + listing.linkCount := by
  induction listing using cons_induction with
  | empty => exact linkCount_cons name node .empty
  | cons first other rest _ ih =>
      rw [place_cons]
      split
      · rw [linkCount_cons]
      · rw [linkCount_cons, ih, linkCount_cons]
        omega

theorem linkCount_inOrder (listing : Listing) : listing.inOrder.linkCount = listing.linkCount := by
  induction listing using cons_induction with
  | empty => rfl
  | cons name node rest ihInside ih =>
      rw [inOrder_cons, linkCount_place, linkCount_cons, ih]
      cases node with
      | file | link => rfl
      | dir inside => exact congrArg (· + rest.linkCount) (ihInside inside rfl)

/-- Proper trees with the same tree in order are alike. -/
theorem alike_of_inOrder_eq (proper : listing.isProper = true) (proper' : listing'.isProper = true)
    (same : listing'.inOrder = listing.inOrder) : listing.Alike listing' := by
  have alike := alike_inOrder proper
  rw [← same] at alike
  exact alike.trans (alike_inOrder proper').symm

namespace Alike

variable (alike : listing.Alike listing')

include alike

theorem mapped {image : Node → Node} (plain : ∀ node, node.isDir = false → (image node).isDir = false) :
    (listing.mapped image).Alike (listing'.mapped image) := by
  intro row
  rw [bareAt?_mapped plain, bareAt?_mapped plain, alike]

theorem sameWays : Disk.SameWays listing listing' :=
  fun row => .inl (alike row)

/-- Proper trees that are alike have the same tree in order. -/
theorem inOrder_eq (proper : listing.isProper = true) (proper' : listing'.isProper = true) :
    listing'.inOrder = listing.inOrder :=
  eq_of_alike (isAscending_inOrder proper) (isAscending_inOrder proper')
    (((alike_inOrder proper).symm.trans alike).trans (alike_inOrder proper'))

theorem linkCount_eq (proper : listing.isProper = true) (proper' : listing'.isProper = true) :
    listing'.linkCount = listing.linkCount := by
  rw [← linkCount_inOrder, alike.inOrder_eq proper proper', linkCount_inOrder]

end Alike

end Listing

/-! ## Where paths lead -/

/-- A place without what is inside the directory there. -/
def Place.bare : Place → Place
  | .found names node => .found names node.bare
  | other => other

namespace Disk

variable {disk disk' : Listing} {cwd place : List String} {path : Path}

theorem follow_alike (alike : disk.Alike disk') (followLast : Bool) (links : Nat)
    (here names : List String) :
    (follow disk' followLast links here names).bare = (follow disk followLast links here names).bare := by
  induction links, here, names using follow_induction with
  | nil links here =>
      have same := alike here
      rw [Listing.bareAt?, Listing.bareAt?] at same
      rw [follow_eq_walk, follow_eq_walk, walk, walk]
      revert same
      cases disk'.at? here <;> cases disk.at? here <;> simp +contextual [Place.bare]
  | dot links here names ih => rw [follow_dot, follow_dot, ih]
  | dots links here names ih => rw [follow_dots, follow_dots, ih]
  | name links here name names plain down ih next =>
      have same := alike (here ++ [name])
      rw [Listing.bareAt?, Listing.bareAt?] at same
      rw [follow_cons followLast plain down, follow_cons followLast plain down]
      split
      · rfl
      · cases there : disk.at? (here ++ [name]) with
        | none =>
            rw [there, Option.map_none, Option.map_eq_none_iff] at same
            rw [same]
        | some node =>
            rw [there, Option.map_some, Option.map_eq_some_iff] at same
            obtain ⟨node', there', same⟩ := same
            rw [there']
            cases node with
            | dir inside =>
                obtain ⟨inside', rfl⟩ := Node.exists_dir_of_bare_eq same
                exact ih
            | file data => rw [Node.eq_of_bare_eq rfl same]
            | link target =>
                rw [Node.eq_of_bare_eq rfl same]
                dsimp only
                split
                · rfl
                · cases links with
                  | zero => rfl
                  | succ fewer => exact next fewer rfl _ _

/-- A path leads to the same entry whatever the order of entries. -/
theorem lookup_alike (alike : disk.Alike disk') (cwd : List String) (followLast : Bool) (path : Path) :
    (lookup disk' cwd followLast path).bare = (lookup disk cwd followLast path).bare := by
  rw [lookup, lookup]
  split
  · rfl
  · exact follow_alike alike _ _ _ _

theorem stat_alike (alike : disk.Alike disk') (cwd : List String) (path : Path) :
    (stat disk' cwd path).map Node.bare = (stat disk cwd path).map Node.bare := by
  have same := lookup_alike alike cwd true path
  rw [stat, stat]
  revert same
  cases lookup disk' cwd true path <;> cases lookup disk cwd true path <;>
    simp +contextual [Place.bare, Except.map]

theorem linkStat_alike (alike : disk.Alike disk') (cwd : List String) (path : Path) :
    (linkStat disk' cwd path).map Node.bare = (linkStat disk cwd path).map Node.bare := by
  have same := lookup_alike alike cwd false path
  rw [linkStat, linkStat]
  revert same
  cases lookup disk' cwd false path <;> cases lookup disk cwd false path <;>
    simp +contextual [Place.bare, Except.map]

/-- A file that a path leads to is the same whatever the order of entries. -/
theorem stat_file_alike {data : FileData} (alike : disk.Alike disk')
    (found : stat disk cwd path = .ok (.file data)) : stat disk' cwd path = .ok (.file data) := by
  have same := stat_alike alike cwd path
  rw [found] at same
  cases found' : stat disk' cwd path with
  | error code =>
      rw [found'] at same
      cases same
  | ok node =>
      rw [found', Except.map, Except.map, Except.ok.injEq] at same
      rw [Node.eq_of_bare_eq rfl same]

/-- A path that leads nowhere fails in the same way whatever the order of entries. -/
theorem stat_error_alike {code : Nat} (alike : disk.Alike disk')
    (failed : stat disk cwd path = .error code) : stat disk' cwd path = .error code := by
  have same := stat_alike alike cwd path
  rw [failed] at same
  cases found' : stat disk' cwd path with
  | ok node =>
      rw [found'] at same
      cases same
  | error code' =>
      rw [found', Except.map, Except.map, Except.error.injEq] at same
      rw [same]

theorem read_alike (alike : disk.Alike disk') (cwd : List String) (path : Path) :
    read disk' cwd path = read disk cwd path := by
  have same := stat_alike alike cwd path
  rw [read, read]
  cases found : stat disk cwd path with
  | error code => rw [stat_error_alike alike found]
  | ok node =>
      cases node with
      | file data => rw [stat_file_alike alike found]
      | dir inside | link target =>
          rw [found] at same
          cases found' : stat disk' cwd path with
          | error code =>
              rw [found'] at same
              cases same
          | ok node' =>
              rw [found'] at same
              cases node' <;> simp_all [Except.map, Node.bare]

theorem sameLinks_of_alike (alike : disk.Alike disk') (proper : disk.isProper = true)
    (proper' : disk'.isProper = true) (cwd : List String) : SameLinks disk disk' cwd := by
  refine ⟨alike.linkCount_eq proper proper', fun path => ?_, fun path => ?_⟩
  · have same := linkStat_alike alike cwd path
    revert same
    cases linkStat disk' cwd path with
    | error code' => cases linkStat disk cwd path <;> simp +contextual [Except.map]
    | ok node' =>
        cases linkStat disk cwd path with
        | error code => simp [Except.map]
        | ok node => cases node' <;> cases node <;> simp +contextual [Except.map, Node.bare, Node.target?]
  · have same := stat_alike alike cwd path
    revert same
    cases stat disk' cwd path <;> cases stat disk cwd path <;> simp +contextual [Except.map]

/-- Trees with the same outline, whatever the order of entries, have the same real paths. -/
theorem resolve_alike (alike : disk.outline.Alike disk'.outline) (proper : disk.isProper = true)
    (proper' : disk'.isProper = true) (cwd : List String) (path : Path) :
    resolve disk' cwd path = resolve disk cwd path := by
  rw [← Listing.isProper_mapped Node.isDir_blank] at proper proper'
  rw [← (sameLinks_outline disk' cwd).resolve_eq, ← (sameLinks_outline disk cwd).resolve_eq]
  exact (sameLinks_of_alike alike proper proper' cwd).resolve_eq path

end Disk

end Enhance
