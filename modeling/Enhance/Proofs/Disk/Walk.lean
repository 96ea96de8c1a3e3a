import Enhance.Proofs.Disk.Entry

/-!
# Where names lead

Names are followed through directories and links.  What is found is at the end of a `Route`, so that a
proof about it goes along the route.  It depends on few entries of a tree: a tree that differs only in
entries through which no directory is reached leads to the same directories (`follow_of_sameWays`).  A link
to a file is such an entry (`follow_beyond_file`), although names that lead through it may use up a
different number of links.
-/

namespace Enhance.Disk

open Listing

variable {disk : Listing} {here place front rest names : List String} {links : Nat}

/-- Continues where a link leads, with so many links left. -/
def jump (disk : Listing) (followLast : Bool) : Nat → List String → List String → Place
  | 0 => fun _ _ => .failed SystemError.tooManyLinks
  | links + 1 => follow disk followLast links

/-- Where the names of a link start. -/
def linkStart (target : String) (here : List String) : List String :=
  if target.toList.head? = some '/' then [] else here

theorem exists_dir_linkStart (target : String) {inside : Listing}
    (found : disk.at? here = some (.dir inside)) :
    ∃ top, disk.at? (linkStart target here) = some (.dir top) := by
  unfold linkStart
  split
  · exact ⟨disk, rfl⟩
  · exact ⟨inside, found⟩

theorem follow_eq_walk (disk : Listing) (followLast : Bool) (links : Nat) :
    follow disk followLast links = walk disk followLast (jump disk followLast links) := by
  cases links <;> rfl

/-! ## One step -/

theorem follow_nil (followLast : Bool) {inside : Listing}
    (found : disk.at? here = some (.dir inside)) :
    follow disk followLast links here [] = .found here (.dir inside) := by
  rw [follow_eq_walk, walk, found]

theorem follow_dot (followLast : Bool) :
    follow disk followLast links here ("." :: names) = follow disk followLast links here names := by
  rw [follow_eq_walk, walk, if_pos rfl]

theorem follow_dots (followLast : Bool) :
    follow disk followLast links here (".." :: names) =
      follow disk followLast links here.dropLast names := by
  rw [follow_eq_walk, walk, if_neg (by decide), if_pos rfl]

/-- Following a name that stands for an entry. -/
theorem follow_cons (followLast : Bool) {name : String} (plain : name ≠ ".") (down : name ≠ "..") :
    follow disk followLast links here (name :: names) =
      if nameLimit < name.utf8ByteSize then .failed SystemError.nameTooLong
      else
        match disk.at? (here ++ [name]) with
        | none => if names = [] then .absent here name else .failed SystemError.noEntry
        | some (.dir _) => follow disk followLast links (here ++ [name]) names
        | some (.file data) =>
            if names = [] then .found (here ++ [name]) (.file data)
            else .failed SystemError.notDirectory
        | some (.link target) =>
            if names = [] && !followLast then .found (here ++ [name]) (.link target)
            else jump disk followLast links (linkStart target here) (targetNames target ++ names) := by
  rw [follow_eq_walk, walk, if_neg plain, if_neg down]
  rfl

section

variable {name : String} (plain : name ≠ ".") (down : name ≠ "..")
  (short : ¬ nameLimit < name.utf8ByteSize)

include plain down short

theorem follow_dir (followLast : Bool) {inside : Listing}
    (there : disk.at? (here ++ [name]) = some (.dir inside)) :
    follow disk followLast links here (name :: names) =
      follow disk followLast links (here ++ [name]) names := by
  rw [follow_cons followLast plain down, if_neg short, there]

/-- A link that is not the last name is followed in any case. -/
theorem follow_link {followLast : Bool} {target : String}
    (there : disk.at? (here ++ [name]) = some (.link target))
    (goesOn : names ≠ [] ∨ followLast = true) :
    follow disk followLast (links + 1) here (name :: names) =
      follow disk followLast links (linkStart target here) (targetNames target ++ names) := by
  rw [follow_cons followLast plain down, if_neg short, there]
  have followed : (decide (names = []) && !followLast) = false := by
    rcases goesOn with more | same <;> simp [*]
  simp only [followed, Bool.false_eq_true, ↓reduceIte, jump]

end

/-- What a link leads to is found with one link less. -/
theorem jump_eq_found_iff {followLast : Bool} {node : Node} :
    jump disk followLast links here names = .found place node ↔
      ∃ fewer, links = fewer + 1 ∧ follow disk followLast fewer here names = .found place node := by
  cases links with
  | zero => simp [jump]
  | succ fewer => simp [jump]

/-- Following names comes to an end because at each step either there is a name less to follow or a
link less that may be followed. -/
theorem follow_induction {motive : Nat → List String → List String → Prop}
    (nil : ∀ links here, motive links here [])
    (dot : ∀ links here names, motive links here names → motive links here ("." :: names))
    (dots : ∀ links here names, motive links here.dropLast names →
      motive links here (".." :: names))
    (name : ∀ links here name names, name ≠ "." → name ≠ ".." →
      motive links (here ++ [name]) names →
      (∀ fewer, links = fewer + 1 → ∀ there others, motive fewer there others) →
      motive links here (name :: names)) (links : Nat) (here names : List String) :
    motive links here names := by
  induction links generalizing here names with
  | zero =>
      induction names generalizing here with
      | nil => exact nil 0 here
      | cons first rest ih =>
          by_cases isDot : first = "."
          · exact isDot ▸ dot 0 here rest (ih here)
          by_cases isDots : first = ".."
          · exact isDots ▸ dots 0 here rest (ih here.dropLast)
          exact name 0 here first rest isDot isDots (ih _) (by simp)
  | succ fewer next =>
      induction names generalizing here with
      | nil => exact nil (fewer + 1) here
      | cons first rest ih =>
          by_cases isDot : first = "."
          · exact isDot ▸ dot (fewer + 1) here rest (ih here)
          by_cases isDots : first = ".."
          · exact isDots ▸ dots (fewer + 1) here rest (ih here.dropLast)
          apply name (fewer + 1) here first rest isDot isDots (ih _)
          intro other same there others
          obtain rfl : fewer = other := Nat.succ.inj same
          exact next there others

/-- What is found is there. -/
theorem at?_of_follow {followLast : Bool} {node : Node}
    (found : follow disk followLast links here names = .found place node) :
    disk.at? place = some node := by
  revert found
  induction links, here, names using follow_induction with
  | nil links here =>
      rw [follow_eq_walk, walk]
      cases there : disk.at? here with
      | none => simp
      | some other => grind
  | dot links here names ih => rwa [follow_dot]
  | dots links here names ih => rwa [follow_dots]
  | name links here name names plain down ih next =>
      rw [follow_cons followLast plain down]
      intro found
      split at found
      · contradiction
      split at found
      · split at found <;> contradiction
      · exact ih found
      · next data there => grind
      · next target there =>
          split at found
          · grind
          · obtain ⟨fewer, same, found⟩ := jump_eq_found_iff.1 found
            exact next fewer same _ _ found

/-- Names that lead somewhere are not too long. -/
theorem short_of_follow {followLast : Bool} {node : Node}
    (found : follow disk followLast links here names = .found place node) :
    ∀ name ∈ names, name.utf8ByteSize ≤ nameLimit := by
  revert found
  induction links, here, names using follow_induction with
  | nil links here => simp
  | dot links here names ih =>
      rw [follow_dot, List.forall_mem_cons]
      intro found
      exact ⟨by decide, ih found⟩
  | dots links here names ih =>
      rw [follow_dots, List.forall_mem_cons]
      intro found
      exact ⟨by decide, ih found⟩
  | name links here name names plain down ih next =>
      rw [follow_cons followLast plain down, List.forall_mem_cons]
      intro found
      split at found
      · contradiction
      · next short =>
          refine ⟨Nat.le_of_not_lt short, ?_⟩
          split at found
          · split at found <;> contradiction
          · exact ih found
          · split at found
            · next last => simp [last]
            · contradiction
          · split at found
            · next last => simp_all
            · obtain ⟨fewer, same, found⟩ := jump_eq_found_iff.1 found
              intro other member
              exact next fewer same _ _ found other (List.mem_append_right _ member)

/-! ## Routes -/

/-- The names that are followed one after the other, those that links stand for included, and what stands
where they end. -/
inductive Route (disk : Listing) (place : List String) (node : Node) :
    (links : Nat) → (here names : List String) → Prop
  /-- There are no names left. -/
  | here {links : Nat} (there : disk.at? place = some node) : Route disk place node links place []
  | dot {links : Nat} {here names : List String} (route : Route disk place node links here names) :
      Route disk place node links here ("." :: names)
  | dots {links : Nat} {here names : List String}
      (route : Route disk place node links here.dropLast names) :
      Route disk place node links here (".." :: names)
  /-- A name leads into a directory. -/
  | dir {links : Nat} {here names : List String} {name : String} {inside : Listing}
      (plain : name ≠ ".") (down : name ≠ "..") (short : ¬ nameLimit < name.utf8ByteSize)
      (there : disk.at? (here ++ [name]) = some (.dir inside))
      (route : Route disk place node links (here ++ [name]) names) :
      Route disk place node links here (name :: names)
  /-- The last name is that of a file. -/
  | file {links : Nat} {here : List String} {name : String} {data : FileData}
      (plain : name ≠ ".") (down : name ≠ "..") (short : ¬ nameLimit < name.utf8ByteSize)
      (there : disk.at? (here ++ [name]) = some (.file data)) (isPlace : here ++ [name] = place)
      (isNode : .file data = node) : Route disk place node links here [name]
  /-- A name is that of a link, which is followed. -/
  | link {links : Nat} {here names : List String} {name target : String}
      (plain : name ≠ ".") (down : name ≠ "..") (short : ¬ nameLimit < name.utf8ByteSize)
      (there : disk.at? (here ++ [name]) = some (.link target))
      (route : Route disk place node links (linkStart target here) (targetNames target ++ names)) :
      Route disk place node (links + 1) here (name :: names)

/-- What is found is at the end of a route. -/
theorem follow_eq_found_iff {node : Node} :
    follow disk true links here names = .found place node ↔
      Route disk place node links here names := by
  constructor
  · induction links, here, names using follow_induction with
    | nil links here =>
        intro found
        have there := at?_of_follow found
        rw [follow_eq_walk, walk] at found
        split at found
        · cases found
          exact .here there
        · contradiction
    | dot links here names ih =>
        rw [follow_dot]
        exact fun found => .dot (ih found)
    | dots links here names ih =>
        rw [follow_dots]
        exact fun found => .dots (ih found)
    | name links here name names plain down ih next =>
        rw [follow_cons true plain down]
        intro found
        split at found
        · contradiction
        · next short =>
            split at found
            · split at found <;> contradiction
            · next inside there => exact .dir plain down short there (ih found)
            · next data there =>
                split at found
                · next last =>
                    cases found
                    exact last ▸ .file plain down short there rfl rfl
                · contradiction
            · next target there =>
                simp only [Bool.not_true, Bool.and_false, Bool.false_eq_true, ↓reduceIte] at found
                obtain ⟨fewer, rfl, found⟩ := jump_eq_found_iff.1 found
                exact .link plain down short there (next fewer rfl _ _ found)
  · intro route
    induction route with
    | here there => rw [follow_eq_walk, walk, there]
    | dot route ih => rwa [follow_dot]
    | dots route ih => rwa [follow_dots]
    | dir plain down short there route ih => rwa [follow_dir plain down short true there]
    | file plain down short there isPlace isNode =>
        subst isPlace isNode
        rw [follow_cons true plain down, if_neg short, there]
        exact if_pos rfl
    | link plain down short there route ih => rwa [follow_link plain down short there (.inr rfl)]

/-! ## Directories on the way -/

/-- Names that lead to a directory lead on from there. -/
theorem follow_append {inside : Listing}
    (found : follow disk true links here front = .found place (.dir inside)) :
    ∃ fewer, ∀ followLast rest, rest ≠ [] →
      follow disk followLast links here (front ++ rest) =
        follow disk followLast fewer place rest := by
  rw [follow_eq_found_iff] at found
  induction found with
  | here there => exact ⟨_, fun _ _ _ => rfl⟩
  | dot route ih => simpa only [List.cons_append, follow_dot] using ih
  | dots route ih => simpa only [List.cons_append, follow_dots] using ih
  | dir plain down short there route ih =>
      simpa only [List.cons_append, follow_dir plain down short _ there] using ih
  | file plain down short there isPlace isNode => cases isNode
  | link plain down short there route ih =>
      obtain ⟨left, onwards⟩ := ih
      refine ⟨left, ?_⟩
      intro followLast rest more
      rw [List.cons_append, follow_link plain down short there (.inl (by simp [more])), ← List.append_assoc]
      exact onwards followLast rest more

/-- Names whose last one is that of an entry lead first to a directory, unless they lead nowhere. -/
theorem follow_front {followLast : Bool} {last : String} {top : Listing}
    (start : disk.at? here = some (.dir top))
    (leads : ∀ code, follow disk followLast links here (front ++ [last]) ≠ .failed code) :
    ∃ place inside, follow disk true links here front = .found place (.dir inside) := by
  revert start leads
  induction links, here, front using follow_induction generalizing top with
  | nil links here =>
      intro start _
      exact ⟨here, top, follow_nil true start⟩
  | dot links here names ih =>
      simp only [List.cons_append, follow_dot]
      exact ih
  | dots links here names ih =>
      simp only [List.cons_append, follow_dots]
      intro start
      obtain ⟨above, there⟩ := exists_dir_dropLast start
      exact ih there
  | name links here name names plain down ih next =>
      intro start leads
      simp only [List.cons_append, follow_cons _ plain down] at leads ⊢
      split at leads
      · next long => exact absurd rfl (leads _)
      · next short =>
          simp only [if_neg short]
          split at leads
          · next there => exact absurd (by simp) (leads SystemError.noEntry)
          · next inside there =>
              exact ih there leads
          · next data there => exact absurd (by simp) (leads SystemError.notDirectory)
          · next target there =>
              obtain ⟨top', start'⟩ := exists_dir_linkStart target start
              simp only [Bool.not_true, Bool.and_false, Bool.false_eq_true, ↓reduceIte,
                List.append_eq_nil_iff, List.cons_ne_self, and_false, decide_false,
                Bool.false_and] at leads ⊢
              cases links with
              | zero => exact absurd rfl (leads SystemError.tooManyLinks)
              | succ fewer =>
                  rw [← List.append_assoc] at leads
                  exact next fewer rfl _ _ start' leads

/-! ## Entries through which no directory is reached -/

/-- Whether no names lead through an entry to a directory. -/
def IsDeadEnd (disk : Listing) (row : List String) : Prop :=
  match disk.at? row with
  | none | some (.file _) => True
  | some (.dir _) => False
  | some (.link target) => ∀ links names place inside,
      follow disk true links (linkStart target row.dropLast) (targetNames target ++ names) ≠
        .found place (.dir inside)

/-- Names that lead to a file do not lead beyond it, even if more links may be followed. -/
theorem follow_beyond_file {data : FileData} {top : Listing}
    (start : disk.at? here = some (.dir top))
    (found : follow disk true links here names = .found place (.file data))
    (links' : Nat) (more there : List String) (inside : Listing) :
    follow disk true links' here (names ++ more) ≠ .found there (.dir inside) := by
  rw [follow_eq_found_iff] at found
  induction found generalizing links' top with
  | here there =>
      rw [there] at start
      cases start
  | dot route ih =>
      rw [List.cons_append, follow_dot]
      exact ih start links'
  | dots route ih =>
      rw [List.cons_append, follow_dots]
      obtain ⟨above, there⟩ := exists_dir_dropLast start
      exact ih there links'
  | dir plain down short there route ih =>
      rw [List.cons_append, follow_dir plain down short true there]
      exact ih there links'
  | file plain down short there isPlace isNode =>
      rw [List.cons_append, follow_cons true plain down, if_neg short, there]
      dsimp only
      split <;> simp
  | link plain down short there route ih =>
      obtain ⟨top', start'⟩ := exists_dir_linkStart _ start
      cases links' with
      | zero =>
          rw [List.cons_append, follow_cons true plain down, if_neg short, there]
          simp [jump]
      | succ fewer =>
          rw [List.cons_append, follow_link plain down short there (.inr rfl), ← List.append_assoc]
          exact ih start' fewer

theorem isDeadEnd_of_at?_none (absent : disk.at? place = none) : IsDeadEnd disk place := by
  simp [IsDeadEnd, absent]

theorem isDeadEnd_of_at?_file {data : FileData} (found : disk.at? place = some (.file data)) :
    IsDeadEnd disk place := by
  simp [IsDeadEnd, found]

theorem at?_ne_dir_of_isDeadEnd (deadEnd : IsDeadEnd disk place) (inside : Listing) :
    disk.at? place ≠ some (.dir inside) := by
  intro found
  simp [IsDeadEnd, found] at deadEnd

/-- Whether a second tree has the same entries as a first one, but for dead ends of that. -/
def SameWays (disk disk' : Listing) : Prop :=
  ∀ row, disk'.bareAt? row = disk.bareAt? row ∨ IsDeadEnd disk row

/-- What stands for a directory still does so. -/
theorem exists_dir_of_sameWays {disk' inside : Listing}
    (ways : SameWays disk disk')
    (found : disk.at? place = some (.dir inside)) :
    ∃ inside', disk'.at? place = some (.dir inside') := by
  rcases ways place with same | deadEnd
  · rw [← bareAt?_eq_dir_iff, same, bareAt?_eq_dir_iff]
    exact ⟨inside, found⟩
  · exact absurd found (at?_ne_dir_of_isDeadEnd deadEnd inside)

/-- A tree that differs only in dead ends leads to the same directories. -/
theorem follow_of_sameWays {disk' : Listing} {inside : Listing}
    (ways : SameWays disk disk')
    (found : follow disk true links here names = .found place (.dir inside)) :
    ∃ inside', follow disk' true links here names = .found place (.dir inside') := by
  rw [follow_eq_found_iff] at found
  induction found with
  | here there =>
      obtain ⟨inside', there'⟩ := exists_dir_of_sameWays ways there
      exact ⟨inside', follow_nil true there'⟩
  | dot route ih => simpa only [follow_dot] using ih
  | dots route ih => simpa only [follow_dots] using ih
  | dir plain down short there route ih =>
      obtain ⟨inside', there'⟩ := exists_dir_of_sameWays ways there
      simpa only [follow_dir plain down short true there'] using ih
  | file plain down short there isPlace isNode => cases isNode
  | @link links here names name target plain down short there route ih =>
      have open' : ¬ IsDeadEnd disk (here ++ [name]) := by
        intro deadEnd
        simp only [IsDeadEnd, there, List.dropLast_concat] at deadEnd
        exact deadEnd links names place inside (follow_eq_found_iff.2 route)
      have there' : disk'.at? (here ++ [name]) = some (.link target) :=
        at?_of_bareAt?_eq ((ways _).resolve_right open') rfl there
      simpa only [follow_link plain down short there' (.inr rfl)] using ih

/-- An entry that is as before and a dead end after a change of dead ends was one before. -/
theorem isDeadEnd_of_sameWays {disk' : Listing} {row : List String} (ways : SameWays disk disk')
    (same : disk'.bareAt? row = disk.bareAt? row) (deadEnd : IsDeadEnd disk' row) :
    IsDeadEnd disk row := by
  cases there : disk.at? row with
  | none => exact isDeadEnd_of_at?_none there
  | some node =>
      cases node with
      | file data => exact isDeadEnd_of_at?_file there
      | dir inside =>
          obtain ⟨inside', there'⟩ := bareAt?_eq_dir_iff.1 (same.trans
            (bareAt?_eq_dir_iff.2 ⟨inside, there⟩))
          exact absurd there' (at?_ne_dir_of_isDeadEnd deadEnd inside')
      | link target =>
          rw [(bareAt?_eq_some_iff rfl).2 there, bareAt?_eq_some_iff rfl] at same
          simp only [IsDeadEnd, same, there] at deadEnd ⊢
          intro links names place inside found
          obtain ⟨inside', found'⟩ := follow_of_sameWays ways found
          exact deadEnd links names place inside' found'

namespace SameWays

theorem refl (disk : Listing) : SameWays disk disk :=
  fun _ => .inl rfl

theorem trans {first second third : Listing} (one : SameWays first second)
    (two : SameWays second third) : SameWays first third := by
  intro row
  rcases one row with same | deadEnd
  · rcases two row with same' | deadEnd'
    · exact .inl (same'.trans same)
    · exact .inr (isDeadEnd_of_sameWays one same deadEnd')
  · exact .inr deadEnd

end SameWays

end Enhance.Disk
