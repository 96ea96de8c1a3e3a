import Enhance.Proofs.Disk.Leads

/-!
# Trees without links

In a tree without links a row of names of entries leads to that row and nowhere else (`follow_row`), and
what stands there is known from the directory that the names start in alone (`answer_follow`).  So two trees
that have the same directory at the end of a path answer in the same way about everything below it
(`stat_join`), whatever else they hold.
-/

namespace Enhance

/-- The number of links that an entry is or holds. -/
def Node.linkCount : Node → Nat
  | .file _ => 0
  | .link _ => 1
  | .dir inside => inside.linkCount

namespace Listing

variable {listing : Listing} {node : Node}

theorem linkCount_of_find? {name : String} (free : listing.linkCount = 0)
    (found : listing.find? name = some node) : node.linkCount = 0 := by
  induction listing with
  | empty => cases found
  | file other data rest ih =>
      rw [find?] at found
      split at found
      · cases found
        rfl
      · exact ih free found
  | link other target rest ih => contradiction
  | dir other inside rest ihInside ih =>
      obtain ⟨freeInside, freeRest⟩ := Nat.add_eq_zero_iff.1 free
      rw [find?] at found
      split at found
      · cases found
        exact freeInside
      · exact ih freeRest found

/-- What is in a tree without links is no link and holds none. -/
theorem linkCount_of_at? {row : List String} (free : listing.linkCount = 0)
    (found : listing.at? row = some node) : node.linkCount = 0 := by
  induction row generalizing listing with
  | nil =>
      cases found
      exact free
  | cons name names ih =>
      rw [at?_cons] at found
      cases first : listing.find? name with
      | none => simp [first] at found
      | some other =>
          rw [first, Option.bind_some] at found
          have freeFirst := linkCount_of_find? free first
          cases other with
          | dir inside => exact ih freeFirst found
          | link target => contradiction
          | file data =>
              cases names with
              | nil =>
                  cases found
                  rfl
              | cons => simp [Node.at?] at found

end Listing

/-- What is told about a place: the entry, or why there is none. -/
def Place.answer : Place → Except Nat Node
  | .found _ node => .ok node
  | .absent .. => .error SystemError.noEntry
  | .failed code => .error code

namespace Disk

variable {disk disk' inside : Listing} {cwd here here' place names row : List String} {links links' : Nat}
  {node : Node} {path entry file : Path}

theorem stat_eq (disk : Listing) (cwd : List String) (path : Path) :
    stat disk cwd path = (lookup disk cwd true path).answer := by
  rw [stat]
  cases lookup disk cwd true path <;> rfl

/-! ## Names of entries -/

/-- Without links, the names of entries lead to the row that they are. -/
theorem follow_row {followLast : Bool} (free : disk.linkCount = 0)
    (proper : ∀ name ∈ names, isEntryName name = true)
    (found : follow disk followLast links here names = .found row node) : row = here ++ names := by
  induction names generalizing here with
  | nil =>
      rw [follow_eq_walk, walk] at found
      split at found
      · cases found
        rw [List.append_nil]
      · contradiction
  | cons name names ih =>
      rw [List.forall_mem_cons, isEntryName_iff] at proper
      obtain ⟨⟨named, down⟩, proper⟩ := proper
      rw [follow_cons followLast (ne_dot_of_isName named) down] at found
      split at found
      · contradiction
      split at found
      · split at found <;> contradiction
      · rw [List.append_cons]
        exact ih proper found
      · split at found
        · next last =>
            cases found
            rw [last]
        · contradiction
      · next target there =>
          have noLink := Listing.linkCount_of_at? free there
          contradiction

/-- Without links, what the names of entries lead to is known from the directory that they start in: neither
the tree around it nor the number of links that may be followed matters. -/
theorem answer_follow (free : inside.linkCount = 0)
    (there : disk.at? here = some (.dir inside)) (there' : disk'.at? here' = some (.dir inside))
    (proper : ∀ name ∈ names, isEntryName name = true) :
    (follow disk' true links' here' names).answer = (follow disk true links here names).answer := by
  induction names generalizing here here' inside with
  | nil =>
      rw [follow_nil true there, follow_nil true there']
      rfl
  | cons name names ih =>
      rw [List.forall_mem_cons, isEntryName_iff] at proper
      obtain ⟨⟨named, down⟩, proper⟩ := proper
      have next := Listing.at?_append_of_dir there [name]
      have next' := Listing.at?_append_of_dir there' [name]
      rw [Listing.at?_singleton] at next next'
      rw [follow_cons true (ne_dot_of_isName named) down,
        follow_cons true (ne_dot_of_isName named) down, next, next']
      split
      · rfl
      cases first : inside.find? name with
      | none =>
          dsimp only
          split <;> rfl
      | some node =>
          have freeFirst := Listing.linkCount_of_find? free first
          cases node with
          | dir inner => exact ih freeFirst (next.trans first) (next'.trans first) proper
          -- A link is the only entry that would lead out of the directory.
          | link target => contradiction
          | file data =>
              dsimp only
              split <;> rfl

/-- Without links, names of entries that are not too long lead to the entry of that row or, where there is
none, to a dead end. -/
theorem answer_follow_at? (free : inside.linkCount = 0) (there : disk.at? here = some (.dir inside))
    (proper : ∀ name ∈ names, isEntryName name = true)
    (short : ∀ name ∈ names, name.utf8ByteSize ≤ nameLimit) :
    (∀ node, inside.at? names = some node → (follow disk true links here names).answer = .ok node) ∧
      (inside.at? names = none → ∃ code,
        (follow disk true links here names).answer = .error code ∧ leadsNowhere code = true) := by
  induction names generalizing here inside with
  | nil =>
      rw [follow_nil true there]
      constructor
      · intro node same
        cases same
        rfl
      · intro none
        cases none
  | cons name names ih =>
      rw [List.forall_mem_cons] at proper short
      obtain ⟨named, down⟩ := isEntryName_iff.1 proper.1
      have next := Listing.at?_append_of_dir there [name]
      rw [Listing.at?_singleton] at next
      rw [follow_cons true (ne_dot_of_isName named) down, if_neg (Nat.not_lt.2 short.1), next,
        Listing.at?_cons]
      cases first : inside.find? name with
      | none =>
          refine ⟨by simp, fun _ => ⟨SystemError.noEntry, ?_, by decide⟩⟩
          dsimp only
          split <;> rfl
      | some node =>
          have freeFirst := Listing.linkCount_of_find? free first
          cases node with
          | dir inner => exact ih freeFirst (next.trans first) proper.2 short.2
          | link target => contradiction
          | file data =>
              cases names with
              | nil => simp [Node.at?, Place.answer]
              | cons second others =>
                  simp [Node.at?, Place.answer, leadsNowhere]

/-! ## Below a directory -/

/-- A relative path that is joined to the path of a directory is followed from that directory on. -/
theorem lookup_join (relative : file.anchor = .relative) (more : file.names ≠ [])
    (found : lookup disk cwd true entry = .found place (.dir inside)) :
    ∃ links, lookup disk cwd true (entry / file) =
      if pathLimit < (entry / file).toString.utf8ByteSize then .failed SystemError.nameTooLong
      else follow disk true links place file.names := by
  obtain ⟨anchor, names⟩ := Path.append_relative entry relative
  rw [lookup] at found
  split at found
  · contradiction
  · obtain ⟨links, onwards⟩ := follow_append found
    refine ⟨links, ?_⟩
    rw [lookup, names, ← onwards true file.names more, Path.isAbsolute, Path.isAbsolute, anchor]

/-- Below a directory without links, the names of entries lead to the entries of that row. -/
theorem row_of_lookup_join (free : disk.linkCount = 0) (relative : file.anchor = .relative)
    (more : file.names ≠ []) (proper : ∀ name ∈ file.names, isEntryName name = true)
    (found : lookup disk cwd true entry = .found place (.dir inside))
    (leads : lookup disk cwd true (entry / file) = .found row node) :
    row = place ++ file.names ∧ inside.at? file.names = some node := by
  obtain ⟨links, same⟩ := lookup_join relative more found
  have there := at?_of_lookup leads
  rw [same] at leads
  split at leads
  · contradiction
  · obtain rfl := follow_row free proper leads
    rw [Listing.at?_append_of_dir (at?_of_lookup found)] at there
    exact ⟨rfl, there⟩

/-- Trees that have the same directory without links at the end of a path answer in the same way about what
is below it. -/
theorem stat_join (free : inside.linkCount = 0) (relative : file.anchor = .relative)
    (more : file.names ≠ []) (proper : ∀ name ∈ file.names, isEntryName name = true)
    (found : stat disk cwd entry = .ok (.dir inside))
    (found' : stat disk' cwd entry = .ok (.dir inside)) :
    stat disk' cwd (entry / file) = stat disk cwd (entry / file) := by
  obtain ⟨place, leads⟩ := lookup_of_stat found
  obtain ⟨place', leads'⟩ := lookup_of_stat found'
  obtain ⟨links, same⟩ := lookup_join relative more leads
  obtain ⟨links', same'⟩ := lookup_join relative more leads'
  rw [stat_eq, stat_eq, same, same']
  split
  · rfl
  · exact answer_follow free (at?_of_lookup leads) (at?_of_lookup leads') proper

/-- Below a directory without links, a path that is not too long leads to the entry of that row or, where
there is none, to a dead end. -/
theorem stat_join_at? (free : inside.linkCount = 0) (relative : file.anchor = .relative)
    (more : file.names ≠ []) (proper : ∀ name ∈ file.names, isEntryName name = true)
    (fits : Fits (entry / file)) (found : stat disk cwd entry = .ok (.dir inside)) :
    (∀ node, inside.at? file.names = some node → stat disk cwd (entry / file) = .ok node) ∧
      (inside.at? file.names = none → ∃ code,
        stat disk cwd (entry / file) = .error code ∧ leadsNowhere code = true) := by
  obtain ⟨place, leads⟩ := lookup_of_stat found
  obtain ⟨links, same⟩ := lookup_join relative more leads
  rw [stat_eq, same, if_neg (Nat.not_lt.2 fits.short)]
  apply answer_follow_at? free (at?_of_lookup leads) proper
  intro name member
  apply fits.names
  rw [(Path.append_relative entry relative).2]
  exact List.mem_append_right _ member

/-! ## Questions -/

/-- Trees that tell the same about a path answer questions about it in the same way. -/
theorem ask_congr (same : stat disk' cwd path = stat disk cwd path) (question : Node → Bool) :
    ask disk' cwd path question = ask disk cwd path question := by
  rw [ask, ask, same]

theorem read_congr (same : stat disk' cwd path = stat disk cwd path) :
    read disk' cwd path = read disk cwd path := by
  rw [read, read, same]

end Disk

end Enhance
