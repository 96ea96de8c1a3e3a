import Enhance.Proofs.Disk.Leaf

/-!
# Files in the place of entries that lead to files

When a file is put in the place of a file or of a link to one, paths still lead to the directories
that they led to.  A path that led to a file still does: to the same one, unless it led through the
place (`follow_file_of_sets`).  A path that led nowhere still fails in the same way, unless it met too
many links (`follow_missing_of_sets`); a chain of links can only have become shorter.
-/

namespace Enhance.Disk

open Listing

variable {disk disk' : Listing} {here place row names rest cwd : List String} {links more : Nat}
  {followLast : Bool} {data new : FileData} {path : Path}

/-! ## More links and more names -/

/-- Names that do not lead through too many links lead to the same place if more links may be
followed. -/
theorem follow_more (enough : links ≤ more)
    (settled : follow disk followLast links here names ≠ .failed SystemError.tooManyLinks) :
    follow disk followLast more here names = follow disk followLast links here names := by
  induction links, here, names using follow_induction generalizing more with
  | nil links here =>
      rw [follow_eq_walk, follow_eq_walk, walk, walk]
  | dot links here names ih =>
      rw [follow_dot] at settled ⊢
      rw [follow_dot]
      exact ih enough settled
  | dots links here names ih =>
      rw [follow_dots] at settled ⊢
      rw [follow_dots]
      exact ih enough settled
  | name links here name names plain down ih next =>
      rw [follow_cons followLast plain down] at settled ⊢
      rw [follow_cons followLast plain down]
      split
      · rfl
      · next short =>
          rw [if_neg short] at settled
          cases there : disk.at? (here ++ [name]) with
          | none => rfl
          | some node =>
              simp only [there] at settled
              cases node with
              | file data => rfl
              | dir inside => exact ih enough settled
              | link target =>
                  dsimp only at settled ⊢
                  split
                  · rfl
                  · next goesOn =>
                      rw [if_neg goesOn] at settled
                      cases links with
                      | zero => exact absurd rfl settled
                      | succ fewer =>
                          cases more with
                          | zero => simp at enough
                          | succ more => exact next fewer rfl _ _ (Nat.le_of_succ_le_succ enough) settled

/-- Nothing is found through a file. -/
theorem follow_through_file {top : Listing} (start : disk.at? here = some (.dir top))
    (found : follow disk true links here names = .found place (.file data)) (beyond : rest ≠ [])
    (followLast : Bool) (links' : Nat) :
    follow disk followLast links' here (names ++ rest) = .failed SystemError.notDirectory ∨
      follow disk followLast links' here (names ++ rest) = .failed SystemError.tooManyLinks := by
  rw [follow_eq_found_iff] at found
  induction found generalizing links' top with
  | here there =>
      rw [there] at start
      cases start
  | dot route ih =>
      rw [List.cons_append, follow_dot]
      exact ih start links'
  | dots route ih =>
      rw [List.cons_append, follow_dots]
      obtain ⟨above, there⟩ := exists_dir_dropLast start
      exact ih there links'
  | dir plain down short there route ih =>
      rw [List.cons_append, follow_dir plain down short followLast there]
      exact ih there links'
  | file plain down short there isPlace isNode =>
      rw [List.cons_append, follow_cons followLast plain down, if_neg short, there]
      simp [beyond]
  | link plain down short there route ih =>
      obtain ⟨top', start'⟩ := exists_dir_linkStart _ start
      cases links' with
      | zero =>
          rw [List.cons_append, follow_cons followLast plain down, if_neg short, there]
          simp [beyond, jump]
      | succ fewer =>
          rw [List.cons_append, follow_link plain down short there (.inl (by simp [beyond])),
            ← List.append_assoc]
          exact ih start' fewer

/-! ## Entries that end in a file -/

/-- The entry of a row is a file or a link that leads to one. -/
inductive EndsIn (disk : Listing) (row place : List String) (data : FileData) : Prop
  | file (there : disk.at? row = some (.file data)) (same : place = row)
  | link {target : String} {links : Nat} (there : disk.at? row = some (.link target))
      (onwards : follow disk true links (linkStart target row.dropLast) (targetNames target) =
        .found place (.file data))

namespace EndsIn

theorem at?_ne_none (ends : EndsIn disk row place data) : disk.at? row ≠ none := by
  cases ends with
  | file there | link there => simp [there]

/-- What an entry ends in is there. -/
theorem at?_place (ends : EndsIn disk row place data) : disk.at? place = some (.file data) := by
  cases ends with
  | file there same => exact same ▸ there
  | link there onwards => exact at?_of_follow onwards

/-- An entry ends in one file only. -/
theorem unique {place' : List String} {data' : FileData} (ends : EndsIn disk row place data)
    (ends' : EndsIn disk row place' data') : place = place' ∧ data = data' := by
  cases ends with
  | file there same =>
      cases ends' with
      | file there' same' =>
          rw [there] at there'
          cases there'
          exact ⟨same.trans same'.symm, rfl⟩
      | link there' => simp [there] at there'
  | @link target links there onwards =>
      cases ends' with
      | file there' => simp [there] at there'
      | @link target' links' there' onwards' =>
          rw [there] at there'
          cases there'
          rw [← follow_more (Nat.le_max_left links links') (by simp [onwards])] at onwards
          rw [← follow_more (Nat.le_max_right links links') (by simp [onwards']), onwards] at onwards'
          cases onwards'
          exact ⟨rfl, rfl⟩

theorem isDeadEnd (ends : EndsIn disk row place data) : IsDeadEnd disk row := by
  cases ends with
  | file there => exact isDeadEnd_of_at?_file there
  | @link target links there onwards =>
      rcases List.eq_nil_or_concat row with rfl | ⟨front, last, rfl⟩
      · simp at there
      · rw [List.concat_eq_append] at there onwards ⊢
        obtain ⟨above, isDir⟩ := exists_dir_of_at?_append there (by simp)
        obtain ⟨top, start⟩ := exists_dir_linkStart target isDir
        simp only [IsDeadEnd, there]
        intro links' names place' inside
        rw [List.dropLast_concat] at onwards ⊢
        exact follow_beyond_file start onwards links' names place' inside

theorem ne_of_at?_none (ends : EndsIn disk row place data) (absent : disk.at? here = none) :
    here ≠ row := by
  intro same
  subst same
  exact ends.at?_ne_none absent

end EndsIn

/-- The entry that a path leads to ends in the file that is found if links are followed. -/
theorem Leads.endsIn {name : String} {end' : List String} (leads : Leads disk cwd path place name)
    (found : Disk.lookup disk cwd true path = .found end' (.file data)) :
    EndsIn disk (place ++ [name]) end' data := by
  cases there : disk.at? (place ++ [name]) with
  | none =>
      rw [leads.lookup_true (by simp [there]), leads.lookup, there] at found
      cases found
  | some node =>
      cases node with
      | file other =>
          rw [leads.lookup_true (by simp [there]), leads.lookup, there] at found
          cases found
          exact .file there rfl
      | dir inner =>
          rw [leads.lookup_true (by simp [there]), leads.lookup, there] at found
          cases found
      | link target =>
          obtain ⟨named, down⟩ := isEntryName_iff.1 leads.isEntryName
          obtain ⟨front, inside, names, here⟩ := leads.front
          obtain ⟨fewer, onwards⟩ := follow_append here
          unfold Disk.lookup at found
          rw [if_neg (Nat.not_lt.2 leads.short), names] at found
          change follow disk true linkLimit (lookupStart cwd path) (front ++ [name]) = _ at found
          rw [onwards true [name] (by simp), follow_cons true (ne_dot_of_isName named) down,
            if_neg (Nat.not_lt.2 leads.shortName), there] at found
          obtain ⟨left, -, beyond⟩ := jump_eq_found_iff.1 found
          rw [List.append_nil] at beyond
          exact .link there (by rwa [List.dropLast_concat])

theorem LeadsTo.endsIn {end' : List String} (leads : LeadsTo disk cwd path row)
    (found : Disk.lookup disk cwd true path = .found end' (.file data)) : EndsIn disk row end' data := by
  obtain ⟨place, name, rfl, leads⟩ := leads
  exact leads.endsIn found

/-! ## A file in the place of such an entry -/

/-- Names that lead through a link through which no directory is reached lead to a file only if they
end with the link. -/
theorem names_eq_nil_of_deadEnd {target name : String} (deadEnd : IsDeadEnd disk (here ++ [name]))
    (there : disk.at? (here ++ [name]) = some (.link target))
    (found : follow disk true links (linkStart target here) (targetNames target ++ names) =
      .found place (.file data)) : names = [] := by
  rcases List.eq_nil_or_concat names with none | ⟨front, last, rfl⟩
  · exact none
  · obtain ⟨above, isDir⟩ := exists_dir_of_at?_append there (by simp)
    obtain ⟨top, start⟩ := exists_dir_linkStart target isDir
    rw [List.concat_eq_append, ← List.append_assoc] at found
    have leads : ∀ code, follow disk true links (linkStart target here)
        (targetNames target ++ front ++ [last]) ≠ .failed code := by
      intro code
      rw [found]
      simp
    obtain ⟨end', inside, onwards⟩ := follow_front start leads
    simp only [IsDeadEnd, there, List.dropLast_concat] at deadEnd
    exact absurd onwards (deadEnd links front end' inside)

/-- Names that lead through a link that ends in a file come to that file if they end there, and
nothing is found beyond it. -/
theorem follow_through {target name : String} (ends : EndsIn disk (here ++ [name]) place data)
    (there : disk.at? (here ++ [name]) = some (.link target)) (links : Nat) (names : List String) :
    names = [] ∧ follow disk true links (linkStart target here) (targetNames target ++ names) =
        .found place (.file data) ∨
      names ≠ [] ∧ follow disk true links (linkStart target here) (targetNames target ++ names) =
        .failed SystemError.notDirectory ∨
      follow disk true links (linkStart target here) (targetNames target ++ names) =
        .failed SystemError.tooManyLinks := by
  cases ends with
  | file there' => simp [there] at there'
  | @link target' links' there' onwards =>
      rw [there] at there'
      cases there'
      rw [List.dropLast_concat] at onwards
      by_cases last : names = []
      · subst last
        rw [List.append_nil]
        by_cases settled : follow disk true links (linkStart target here) (targetNames target) =
            .failed SystemError.tooManyLinks
        · simp [settled]
        · rw [← follow_more (Nat.le_max_left links' links) (by simp [onwards]),
            follow_more (Nat.le_max_right links' links) settled] at onwards
          simp [onwards]
      · obtain ⟨above, isDir⟩ := exists_dir_of_at?_append there (by simp)
        obtain ⟨top, start⟩ := exists_dir_linkStart target isDir
        simpa [last] using follow_through_file start onwards last true links

/-- When only entries change through which no directory is reached, a path that led to a file leads to
the same one, or it led through an entry that has changed and ended in that file. -/
theorem follow_file_of_sameWays (ways : SameWays disk disk')
    (found : follow disk true links here names = .found place (.file data)) :
    follow disk' true links here names = .found place (.file data) ∨
      ∃ row, disk'.bareAt? row ≠ disk.bareAt? row ∧ EndsIn disk row place data ∧
        ∀ new, disk'.at? row = some (.file new) →
          follow disk' true links here names = .found row (.file new) := by
  rw [follow_eq_found_iff] at found
  induction found with
  | here there =>
      by_cases same : disk'.bareAt? place = disk.bareAt? place
      · left
        rw [follow_eq_walk, walk, at?_of_bareAt?_eq same rfl there]
      · refine .inr ⟨place, same, .file there rfl, ?_⟩
        intro new isNew
        rw [follow_eq_walk, walk, isNew]
  | dot route ih => simpa only [follow_dot] using ih
  | dots route ih => simpa only [follow_dots] using ih
  | dir plain down short there route ih =>
      obtain ⟨inner', still⟩ := exists_dir_of_sameWays ways there
      simpa only [follow_dir plain down short true still] using ih
  | @file links here name file plain down short there isPlace isNode =>
      cases isNode
      subst isPlace
      rw [follow_cons true plain down, if_neg short]
      by_cases same : disk'.bareAt? (here ++ [name]) = disk.bareAt? (here ++ [name])
      · simp [at?_of_bareAt?_eq same rfl there]
      · refine .inr ⟨here ++ [name], same, .file there rfl, ?_⟩
        intro new isNew
        simp [isNew]
  | @link links here names name target plain down short there route ih =>
      by_cases same : disk'.bareAt? (here ++ [name]) = disk.bareAt? (here ++ [name])
      · have still := at?_of_bareAt?_eq same rfl there
        simpa only [follow_link plain down short still (.inr rfl)] using ih
      · -- The link is a dead end, so that the path ends with it.
        have deadEnd := (ways (here ++ [name])).resolve_left same
        have onwards := follow_eq_found_iff.2 route
        obtain rfl := names_eq_nil_of_deadEnd deadEnd there onwards
        rw [List.append_nil] at onwards
        refine .inr ⟨here ++ [name], same, .link there (by rwa [List.dropLast_concat]), ?_⟩
        intro new isNew
        rw [follow_cons true plain down, if_neg short, isNew]
        exact if_pos rfl

/-- When an entry changes through which no directory is reached, a path that led to a file leads to the
same one, or it led through the entry, which ended in that file. -/
theorem follow_file_of_sets {entry : Option Node} (deadEnd : IsDeadEnd disk row)
    (sets : Sets disk row entry disk')
    (found : follow disk true links here names = .found place (.file data)) :
    follow disk' true links here names = .found place (.file data) ∧ place ≠ row ∨
      EndsIn disk row place data ∧ ∀ new, entry = some (.file new) →
        follow disk' true links here names = .found row (.file new) := by
  rcases follow_file_of_sameWays (sets.sameWays deadEnd) found with
    same | ⟨other, changed, ends, onwards⟩
  · by_cases isRow : place = row
    · refine .inr ⟨.file (isRow ▸ at?_of_follow found) isRow, ?_⟩
      rintro new rfl
      have there := sets.here
      rw [← isRow, at?_of_follow same] at there
      cases there
      exact isRow ▸ same
    · exact .inl ⟨same, isRow⟩
  · obtain rfl : other = row := Decidable.byContradiction fun ne => changed (sets.elsewhere other ne)
    exact .inr ⟨ends, fun new isNew => onwards new (sets.here.trans isNew)⟩

/-- A path that led nowhere fails in the same way, unless it met too many links. -/
theorem follow_missing_of_sets (ends : EndsIn disk row place data)
    (sets : Sets disk row (some (.file new)) disk')
    (missing : ∀ end' node, follow disk true links here names ≠ .found end' node)
    (settled : follow disk true links here names ≠ .failed SystemError.tooManyLinks) :
    follow disk' true links here names = follow disk true links here names := by
  induction links, here, names using follow_induction with
  | nil links here =>
      rw [follow_eq_walk, walk] at missing ⊢
      rw [follow_eq_walk, walk]
      cases there : disk.at? here with
      | some node => exact absurd (by rw [there]) (missing here node)
      | none =>
          have still := sets.elsewhere here (ends.ne_of_at?_none there)
          rw [bareAt?_eq_none_iff.2 there, bareAt?_eq_none_iff] at still
          rw [still]
  | dot links here names ih =>
      rw [follow_dot] at missing settled ⊢
      rw [follow_dot]
      exact ih missing settled
  | dots links here names ih =>
      rw [follow_dots] at missing settled ⊢
      rw [follow_dots]
      exact ih missing settled
  | name links here name names plain down ih next =>
      rw [follow_cons true plain down] at missing settled ⊢
      rw [follow_cons true plain down]
      split
      · rfl
      · next short =>
          rw [if_neg short] at missing settled
          cases there : disk.at? (here ++ [name]) with
          | none =>
              have still := sets.elsewhere _ (ends.ne_of_at?_none there)
              rw [bareAt?_eq_none_iff.2 there, bareAt?_eq_none_iff] at still
              rw [still]
          | some node =>
              simp only [there] at missing settled ⊢
              cases node with
              | dir inner =>
                  obtain ⟨inner', still⟩ :=
                    exists_dir_of_sameWays (sets.sameWays ends.isDeadEnd) there
                  rw [still]
                  exact ih missing settled
              | file file =>
                  by_cases last : names = []
                  · exact absurd (if_pos last) (missing _ _)
                  · by_cases same : here ++ [name] = row
                    · simp [same, sets.here, last]
                    · have still := at?_of_bareAt?_eq (sets.elsewhere _ same) rfl there
                      simp [still, last]
              | link target =>
                  simp only [Bool.not_true, Bool.and_false, Bool.false_eq_true, ↓reduceIte]
                    at missing settled ⊢
                  cases links with
                  | zero => exact absurd rfl settled
                  | succ fewer =>
                      simp only [jump] at missing settled ⊢
                      by_cases same : here ++ [name] = row
                      · subst same
                        rcases follow_through ends there fewer names with
                          ⟨-, ended⟩ | ⟨beyond, failed⟩ | failed
                        · exact absurd ended (missing _ _)
                        · simp [failed, sets.here, beyond]
                        · exact absurd failed settled
                      · have still := at?_of_bareAt?_eq (sets.elsewhere _ same) rfl there
                        simp only [still]
                        exact next fewer rfl _ _ missing settled

/-! ## What paths lead to -/

theorem lookup_of_stat_error {code : Nat} (failed : stat disk cwd path = .error code) :
    lookup disk cwd true path = .failed code ∨
      code = SystemError.noEntry ∧ ∃ names name, lookup disk cwd true path = .absent names name := by
  rw [stat] at failed
  split at failed
  · contradiction
  · next names name absent =>
      cases failed
      exact .inr ⟨rfl, names, name, absent⟩
  · next other leads =>
      cases failed
      exact .inl leads

theorem stat_of_lookup {node : Node} (found : lookup disk cwd true path = .found place node) :
    stat disk cwd path = .ok node := by
  rw [stat, found]

/-- A path that led to a directory leads to it. -/
theorem lookup_dir_of_sameWays {inside : Listing} (ways : SameWays disk disk')
    (found : lookup disk cwd true path = .found place (.dir inside)) :
    ∃ inside', lookup disk' cwd true path = .found place (.dir inside') := by
  rw [lookup] at found ⊢
  split at found
  · contradiction
  · next short =>
      rw [if_neg short]
      exact follow_of_sameWays ways found

/-- Following a link to the end does not end with a link. -/
theorem follow_ne_link {top : Listing} {target : String} (start : disk.at? here = some (.dir top)) :
    follow disk true links here names ≠ .found place (.link target) := by
  rw [Ne, follow_eq_found_iff]
  intro route
  induction route generalizing top with
  | here there =>
      rw [there] at start
      cases start
  | dot route ih => exact ih start
  | dots route ih =>
      obtain ⟨above, there⟩ := exists_dir_dropLast start
      exact ih there
  | dir plain down short there route ih => exact ih there
  | file plain down short there isPlace isNode => cases isNode
  | link plain down short there route ih =>
      obtain ⟨top', start'⟩ := exists_dir_linkStart _ start
      exact ih start'

/-- A path to a name in a directory does not lead to a link in the end. -/
theorem LeadsTo.stat_ne_link {target : String} (leads : LeadsTo disk cwd path row) :
    stat disk cwd path ≠ .ok (.link target) := by
  obtain ⟨place, name, rfl, leads⟩ := leads
  intro isLink
  obtain ⟨end', found⟩ := lookup_of_stat isLink
  obtain ⟨front, inside, names, here⟩ := leads.front
  obtain ⟨fewer, onwards⟩ := follow_append here
  rw [Disk.lookup, if_neg (Nat.not_lt.2 leads.short), names] at found
  change follow disk true linkLimit (lookupStart cwd path) (front ++ [name]) = _ at found
  rw [onwards true [name] (by simp)] at found
  exact follow_ne_link (at?_of_follow here) found

/-- When dead ends change, a path that led to a file leads to the same one, or it led through an entry that
has changed and ended in that file. -/
theorem lookup_file_of_sameWays (ways : SameWays disk disk')
    (found : lookup disk cwd true path = .found place (.file data)) :
    lookup disk' cwd true path = .found place (.file data) ∨
      ∃ row, disk'.bareAt? row ≠ disk.bareAt? row ∧ EndsIn disk row place data := by
  rw [lookup] at found ⊢
  split at found
  · contradiction
  · next short =>
      rw [if_neg short]
      rcases follow_file_of_sameWays ways found with same | ⟨row, changed, ends, -⟩
      · exact .inl same
      · exact .inr ⟨row, changed, ends⟩

/-- A path that led to a file leads to the same one, or it led through the entry that has changed. -/
theorem lookup_file_of_sets {entry : Option Node} (deadEnd : IsDeadEnd disk row)
    (sets : Sets disk row entry disk')
    (found : lookup disk cwd true path = .found place (.file data)) :
    lookup disk' cwd true path = .found place (.file data) ∧ place ≠ row ∨
      EndsIn disk row place data ∧ ∀ new, entry = some (.file new) →
        lookup disk' cwd true path = .found row (.file new) := by
  rw [lookup] at found ⊢
  split at found
  · contradiction
  · next short =>
      rw [if_neg short]
      exact follow_file_of_sets deadEnd sets found

/-- A path that the system did not find leads nowhere in the same way. -/
theorem stat_error_of_sets {code : Nat} (ends : EndsIn disk row place data)
    (sets : Sets disk row (some (.file new)) disk') (failed : stat disk cwd path = .error code)
    (settled : code ≠ SystemError.tooManyLinks) : stat disk' cwd path = .error code := by
  have same : lookup disk' cwd true path = lookup disk cwd true path := by
    have looked := lookup_of_stat_error failed
    rw [lookup] at looked
    rw [lookup, lookup]
    split
    · rfl
    · next short =>
        rw [if_neg short] at looked
        apply follow_missing_of_sets ends sets
        · intro end' node found
          simp [found] at looked
        · intro many
          rw [many] at looked
          simp [Ne.symm settled] at looked
  rw [stat, same]
  exact failed

end Enhance.Disk
