import Enhance.Proofs.Disk.Through

/-!
# Entries that are taken away

A path to an entry that is no directory may lead through that entry, which is then a link.  When the
entry is taken away, such a path leads nowhere; every other path to it leads to the free place
(`Leads.of_taken`).  So what removing a file or moving it comes to can be said of every path, whether or
not its entry is a leaf (`leads_of_unlink`, `leads_of_rename`).
-/

namespace Enhance.Disk

open Listing

variable {disk disk' : Listing} {here place row front names rest cwd : List String} {links : Nat}
  {followLast : Bool} {entry node : Node} {data : FileData} {path target : Path} {name last : String}

/-! ## Names that lead to an entry -/

/-- Names whose last one is that of an entry lead to it by way of its directory. -/
theorem follow_front_of_found (plain : last ≠ ".") (down : last ≠ "..")
    (found : follow disk followLast links here (front ++ [last]) = .found place node) :
    ∃ place inside, follow disk true links here front = .found place (.dir inside) := by
  revert found
  induction links, here, front using follow_induction with
  | nil links here =>
      rw [List.nil_append, follow_cons followLast plain down]
      intro found
      have isThere : disk.at? (here ++ [last]) ≠ none := by
        intro absent
        rw [absent] at found
        split at found <;> contradiction
      obtain ⟨other, there⟩ := Option.ne_none_iff_exists'.1 isThere
      obtain ⟨inside, start⟩ := exists_dir_of_at?_append there (by simp)
      exact ⟨here, inside, follow_nil true start⟩
  | dot links here names ih =>
      rw [List.cons_append, follow_dot, follow_dot]
      exact ih
  | dots links here names ih =>
      rw [List.cons_append, follow_dots, follow_dots]
      exact ih
  | name links here name names plain' down' ih next =>
      rw [List.cons_append, follow_cons followLast plain' down', follow_cons true plain' down']
      intro found
      split at found
      · contradiction
      · next short =>
          rw [if_neg short]
          split at found
          · split at found <;> contradiction
          · exact ih found
          · split at found
            · next none => simp at none
            · contradiction
          · next target there =>
              simp only [List.append_eq_nil_iff, List.cons_ne_self, and_false, decide_false,
                Bool.false_and, Bool.false_eq_true, ↓reduceIte, ← List.append_assoc] at found
              obtain ⟨fewer, same, found⟩ := jump_eq_found_iff.1 found
              subst same
              simpa [jump] using next fewer rfl _ _ found

/-- A path that is found leads to its last name. -/
theorem leads_of_found (names : path.names = front ++ [name]) (down : name ≠ "..")
    (found : lookup disk cwd followLast path = .found row node) :
    ∃ place, Leads disk cwd path place name := by
  have named : isName name = true := path.proper name (by simp [names])
  obtain ⟨short, shortNames⟩ := fits_of_lookup found
  rw [lookup, if_neg (Nat.not_lt.2 short), names] at found
  obtain ⟨place, inside, above⟩ := follow_front_of_found (ne_dot_of_isName named) down found
  exact ⟨place, short, shortNames name (by simp [names]), isEntryName_iff.2 ⟨named, down⟩, front, inside,
    names, above⟩

/-- Following a link at the end makes a difference only if there is one. -/
theorem follow_true_eq
    (plain : ∀ row target, follow disk false links here names ≠ .found row (.link target)) :
    follow disk true links here names = follow disk false links here names := by
  induction links, here, names using follow_induction with
  | nil links here =>
      rw [follow_eq_walk, follow_eq_walk, walk, walk]
  | dot links here names ih =>
      rw [follow_dot] at plain ⊢
      rw [follow_dot]
      exact ih plain
  | dots links here names ih =>
      rw [follow_dots] at plain ⊢
      rw [follow_dots]
      exact ih plain
  | name links here name names plain' down ih next =>
      rw [follow_cons false plain' down] at plain ⊢
      rw [follow_cons true plain' down]
      split
      · rfl
      · next short =>
          rw [if_neg short] at plain
          cases there : disk.at? (here ++ [name]) with
          | none => rfl
          | some node =>
              simp only [there] at plain
              cases node with
              | file data => rfl
              | dir inside => exact ih plain
              | link target =>
                  by_cases ends : names = []
                  · exact absurd (by simp [ends]) (plain (here ++ [name]) target)
                  · simp only [ends, decide_false, Bool.false_and, Bool.false_eq_true, ↓reduceIte]
                      at plain ⊢
                    cases links with
                    | zero => rfl
                    | succ fewer => exact next fewer rfl _ _ plain

/-- A name that is free is not found either if links are followed. -/
theorem lookup_true_of_absent (absent : lookup disk cwd false path = .absent place name) :
    lookup disk cwd true path = .absent place name := by
  rw [lookup] at absent ⊢
  split at absent
  · contradiction
  · next short =>
      rw [if_neg short, follow_true_eq (by simp [absent]), absent]

/-! ## An entry that is taken away -/

/-- When an entry is taken away, names that led to a directory still do, or they led through the entry
and lead nowhere. -/
theorem follow_of_taken {inside : Listing} (there : disk.at? row = some entry)
    (plain : entry.isDir = false) (sets : Sets disk row none disk')
    (found : follow disk true links here names = .found place (.dir inside)) :
    (∃ inside', follow disk' true links here names = .found place (.dir inside')) ∨
      ∀ followLast rest, rest ≠ [] →
        follow disk' followLast links here (names ++ rest) = .failed SystemError.noEntry := by
  have stays {other : List String} {inner : Listing} (isDir : disk.at? other = some (.dir inner)) :
      ∃ inner', disk'.at? other = some (.dir inner') := by
    have ne : other ≠ row := by
      rintro rfl
      rw [there] at isDir
      cases isDir
      contradiction
    rw [← bareAt?_eq_dir_iff, sets.elsewhere other ne, bareAt?_eq_dir_iff]
    exact ⟨inner, isDir⟩
  rw [follow_eq_found_iff] at found
  induction found with
  | here isDir =>
      obtain ⟨inside', isDir'⟩ := stays isDir
      exact .inl ⟨inside', follow_nil true isDir'⟩
  | dot route ih => simpa only [List.cons_append, follow_dot] using ih
  | dots route ih => simpa only [List.cons_append, follow_dots] using ih
  | dir plain' down short isDir route ih =>
      obtain ⟨inner', isDir'⟩ := stays isDir
      simpa only [List.cons_append, follow_dir plain' down short _ isDir'] using ih
  | file plain' down short isFile isPlace isNode => cases isNode
  | @link links here names name target plain' down short isLink route ih =>
      by_cases isRow : here ++ [name] = row
      · right
        intro followLast rest more
        rw [List.cons_append, follow_cons followLast plain' down, if_neg short, isRow, sets.here]
        simp [more]
      · have still : disk'.at? (here ++ [name]) = some (.link target) :=
          at?_of_bareAt?_eq (sets.elsewhere _ isRow) rfl isLink
        apply ih.imp
        · simp only [follow_link plain' down short still (.inr rfl), imp_self]
        · intro nowhere followLast rest more
          rw [List.cons_append, follow_link plain' down short still (.inl (by simp [more])),
            ← List.append_assoc]
          exact nowhere followLast rest more

/-- When an entry is taken away, a path to a name still leads there, or it led through the entry and
leads nowhere. -/
theorem Leads.of_taken (leads : Leads disk cwd path place name) (there : disk.at? row = some entry)
    (plain : entry.isDir = false) (sets : Sets disk row none disk') :
    Leads disk' cwd path place name ∨
      ∀ followLast, Disk.lookup disk' cwd followLast path = .failed SystemError.noEntry := by
  obtain ⟨front, inside, names, found⟩ := leads.front
  apply (follow_of_taken there plain sets found).imp
  · rintro ⟨inside', found'⟩
    exact ⟨leads.short, leads.shortName, leads.isEntryName, front, inside', names, found'⟩
  · intro nowhere followLast
    rw [Disk.lookup, if_neg (Nat.not_lt.2 leads.short), names]
    exact nowhere followLast [name] (by simp)

/-- Names that led to a file lead to a free place when the file is taken away.  They begin in a directory
or end with the name of an entry, so that they do not begin and end at the file itself. -/
theorem follow_absent_of_taken (there : disk.at? row = some (.file data))
    (sets : Sets disk row none disk')
    (start : (∃ top, disk.at? here = some (.dir top)) ∨
      ∃ last, names.getLast? = some last ∧ last ≠ "." ∧ last ≠ "..")
    (found : follow disk true links here names = .found row (.file data)) :
    ∃ place name, row = place ++ [name] ∧ follow disk' true links here names = .absent place name := by
  have ways : SameWays disk disk' := sets.sameWays (isDeadEnd_of_at?_file there)
  have ends {first last : String} {names : List String} (ne : last ≠ first)
      (isLast : (first :: names).getLast? = some last) : names.getLast? = some last := by
    cases names with
    | nil => exact absurd (Option.some.inj isLast).symm ne
    | cons => simpa using isLast
  rw [follow_eq_found_iff] at found
  induction found with
  | here isFile =>
      obtain ⟨top, isDir⟩ := start.resolve_right (by simp)
      rw [isFile] at isDir
      cases isDir
  | dot route ih =>
      rw [follow_dot]
      apply ih
      apply start.imp_right
      intro ⟨last, isLast, plain, down⟩
      exact ⟨last, ends plain isLast, plain, down⟩
  | dots route ih =>
      rw [follow_dots]
      apply ih
      apply start.imp
      · intro ⟨top, isDir⟩
        exact exists_dir_dropLast isDir
      · intro ⟨last, isLast, plain, down⟩
        exact ⟨last, ends down isLast, plain, down⟩
  | dir plain down short isDir route ih =>
      obtain ⟨inner', isDir'⟩ := exists_dir_of_sameWays ways isDir
      rw [follow_dir plain down short true isDir']
      exact ih (.inl ⟨_, isDir⟩)
  | @file links here name file plain down short isFile isPlace isNode =>
      refine ⟨here, name, isPlace.symm, ?_⟩
      rw [follow_cons true plain down, if_neg short, isPlace, sets.here]
      exact if_pos rfl
  | @link links here names name target plain down short isLink route ih =>
      have ne : here ++ [name] ≠ row := by
        rintro rfl
        rw [there] at isLink
        cases isLink
      have still : disk'.at? (here ++ [name]) = some (.link target) :=
        at?_of_bareAt?_eq (sets.elsewhere _ ne) rfl isLink
      obtain ⟨above, isDir⟩ := exists_dir_of_at?_append isLink (by simp)
      rw [follow_link plain down short still (.inr rfl)]
      exact ih (.inl (exists_dir_linkStart target isDir))

/-- A path that led to a file leads to a free place when the file is taken away. -/
theorem Leads.absent_of_taken (leads : Leads disk cwd path place name)
    (found : Disk.lookup disk cwd true path = .found row (.file data))
    (sets : Sets disk row none disk') :
    ∃ place name, row = place ++ [name] ∧
      Disk.lookup disk' cwd true path = .absent place name := by
  obtain ⟨named, down⟩ := isEntryName_iff.1 leads.isEntryName
  obtain ⟨front, inside, names, -⟩ := leads.front
  have there := at?_of_lookup found
  rw [Disk.lookup, if_neg (Nat.not_lt.2 leads.short), names] at found ⊢
  apply follow_absent_of_taken there sets _ found
  exact .inr ⟨name, by simp, ne_dot_of_isName named, down⟩

/-- What a path to an entry leads to is still there when the contents of a file change. -/
theorem exists_lookup_of_sets {new : FileData} (names : path.names = front ++ [name]) (down : name ≠ "..")
    (there : disk.at? row = some (.file data)) (sets : Sets disk row (some (.file new)) disk')
    (found : lookup disk cwd true path = .found place node) :
    ∃ place node, lookup disk' cwd true path = .found place node := by
  have deadEnd : IsDeadEnd disk row := isDeadEnd_of_at?_file there
  cases node with
  | file other =>
      rcases lookup_file_of_sets deadEnd sets found with ⟨same, -⟩ | ⟨-, onwards⟩
      · exact ⟨_, _, same⟩
      · exact ⟨_, _, onwards new rfl⟩
  | dir inside =>
      obtain ⟨inside', found'⟩ := lookup_dir_of_sameWays (sets.sameWays deadEnd) found
      exact ⟨_, _, found'⟩
  | link other =>
      obtain ⟨above, leads⟩ := leads_of_found names down found
      exact absurd (stat_of_lookup found) (LeadsTo.stat_ne_link ⟨above, name, rfl, leads⟩)

/-- A path leads through the entry that it leads to: without the entry it leads nowhere. -/
def LeadsThrough (disk : Listing) (cwd : List String) (path : Path) (row : List String) : Prop :=
  ∀ disk', Sets disk row none disk' → lookup disk' cwd false path = .failed SystemError.noEntry

/-- A path to an entry that becomes a file leads to the file, unless it led through the entry. -/
theorem LeadsTo.of_replaced {old : Node} (leads : LeadsTo disk cwd path row)
    (there : disk.at? row = some old) (plain : old.isDir = false)
    (sets : Sets disk row (some (.file data)) disk') :
    LeadsTo disk' cwd path row ∨ LeadsThrough disk cwd path row := by
  by_cases still : LeadsTo disk' cwd path row
  · exact .inl still
  · right
    intro taken takes
    obtain ⟨place, name, isRow, way⟩ := leads
    rcases way.of_taken there plain takes with free | nowhere
    · have puts : Sets taken row (some (.file data)) disk' :=
        ⟨sets.here, fun other ne => (sets.elsewhere other ne).trans (takes.elsewhere other ne).symm⟩
      have deadEnd : IsDeadEnd taken row := isDeadEnd_of_at?_none takes.here
      exact absurd ⟨place, name, isRow, free.of_sameWays (puts.sameWays deadEnd)⟩ still
    · exact nowhere false

/-! ## The calls of the system -/

theorem exists_last_of_namesNoEntry (named : namesNoEntry path = false) :
    ∃ front name, path.names = front ++ [name] ∧ name ≠ ".." := by
  rcases List.eq_nil_or_concat path.names with none | ⟨front, name, names⟩
  · simp [namesNoEntry, none] at named
  · rw [List.concat_eq_append] at names
    exact ⟨front, name, names, by simpa [namesNoEntry, names] using named⟩

/-- What is removed is an entry of a directory and no directory itself. -/
theorem leads_of_unlink (done : unlink disk cwd path = .ok disk') :
    ∃ place name node, Leads disk cwd path place name ∧ disk.at? (place ++ [name]) = some node ∧
      node.isDir = false ∧ Sets disk (place ++ [name]) none disk' := by
  rw [unlink] at done
  split at done
  · next row node found =>
      split at done
      · contradiction
      · next allowed =>
          rw [Bool.or_eq_true, not_or, Bool.not_eq_true, Bool.not_eq_true] at allowed
          obtain ⟨front, name, names, down⟩ := exists_last_of_namesNoEntry allowed.2
          obtain ⟨place, leads⟩ := leads_of_found names down found
          have there := at?_of_lookup found
          rw [leads.lookup] at found
          split at found
          · contradiction
          · cases found
            have noDir (inner : Listing) : disk.at? (place ++ [name]) ≠ some (.dir inner) := by
              intro isDir
              rw [there] at isDir
              cases isDir
              simp [Node.isDir] at allowed
            obtain ⟨inside, above⟩ := leads.exists_dir
            rw [List.getLast?_concat, List.dropLast_concat] at done
            cases done
            exact ⟨place, name, node, leads, there, allowed.1, sets_take above noDir⟩
  · contradiction
  · contradiction

/-- A file that is moved comes to a name in a directory. -/
theorem leads_of_rename (done : rename disk cwd path target = .ok disk') :
    ∃ front name, target.names = front ++ [name] ∧ name ≠ ".." ∧
      ((∃ row node, lookup disk cwd false target = .found row node ∧ node.isDir = false) ∨
        ∃ place name, lookup disk cwd false target = .absent place name) := by
  rw [rename] at done
  split at done
  · split at done
    · split at done <;> contradiction
    · next named =>
        rw [Bool.not_eq_true] at named
        obtain ⟨front, name, names, down⟩ := exists_last_of_namesNoEntry named
        refine ⟨front, name, names, down, ?_⟩
        split at done
        · next old isOld =>
            split at done
            · contradiction
            · next plain =>
                rw [Bool.not_eq_true] at plain
                exact .inl ⟨_, _, isOld, plain⟩
        · next isNew => exact .inr ⟨_, _, isNew⟩
        · contradiction
        · contradiction
  · contradiction
  · contradiction

/-- Nothing changes when an entry is moved to its own place. -/
theorem eq_of_rename_same {other : Node} (source : lookup disk cwd false path = .found row node)
    (found : lookup disk cwd false target = .found row other)
    (done : rename disk cwd path target = .ok disk') : disk' = disk := by
  rw [rename, source, found] at done
  dsimp only at done
  split at done
  · contradiction
  · split at done
    · next old isOld =>
        cases isOld
        split at done
        · contradiction
        · rw [if_pos rfl] at done
          cases done
          rfl
    · next isAbsent => cases isAbsent
    · contradiction
    · contradiction

end Enhance.Disk
