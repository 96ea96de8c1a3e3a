import Enhance.Proofs.Disk.Leaf
import Enhance.Proofs.Lawful
import Enhance.Proofs.Path
import Enhance.Replacement

/-!
# What writing a class file does

Writing a class file changes what its path leads to and nothing else, but for a temporary file that
the system does not let be removed (`WriteStrategy.write_ok`).  Under the atomic strategy a class file
that could not be written is as it was.
-/

namespace Enhance

open Program

/-- A change of a world in which a single row of names comes to lead to something else. -/
structure World.Sets (before : World) (row : List String) (entry : Option Node) (after : World) :
    Prop where
  disk : Disk.Sets before.disk row entry after.disk
  cwd : after.cwd = before.cwd
  stranded : after.stranded = before.stranded

namespace World.Sets

variable {before middle after : World} {row : List String} {first entry : Option Node}

theorem trans (one : before.Sets row first middle) (two : middle.Sets row entry after) :
    before.Sets row entry after :=
  ⟨one.disk.trans two.disk, two.cwd.trans one.cwd, two.stranded.trans one.stranded⟩

theorem after_quiet (quiet : before.Quiet middle) (sets : middle.Sets row entry after) :
    before.Sets row entry after :=
  ⟨quiet.disk ▸ sets.disk, sets.cwd.trans quiet.cwd, sets.stranded.trans quiet.stranded⟩

theorem before_quiet (sets : before.Sets row entry middle) (quiet : middle.Quiet after) :
    before.Sets row entry after :=
  ⟨quiet.disk ▸ sets.disk, quiet.cwd.trans sets.cwd, quiet.stranded.trans sets.stranded⟩

end World.Sets

/-- A path leads to a leaf of the files of a world. -/
abbrev World.Leaf (world : World) (path : Path) (row : List String) : Prop :=
  Disk.Leaf world.disk world.cwd path row

namespace World.Leaf

variable {before after : World} {path : Path} {row : List String} {data : FileData}

theorem after_quiet (leaf : before.Leaf path row) (quiet : before.Quiet after) :
    after.Leaf path row := by
  rw [World.Leaf, quiet.disk, quiet.cwd]
  exact leaf

theorem of_sets_file (leaf : before.Leaf path row)
    (sets : before.Sets row (some (.file data)) after) : after.Leaf path row := by
  rw [World.Leaf, sets.cwd]
  exact Disk.Leaf.of_sets_file leaf sets.disk

theorem of_sets_none (leaf : before.Leaf path row) (sets : before.Sets row none after) :
    after.Leaf path row := by
  rw [World.Leaf, sets.cwd]
  exact Disk.Leaf.of_sets_none leaf sets.disk

end World.Leaf

namespace Temporary

/-- Whether a name has the marks of the names of temporary files. -/
def isMarked (name : String) : Bool :=
  front.toList.isPrefixOf name.toList && back.toList.isSuffixOf name.toList

theorem toList_nameOf (n : Nat) :
    ∃ digits : List Char, (∀ c ∈ digits, c.isDigit = true) ∧
      (nameOf n).toList = front.toList ++ digits ++ back.toList := by
  refine ⟨List.replicate (8 - (Nat.toDigits 10 n).length) '0' ++ Nat.toDigits 10 n, ?_, ?_⟩
  · intro c member
    rcases List.mem_append.1 member with zero | digit
    · rw [List.eq_of_mem_replicate zero]
      rfl
    · exact Nat.isDigit_of_mem_toDigits (by decide) (by decide) digit
  · simp [nameOf]

theorem isMarked_nameOf (n : Nat) : isMarked (nameOf n) = true := by
  obtain ⟨digits, -, text⟩ := toList_nameOf n
  rw [isMarked, text, Bool.and_eq_true, List.isPrefixOf_iff_prefix, List.isSuffixOf_iff_suffix]
  exact ⟨⟨digits ++ back.toList, by simp⟩, ⟨front.toList ++ digits, rfl⟩⟩

/-- A temporary file has a name that an entry of a directory can have. -/
theorem isEntryName_nameOf (n : Nat) : isEntryName (nameOf n) = true := by
  obtain ⟨digits, areDigits, text⟩ := toList_nameOf n
  have noSlash : '/' ∉ digits := by
    intro member
    exact absurd (areDigits _ member) (by decide)
  have first : (nameOf n).toList = '.' :: 'w' :: ("eaver-".toList ++ digits ++ back.toList) := text
  rw [Disk.isEntryName_iff]
  constructor
  · rw [Enhance.isName, text]
    simp [front, back, noSlash]
  · intro same
    rw [same] at first
    simp at first

end Temporary

namespace Replacement

variable {path temporary : Path} {row : List String} {world after : World} {node : Node}
  {data : FileData} {bytes : List UInt8} {failure : Failure} {answer : Unit}

/-! ## Single steps -/

/-- A call about a path that sets a leaf. -/
theorem change_sets {entry : Option Node} {change : Listing → List String → Except Nat Listing}
    (sets : ∃ disk, change world.disk world.cwd = .ok disk ∧ Disk.Sets world.disk row entry disk)
    (done : Program.change path change world = .ok answer after) : world.Sets row entry after := by
  obtain ⟨disk, changed, rfl⟩ := change_ok done
  obtain ⟨disk', changed', sets⟩ := sets
  rw [changed'] at changed
  cases changed
  exact ⟨sets, rfl, rfl⟩

/-- A call about a path that sets a leaf, after the faults were asked. -/
theorem strike_change_ok {call : SystemCall} {name : Option String} {entry : Option Node}
    {change : Listing → List String → Except Nat Listing}
    (sets : ∃ disk, change world.disk world.cwd = .ok disk ∧ Disk.Sets world.disk row entry disk)
    (done : (do Program.strike call name; Program.change path change) world = .ok answer after) :
    world.Sets row entry after := by
  obtain ⟨_, struck, asked, done⟩ := bind_ok.1 done
  have quiet := (strike_quiet _ _).of_ok asked
  rw [← quiet.disk, ← quiet.cwd] at sets
  exact .after_quiet quiet (change_sets sets done)

theorem strike_change_error {call : SystemCall} {name : Option String}
    {change : Listing → List String → Except Nat Listing}
    (failed : (do Program.strike call name; Program.change path change) world =
      .error failure after) : world.Silent after := by
  rcases bind_error.1 failed with struck | ⟨_, struck, asked, failed⟩
  · exact (strike_silent _ _).of_error struck
  · obtain rfl := change_error failed
    exact (strike_silent _ _).of_ok asked

theorem remove_ok (leaf : world.Leaf path row) (there : world.disk.at? row = some node)
    (done : remove path world = .ok answer after) : world.Sets row none after :=
  strike_change_ok (leaf.unlink there) done

theorem remove_error (failed : remove path world = .error failure after) : world.Silent after :=
  strike_change_error failed

theorem makeAnew_ok (leaf : world.Leaf path row) (absent : world.disk.at? row = none)
    (done : makeAnew path world = .ok answer after) :
    world.Sets row (some (.file ⟨[], Disk.defaultMode, true⟩)) after :=
  strike_change_ok (leaf.create absent _) done

theorem makeAnew_error (failed : makeAnew path world = .error failure after) :
    world.Silent after :=
  strike_change_error failed

theorem writeAll_ok (leaf : world.Leaf path row) (there : world.disk.at? row = some (.file data))
    (done : writeAll path bytes world = .ok answer after) :
    world.Sets row (some (.file ⟨bytes, data.mode, true⟩)) after := by
  obtain ⟨_, middle, changed, struck⟩ := bind_ok.1 done
  exact (change_sets (leaf.write there bytes) changed).before_quiet
    ((strike_quiet _ _).of_ok struck)

/-- A file whose bytes could not be written or stored is still a file, with none or all of the bytes. -/
theorem writeAll_error (leaf : world.Leaf path row)
    (there : world.disk.at? row = some (.file data))
    (failed : writeAll path bytes world = .error failure after) :
    ∃ data', (data' = data ∨ data' = ⟨bytes, data.mode, true⟩) ∧
      world.Sets row (some (.file data')) after := by
  rcases bind_error.1 failed with changed | ⟨_, middle, changed, struck⟩
  · obtain rfl := change_error changed
    exact ⟨data, .inl rfl, ⟨there, fun _ _ => rfl⟩, rfl, rfl⟩
  · exact ⟨_, .inr rfl, (change_sets (leaf.write there bytes) changed).before_quiet
      ((strike_quiet _ _).of_error struck)⟩

/-- Giving a file the permissions of another one leaves it a file with these bytes. -/
theorem copyMode_ok {source : Path} (leaf : world.Leaf path row)
    (there : world.disk.at? row = some (.file data))
    (done : copyMode source path world = .ok answer after) :
    ∃ mode, Disk.modeOf world.disk world.cwd source = .ok mode ∧
      world.Sets row (some (.file { data with mode })) after := by
  obtain ⟨_, struck, asked, done⟩ := bind_ok.1 done
  have quiet := (strike_quiet _ _).of_ok asked
  obtain ⟨mode, found, answered, changed⟩ := bind_ok.1 done
  obtain ⟨told, rfl⟩ := ask_ok.1 answered
  have sets := leaf.setMode there mode
  rw [← quiet.disk, ← quiet.cwd] at sets
  refine ⟨mode, ?_, .after_quiet quiet (change_sets sets changed)⟩
  rw [quiet.disk, quiet.cwd] at told
  split at told
  · contradiction
  · cases asks : Disk.modeOf world.disk world.cwd source with
    | ok found =>
        rw [asks] at told
        cases told
        rfl
    | error code =>
        rw [asks] at told
        contradiction

theorem copyMode_error {source : Path}
    (failed : copyMode source path world = .error failure after) : world.Silent after := by
  rcases bind_error.1 failed with struck | ⟨_, struck, asked, failed⟩
  · exact (strike_silent _ _).of_error struck
  · apply ((strike_silent _ _).of_ok asked).trans
    rcases bind_error.1 failed with asking | ⟨mode, found, answered, changing⟩
    · exact (ask_silent _).of_error asking
    · obtain rfl := change_error changing
      exact (ask_silent _).of_ok answered

/-- Renaming the temporary file takes it out of its place and then sets what the path leads to. -/
theorem replace_ok {row' : List String} (leaf : world.Leaf temporary row)
    (leads : Disk.LeadsTo world.disk world.cwd path row')
    (there : world.disk.at? row = some (.file data)) (there' : world.disk.at? row' = some node)
    (plain : node.isDir = false) (ne : row' ≠ row)
    (done : replace temporary path world = .ok answer after) :
    ∃ middle, world.Sets row none middle ∧ middle.Sets row' (some (.file data)) after := by
  obtain ⟨_, struck, asked, done⟩ := bind_ok.1 done
  have quiet := (strike_quiet _ _).of_ok asked
  obtain ⟨disk, disk', renamed, takes, sets⟩ := leaf.rename leads there there' plain ne
  obtain ⟨last, altered, rfl⟩ := alter_ok.1 done
  split at altered
  · contradiction
  · rw [quiet.disk, quiet.cwd, renamed] at altered
    cases altered
    exact ⟨{ world with disk }, ⟨takes, rfl, rfl⟩, ⟨sets, quiet.cwd, quiet.stranded⟩⟩

theorem replace_error (failed : replace temporary path world = .error failure after) :
    world.Silent after := by
  rcases bind_error.1 failed with struck | ⟨_, struck, asked, failed⟩
  · exact (strike_silent _ _).of_error struck
  · obtain ⟨-, rfl⟩ := alter_error.1 failed
    exact (strike_silent _ _).of_ok asked

theorem makeTemporary_error (failed : makeTemporary path world = .error failure after) :
    world.Silent after := by
  rcases bind_error.1 failed with struck | ⟨_, struck, asked, failed⟩
  · exact (strike_silent _ _).of_error struck
  · rw [get_bind] at failed
    rcases bind_error.1 failed with making | ⟨_, _, _, same⟩
    · obtain rfl := change_error making
      exact (strike_silent _ _).of_ok asked
    · exact (pure_error.1 same).elim

theorem isAbsolute_temporaryDir (cwd : List String) (path : Path) :
    (temporaryDir cwd path).isAbsolute = true := by
  have absolute : (Disk.cwdPath cwd).isAbsolute = true := by
    have slash : ("/" ++ "/".intercalate cwd).toList = '/' :: ("/".intercalate cwd).toList := by
      simp
    simp [Path.isAbsolute, Disk.cwdPath, Path.ofString, slash, Path.anchorOf_slash_ne]
  exact Path.isAbsolute_append absolute

/-- A temporary file is made under a name that was free. -/
theorem makeTemporary_ok (done : makeTemporary path world = .ok temporary after) :
    Temporary.isMarked temporary.name = true ∧ ∃ row, world.disk.at? row = none ∧
      world.Leaf temporary row ∧
      world.Sets row (some (.file ⟨[], Disk.privateMode, true⟩)) after := by
  obtain ⟨_, struck, asked, done⟩ := bind_ok.1 done
  have quiet := (strike_quiet _ _).of_ok asked
  rw [get_bind] at done
  obtain ⟨_, changed, made, same⟩ := bind_ok.1 done
  obtain ⟨rfl, rfl⟩ := pure_ok.1 same
  obtain ⟨n, isChild⟩ : ∃ n, temporaryPath struck.disk struck.cwd (temporaryDir struck.cwd path) =
      (temporaryDir struck.cwd path).child (Temporary.nameOf n) := ⟨_, rfl⟩
  rw [isChild] at made ⊢
  have entryName := Temporary.isEntryName_nameOf n
  have named := (Disk.isEntryName_iff.1 entryName).1
  have names : ((temporaryDir struck.cwd path).child (Temporary.nameOf n)).names = _ :=
    Path.names_child named
  have absolute := Path.isAbsolute_child named (isAbsolute_temporaryDir struck.cwd path)
  generalize (temporaryDir struck.cwd path).child (Temporary.nameOf n) = temporary
    at made names absolute ⊢
  obtain ⟨disk, created, -⟩ := change_ok made
  obtain ⟨row, absent, leaf⟩ := Disk.leaf_of_create names entryName absolute created
  have sets : struck.Sets row (some (.file ⟨[], Disk.privateMode, true⟩)) changed := by
    apply change_sets _ made
    exact leaf.create absent Disk.privateMode
  rw [quiet.disk, quiet.cwd] at leaf
  rw [quiet.disk] at absent
  refine ⟨?_, row, absent, leaf, .after_quiet quiet sets⟩
  rw [Path.name, names, List.getLast?_concat]
  exact Temporary.isMarked_nameOf n

/-! ## Temporary files that are left behind -/

/-- A temporary file that was left behind at a place that was free. -/
structure Stray (before after : World) (row : List String) : Prop where
  noted : ∃ temporary, after.stranded = temporary :: before.stranded ∧
    Temporary.isMarked temporary.name = true ∧ after.Leaf temporary row
  absent : before.disk.at? row = none
  file : ∃ data, after.disk.at? row = some (.file data)

/-- The files are as before, but for a temporary file that may have been left behind. -/
structure Untouched (before after : World) : Prop where
  cwd : after.cwd = before.cwd
  stranded : after.stranded = before.stranded ∨ ∃ row, Stray before after row
  rows : ∀ row, after.disk.bareAt? row = before.disk.bareAt? row ∨ Stray before after row

theorem Untouched.of_quiet (quiet : world.Quiet after) : Untouched world after := by
  refine ⟨quiet.cwd, .inl quiet.stranded, fun row => .inl ?_⟩
  rw [quiet.disk]

/-- The files and what is noted about them are as before. -/
structure Restored (before after : World) : Prop where
  cwd : after.cwd = before.cwd
  stranded : after.stranded = before.stranded
  rows : ∀ row, after.disk.bareAt? row = before.disk.bareAt? row

/-- The files are as before, but for a temporary file that was left behind. -/
structure Littered (before after : World) (row : List String) : Prop where
  cwd : after.cwd = before.cwd
  stray : Stray before after row
  elsewhere : ∀ other, other ≠ row → after.disk.bareAt? other = before.disk.bareAt? other

theorem Restored.of_quiet (quiet : world.Quiet after) : Restored world after := by
  refine ⟨quiet.cwd, quiet.stranded, ?_⟩
  intro row
  rw [quiet.disk]

theorem Restored.untouched (restored : Restored world after) : Untouched world after :=
  ⟨restored.cwd, .inl restored.stranded, fun row => .inl (restored.rows row)⟩

theorem Littered.untouched (littered : Littered world after row) : Untouched world after := by
  refine ⟨littered.cwd, .inr ⟨row, littered.stray⟩, ?_⟩
  intro other
  by_cases same : other = row
  · exact .inr (same ▸ littered.stray)
  · exact .inl (littered.elsewhere other same)

/-- A temporary file is removed, or noted if the system does not let it be removed. -/
theorem discard_cases (done : discard temporary world = .ok answer after) :
    remove temporary world = .ok () after ∨
      ∃ error left, remove temporary world = .error (.system error) left ∧
        { left with stranded := temporary :: left.stranded } = after := by
  obtain ⟨removed, middle, removing, done⟩ := bind_ok.1 done
  cases removed with
  | ok =>
      obtain ⟨-, rfl⟩ := pure_ok.1 done
      exact .inl (catchSystem_value.1 removing)
  | error error => exact .inr ⟨error, middle, catchSystem_caught.1 removing, modify_ok.1 done⟩

section

variable {start : World} (absent : start.disk.at? row = none)
  (sets : start.Sets row (some (.file data)) world) (leaf : world.Leaf temporary row)

include absent sets leaf

theorem restored_of_remove (removed : remove temporary world = .ok answer after) :
    Restored start after := by
  have whole := sets.trans (remove_ok leaf sets.disk.here removed)
  exact ⟨whole.cwd, whole.stranded, whole.disk.bareAt?_eq absent⟩

theorem littered_of_remove (marked : Temporary.isMarked temporary.name = true)
    (failed : remove temporary world = .error failure after) :
    Littered start { after with stranded := temporary :: after.stranded } row := by
  have quiet := World.Quiet.of_silent (remove_error failed)
  have stillLeaf := leaf.after_quiet quiet
  constructor
  · exact quiet.cwd.trans sets.cwd
  · refine ⟨⟨temporary, ?_, marked, stillLeaf⟩, absent, data, ?_⟩
    · rw [← sets.stranded, ← quiet.stranded]
    · rw [← sets.disk.here, ← quiet.disk]
  · intro other ne
    rw [← sets.disk.elsewhere other ne, ← quiet.disk]

theorem discard_ok (marked : Temporary.isMarked temporary.name = true)
    (done : discard temporary world = .ok answer after) : Untouched start after := by
  rcases discard_cases done with removed | ⟨error, left, failed, rfl⟩
  · exact (restored_of_remove absent sets leaf removed).untouched
  · exact (littered_of_remove absent sets leaf marked failed).untouched

end

/-! ## The strategies -/

/-- What writing a class file did to the files. -/
structure Written (strategy : WriteStrategy) (row : List String) (bytes : List UInt8)
    (before after : World) (problem : Option Diagnostic) : Prop where
  cwd : after.cwd = before.cwd
  stranded : after.stranded = before.stranded ∨ ∃ other, Stray before after other
  elsewhere : ∀ other, other ≠ row →
    after.disk.bareAt? other = before.disk.bareAt? other ∨ Stray before after other
  replaced : problem = none → ∃ mode, after.disk.at? row = some (.file ⟨bytes, mode, true⟩)
  kept : problem ≠ none → strategy = .atomic →
    after.disk.bareAt? row = before.disk.bareAt? row

/-- A class file that could not be written is as it was if nothing was touched. -/
theorem Written.of_untouched {strategy : WriteStrategy} {diagnostic : Diagnostic}
    (there : world.disk.at? row = some node) (untouched : Untouched world after) :
    Written strategy row bytes world after (some diagnostic) := by
  refine ⟨untouched.cwd, untouched.stranded, fun other _ => untouched.rows other, by simp, ?_⟩
  intro _ _
  apply (untouched.rows row).resolve_right
  intro stray
  rw [stray.absent] at there
  contradiction

/-- A change of what the path leads to. -/
theorem Written.of_sets {entry : Option Node} {problem : Option Diagnostic}
    (sets : world.Sets row entry after)
    (replaced : problem = none → ∃ mode, entry = some (.file ⟨bytes, mode, true⟩)) :
    Written .recreate row bytes world after problem := by
  refine ⟨sets.cwd, .inl sets.stranded, fun other ne => .inl (sets.disk.elsewhere other ne), ?_,
    by simp⟩
  intro none
  rw [sets.disk.here]
  exact replaced none

theorem deleteAndRecreate_ok {problem : Option Diagnostic} (leaf : world.Leaf path row)
    (there : world.disk.at? row = some node)
    (done : deleteAndRecreate path bytes world = .ok problem after) :
    Written .recreate row bytes world after problem := by
  rw [deleteAndRecreate, get_bind] at done
  obtain ⟨removed, first, removing, done⟩ := bind_ok.1 done
  cases removed with
  | error error =>
      obtain ⟨rfl, rfl⟩ := pure_ok.1 done
      exact .of_untouched there
        (.of_quiet (.of_silent (remove_error (catchSystem_caught.1 removing))))
  | ok =>
      have gone := remove_ok leaf there (catchSystem_value.1 removing)
      obtain ⟨made, second, making, done⟩ := bind_ok.1 done
      cases made with
      | error error =>
          obtain ⟨rfl, rfl⟩ := pure_ok.1 done
          have silent := makeAnew_error (catchSystem_caught.1 making)
          exact .of_sets (gone.before_quiet (.of_silent silent)) (by simp)
      | ok =>
          have free := leaf.of_sets_none gone
          have anew := makeAnew_ok free gone.disk.here (catchSystem_value.1 making)
          obtain ⟨written, third, writing, done⟩ := bind_ok.1 done
          have file := free.of_sets_file anew
          cases written with
          | error error =>
              obtain ⟨rfl, rfl⟩ := pure_ok.1 done
              obtain ⟨data, -, sets⟩ :=
                writeAll_error file anew.disk.here (catchSystem_caught.1 writing)
              exact .of_sets ((gone.trans anew).trans sets) (by simp)
          | ok =>
              obtain ⟨rfl, rfl⟩ := pure_ok.1 done
              have sets := writeAll_ok file anew.disk.here (catchSystem_value.1 writing)
              exact .of_sets ((gone.trans anew).trans sets) fun _ => ⟨_, rfl⟩

/-- Filling the temporary file makes it one with these bytes, which is then given the permissions of
another file. -/
theorem fill_ok {source : Path} (leaf : world.Leaf temporary row)
    (there : world.disk.at? row = some (.file data))
    (done : (do writeAll temporary bytes; copyMode source temporary) world = .ok answer after) :
    ∃ mode middle, world.Sets row (some (.file ⟨bytes, data.mode, true⟩)) middle ∧
      Disk.modeOf middle.disk middle.cwd source = .ok mode ∧
      world.Sets row (some (.file ⟨bytes, mode, true⟩)) after := by
  obtain ⟨_, middle, writing, copying⟩ := bind_ok.1 done
  have written := writeAll_ok leaf there writing
  obtain ⟨mode, told, sets⟩ := copyMode_ok (leaf.of_sets_file written) written.disk.here copying
  exact ⟨mode, middle, written, told, written.trans sets⟩

/-- If the temporary file could not be filled, it is left as some file. -/
theorem fill_error {source : Path} (leaf : world.Leaf temporary row)
    (there : world.disk.at? row = some (.file data))
    (failed : (do writeAll temporary bytes; copyMode source temporary) world =
      .error failure after) : ∃ data', world.Sets row (some (.file data')) after := by
  rcases bind_error.1 failed with writing | ⟨_, middle, writing, copying⟩
  · obtain ⟨data', -, sets⟩ := writeAll_error leaf there writing
    exact ⟨data', sets⟩
  · have written := writeAll_ok leaf there writing
    exact ⟨_, written.before_quiet (.of_silent (copyMode_error copying))⟩

/-- Renaming a full temporary file, which was made at a free place, leaves that place free again and the
bytes where the path leads to. -/
theorem replace_sets {place : List String} {mode : Nat} {middle : World}
    (leads : Disk.LeadsTo world.disk world.cwd path row) (there : world.disk.at? row = some node)
    (plain : node.isDir = false) (absent : world.disk.at? place = none) (free : world.Leaf temporary place)
    (filled : world.Sets place (some (.file ⟨bytes, mode, true⟩)) middle)
    (full : middle.Leaf temporary place)
    (replacing : replace temporary path middle = .ok answer after) :
    world.Sets row (some (.file ⟨bytes, mode, true⟩)) after := by
  have ne : row ≠ place := by
    rintro rfl
    rw [absent] at there
    contradiction
  have still : middle.disk.at? row = some node :=
    Listing.at?_of_bareAt?_eq (filled.disk.elsewhere row ne) plain there
  have leads' : Disk.LeadsTo middle.disk middle.cwd path row := by
    rw [filled.cwd]
    exact leads.of_sameWays (filled.disk.sameWays free.deadEnd)
  obtain ⟨taken, takes, sets⟩ := replace_ok full leads' filled.disk.here still plain ne replacing
  have cleared := filled.trans takes
  refine ⟨⟨sets.disk.here, ?_⟩, sets.cwd.trans cleared.cwd, sets.stranded.trans cleared.stranded⟩
  intro other different
  rw [sets.disk.elsewhere other different, cleared.disk.bareAt?_eq absent]

theorem Written.of_replaced {mode : Nat}
    (sets : world.Sets row (some (.file ⟨bytes, mode, true⟩)) after) :
    Written .atomic row bytes world after none :=
  ⟨sets.cwd, .inl sets.stranded, fun other ne => .inl (sets.disk.elsewhere other ne),
    fun _ => ⟨mode, sets.disk.here⟩, by simp⟩

theorem replaceAtomically_ok {problem : Option Diagnostic} (leaf : world.Leaf path row)
    (there : world.disk.at? row = some node)
    (done : replaceAtomically path bytes world = .ok problem after) :
    Written .atomic row bytes world after problem := by
  rw [replaceAtomically, get_bind] at done
  obtain ⟨made, first, making, done⟩ := bind_ok.1 done
  cases made with
  | error error =>
      obtain ⟨rfl, rfl⟩ := pure_ok.1 done
      exact .of_untouched there
        (.of_quiet (.of_silent (makeTemporary_error (catchSystem_caught.1 making))))
  | ok temporary =>
      obtain ⟨marked, place, absent, free, sets⟩ := makeTemporary_ok (catchSystem_value.1 making)
      have file := free.of_sets_file sets
      obtain ⟨filled, second, filling, done⟩ := bind_ok.1 done
      cases filled with
      | error error =>
          obtain ⟨data, filled⟩ := fill_error file sets.disk.here (catchSystem_caught.1 filling)
          obtain ⟨_, third, discarded, done⟩ := bind_ok.1 done
          obtain ⟨rfl, rfl⟩ := pure_ok.1 done
          exact .of_untouched there
            (discard_ok absent (sets.trans filled) (file.of_sets_file filled) marked discarded)
      | ok =>
          obtain ⟨mode, _, -, -, filled⟩ :=
            fill_ok file sets.disk.here (catchSystem_value.1 filling)
          have whole := sets.trans filled
          have full := file.of_sets_file filled
          obtain ⟨replaced, third, replacing, done⟩ := bind_ok.1 done
          cases replaced with
          | error error =>
              have quiet := World.Quiet.of_silent (replace_error (catchSystem_caught.1 replacing))
              obtain ⟨_, fourth, discarded, done⟩ := bind_ok.1 done
              obtain ⟨rfl, rfl⟩ := pure_ok.1 done
              exact .of_untouched there
                (discard_ok absent (whole.before_quiet quiet) (full.after_quiet quiet) marked
                  discarded)
          | ok =>
              obtain ⟨rfl, rfl⟩ := pure_ok.1 done
              exact .of_replaced
                (replace_sets leaf.leads there (leaf.isDir_eq_false there) absent free whole full
                  (catchSystem_value.1 replacing))

theorem Stray.before_quiet (stray : Stray world after row) {last : World}
    (quiet : after.Quiet last) : Stray world last row := by
  obtain ⟨⟨temporary, noted, marked, leaf⟩, absent, data, file⟩ := stray
  refine ⟨⟨temporary, quiet.stranded.trans noted, marked, leaf.after_quiet quiet⟩, absent, data, ?_⟩
  rw [quiet.disk]
  exact file

namespace Written

variable {strategy : WriteStrategy} {problem : Option Diagnostic}

theorem before_quiet (written : Written strategy row bytes world after problem) {last : World}
    (quiet : after.Quiet last) : Written strategy row bytes world last problem := by
  refine ⟨quiet.cwd.trans written.cwd, ?_, ?_, ?_, ?_⟩
  · rw [quiet.stranded]
    exact written.stranded.imp id fun ⟨other, stray⟩ => ⟨other, stray.before_quiet quiet⟩
  · intro other ne
    rw [quiet.disk]
    exact (written.elsewhere other ne).imp id (·.before_quiet quiet)
  · rw [quiet.disk]
    exact written.replaced
  · rw [quiet.disk]
    exact written.kept

/-- Writing a class file changes no way to a directory. -/
theorem sameWays (written : Written strategy row bytes world after problem)
    (deadEnd : Disk.IsDeadEnd world.disk row) : Disk.SameWays world.disk after.disk := by
  intro other
  by_cases same : other = row
  · exact .inr (same ▸ deadEnd)
  · rcases written.elsewhere other same with unchanged | stray
    · exact .inl unchanged
    · exact .inr (Disk.isDeadEnd_of_at?_none stray.absent)

end Written

/-! ## What writing inherits from its steps -/

section

variable {holds : (α : Type) → Program α → Prop} (changing : Changing holds)

include changing

theorem makeTemporary_changing (path : Path) : holds Path (makeTemporary path) := by
  refine changing.bind (changing.strike _ _) fun _ => changing.look (fun world => ?_) ?_
  · exact changing.bind (changing.alter _) fun _ => changing.pure _
  · intro one two sameDisk sameCwd
    rw [sameDisk, sameCwd]

theorem writeAll_changing (path : Path) (data : List UInt8) : holds Unit (writeAll path data) :=
  changing.bind (changing.alter _) fun _ => changing.strike _ _

theorem copyMode_changing (source target : Path) : holds Unit (copyMode source target) :=
  changing.bind (changing.strike _ _) fun _ => changing.bind (changing.ask _) fun _ =>
    changing.alter _

theorem replace_changing (temporary path : Path) : holds Unit (replace temporary path) :=
  changing.bind (changing.strike _ _) fun _ => changing.alter _

theorem remove_changing (path : Path) : holds Unit (remove path) :=
  changing.bind (changing.strike _ _) fun _ => changing.alter _

theorem makeAnew_changing (path : Path) : holds Unit (makeAnew path) :=
  changing.bind (changing.strike _ _) fun _ => changing.alter _

theorem discard_changing (temporary : Path) : holds Unit (discard temporary) := by
  apply changing.bind (changing.catchSystem (remove_changing changing _))
  intro removed
  cases removed with
  | ok => exact changing.pure ()
  | error error => exact changing.strand temporary

theorem replaceAtomically_changing (path : Path) (data : List UInt8) :
    holds (Option Diagnostic) (replaceAtomically path data) := by
  refine changing.look (fun world => ?_) fun one two _ sameCwd => by rw [sameCwd]
  apply changing.bind (changing.catchSystem (makeTemporary_changing changing _))
  intro made
  cases made with
  | error error => exact changing.pure _
  | ok temporary =>
      have fill : holds Unit (do writeAll temporary data; copyMode path temporary) :=
        changing.bind (writeAll_changing changing _ _) fun _ => copyMode_changing changing _ _
      apply changing.bind (changing.catchSystem fill)
      intro filled
      cases filled with
      | error error => exact changing.bind (discard_changing changing _) fun _ => changing.pure _
      | ok =>
          have renamed := changing.catchSystem (replace_changing changing temporary path)
          apply changing.bind renamed
          intro replaced
          cases replaced with
          | error error =>
              exact changing.bind (discard_changing changing _) fun _ => changing.pure _
          | ok => exact changing.pure _

theorem deleteAndRecreate_changing (path : Path) (data : List UInt8) :
    holds (Option Diagnostic) (deleteAndRecreate path data) := by
  refine changing.look (fun world => ?_) fun one two _ sameCwd => by rw [sameCwd]
  apply changing.bind (changing.catchSystem (remove_changing changing _))
  intro removed
  cases removed with
  | error error => exact changing.pure _
  | ok =>
      apply changing.bind (changing.catchSystem (makeAnew_changing changing _))
      intro made
      cases made with
      | error error => exact changing.pure _
      | ok =>
          have filled := changing.catchSystem (writeAll_changing changing path data)
          apply changing.bind filled
          intro written
          cases written with
          | error error => exact changing.pure _
          | ok => exact changing.pure _

/-- Noting in the log how writing went is a step like others. -/
theorem noted_changing {write : Program (Option Diagnostic)}
    (writes : holds (Option Diagnostic) write) {entry : LogEntry} {entryOf : Diagnostic → LogEntry}
    (own : entry.source ≠ .diagnostics)
    (owns : ∀ diagnostic, (entryOf diagnostic).source ≠ .diagnostics) :
    holds (Option Diagnostic) (do
      let problem ← write
      match problem with
      | none => log entry
      | some diagnostic => log (entryOf diagnostic)
      pure problem) := by
  apply changing.bind writes
  intro problem
  cases problem with
  | none => exact changing.bind (changing.log own) fun _ => changing.pure _
  | some diagnostic => exact changing.bind (changing.log (owns _)) fun _ => changing.pure _

theorem write_changing (strategy : WriteStrategy) (path : Path) (data : List UInt8) :
    holds (Option Diagnostic) (strategy.write path data) := by
  have own (level : Level) (event : String) (fields : List (String × Json)) :
      (strategy.logEntry level event fields).source ≠ .diagnostics := nofun
  have owns (diagnostic : Diagnostic) := own .warning "class_write_failed"
    [("path", .str path.toString), ("severity", .str diagnostic.severity.name),
      ("message", .str diagnostic.message)]
  cases strategy with
  | atomic =>
      exact noted_changing changing (replaceAtomically_changing changing path data) (own _ _ _) owns
  | recreate =>
      exact noted_changing changing (deleteAndRecreate_changing changing path data) (own _ _ _) owns

end

/-! ## The diagnostic -/

/-- Whether a diagnostic, if there is one, is about writing a class file. -/
def IsAbout (path : Path) (problem : Option Diagnostic) : Prop :=
  ∀ diagnostic, problem = some diagnostic →
    diagnostic.path = some path ∧ diagnostic.stage = .persistence

/-- Whether a diagnostic, if there is one, is made of the path and some words. -/
def Tells (path : Path) (problem : Option Diagnostic) : Prop :=
  ∀ told, problem = some told → ∃ severity message cause, message ≠ "" ∧
    told = diagnostic path severity message cause

theorem tells_none (path : Path) : Tells path none := by
  intro told none
  contradiction

theorem tells_diagnostic {message : String} (words : message ≠ "") (path : Path) (severity : Severity)
    (cause : SystemError) : Tells path (some (diagnostic path severity message cause)) := by
  rintro _ ⟨⟩
  exact ⟨severity, message, cause, words, rfl⟩

theorem exists_writeErrorMessage_eq (path : Path) (cwd : List String) :
    ∃ rest, writeErrorMessage path cwd = "Error writing enhanced class [" ++ rest := by
  unfold writeErrorMessage
  simp only [String.append_assoc]
  exact ⟨_, rfl⟩

theorem writeErrorMessage_ne_empty (path : Path) (cwd : List String) : writeErrorMessage path cwd ≠ "" := by
  obtain ⟨rest, whole⟩ := exists_writeErrorMessage_eq path cwd
  rw [whole]
  intro same
  have front := (String.append_eq_empty_iff.1 same).1
  contradiction

theorem replaceAtomically_tells (path : Path) (data : List UInt8) :
    (replaceAtomically path data).Yields (Tells path) := by
  refine yields_bind fun _ => yields_bind fun made => ?_
  cases made with
  | error error => exact yields_pure (tells_diagnostic (by decide) _ _ _)
  | ok temporary =>
      apply yields_bind
      intro filled
      cases filled with
      | error error =>
          exact yields_bind fun _ => yields_pure (tells_diagnostic (writeErrorMessage_ne_empty _ _) _ _ _)
      | ok =>
          apply yields_bind
          intro replaced
          cases replaced with
          | error error => exact yields_bind fun _ => yields_pure (tells_diagnostic (by decide) _ _ _)
          | ok => exact yields_pure (tells_none path)

theorem deleteAndRecreate_tells (path : Path) (data : List UInt8) :
    (deleteAndRecreate path data).Yields (Tells path) := by
  refine yields_bind fun _ => yields_bind fun removed => ?_
  cases removed with
  | error error => exact yields_pure (tells_diagnostic (by decide) _ _ _)
  | ok =>
      apply yields_bind
      intro made
      cases made with
      | error error => exact yields_pure (tells_diagnostic (by decide) _ _ _)
      | ok =>
          apply yields_bind
          intro written
          cases written with
          | error error => exact yields_pure (tells_diagnostic (writeErrorMessage_ne_empty _ _) _ _ _)
          | ok => exact yields_pure (tells_none path)

end Replacement

namespace WriteStrategy

open Replacement

variable {strategy : WriteStrategy} {path : Path} {row : List String} {bytes : List UInt8}
  {world after : World} {problem : Option Diagnostic}

/-- Noting in the log how writing went leaves everything else alone. -/
theorem noted_ok {write : Program (Option Diagnostic)} {entry : LogEntry}
    {entryOf : Diagnostic → LogEntry}
    (done : (do
      let problem ← write
      match problem with
      | none => log entry
      | some diagnostic => log (entryOf diagnostic)
      pure problem) world = .ok problem after) :
    ∃ middle, write world = .ok problem middle ∧ middle.Quiet after := by
  obtain ⟨found, middle, writing, done⟩ := bind_ok.1 done
  cases found with
  | none | some diagnostic =>
      obtain ⟨_, logged, logging, same⟩ := bind_ok.1 done
      obtain ⟨rfl, rfl⟩ := pure_ok.1 same
      exact ⟨middle, writing, (log_quiet _).of_ok logging⟩

/-- Writing a class file does what its strategy does and leaves entries in the log. -/
theorem write_split (done : strategy.write path bytes world = .ok problem after) :
    ∃ middle, (match strategy with
        | .atomic => replaceAtomically path bytes
        | .recreate => deleteAndRecreate path bytes) world = .ok problem middle ∧
      middle.Quiet after := by
  cases strategy with
  | atomic | recreate => exact noted_ok done

/-- Writing a class file that is a leaf of the tree sets this leaf only. -/
theorem write_ok {node : Node} (leaf : world.Leaf path row)
    (there : world.disk.at? row = some node)
    (done : strategy.write path bytes world = .ok problem after) :
    Written strategy row bytes world after problem := by
  obtain ⟨middle, replacing, quiet⟩ := write_split done
  cases strategy with
  | atomic => exact (replaceAtomically_ok leaf there replacing).before_quiet quiet
  | recreate => exact (deleteAndRecreate_ok leaf there replacing).before_quiet quiet

theorem write_sameCalls (done : strategy.write path bytes world = .ok problem after) :
    world.SameCalls after :=
  Keeps.of_ok (write_changing sameCalls_changing strategy path bytes) done

theorem write_tells (done : strategy.write path bytes world = .ok problem after) : Tells path problem := by
  obtain ⟨middle, replacing, quiet⟩ := write_split done
  cases strategy with
  | atomic => exact replaceAtomically_tells _ _ _ _ _ replacing
  | recreate => exact deleteAndRecreate_tells _ _ _ _ _ replacing

theorem write_isAbout (done : strategy.write path bytes world = .ok problem after) :
    IsAbout path problem := by
  intro told isProblem
  obtain ⟨severity, message, cause, -, rfl⟩ := write_tells done told isProblem
  exact ⟨rfl, rfl⟩

/-- The words of a diagnostic about writing a class file are such as every diagnostic has to have. -/
theorem write_accepted (done : strategy.write path bytes world = .ok problem after) {told : Diagnostic}
    (isProblem : problem = some told) :
    Value.textOfLength 1 (.text told.message) = .accepted told.message := by
  obtain ⟨severity, message, cause, words, rfl⟩ := write_tells done told isProblem
  have long : ¬ message.length < 1 := by
    rwa [Nat.lt_one_iff, String.length_eq_zero_iff]
  exact if_neg long

end WriteStrategy

end Enhance
