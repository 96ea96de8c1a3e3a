import Enhance.Proofs.Disk.Taken
import Enhance.Proofs.Replacement.Returns

/-!
# Atomic replacement is all or nothing

An atomic replacement either puts a file with the new bytes and the old permissions in the place of what
the path led to, or it reports the first of its steps that failed and leaves the tree as it was, but for a
temporary file that the system does not let be removed (`WriteStrategy.write_replaces_or_keeps`).  This
holds for every path, whatever it leads to, and whatever the system does.
-/

namespace Enhance

open Program

namespace Replacement

variable {path temporary : Path} {row place : List String} {world first middle after left : World}
  {node : Node} {data : FileData} {bytes : List UInt8} {mode : Nat} {failure : Failure}
  {error : SystemError} {answer : Unit} {problem : Option Diagnostic} {made : Option Path}

/-! ## The temporary file -/

/-- A temporary file stands at a place that was free, and nothing else is different. -/
structure Places (world : World) (temporary : Path) (place : List String) (data : FileData)
    (after : World) : Prop where
  marked : Temporary.isMarked temporary.name = true
  absent : world.disk.at? place = none
  free : world.Leaf temporary place
  sets : world.Sets place (some (.file data)) after

namespace Places

theorem leaf (places : Places world temporary place data after) : after.Leaf temporary place :=
  places.free.of_sets_file places.sets

/-- A file was there at no time before. -/
theorem ways (places : Places world temporary place data after) :
    Disk.SameWays world.disk after.disk :=
  places.sets.disk.sameWays places.free.deadEnd

/-- Nothing but the file would be different if it were taken away. -/
theorem taken (places : Places world temporary place data after) :
    Disk.Sets after.disk place none world.disk :=
  ⟨places.absent, fun other ne => (places.sets.disk.elsewhere other ne).symm⟩

theorem ways_back (places : Places world temporary place data after) :
    Disk.SameWays after.disk world.disk :=
  places.taken.sameWays (Disk.isDeadEnd_of_at?_file places.sets.disk.here)

theorem leadsTo (places : Places world temporary place data after)
    (leads : Disk.LeadsTo world.disk world.cwd path row) :
    Disk.LeadsTo after.disk after.cwd path row := by
  rw [places.sets.cwd]
  exact leads.of_sameWays places.ways

theorem leadsTo_back (places : Places world temporary place data after)
    (leads : Disk.LeadsTo after.disk after.cwd path row) :
    Disk.LeadsTo world.disk world.cwd path row := by
  rw [places.sets.cwd] at leads
  exact leads.of_sameWays places.ways_back

/-- The last name of the place is that of a temporary file. -/
theorem isMarked_of_place {above : List String} {name : String}
    (places : Places world temporary place data after) (isPlace : place = above ++ [name]) :
    Temporary.isMarked name = true := by
  obtain ⟨above', name', isPlace', leads⟩ := places.free.leads
  obtain ⟨front, inside, names, -⟩ := leads.front
  have same : name' = name := by
    simpa using congrArg List.getLast? (isPlace'.symm.trans isPlace)
  have marked := places.marked
  rw [Path.name, names, List.getLast?_concat] at marked
  exact same ▸ marked

theorem before_quiet (places : Places world temporary place data middle) (quiet : middle.Quiet after) :
    Places world temporary place data after :=
  ⟨places.marked, places.absent, places.free, places.sets.before_quiet quiet⟩

theorem of_made (made : makeTemporary path world = .ok temporary after) :
    ∃ place, Places world temporary place ⟨[], Disk.privateMode, true⟩ after := by
  obtain ⟨marked, place, absent, free, sets⟩ := makeTemporary_ok made
  exact ⟨place, marked, absent, free, sets⟩

theorem stored (places : Places world temporary place data middle)
    (writing : writeAll temporary bytes middle = .ok answer after) :
    Places world temporary place ⟨bytes, data.mode, true⟩ after :=
  ⟨places.marked, places.absent, places.free,
    places.sets.trans (writeAll_ok places.leaf places.sets.disk.here writing)⟩

theorem unstored (places : Places world temporary place data middle)
    (writing : writeAll temporary bytes middle = .error failure after) :
    ∃ data, Places world temporary place data after := by
  obtain ⟨data', -, sets⟩ := writeAll_error places.leaf places.sets.disk.here writing
  exact ⟨data', places.marked, places.absent, places.free, places.sets.trans sets⟩

theorem copied (places : Places world temporary place data middle)
    (copying : copyMode path temporary middle = .ok answer after) :
    ∃ mode, Disk.modeOf middle.disk middle.cwd path = .ok mode ∧
      Places world temporary place { data with mode } after := by
  obtain ⟨mode, told, sets⟩ := copyMode_ok places.leaf places.sets.disk.here copying
  exact ⟨mode, told, places.marked, places.absent, places.free, places.sets.trans sets⟩

end Places

/-! ## The step that fails -/

/-- The steps of an atomic replacement. -/
inductive Step where
  /-- Making the temporary file. -/
  | prepare
  /-- Writing its bytes and waiting until they are stored. -/
  | store
  /-- Giving it the permissions of the class file. -/
  | copyMode
  /-- Renaming it. -/
  | replace
  deriving DecidableEq, Repr

namespace Step

/-- How severe it is that a step fails. -/
def severity : Step → Severity
  | .prepare | .store | .copyMode => .warning
  | .replace => .error

/-- The message about a step that fails. -/
def message (path : Path) (cwd : List String) : Step → String
  | .prepare => "Problem preparing class file for writing out enhancements"
  | .store | .copyMode => writeErrorMessage path cwd
  | .replace => "Unable to replace class file"

theorem severity_eq_error_iff {step : Step} : step.severity = .error ↔ step = .replace := by
  cases step <;> simp [severity]

theorem severity_eq_warning_iff {step : Step} : step.severity = .warning ↔ step ≠ .replace := by
  cases step <;> simp [severity]

end Step

/-- All steps before one succeed and that one fails: its error, the temporary file if it was made, and the
world that is left. -/
inductive Stops (path : Path) (bytes : List UInt8) (world : World) :
    Step → SystemError → Option Path → World → Prop
  | prepare {error : SystemError} {left : World}
      (failed : makeTemporary path world = .error (.system error) left) :
      Stops path bytes world .prepare error none left
  | store {temporary : Path} {first left : World} {error : SystemError}
      (prepared : makeTemporary path world = .ok temporary first)
      (failed : writeAll temporary bytes first = .error (.system error) left) :
      Stops path bytes world .store error (some temporary) left
  | copyMode {temporary : Path} {first second left : World} {error : SystemError}
      (prepared : makeTemporary path world = .ok temporary first)
      (stored : writeAll temporary bytes first = .ok () second)
      (failed : Replacement.copyMode path temporary second = .error (.system error) left) :
      Stops path bytes world .copyMode error (some temporary) left
  | replace {temporary : Path} {first second third left : World} {error : SystemError}
      (prepared : makeTemporary path world = .ok temporary first)
      (stored : writeAll temporary bytes first = .ok () second)
      (copied : Replacement.copyMode path temporary second = .ok () third)
      (failed : Replacement.replace temporary path third = .error (.system error) left) :
      Stops path bytes world .replace error (some temporary) left

/-- All steps succeed. -/
inductive Completes (path : Path) (bytes : List UInt8) (world after : World) : Prop
  | intro {temporary : Path} {first second third : World}
      (prepared : makeTemporary path world = .ok temporary first)
      (stored : writeAll temporary bytes first = .ok () second)
      (copied : copyMode path temporary second = .ok () third)
      (replaced : replace temporary path third = .ok () after)

/-- Discarding the temporary file, if there is one. -/
def Discards : Option Path → World → World → Prop
  | none, left, after => left = after
  | some temporary, left, after => discard temporary left = .ok () after

namespace Stops

variable {step step' : Step} {error' : SystemError} {made' : Option Path} {left' : World}

/-- At most one step is the first one that fails. -/
theorem unique (stops : Stops path bytes world step error made left)
    (stops' : Stops path bytes world step' error' made' left') :
    step = step' ∧ error = error' ∧ made = made' ∧ left = left' := by
  cases stops <;> cases stops' <;> simp_all

theorem not_completes (stops : Stops path bytes world step error made left) :
    ¬ Completes path bytes world after := by
  intro completes
  cases completes
  cases stops <;> simp_all

theorem quiet (stops : Stops path bytes world step error none left) : world.Quiet left := by
  cases stops with
  | prepare failed => exact .of_silent (makeTemporary_error failed)

/-- When a later step fails, the temporary file is all that is different. -/
theorem places (stops : Stops path bytes world step error (some temporary) left) :
    ∃ place data, Places world temporary place data left := by
  cases stops with
  | store prepared failed =>
      obtain ⟨place, places⟩ := Places.of_made prepared
      obtain ⟨data, places⟩ := places.unstored failed
      exact ⟨place, data, places⟩
  | copyMode prepared stored failed =>
      obtain ⟨place, places⟩ := Places.of_made prepared
      exact ⟨place, _, (places.stored stored).before_quiet (.of_silent (copyMode_error failed))⟩
  | replace prepared stored copied failed =>
      obtain ⟨place, places⟩ := Places.of_made prepared
      obtain ⟨mode, -, places⟩ := (places.stored stored).copied copied
      exact ⟨place, _, places.before_quiet (.of_silent (replace_error failed))⟩

end Stops

/-- What an atomic replacement comes to: all steps succeed, or the first one that fails is reported and the
temporary file is discarded. -/
theorem replaceAtomically_cases (done : replaceAtomically path bytes world = .ok problem after) :
    problem = none ∧ Completes path bytes world after ∨
      ∃ step error made left, Stops path bytes world step error made left ∧
        Discards made left after ∧
        problem = some (diagnostic path step.severity (step.message path world.cwd) error) := by
  rw [replaceAtomically, get_bind] at done
  obtain ⟨made, first, making, done⟩ := bind_ok.1 done
  cases made with
  | error error =>
      obtain ⟨rfl, rfl⟩ := pure_ok.1 done
      exact .inr ⟨.prepare, error, none, first, .prepare (catchSystem_caught.1 making), rfl, rfl⟩
  | ok temporary =>
      have prepared := catchSystem_value.1 making
      obtain ⟨filled, second, filling, done⟩ := bind_ok.1 done
      cases filled with
      | error error =>
          obtain ⟨_, third, discarded, done⟩ := bind_ok.1 done
          obtain ⟨rfl, rfl⟩ := pure_ok.1 done
          right
          rcases bind_error.1 (catchSystem_caught.1 filling) with failed | ⟨_, half, stored, failed⟩
          · exact ⟨.store, error, some temporary, second, .store prepared failed, discarded, rfl⟩
          · exact ⟨.copyMode, error, some temporary, second, .copyMode prepared stored failed, discarded,
              rfl⟩
      | ok =>
          obtain ⟨_, half, stored, copied⟩ := bind_ok.1 (catchSystem_value.1 filling)
          obtain ⟨replaced, third, replacing, done⟩ := bind_ok.1 done
          cases replaced with
          | error error =>
              obtain ⟨_, fourth, discarded, done⟩ := bind_ok.1 done
              obtain ⟨rfl, rfl⟩ := pure_ok.1 done
              exact .inr ⟨.replace, error, some temporary, third,
                .replace prepared stored copied (catchSystem_caught.1 replacing), discarded, rfl⟩
          | ok =>
              obtain ⟨rfl, rfl⟩ := pure_ok.1 done
              exact .inl ⟨rfl, .intro prepared stored copied (catchSystem_value.1 replacing)⟩

/-! ## What is left when a step fails -/

/-- A step fails and the temporary file cannot be removed. -/
def Litters (path : Path) (bytes : List UInt8) (world : World) : Prop :=
  ∃ step error temporary left failure last,
    Stops path bytes world step error (some temporary) left ∧
      remove temporary left = .error failure last

/-- A replacement that fails leaves the files as they were, and the temporary file if and only if it could
not be removed. -/
theorem restored_or_littered {step : Step} (stops : Stops path bytes world step error made left)
    (discards : Discards made left after) :
    ¬ Litters path bytes world ∧ Restored world after ∨
      Litters path bytes world ∧ ∃ row, Littered world after row := by
  cases made with
  | none =>
      left
      constructor
      · intro ⟨_, _, temporary, _, _, _, stops', _⟩
        simpa using (stops.unique stops').2.2.1
      · obtain rfl : left = after := discards
        exact .of_quiet stops.quiet
  | some temporary =>
      obtain ⟨place, data, places⟩ := stops.places
      rcases discard_cases discards with removed | ⟨error', last, failed, isAfter⟩
      · left
        constructor
        · intro ⟨_, _, _, _, _, _, stops', failed⟩
          obtain ⟨-, -, same, rfl⟩ := stops.unique stops'
          cases same
          rw [removed] at failed
          contradiction
        · exact restored_of_remove places.absent places.sets places.leaf removed
      · right
        constructor
        · exact ⟨_, _, temporary, left, _, last, stops, failed⟩
        · rw [← isAfter]
          exact ⟨place, littered_of_remove places.absent places.sets places.leaf places.marked failed⟩

theorem Restored.before_quiet {last : World} (restored : Restored world after)
    (quiet : after.Quiet last) : Restored world last := by
  constructor
  · exact quiet.cwd.trans restored.cwd
  · exact quiet.stranded.trans restored.stranded
  · rw [quiet.disk]
    exact restored.rows

theorem Littered.before_quiet {last : World} (littered : Littered world after row)
    (quiet : after.Quiet last) : Littered world last row := by
  constructor
  · exact quiet.cwd.trans littered.cwd
  · exact littered.stray.before_quiet quiet
  · rw [quiet.disk]
    exact littered.elsewhere

/-- What is reported about a replacement that failed, and what it left. -/
structure Kept (path : Path) (bytes : List UInt8) (world : World) (problem : Diagnostic)
    (after : World) : Prop where
  about : problem.path = some path ∧ problem.stage = .persistence
  cause : ∃ step error made left, Stops path bytes world step error made left ∧
    problem.cause = some (.system error)
  error_iff : problem.severity = .error ↔
    ∃ error made left, Stops path bytes world .replace error made left
  warning_iff : problem.severity = .warning ↔
    ∃ step error made left, step ≠ .replace ∧ Stops path bytes world step error made left
  restored : ¬ Litters path bytes world → Restored world after
  littered : Litters path bytes world → ∃ row, Littered world after row

theorem Kept.of_stops {step : Step} (stops : Stops path bytes world step error made left)
    (discards : Discards made left middle) (quiet : middle.Quiet after) :
    Kept path bytes world (diagnostic path step.severity (step.message path world.cwd) error) after := by
  have ends := restored_or_littered stops discards
  constructor
  · exact ⟨rfl, rfl⟩
  · exact ⟨step, error, made, left, stops, rfl⟩
  · apply Step.severity_eq_error_iff.trans
    constructor
    · intro isReplace
      exact ⟨error, made, left, isReplace ▸ stops⟩
    · intro ⟨_, _, _, stops'⟩
      exact (stops.unique stops').1
  · apply Step.severity_eq_warning_iff.trans
    constructor
    · intro notReplace
      exact ⟨step, error, made, left, notReplace, stops⟩
    · intro ⟨_, _, _, _, notReplace, stops'⟩
      exact (stops.unique stops').1 ▸ notReplace
  · intro clean
    rcases ends with ⟨-, restored⟩ | ⟨litters, -⟩
    · exact restored.before_quiet quiet
    · exact absurd litters clean
  · intro litters
    rcases ends with ⟨clean, -⟩ | ⟨-, row, littered⟩
    · exact absurd litters clean
    · exact ⟨row, littered.before_quiet quiet⟩

/-! ## What is left when all steps succeed -/

/-- The permissions of what a path led to.  A path that led to nothing only has some if its name is that of
a temporary file, so that the one that was made is found there. -/
def HadMode (world : World) (path : Path) (mode : Nat) : Prop :=
  Disk.modeOf world.disk world.cwd path = .ok mode ∨
    ∃ place name, Disk.lookup world.disk world.cwd true path = .absent place name ∧
      Temporary.isMarked name = true

/-- A file has come in the place of what the path led to, with these bytes and with the permissions that
were there.  The path leads to it, unless it led through the entry itself, which then was a link to a
directory. -/
structure Replaced (path : Path) (bytes : List UInt8) (row : List String) (mode : Nat)
    (world after : World) : Prop where
  leads : Disk.LeadsTo world.disk world.cwd path row
  sets : world.Sets row (some (.file ⟨bytes, mode, true⟩)) after
  hadMode : HadMode world path mode
  found : Disk.linkStat after.disk after.cwd path = .ok (.file ⟨bytes, mode, true⟩) ∨
    Disk.LeadsThrough world.disk world.cwd path row ∧
      ∃ inside, Disk.stat world.disk world.cwd path = .ok (.dir inside)

theorem exists_stat_of_modeOf {disk : Listing} {cwd : List String}
    (told : Disk.modeOf disk cwd path = .ok mode) : ∃ node, Disk.stat disk cwd path = .ok node := by
  rw [Disk.modeOf] at told
  split at told
  · next isFile => exact ⟨_, isFile⟩
  · next isOther => exact ⟨_, isOther⟩
  · contradiction

/-- A renaming that succeeds is one of the system. -/
theorem rename_of_replace (replacing : replace temporary path world = .ok answer after) :
    ∃ disk, Disk.rename world.disk world.cwd temporary path = .ok disk ∧
      after.disk = disk ∧ after.cwd = world.cwd ∧ after.stranded = world.stranded := by
  obtain ⟨_, struck, asked, altering⟩ := bind_ok.1 replacing
  have quiet := (strike_quiet _ _).of_ok asked
  obtain ⟨disk, renamed, rfl⟩ := alter_ok.1 altering
  refine ⟨disk, ?_, rfl, quiet.cwd, quiet.stranded⟩
  split at renamed
  · contradiction
  · rw [quiet.disk, quiet.cwd] at renamed
    cases called : Disk.rename world.disk world.cwd temporary path with
    | ok found =>
        rw [called] at renamed
        cases renamed
        rfl
    | error code =>
        rw [called] at renamed
        contradiction

/-- The temporary file is renamed to an entry that is no directory, or to its own place. -/
theorem replace_leads (places : Places world temporary place ⟨bytes, mode, true⟩ middle)
    (known : ∀ front name, path.names = front ++ [name] → name ≠ ".." →
      ∃ row node, Disk.lookup middle.disk middle.cwd true path = .found row node)
    (replacing : replace temporary path middle = .ok answer after) :
    ∃ row, Disk.LeadsTo world.disk world.cwd path row ∧
      world.Sets row (some (.file ⟨bytes, mode, true⟩)) after ∧
      ∀ inside, world.disk.at? row ≠ some (.dir inside) := by
  obtain ⟨disk, renamed, isDisk, sameCwd, sameStranded⟩ := rename_of_replace replacing
  obtain ⟨front, name, names, down, target⟩ := Disk.leads_of_rename renamed
  rcases target with ⟨row, node, found, plain⟩ | ⟨above, last, absent⟩
  · obtain ⟨above, leads⟩ := Disk.leads_of_found names down found
    have there := Disk.at?_of_lookup found
    have isRow : row = above ++ [name] := by
      rw [leads.lookup] at found
      split at found
      · contradiction
      · cases found
        rfl
    have leads' := places.leadsTo_back ⟨above, name, isRow, leads⟩
    refine ⟨row, leads', ?_⟩
    by_cases same : row = place
    · subst same
      constructor
      · have kept : after.disk = middle.disk :=
          isDisk.trans (Disk.eq_of_rename_same
            (places.leaf.leads.lookup places.sets.disk.here) found renamed)
        exact ⟨kept ▸ places.sets.disk, sameCwd.trans places.sets.cwd,
          sameStranded.trans places.sets.stranded⟩
      · simp [places.absent]
    · have before : world.disk.at? row = some node :=
        Listing.at?_of_bareAt?_eq (places.taken.elsewhere row same) plain there
      constructor
      · exact replace_sets leads' before plain places.absent places.free places.sets places.leaf replacing
      · intro inside isDir
        rw [before] at isDir
        cases isDir
        contradiction
  · obtain ⟨row, node, found⟩ := known front name names down
    rw [Disk.lookup_true_of_absent absent] at found
    contradiction

section

variable (places : Places world temporary place data middle)
  (leads : Disk.LeadsTo world.disk world.cwd path row)

include places leads

/-- The permissions that are found beside the temporary file are those that were there before it was made,
unless they are its own. -/
theorem hadMode_of_modeOf (told : Disk.modeOf middle.disk middle.cwd path = .ok mode) :
    HadMode world path mode := by
  have leads' := places.leadsTo leads
  obtain ⟨node, found⟩ := exists_stat_of_modeOf told
  obtain ⟨end', looked⟩ := Disk.lookup_of_stat found
  rw [Disk.modeOf, found] at told
  rw [places.sets.cwd] at looked
  cases node with
  | link target => exact absurd found leads'.stat_ne_link
  | dir inside =>
      cases told
      obtain ⟨inside', looked'⟩ := Disk.lookup_dir_of_sameWays places.ways_back looked
      left
      rw [Disk.modeOf, Disk.stat_of_lookup looked']
  | file given =>
      cases told
      have deadEnd := Disk.isDeadEnd_of_at?_file places.sets.disk.here
      rcases Disk.lookup_file_of_sets deadEnd places.taken looked with ⟨looked', -⟩ | ⟨ends, -⟩
      · left
        rw [Disk.modeOf, Disk.stat_of_lookup looked']
      · -- The path leads to the temporary file itself.
        have isPlace : end' = place :=
          (ends.unique (.file places.sets.disk.here rfl)).1
        subst isPlace
        obtain ⟨above, name, -, way⟩ := places.sets.cwd ▸ leads'
        obtain ⟨above', name', isPlace, absent⟩ := way.absent_of_taken looked places.taken
        exact .inr ⟨above', name', absent, places.isMarked_of_place isPlace⟩

/-- A path that leads to a file beside the temporary one leads to a dead end. -/
theorem isDeadEnd_of_stat {given : FileData}
    (found : Disk.stat middle.disk middle.cwd path = .ok (.file given)) :
    Disk.IsDeadEnd world.disk row := by
  have deadEnd := (places.leadsTo leads).isDeadEnd_of_stat_file found
  by_cases same : row = place
  · exact same ▸ Disk.isDeadEnd_of_at?_none places.absent
  · exact Disk.isDeadEnd_of_sameWays places.ways (places.sets.disk.elsewhere row same) deadEnd

/-- What the path leads to when a file has come in the place of its entry. -/
theorem found_of_sets {file : FileData} (told : Disk.modeOf middle.disk middle.cwd path = .ok mode)
    (noDir : ∀ inside, world.disk.at? row ≠ some (.dir inside))
    (sets : world.Sets row (some (.file file)) after) :
    Disk.linkStat after.disk after.cwd path = .ok (.file file) ∨
      Disk.LeadsThrough world.disk world.cwd path row ∧
        ∃ inside, Disk.stat world.disk world.cwd path = .ok (.dir inside) := by
  have linkStat (still : Disk.LeadsTo after.disk world.cwd path row) :
      Disk.linkStat after.disk after.cwd path = .ok (.file file) := by
    rw [sets.cwd, still.linkStat, sets.disk.here]
    rfl
  by_cases deadEnd : Disk.IsDeadEnd world.disk row
  · exact .inl (linkStat (leads.of_sameWays (sets.disk.sameWays deadEnd)))
  · obtain ⟨node, found⟩ := exists_stat_of_modeOf told
    cases node with
    | file given => exact absurd (isDeadEnd_of_stat places leads found) deadEnd
    | link target => exact absurd found (places.leadsTo leads).stat_ne_link
    | dir inside =>
        obtain ⟨end', looked⟩ := Disk.lookup_of_stat found
        rw [places.sets.cwd] at looked
        obtain ⟨inside', looked'⟩ := Disk.lookup_dir_of_sameWays places.ways_back looked
        have isThere : world.disk.at? row ≠ none := by
          intro absent
          exact deadEnd (Disk.isDeadEnd_of_at?_none absent)
        obtain ⟨old, there⟩ := Option.ne_none_iff_exists'.1 isThere
        have plain : old.isDir = false := by
          cases old with
          | file | link => rfl
          | dir inner => exact absurd there (noDir inner)
        rcases leads.of_replaced there plain sets.disk with still | through
        · exact .inl (linkStat still)
        · exact .inr ⟨through, inside', Disk.stat_of_lookup looked'⟩

end

/-- When all steps succeed, a file with the new bytes has come in the place of what the path led to. -/
theorem Completes.replaced (completes : Completes path bytes world after) :
    ∃ row mode, Replaced path bytes row mode world after := by
  obtain @⟨temporary, first, second, third, prepared, stored, copied, replacing⟩ := completes
  obtain ⟨place, empty⟩ := Places.of_made prepared
  have full := empty.stored stored
  obtain ⟨mode, told, given⟩ := full.copied copied
  obtain ⟨node, stands⟩ := exists_stat_of_modeOf told
  obtain ⟨end', looked⟩ := Disk.lookup_of_stat stands
  -- The path was found before the permissions were copied, and so it is afterwards.
  have known : ∀ front name, path.names = front ++ [name] → name ≠ ".." →
      ∃ row node, Disk.lookup third.disk third.cwd true path = .found row node := by
    intro front name names down
    rw [given.sets.cwd, ← full.sets.cwd]
    exact Disk.exists_lookup_of_sets names down full.sets.disk.here
      (full.taken.trans given.sets.disk) looked
  obtain ⟨row, leads, sets, noDir⟩ := replace_leads given known replacing
  exact ⟨row, mode, leads, sets, hadMode_of_modeOf full leads told,
    found_of_sets full leads told noDir sets⟩

theorem Replaced.before_quiet {last : World} (replaced : Replaced path bytes row mode world after)
    (quiet : after.Quiet last) : Replaced path bytes row mode world last := by
  obtain ⟨leads, sets, hadMode, found⟩ := replaced
  refine ⟨leads, sets.before_quiet quiet, hadMode, ?_⟩
  rw [quiet.disk, quiet.cwd]
  exact found

end Replacement

namespace WriteStrategy

open Replacement

variable {path : Path} {world : World}

/-- An atomic replacement always comes to an end.  Either no step fails and a file with the new bytes has
come in the place of what the path led to, or the first step that fails is reported and the files are kept
as they were. -/
theorem write_replaces_or_keeps (noNul : Disk.hasNul path = false)
    (noNul' : Disk.hasNul (Disk.cwdPath world.cwd) = false) (bytes : List UInt8) :
    ∃ problem after, WriteStrategy.atomic.write path bytes world = .ok problem after ∧
      match problem with
      | none => (∃ row mode, Replaced path bytes row mode world after) ∧
          ∀ step error made left, ¬ Stops path bytes world step error made left
      | some diagnostic => Kept path bytes world diagnostic after := by
  obtain ⟨problem, after, done⟩ := write_returns .atomic noNul noNul' bytes
  obtain ⟨middle, replacing, quiet⟩ := write_split done
  refine ⟨problem, after, done, ?_⟩
  rcases replaceAtomically_cases replacing with
    ⟨rfl, completes⟩ | ⟨step, error, made, left, stops, discards, rfl⟩
  · constructor
    · obtain ⟨row, mode, replaced⟩ := completes.replaced
      exact ⟨row, mode, replaced.before_quiet quiet⟩
    · intro step error made left stops
      exact stops.not_completes completes
  · exact .of_stops stops discards quiet

namespace Sample

/-- A class file in a world in which nothing can be renamed or removed. -/
def stuck : World :=
  { disk := .file "x.class" ⟨[0x42], 0o640, false⟩ .empty
    faults := [{ call := .replace, code := SystemError.busy }, { call := .unlink, code := SystemError.busy }]
    now := default }

/-- The path of the class file. -/
def stuckPath : Path :=
  ⟨.relative, ["x.class"], isName_sample⟩

/-- A directory and a link to it. -/
def turning : World :=
  { disk := .dir "d" .empty (.link "l" "d" .empty)
    now := default }

/-- A path that leads to the link by way of the link. -/
def turningPath : Path :=
  ⟨.relative, ["l", "..", "l"], by decide⟩

end Sample

/-- When neither the renaming nor the removal of the temporary file succeeds, the class file is as it was and
the temporary file stays behind. -/
theorem write_replaces_or_keeps_stuck :
    Disk.hasNul Sample.stuckPath = false ∧ Disk.hasNul (Disk.cwdPath Sample.stuck.cwd) = false ∧
      ∃ problem after,
        WriteStrategy.atomic.write Sample.stuckPath [0x41] Sample.stuck = .ok (some problem) after ∧
        problem.severity = .error ∧
        (∃ error made left, Stops Sample.stuckPath [0x41] Sample.stuck .replace error made left) ∧
        ∃ row, Littered Sample.stuck after row := by
  have noNul : Disk.hasNul Sample.stuckPath = false := by decide
  have noNul' : Disk.hasNul (Disk.cwdPath Sample.stuck.cwd) = false := by decide +kernel
  have stays : (WriteStrategy.atomic.write Sample.stuckPath [0x41]).endsIn (fun problem world =>
      problem.any (·.severity = .error) && world.stranded ≠ []) Sample.stuck = true := by
    decide +kernel
  obtain ⟨found, last, done', told⟩ := ok_of_endsIn stays
  obtain ⟨problem, after, done, ends⟩ := write_replaces_or_keeps noNul noNul' [0x41]
  rw [done] at done'
  obtain ⟨rfl, rfl⟩ : problem = found ∧ after = last := by simpa using done'
  cases problem with
  | none => simp at told
  | some problem =>
      simp only [Option.any_some, Bool.and_eq_true, decide_eq_true_eq] at told
      refine ⟨noNul, noNul', problem, after, done, told.1, ends.error_iff.1 told.1, ?_⟩
      apply ends.littered
      apply Classical.byContradiction
      intro clean
      exact told.2 (ends.restored clean).stranded

/-- A link to a directory is replaced by a file although the path leads to the link by way of it.  Then the
path leads to nothing. -/
theorem write_turns_away :
    Disk.hasNul Sample.turningPath = false ∧
      ∃ after, WriteStrategy.atomic.write Sample.turningPath [0x41] Sample.turning = .ok none after ∧
        ∀ node, Disk.stat after.disk after.cwd Sample.turningPath ≠ .ok node := by
  have noNul : Disk.hasNul Sample.turningPath = false := by decide
  have ends : (WriteStrategy.atomic.write Sample.turningPath [0x41]).endsIn (fun problem world =>
      problem = none && (Disk.stat world.disk world.cwd Sample.turningPath).toOption = none)
        Sample.turning = true := by
    decide +kernel
  obtain ⟨problem, after, done, told⟩ := ok_of_endsIn ends
  simp only [Bool.and_eq_true, decide_eq_true_eq] at told
  obtain ⟨rfl, nothing⟩ := told
  refine ⟨noNul, after, done, ?_⟩
  intro node found
  simp [found, Except.toOption] at nothing

end WriteStrategy

end Enhance
