import Enhance.Proofs.Disk.Outline
import Enhance.Proofs.Disk.Through
import Enhance.Proofs.Faultless
import Enhance.Proofs.Replacement

/-!
# Writing class files that no fault strikes

When no fault strikes, a class file that could be read is written, unless there is no room for a temporary
file beside it (`WriteStrategy.preparing`), and then nothing changes (`WriteStrategy.write_gives`,
`WriteStrategy.write_puts`).  Whether there is room does not depend on what stands in files
(`WriteStrategy.preparing_of_outline`).
-/

namespace Enhance

open Program

/-- A single row of names has come to lead to something else.  A tree in order stays in order, and still
no fault strikes. -/
structure World.Puts (before : World) (row : List String) (entry : Option Node) (after : World) :
    Prop where
  sets : before.Sets row entry after
  ascending : before.disk.isAscending = true → after.disk.isAscending = true
  faults : after.faults = []

namespace World.Puts

variable {before middle after : World} {row : List String} {first entry : Option Node}

theorem trans (one : before.Puts row first middle) (two : middle.Puts row entry after) :
    before.Puts row entry after :=
  ⟨one.sets.trans two.sets, two.ascending ∘ one.ascending, two.faults⟩

theorem after_calm (calm : before.Calm middle) (puts : middle.Puts row entry after) :
    before.Puts row entry after := by
  obtain ⟨⟨disk, cwd, stranded⟩, ascending, faults⟩ := puts
  rw [calm.disk] at disk ascending
  exact ⟨⟨disk, cwd.trans calm.cwd, stranded.trans calm.stranded⟩, ascending, faults⟩

theorem before_calm (puts : before.Puts row entry middle) (calm : middle.Calm after) :
    before.Puts row entry after := by
  obtain ⟨⟨disk, cwd, stranded⟩, ascending, faults⟩ := puts
  rw [← calm.disk] at disk ascending
  exact ⟨⟨disk, calm.cwd.trans cwd, calm.stranded.trans stranded⟩, ascending, calm.faults faults⟩

end World.Puts

theorem World.Leaf.after_calm {before after : World} {path : Path} {row : List String}
    (leaf : before.Leaf path row) (calm : before.Calm after) : after.Leaf path row := by
  rw [World.Leaf, calm.disk, calm.cwd]
  exact leaf

namespace Replacement

variable {path temporary : Path} {row place : List String} {world middle after : World} {node : Node}
  {data : FileData} {bytes : List UInt8} {entry : Option Node}

/-! ## Single steps -/

theorem strike_faultless (faultless : world.faults = []) (call : SystemCall) (name : Option String) :
    strike call name world = .ok () world := by
  rw [strike_ok, faultless]
  refine ⟨rfl, ?_⟩
  rw [Fault.ask_nil, ← faultless]

theorem strike_bind_faultless {α : Type} (faultless : world.faults = []) (call : SystemCall)
    (name : Option String) (next : Unit → Program α) :
    (strike call name >>= next) world = next () world := by
  rw [bind_eq, strike_faultless faultless]

/-- What a call about a path comes to. -/
theorem change_eq {change : Listing → List String → Except Nat Listing}
    (noNul : Disk.hasNul path = false) : Program.change path change world =
      match change world.disk world.cwd with
      | .ok disk => .ok () { world with disk, moments := disk :: world.moments }
      | .error code => .error (.system (Disk.errorAt code path)) world := by
  cases called : change world.disk world.cwd with
  | ok disk =>
      refine alter_ok.2 ⟨disk, ?_, rfl⟩
      rw [noNul, called]
      rfl
  | error code =>
      refine alter_error.2 ⟨?_, rfl⟩
      rw [noNul, called]
      rfl

/-- A call about a path that sets a leaf. -/
theorem change_puts {change : Listing → List String → Except Nat Listing}
    (faultless : world.faults = []) (noNul : Disk.hasNul path = false)
    (sets : ∃ disk, change world.disk world.cwd = .ok disk ∧ Disk.Sets world.disk row entry disk)
    (keeps : ∀ disk, world.disk.isAscending = true → change world.disk world.cwd = .ok disk →
      disk.isAscending = true) :
    ∃ after, Program.change path change world = .ok () after ∧ world.Puts row entry after := by
  obtain ⟨disk, changed, sets⟩ := sets
  refine ⟨{ world with disk, moments := disk :: world.moments }, ?_, ⟨sets, rfl, rfl⟩,
    fun ascending => keeps disk ascending changed, faultless⟩
  rw [change_eq noNul, changed]

theorem remove_puts (faultless : world.faults = [])
    (noNul : Disk.hasNul path = false) (leaf : world.Leaf path row)
    (there : world.disk.at? row = some node) :
    ∃ after, remove path world = .ok () after ∧ world.Puts row none after := by
  rw [remove, strike_bind_faultless faultless]
  exact change_puts faultless noNul (leaf.unlink there) fun _ => Disk.isAscending_unlink

theorem makeAnew_puts (faultless : world.faults = [])
    (noNul : Disk.hasNul path = false) (leaf : world.Leaf path row)
    (absent : world.disk.at? row = none) :
    ∃ after, makeAnew path world = .ok () after ∧
      world.Puts row (some (.file ⟨[], Disk.defaultMode, true⟩)) after := by
  rw [makeAnew, strike_bind_faultless faultless]
  exact change_puts faultless noNul (leaf.create absent _) fun _ => Disk.isAscending_create

theorem writeAll_puts (faultless : world.faults = [])
    (noNul : Disk.hasNul path = false) (leaf : world.Leaf path row)
    (there : world.disk.at? row = some (.file data)) (bytes : List UInt8) :
    ∃ after, writeAll path bytes world = .ok () after ∧
      world.Puts row (some (.file ⟨bytes, data.mode, true⟩)) after := by
  have writes : ∃ after, Program.change path (fun disk cwd => Disk.write disk cwd path bytes) world =
      .ok () after ∧ world.Puts row (some (.file ⟨bytes, data.mode, true⟩)) after :=
    change_puts faultless noNul (leaf.write there bytes) fun _ => Disk.isAscending_write
  obtain ⟨after, changed, puts⟩ := writes
  refine ⟨after, ?_, puts⟩
  rw [writeAll, bind_eq, changed]
  exact strike_faultless puts.faults _ _

theorem copyMode_puts {source : Path} {given : FileData} (faultless : world.faults = [])
    (noNul : Disk.hasNul temporary = false)
    (noNul' : Disk.hasNul source = false) (leaf : world.Leaf temporary row)
    (there : world.disk.at? row = some (.file data))
    (found : Disk.stat world.disk world.cwd source = .ok (.file given)) :
    ∃ after, copyMode source temporary world = .ok () after ∧
      world.Puts row (some (.file { data with mode := given.mode })) after := by
  have asked : Program.ask (fun disk cwd =>
      if Disk.hasNul source then .error .embeddedNul
      else (Disk.modeOf disk cwd source).mapError fun code => .system (Disk.errorAt code source))
      world = .ok given.mode world := by
    refine ask_ok.2 ⟨?_, rfl⟩
    simp [noNul', Disk.modeOf, found]
  rw [copyMode, strike_bind_faultless faultless, bind_eq, asked]
  exact change_puts faultless noNul (leaf.setMode there given.mode)
    fun _ => Disk.isAscending_setMode

/-- A temporary file is filled and given the permissions of the class file. -/
theorem fill_puts {source : Path} {given : FileData} (faultless : world.faults = [])
    (noNul : Disk.hasNul temporary = false)
    (noNul' : Disk.hasNul source = false) (leaf : world.Leaf temporary row)
    (there : world.disk.at? row = some (.file data))
    (found : ∀ middle, world.Sets row (some (.file ⟨bytes, data.mode, true⟩)) middle →
      Disk.stat middle.disk middle.cwd source = .ok (.file given)) :
    ∃ after, (do writeAll temporary bytes; copyMode source temporary) world = .ok () after ∧
      world.Puts row (some (.file ⟨bytes, given.mode, true⟩)) after := by
  obtain ⟨middle, written, puts⟩ := writeAll_puts faultless noNul leaf there bytes
  obtain ⟨after, copied, puts'⟩ := copyMode_puts puts.faults noNul noNul'
    (leaf.of_sets_file puts.sets) puts.sets.disk.here (found middle puts.sets)
  exact ⟨after, bind_ok.2 ⟨(), middle, written, copied⟩, puts.trans puts'⟩

/-! ## Temporary files -/

/-- What keeps a temporary file for a class file from being made. -/
def preparing (disk : Listing) (cwd : List String) (path : Path) : Except Failure (Option Diagnostic) :=
  let temporary := temporaryPath disk cwd (temporaryDir cwd path)
  if Disk.hasNul temporary then .error .embeddedNul
  else
    match Disk.create disk cwd temporary Disk.privateMode with
    | .ok _ => .ok none
    | .error code =>
      .ok (some (diagnostic path .warning
        "Problem preparing class file for writing out enhancements" (Disk.errorAt code temporary)))

/-- Whether there is something at a path does not depend on what stands in files. -/
theorem isFree_of_outline {disk disk' : Listing} (same : disk'.outline = disk.outline)
    (cwd : List String) (path : Path) : isFree disk' cwd path = isFree disk cwd path := by
  have kinds (disk : Listing) : isFree disk.outline cwd path = isFree disk cwd path := by
    rw [isFree, isFree, Disk.lookup_outline]
    cases Disk.lookup disk cwd false path <;> rfl
  rw [← kinds, same, kinds]

theorem temporaryPath_of_outline {disk disk' : Listing} (same : disk'.outline = disk.outline)
    (cwd : List String) (directory : Path) :
    temporaryPath disk' cwd directory = temporaryPath disk cwd directory := by
  have counts (disk : Listing) : disk.outline.entryCount = disk.entryCount :=
    Listing.entryCount_mapped Node.isDir_blank disk
  have counted : disk'.entryCount = disk.entryCount := by
    rw [← counts, same, counts]
  simp only [temporaryPath, counted, isFree_of_outline same]

/-- Whether a file can be made at a path does not depend on what stands in files. -/
theorem create_of_outline {disk disk' : Listing} (same : disk'.outline = disk.outline)
    (cwd : List String) (path : Path) (mode : Nat) :
    (Disk.create disk' cwd path mode).map (fun _ => ()) =
      (Disk.create disk cwd path mode).map fun _ => () := by
  have kinds (disk : Listing) : (Disk.create disk.outline cwd path mode).map (fun _ => ()) =
      (Disk.create disk cwd path mode).map fun _ => () := by
    rw [Disk.create, Disk.create, Disk.lookup_outline]
    cases Disk.lookup disk cwd false path <;> rfl
  rw [← kinds, same, kinds]

theorem preparing_of_outline {disk disk' : Listing} (same : disk'.outline = disk.outline)
    (cwd : List String) (path : Path) : preparing disk' cwd path = preparing disk cwd path := by
  have created := create_of_outline same cwd (temporaryPath disk cwd (temporaryDir cwd path))
    Disk.privateMode
  rw [preparing, preparing, temporaryPath_of_outline same]
  revert created
  cases Disk.create disk' cwd (temporaryPath disk cwd (temporaryDir cwd path)) Disk.privateMode <;>
    cases Disk.create disk cwd (temporaryPath disk cwd (temporaryDir cwd path)) Disk.privateMode <;>
    simp +contextual [Except.map]

/-- What making a temporary file comes to. -/
theorem makeTemporary_eq (faultless : world.faults = [])
    (same : temporaryPath world.disk world.cwd (temporaryDir world.cwd path) = temporary) :
    makeTemporary path world =
      (do Program.change temporary fun disk cwd => Disk.create disk cwd temporary Disk.privateMode
          pure temporary) world := by
  rw [makeTemporary, strike_bind_faultless faultless, get_bind, same]

/-- A temporary file is made at a place that was free. -/
theorem makeTemporary_puts (faultless : world.faults = [])
    (prepared : preparing world.disk world.cwd path = .ok none) :
    ∃ temporary place after, makeTemporary path world = .ok temporary after ∧
      Disk.hasNul temporary = false ∧ world.disk.at? place = none ∧ world.Leaf temporary place ∧
      world.Puts place (some (.file ⟨[], Disk.privateMode, true⟩)) after := by
  rw [preparing] at prepared
  generalize same : temporaryPath world.disk world.cwd (temporaryDir world.cwd path) = temporary
    at prepared
  split at prepared
  · contradiction
  · next noNul =>
      rw [Bool.not_eq_true] at noNul
      split at prepared
      · next disk created =>
          have made : makeTemporary path world =
              .ok temporary { world with disk, moments := disk :: world.moments } := by
            rw [makeTemporary_eq faultless same, bind_eq, change_eq noNul, created]
            rfl
          obtain ⟨-, place, absent, leaf, sets⟩ := makeTemporary_ok made
          exact ⟨temporary, place, _, made, noNul, absent, leaf, sets,
            fun ascending => Disk.isAscending_create ascending created, faultless⟩
      · cases prepared

/-- A file that a path leads to stays when another one is made at a place that was free. -/
theorem stat_of_sets_absent {disk disk' : Listing} {cwd : List String}
    (absent : disk.at? place = none) (sets : Disk.Sets disk place entry disk')
    (found : Disk.stat disk cwd path = .ok (.file data)) :
    Disk.stat disk' cwd path = .ok (.file data) := by
  obtain ⟨end', leads⟩ := Disk.lookup_of_stat found
  rcases Disk.lookup_file_of_sets (Disk.isDeadEnd_of_at?_none absent) sets leads with
    ⟨same, -⟩ | ⟨ends, -⟩
  · exact Disk.stat_of_lookup same
  · exact absurd absent ends.at?_ne_none

/-- The full temporary file is renamed. -/
theorem replace_puts {mode : Nat} (noNul : Disk.hasNul path = false) (leaf : world.Leaf path row)
    (there : world.disk.at? row = some node) (absent : world.disk.at? place = none)
    (free : world.Leaf temporary place)
    (filled : world.Puts place (some (.file ⟨bytes, mode, true⟩)) middle) :
    ∃ after, replace temporary path middle = .ok () after ∧
      world.Puts row (some (.file ⟨bytes, mode, true⟩)) after := by
  have full := free.of_sets_file filled.sets
  have plain := leaf.isDir_eq_false there
  have ne : row ≠ place := by
    rintro rfl
    rw [absent] at there
    contradiction
  have still : middle.disk.at? row = some node :=
    Listing.at?_of_bareAt?_eq (filled.sets.disk.elsewhere row ne) plain there
  have leads : Disk.LeadsTo middle.disk middle.cwd path row := by
    rw [filled.sets.cwd]
    exact leaf.leads.of_sameWays (filled.sets.disk.sameWays free.deadEnd)
  obtain ⟨-, disk, renamed, -⟩ := full.rename leads filled.sets.disk.here still plain ne
  have replaced : replace temporary path middle =
      .ok () { middle with disk, moments := disk :: middle.moments } := by
    rw [replace, strike_bind_faultless filled.faults]
    refine alter_ok.2 ⟨disk, ?_, rfl⟩
    simp [noNul, renamed]
  have file := full.leads.lookup filled.sets.disk.here
  exact ⟨_, replaced, replace_sets leaf.leads there plain absent free filled.sets full replaced,
    fun ascending => Disk.isAscending_rename (filled.ascending ascending) ⟨_, _, file⟩ renamed,
    filled.faults⟩

/-! ## The strategies -/

/-- If no temporary file can be made, nothing changes. -/
theorem replaceAtomically_gives (faultless : world.faults = [])
    {result : Except Failure (Option Diagnostic)}
    (prepared : preparing world.disk world.cwd path = result) (unready : result ≠ .ok none) :
    (replaceAtomically path bytes).Gives world result := by
  rw [preparing] at prepared
  generalize same : temporaryPath world.disk world.cwd (temporaryDir world.cwd path) = temporary
    at prepared
  rw [Gives, replaceAtomically, get_bind, bind_eq, catchSystem, tryCatch_map_eq,
    makeTemporary_eq faultless same, bind_eq]
  split at prepared
  · next nul =>
      have refused : Program.change temporary
          (fun disk cwd => Disk.create disk cwd temporary Disk.privateMode) world =
            .error .embeddedNul world := by
        exact alter_error.2 ⟨if_pos nul, rfl⟩
      rw [refused, ← prepared]
      exact ⟨world, rfl, .refl world⟩
  · next noNul =>
      rw [Bool.not_eq_true] at noNul
      split at prepared
      · exact absurd prepared.symm unready
      · next code refused =>
          rw [change_eq noNul, refused, ← prepared]
          exact ⟨world, rfl, .refl world⟩

/-- Otherwise the class file holds the bytes and has the permissions it had. -/
theorem replaceAtomically_puts (faultless : world.faults = [])
    (noNul : Disk.hasNul path = false)
    (leaf : world.Leaf path row) (there : world.disk.at? row = some node)
    (found : Disk.stat world.disk world.cwd path = .ok (.file data))
    (prepared : preparing world.disk world.cwd path = .ok none) :
    ∃ after, replaceAtomically path bytes world = .ok none after ∧
      world.Puts row (some (.file ⟨bytes, data.mode, true⟩)) after := by
  obtain ⟨temporary, place, first, made, noNul', absent, free, puts⟩ :=
    makeTemporary_puts faultless prepared
  have stays : ∀ middle, first.Sets place (some (.file ⟨bytes, Disk.privateMode, true⟩)) middle →
      Disk.stat middle.disk middle.cwd path = .ok (.file data) := by
    intro middle sets
    have whole := puts.sets.trans sets
    rw [whole.cwd]
    exact stat_of_sets_absent absent whole.disk found
  obtain ⟨second, filled, puts'⟩ := fill_puts puts.faults noNul' noNul
    (free.of_sets_file puts.sets) puts.sets.disk.here stays
  obtain ⟨third, replaced, puts''⟩ := replace_puts noNul leaf there absent free (puts.trans puts')
  refine ⟨third, ?_, puts''⟩
  rw [replaceAtomically, get_bind, bind_eq, catchSystem_value.2 made]
  refine bind_ok.2 ⟨.ok (), second, catchSystem_value.2 filled, ?_⟩
  exact bind_ok.2 ⟨.ok (), third, catchSystem_value.2 replaced, rfl⟩

/-- A class file that is deleted and made anew holds the bytes and has the usual permissions. -/
theorem deleteAndRecreate_puts (faultless : world.faults = [])
    (noNul : Disk.hasNul path = false)
    (leaf : world.Leaf path row) (there : world.disk.at? row = some node) :
    ∃ after, deleteAndRecreate path bytes world = .ok none after ∧
      world.Puts row (some (.file ⟨bytes, Disk.defaultMode, true⟩)) after := by
  obtain ⟨first, removed, puts⟩ := remove_puts faultless noNul leaf there
  have free := leaf.of_sets_none puts.sets
  obtain ⟨second, made, puts'⟩ :=
    makeAnew_puts puts.faults noNul free puts.sets.disk.here
  obtain ⟨third, written, puts''⟩ := writeAll_puts puts'.faults noNul
    (free.of_sets_file puts'.sets) puts'.sets.disk.here bytes
  refine ⟨third, ?_, (puts.trans puts').trans puts''⟩
  rw [deleteAndRecreate, get_bind, bind_eq, catchSystem_value.2 removed]
  refine bind_ok.2 ⟨.ok (), second, catchSystem_value.2 made, ?_⟩
  exact bind_ok.2 ⟨.ok (), third, catchSystem_value.2 written, rfl⟩

end Replacement

namespace WriteStrategy

open Replacement

variable {strategy : WriteStrategy} {path : Path} {row : List String} {bytes : List UInt8}
  {world after : World} {node : Node} {data : FileData}

/-- What keeps a class file from being written when no fault strikes. -/
def preparing : WriteStrategy → Listing → List String → Path → Except Failure (Option Diagnostic)
  | .atomic => Replacement.preparing
  | .recreate => fun _ _ _ => .ok none

/-- The permission bits of a class file that is written. -/
def modeOf (data : FileData) : WriteStrategy → Nat
  | .atomic => data.mode
  | .recreate => Disk.defaultMode

/-- Whether a class file can be written does not depend on what stands in files. -/
theorem preparing_of_outline {disk disk' : Listing} (same : disk'.outline = disk.outline)
    (strategy : WriteStrategy) (cwd : List String) (path : Path) :
    strategy.preparing disk' cwd path = strategy.preparing disk cwd path := by
  cases strategy with
  | atomic => exact Replacement.preparing_of_outline same cwd path
  | recreate => rfl

theorem stage_of_preparing {disk : Listing} {cwd : List String} {diagnostic : Diagnostic}
    (prepared : strategy.preparing disk cwd path = .ok (some diagnostic)) :
    diagnostic.stage = .persistence := by
  cases strategy with
  | recreate => cases prepared
  | atomic =>
      rw [preparing, Replacement.preparing] at prepared
      split at prepared
      · cases prepared
      · split at prepared
        · cases prepared
        · cases prepared
          rfl

/-- A class file that cannot be written stays as it is, and so does everything else. -/
theorem write_gives (faultless : world.faults = []) {result : Except Failure (Option Diagnostic)}
    (prepared : strategy.preparing world.disk world.cwd path = result) (unready : result ≠ .ok none) :
    (strategy.write path bytes).Gives world result := by
  cases strategy with
  | recreate => exact absurd prepared.symm unready
  | atomic =>
      have gives : (replaceAtomically path bytes).Gives world result :=
        replaceAtomically_gives faultless prepared unready
      cases result with
      | error failure => exact gives.bind_error
      | ok problem =>
          cases problem with
          | none => exact absurd rfl unready
          | some diagnostic =>
              exact gives.bind_ok fun middle _ => (gives_log _ middle).bind_ok fun last _ =>
                gives_pure _ last

/-- A class file that can be written holds the bytes afterwards. -/
theorem write_puts (faultless : world.faults = [])
    (noNul : Disk.hasNul path = false) (leaf : world.Leaf path row)
    (there : world.disk.at? row = some node)
    (found : Disk.stat world.disk world.cwd path = .ok (.file data))
    (prepared : strategy.preparing world.disk world.cwd path = .ok none) :
    ∃ after, strategy.write path bytes world = .ok none after ∧
      world.Puts row (some (.file ⟨bytes, strategy.modeOf data, true⟩)) after := by
  have noted (middle : World) (entry : LogEntry) :
      (log entry >>= fun _ => pure (none : Option Diagnostic)).Gives middle (.ok none) :=
    (gives_log entry middle).bind_ok fun last _ => gives_pure none last
  cases strategy with
  | atomic =>
      obtain ⟨middle, done, puts⟩ :=
        replaceAtomically_puts faultless noNul leaf there found prepared
      obtain ⟨after, ends, calm⟩ := noted middle _
      exact ⟨after, bind_ok.2 ⟨none, middle, done, ends⟩, puts.before_calm calm⟩
  | recreate =>
      obtain ⟨middle, done, puts⟩ := deleteAndRecreate_puts faultless noNul leaf there
      obtain ⟨after, ends, calm⟩ := noted middle _
      exact ⟨after, bind_ok.2 ⟨none, middle, done, ends⟩, puts.before_calm calm⟩

end WriteStrategy

end Enhance
