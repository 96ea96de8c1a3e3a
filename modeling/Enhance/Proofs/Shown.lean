import Enhance.Proofs.Lawful

/-!
# Programs that do not look at what was shown

What the console and the log show is put on top of what they showed before.  A program is framed if it
does the same whatever was shown before (`Program.Framed`); so it ends in the same way in worlds that
differ only in what is shown (`Program.Framed.of_ok`).
-/

namespace Enhance

/-- What is shown: the entries of the log and from which rank on they are printed, and the texts on the
console. -/
structure Shown where
  log : List LogEntry
  printed : List String
  shownFrom : Option Nat

/-- A world where something was shown before. -/
def World.onTopOf (world : World) (earlier : Shown) : World :=
  { world with
    log := world.log ++ earlier.log
    printed := world.printed ++ earlier.printed
    shownFrom := earlier.shownFrom }

/-- A second world is like a first one, but for what is shown. -/
def World.SameButShown (one two : World) : Prop :=
  ∃ log printed shownFrom, two = { one with log, printed, shownFrom }

namespace World.SameButShown

variable {one two three : World}

theorem refl (world : World) : world.SameButShown world :=
  ⟨_, _, _, rfl⟩

theorem symm (same : one.SameButShown two) : two.SameButShown one := by
  obtain ⟨log, printed, shownFrom, rfl⟩ := same
  exact ⟨one.log, one.printed, one.shownFrom, rfl⟩

theorem trans (same : one.SameButShown two) (more : two.SameButShown three) :
    one.SameButShown three := by
  obtain ⟨log, printed, shownFrom, rfl⟩ := same
  obtain ⟨log', printed', shownFrom', rfl⟩ := more
  exact ⟨log', printed', shownFrom', rfl⟩

theorem quiet (same : one.SameButShown two) : one.Quiet two := by
  obtain ⟨log, printed, shownFrom, rfl⟩ := same
  exact ⟨rfl, rfl, rfl, rfl⟩

theorem onTopOf (world : World) (earlier : Shown) : world.SameButShown (world.onTopOf earlier) :=
  ⟨_, _, _, rfl⟩

/-- Worlds that differ in what is shown are the same world on top of different things. -/
theorem exists_base (same : one.SameButShown two) :
    ∃ (base : World) (earlier other : Shown),
      one = base.onTopOf earlier ∧ two = base.onTopOf other := by
  obtain ⟨log, printed, shownFrom, rfl⟩ := same
  exact ⟨{ one with log := [], printed := [] }, ⟨one.log, one.printed, one.shownFrom⟩,
    ⟨log, printed, shownFrom⟩, rfl, rfl⟩

end World.SameButShown

namespace Program

variable {α β : Type}

/-- The end of a program where something was shown before. -/
def endOnTopOf (ended : EStateM.Result Failure World α) (earlier : Shown) :
    EStateM.Result Failure World α :=
  match ended with
  | .ok value world => .ok value (world.onTopOf earlier)
  | .error failure world => .error failure (world.onTopOf earlier)

/-- A program does the same whatever was shown before. -/
def Framed (program : Program α) : Prop :=
  ∀ world earlier, program (world.onTopOf earlier) = endOnTopOf (program world) earlier

/-! ## What is made of programs that are framed -/

theorem framed_pure (value : α) : Framed (pure value) :=
  fun _ _ => rfl

theorem framed_throw (failure : Failure) : Framed (throw failure : Program α) :=
  fun _ _ => rfl

theorem framed_bind {first : Program α} {second : α → Program β} (one : Framed first)
    (two : ∀ found, Framed (second found)) : Framed (first >>= second) := by
  intro world earlier
  rw [bind_eq, bind_eq, one world earlier]
  cases first world with
  | ok found middle => exact two found middle earlier
  | error failure middle => rfl

/-- What is done next may depend on the world, but not on what was shown. -/
theorem framed_get_bind {next : World → Program α} (framed : ∀ world, Framed (next world))
    (depends : ∀ world earlier, next (world.onTopOf earlier) = next world) :
    Framed (get >>= next) := by
  intro world earlier
  rw [get_bind, get_bind, depends]
  exact framed world world earlier

theorem framed_modify {change : World → World}
    (commutes : ∀ world earlier, change (world.onTopOf earlier) = (change world).onTopOf earlier) :
    Framed (modify change : Program PUnit) := by
  intro world earlier
  change EStateM.Result.ok _ (change (world.onTopOf earlier)) = .ok _ ((change world).onTopOf earlier)
  rw [commutes]

theorem framed_log (entry : LogEntry) : Framed (log entry) :=
  framed_modify fun _ _ => rfl

theorem framed_strike (call : SystemCall) (name : Option String) : Framed (strike call name) := by
  intro world earlier
  rw [strike, get_bind, get_bind, World.onTopOf]
  cases Fault.ask call name world.faults with
  | mk struck faults =>
      cases struck with
      | none | some code => rfl

theorem framed_alter (call : Listing → List String → Except Failure Listing) :
    Framed (alter call) := by
  intro world earlier
  rw [alter, get_bind, get_bind, World.onTopOf]
  cases call world.disk world.cwd with
  | ok disk | error failure => rfl

theorem framed_readClock : Framed readClock := by
  intro world earlier
  obtain ⟨disk, cwd, faults, log, shown, columns, printed, spans, begun, reported, calls, moments,
    stranded, clock, now⟩ := world
  cases clock with
  | nil => rfl
  | cons reading rest =>
      cases rest with
      | nil | cons next rest => rfl

theorem framed_catchSystem {program : Program α} (framed : Framed program) :
    Framed (catchSystem program) := by
  intro world earlier
  rw [catchSystem, tryCatch_map_eq, tryCatch_map_eq, framed world earlier]
  cases program world with
  | ok value after => rfl
  | error failure after =>
      cases failure with
      | system error => rfl
      | _ => rfl

theorem framed_catchOrdinary {program : Program α} (framed : Framed program) :
    Framed (catchOrdinary program) := by
  intro world earlier
  rw [catchOrdinary, tryCatch_map_eq, tryCatch_map_eq, framed world earlier]
  cases program world with
  | ok value after => rfl
  | error failure after =>
      by_cases ordinary : failure.isOrdinary = true
      · simp only [endOnTopOf, ordinary, ↓reduceIte]
        rfl
      · simp only [endOnTopOf, ordinary, Bool.false_eq_true, ↓reduceIte]
        rfl

theorem framed_apart {program : Program α} (framed : Framed program) : Framed (apart program) := by
  intro world earlier
  rw [apart, apart, framed world earlier]
  cases program world with
  | ok value after | error failure after => rfl

theorem framed_traced {program : Program α} (name : String) (attributes : List (String × Json))
    (framed : Framed program) : Framed (traced name attributes program) := by
  intro world earlier
  have begun := framed { world with spansBegun := world.spansBegun + 1 } earlier
  rw [traced_eq, traced_eq]
  change (match program (World.onTopOf { world with spansBegun := world.spansBegun + 1 } earlier) with
    | .ok value middle => _
    | .error failure middle => _) = _
  rw [begun]
  cases program { world with spansBegun := world.spansBegun + 1 } with
  | ok value after | error failure after => rfl

/-- Nothing that a run does itself depends on what was shown. -/
theorem framed_working : Working fun _ program => Framed program where
  pure := framed_pure
  throw := framed_throw
  bind := framed_bind
  look steps depends :=
    framed_get_bind steps fun _ _ => depends _ _ rfl rfl
  catchSystem := framed_catchSystem
  log _ := framed_log _
  strike := framed_strike
  report sink diagnostic := by
    cases sink with
    | none => exact framed_pure _
    | collecting => exact framed_modify fun _ _ => rfl
    | logging => exact framed_log _
  alter := framed_alter
  strand _ := framed_modify fun _ _ => rfl
  readClock := framed_readClock
  now steps := framed_get_bind (fun world => steps world.now) fun _ _ => rfl
  catchOrdinary := framed_catchOrdinary
  traced := framed_traced
  apart := framed_apart
  record _ := framed_modify fun _ _ => rfl

/-- A program that is framed ends in the same way where other things were shown. -/
theorem Framed.of_ok {program : Program α} {one one' two : World} {value : α}
    (framed : Framed program) (same : one.SameButShown two)
    (done : program one = .ok value one') :
    ∃ two', program two = .ok value two' ∧ one'.SameButShown two' := by
  obtain ⟨base, earlier, other, rfl, rfl⟩ := same.exists_base
  rw [framed base earlier] at done
  rw [framed base other]
  cases ended : program base with
  | ok found after =>
      rw [ended] at done
      cases done
      exact ⟨_, rfl, (World.SameButShown.onTopOf after earlier).symm.trans (.onTopOf after other)⟩
  | error failure after =>
      rw [ended] at done
      contradiction

end Program

end Enhance
