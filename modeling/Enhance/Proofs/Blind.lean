import Enhance.Proofs.Lawful

/-!
# Programs that do not read the log

Two worlds that differ in their logs only are told apart by no program that is blind to the log.
Started in such worlds, two programs that are alike end alike (`Program.Alike`), so that a run can be
compared step by step with one that notes other things.
-/

namespace Enhance

/-- A second world is like a first one, but for the log. -/
def World.SameButLog (one two : World) : Prop :=
  ∃ log, two = { one with log }

namespace World.SameButLog

variable {one two : World}

theorem refl (world : World) : world.SameButLog world :=
  ⟨world.log, rfl⟩

theorem disk (same : one.SameButLog two) : one.disk = two.disk := by
  obtain ⟨log, rfl⟩ := same
  rfl

theorem cwd (same : one.SameButLog two) : one.cwd = two.cwd := by
  obtain ⟨log, rfl⟩ := same
  rfl

theorem calls (same : one.SameButLog two) : one.calls = two.calls := by
  obtain ⟨log, rfl⟩ := same
  rfl

end World.SameButLog

namespace Program

variable {α β : Type}

/-- Two ends of programs are the same, but for the log. -/
inductive Matches : EStateM.Result Failure World α → EStateM.Result Failure World α → Prop
  | ok {value : α} {one two : World} (same : one.SameButLog two) :
      Matches (.ok value one) (.ok value two)
  | error {failure : Failure} {one two : World} (same : one.SameButLog two) :
      Matches (.error failure one) (.error failure two)

/-- Two programs end in the same way in worlds that are the same, but for the log. -/
def Alike (first second : Program α) : Prop :=
  ∀ one two, one.SameButLog two → Matches (first one) (second two)

/-- A program that does not read the log. -/
abbrev Blind (program : Program α) : Prop :=
  program.Alike program

theorem Alike.ends {first second : Program α} (alike : first.Alike second) {one two : World}
    (same : one.SameButLog two) :
    (∃ value one' two', first one = .ok value one' ∧ second two = .ok value two' ∧
      one'.SameButLog two') ∨
    ∃ failure one' two', first one = .error failure one' ∧ second two = .error failure two' ∧
      one'.SameButLog two' := by
  have ends := alike one two same
  generalize first one = left at ends
  generalize second two = right at ends
  cases ends with
  | ok same' => exact .inl ⟨_, _, _, rfl, rfl, same'⟩
  | error same' => exact .inr ⟨_, _, _, rfl, rfl, same'⟩

/-- If both of two programs that are alike end with a value, they end with the same one. -/
theorem Alike.of_ok {first second : Program α} (alike : first.Alike second) {one two one' two' : World}
    {value value' : α} (same : one.SameButLog two) (done : first one = .ok value one')
    (done' : second two = .ok value' two') : value = value' ∧ one'.SameButLog two' := by
  rcases alike.ends same with ⟨v, a, b, left, right, same'⟩ | ⟨f, a, b, left, right, same'⟩
  · rw [left] at done
    rw [right] at done'
    cases done
    cases done'
    exact ⟨rfl, same'⟩
  · rw [left] at done
    contradiction

/-! ## What is made of programs that are alike -/

theorem alike_bind {first second : Program α} {next next' : α → Program β}
    (alike : first.Alike second) (nexts : ∀ value, (next value).Alike (next' value)) :
    (first >>= next).Alike (second >>= next') := by
  intro one two same
  rw [bind_eq, bind_eq]
  rcases alike.ends same with ⟨value, a, b, left, right, same'⟩ | ⟨failure, a, b, left, right, same'⟩
  · simp only [left, right]
    exact nexts value a b same'
  · simp only [left, right]
    exact .error same'

theorem blind_pure (value : α) : (pure value : Program α).Blind :=
  fun _ _ same => .ok same

theorem blind_throw (failure : Failure) : (throw failure : Program α).Blind :=
  fun _ _ same => .error same

/-- It makes no difference what is noted in the log. -/
theorem alike_log (entry entry' : LogEntry) : (log entry).Alike (log entry') := by
  rintro world _ ⟨log, rfl⟩
  exact .ok ⟨_, rfl⟩

/-- A change that does not depend on the log and leaves it alone. -/
theorem blind_modify {change : World → World}
    (commutes : ∀ world log, change { world with log } = { change world with log }) :
    (modify change : Program PUnit).Blind := by
  rintro world _ ⟨log, rfl⟩
  exact .ok ⟨log, commutes world log⟩

theorem blind_strike (call : SystemCall) (name : Option String) : (strike call name).Blind := by
  rintro world _ ⟨log, rfl⟩
  rw [strike, get_bind, get_bind]
  cases Fault.ask call name world.faults with
  | mk struck faults =>
      cases struck with
      | none => exact .ok ⟨log, rfl⟩
      | some code => exact .error ⟨log, rfl⟩

theorem blind_alter (call : Listing → List String → Except Failure Listing) :
    (alter call).Blind := by
  rintro world _ ⟨log, rfl⟩
  rw [alter, get_bind, get_bind]
  cases call world.disk world.cwd with
  | ok disk => exact .ok ⟨log, rfl⟩
  | error failure => exact .error ⟨log, rfl⟩

theorem blind_readClock : readClock.Blind := by
  rintro world _ ⟨log, rfl⟩
  obtain ⟨disk, cwd, faults, log', shown, columns, printed, spans, begun, reported, calls, moments,
    stranded, clock, now⟩ := world
  cases clock with
  | nil => exact .ok ⟨log, rfl⟩
  | cons reading rest =>
      cases rest with
      | nil => exact .ok ⟨log, rfl⟩
      | cons next rest => exact .ok ⟨log, rfl⟩

theorem alike_catchSystem {first second : Program α} (alike : first.Alike second) :
    first.catchSystem.Alike second.catchSystem := by
  intro one two same
  rw [catchSystem, catchSystem, tryCatch_map_eq, tryCatch_map_eq]
  rcases alike.ends same with ⟨value, a, b, left, right, same'⟩ | ⟨failure, a, b, left, right, same'⟩
  · simp only [left, right]
    exact .ok same'
  · simp only [left, right]
    cases failure with
    | system error => exact .ok same'
    | _ => exact .error same'

theorem alike_catchOrdinary {first second : Program α} (alike : first.Alike second) :
    first.catchOrdinary.Alike second.catchOrdinary := by
  intro one two same
  rw [catchOrdinary, catchOrdinary, tryCatch_map_eq, tryCatch_map_eq]
  rcases alike.ends same with ⟨value, a, b, left, right, same'⟩ | ⟨failure, a, b, left, right, same'⟩
  · simp only [left, right]
    exact .ok same'
  · simp only [left, right]
    split
    · exact .ok same'
    · exact .error same'

/-- A program that is blind is so if it has no part in keeping the records. -/
theorem alike_apart {first second : Program α} (alike : first.Alike second) :
    first.apart.Alike second.apart := by
  rintro world _ ⟨log, rfl⟩
  have begun : world.SameButLog { world with log } := ⟨log, rfl⟩
  rcases alike.ends begun with
    ⟨value, a, _, left, right, log', rfl⟩ | ⟨failure, a, _, left, right, log', rfl⟩
  · simp only [apart, left, right]
    exact .ok ⟨log', rfl⟩
  · simp only [apart, left, right]
    exact .error ⟨log', rfl⟩

theorem alike_traced {name : String} {attributes : List (String × Json)} {first second : Program α}
    (alike : first.Alike second) :
    (traced name attributes first).Alike (traced name attributes second) := by
  rintro world _ ⟨log, rfl⟩
  simp only [traced_eq]
  have begun : World.SameButLog { world with spansBegun := world.spansBegun + 1 }
      { world with log, spansBegun := world.spansBegun + 1 } := ⟨log, rfl⟩
  rcases alike.ends begun with
    ⟨value, a, _, left, right, log', rfl⟩ | ⟨failure, a, _, left, right, log', rfl⟩
  · simp only [left, right]
    exact .ok ⟨log', rfl⟩
  · simp only [left, right]
    exact .error ⟨log', rfl⟩

/-- Programs that are made of the steps of a run do not read the log. -/
theorem blind_working : Working fun _ program => program.Blind where
  pure := blind_pure
  throw := blind_throw
  bind := alike_bind
  look steps depends := by
    intro one two same
    rw [get_bind, get_bind, ← depends one two same.disk same.cwd]
    exact steps one one two same
  catchSystem := alike_catchSystem
  log _ := alike_log _ _
  strike := blind_strike
  report sink diagnostic := by
    cases sink with
    | none => exact blind_pure _
    | collecting => exact blind_modify fun _ _ => rfl
    | logging => exact alike_log _ _
  alter := blind_alter
  strand _ := blind_modify fun _ _ => rfl
  readClock := blind_readClock
  now steps := by
    rintro world _ ⟨log, rfl⟩
    rw [get_bind, get_bind]
    exact steps world.now _ _ ⟨log, rfl⟩
  catchOrdinary := alike_catchOrdinary
  traced _ _ := alike_traced
  apart := alike_apart
  record _ := blind_modify fun _ _ => rfl

end Program

end Enhance
