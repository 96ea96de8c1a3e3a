import Enhance.Proofs.Lawful

/-!
# Programs that leave the world calm

A program that changes no files and lets no fault strike leaves the world calm (`World.Calm`).
`Program.Gives` says what such a program comes to: a result that can be computed from the files alone, put
together along the text of the program.  Where the value of a program also depends on the clock,
`Program.Brings` says what is known of it.
-/

namespace Enhance

/-- The files and the working directory are as before, no temporary file was left behind, and still no
fault strikes if none did. -/
structure World.Calm (before after : World) : Prop where
  disk : after.disk = before.disk
  cwd : after.cwd = before.cwd
  stranded : after.stranded = before.stranded
  faults : before.faults = [] → after.faults = []

namespace World.Calm

theorem refl (world : World) : world.Calm world :=
  ⟨rfl, rfl, rfl, id⟩

theorem trans {first second third : World} (one : first.Calm second) (two : second.Calm third) :
    first.Calm third :=
  ⟨two.disk.trans one.disk, two.cwd.trans one.cwd, two.stranded.trans one.stranded,
    two.faults ∘ one.faults⟩

instance : IsPreorder World World.Calm where
  refl := refl
  trans _ _ _ := trans

end World.Calm

namespace Program

variable {α β : Type} {world after : World}

/-! ## What leaves a world calm -/

theorem calm_lawful : Lawful fun _ program => program.Keeps World.Calm where
  pure := keeps_pure
  throw := keeps_throw
  bind := keeps_bind
  look steps _ := fun world => steps world world
  catchSystem := keeps_catchSystem
  log _ := fun _ => ⟨rfl, rfl, rfl, id⟩
  strike call name := by
    have none (world : World) : world.faults = [] → (Fault.ask call name world.faults).2 = [] := by
      intro faultless
      rw [faultless]
      rfl
    apply keeps_of_ends
    · intro world answer after done
      obtain ⟨-, rfl⟩ := strike_ok.1 done
      exact ⟨rfl, rfl, rfl, none world⟩
    · intro world failure after failed
      obtain ⟨code, -, -, rfl⟩ := strike_error.1 failed
      exact ⟨rfl, rfl, rfl, none world⟩

theorem calm_reporting : Reporting fun _ program => program.Keeps World.Calm where
  toLawful := calm_lawful
  report sink diagnostic := by
    cases sink with
    | none | collecting | logging => exact fun _ => ⟨rfl, rfl, rfl, id⟩

theorem calm_timed : Timed fun _ program => program.Keeps World.Calm where
  toLawful := calm_lawful
  readClock := keeps_readClock fun _ _ => ⟨rfl, rfl, rfl, id⟩
  now steps := fun world => steps world.now world

/-! ## What programs give -/

/-- The end of a program with a result. -/
def ended : Except Failure α → World → EStateM.Result Failure World α
  | .ok value, after => .ok value after
  | .error failure, after => .error failure after

/-- A program has a result and leaves the world calm. -/
def Gives (program : Program α) (world : World) (result : Except Failure α) : Prop :=
  ∃ after, program world = ended result after ∧ world.Calm after

/-- System errors that are caught are results. -/
def caughtSystem : Except Failure α → Except Failure (Except SystemError α)
  | .ok value => .ok (.ok value)
  | .error (.system error) => .ok (.error error)
  | .error failure => .error failure

/-- Ordinary failures that are caught are results. -/
def caughtOrdinary : Except Failure α → Except Failure (Except Failure α)
  | .ok value => .ok (.ok value)
  | .error failure => if failure.isOrdinary then .ok (.error failure) else .error failure

theorem gives_pure (value : α) (world : World) : (pure value : Program α).Gives world (.ok value) :=
  ⟨world, rfl, .refl world⟩

theorem gives_throw (failure : Failure) (world : World) :
    (throw failure : Program α).Gives world (.error failure) :=
  ⟨world, rfl, .refl world⟩

theorem gives_log (entry : LogEntry) (world : World) : (log entry).Gives world (.ok ()) :=
  ⟨_, rfl, rfl, rfl, rfl, id⟩

theorem gives_report (sink : Sink) (diagnostic : Diagnostic) (world : World) :
    (sink.report diagnostic).Gives world (.ok ()) := by
  cases sink with
  | none => exact gives_pure () world
  | collecting => exact ⟨_, rfl, rfl, rfl, rfl, id⟩
  | logging => exact gives_log _ world

theorem gives_ask (question : Listing → List String → Except Failure α) (world : World) :
    (ask question).Gives world (question world.disk world.cwd) := by
  refine ⟨world, ?_, .refl world⟩
  rw [ask, get_bind]
  cases question world.disk world.cwd <;> rfl

theorem gives_strike (faultless : world.faults = []) (call : SystemCall) (name : Option String) :
    (strike call name).Gives world (.ok ()) := by
  refine ⟨{ world with faults := (Fault.ask call name world.faults).2 }, ?_, rfl, rfl, rfl, ?_⟩
  · exact strike_ok.2 ⟨by rw [faultless]; rfl, rfl⟩
  · intro _
    rw [faultless]
    rfl

namespace Gives

variable {program : Program α} {second : α → Program β} {result : Except Failure α}
  {next : α → Except Failure β}

/-- What a program in two parts gives, of which the first one changes no files. -/
theorem bind (one : program.Gives world result)
    (two : ∀ found middle, world.Calm middle → (second found).Gives middle (next found)) :
    (program >>= second).Gives world (result >>= next) := by
  obtain ⟨middle, ends, calm⟩ := one
  rw [Gives, bind_eq, ends]
  cases result with
  | error failure => exact ⟨middle, rfl, calm⟩
  | ok found =>
      obtain ⟨after, ends', calm'⟩ := two found middle calm
      exact ⟨after, ends', calm.trans calm'⟩

/-- What a program in two parts gives, of which the first one has a value. -/
theorem bind_ok {found : α} {last : Except Failure β} (one : program.Gives world (.ok found))
    (two : ∀ middle, world.Calm middle → (second found).Gives middle last) :
    (program >>= second).Gives world last := by
  obtain ⟨middle, ends, calm⟩ := one
  obtain ⟨after, ends', calm'⟩ := two middle calm
  refine ⟨after, ?_, calm.trans calm'⟩
  rw [bind_eq, ends]
  exact ends'

/-- What a program in two parts gives, of which the first one fails. -/
theorem bind_error {failure : Failure} (one : program.Gives world (.error failure)) :
    (program >>= second).Gives world (.error failure) := by
  obtain ⟨middle, ends, calm⟩ := one
  refine ⟨middle, ?_, calm⟩
  rw [bind_eq, ends]
  rfl

theorem catchSystem (one : program.Gives world result) :
    (catchSystem program).Gives world (caughtSystem result) := by
  obtain ⟨after, ends, calm⟩ := one
  refine ⟨after, ?_, calm⟩
  rw [Program.catchSystem, tryCatch_map_eq, ends]
  cases result with
  | ok value => rfl
  | error failure => cases failure <;> rfl

theorem catchOrdinary (one : program.Gives world result) :
    (catchOrdinary program).Gives world (caughtOrdinary result) := by
  obtain ⟨after, ends, calm⟩ := one
  refine ⟨after, ?_, calm⟩
  rw [Program.catchOrdinary, tryCatch_map_eq, ends]
  cases result with
  | ok value => rfl
  | error failure =>
      dsimp only [ended, caughtOrdinary]
      cases failure.isOrdinary <;> rfl

theorem traced {name : String} {attributes : List (String × Json)}
    (one : program.Gives { world with spansBegun := world.spansBegun + 1 } result) :
    (traced name attributes program).Gives world result := by
  obtain ⟨after, ends, calm⟩ := one
  rw [Gives, traced_eq, ends]
  cases result with
  | ok value => exact ⟨_, rfl, calm.disk, calm.cwd, calm.stranded, calm.faults⟩
  | error failure => exact ⟨_, rfl, calm.disk, calm.cwd, calm.stranded, calm.faults⟩

end Gives

/-! ## What programs bring -/

/-- A program has a value with a property and leaves the world calm. -/
def Brings (program : Program α) (world : World) (property : α → Prop) : Prop :=
  ∃ value, program.Gives world (.ok value) ∧ property value

theorem Gives.brings {program : Program α} {value : α} {property : α → Prop}
    (gives : program.Gives world (.ok value)) (has : property value) : program.Brings world property :=
  ⟨value, gives, has⟩

/-- What comes to an end and leaves the world calm brings what can be said of its value. -/
theorem Returns.brings {program : Program α} {property : α → Prop} (returns : program.Returns world)
    (calm : program.Keeps World.Calm)
    (has : ∀ value after, program world = .ok value after → property value) :
    program.Brings world property := by
  obtain ⟨value, after, done⟩ := returns
  exact ⟨value, ⟨after, done, calm.of_ok done⟩, has value after done⟩

namespace Brings

variable {program : Program α} {second : α → Program β} {property : α → Prop} {has : β → Prop}

theorem bind (one : program.Brings world property)
    (two : ∀ found middle, property found → world.Calm middle → (second found).Brings middle has) :
    (program >>= second).Brings world has := by
  obtain ⟨found, ⟨middle, ends, calm⟩, holds⟩ := one
  obtain ⟨value, ⟨after, ends', calm'⟩, holds'⟩ := two found middle holds calm
  refine ⟨value, ⟨after, ?_, calm.trans calm'⟩, holds'⟩
  rw [bind_eq, ends]
  exact ends'

/-- What is done after a program of which the value is known. -/
theorem after_gives {found : α} (one : program.Gives world (.ok found))
    (two : ∀ middle, world.Calm middle → (second found).Brings middle has) :
    (program >>= second).Brings world has := by
  have isFound : program.Brings world (· = found) := one.brings rfl
  exact isFound.bind fun _ middle same calm => same ▸ two middle calm

theorem traced {name : String} {attributes : List (String × Json)}
    (one : program.Brings { world with spansBegun := world.spansBegun + 1 } property) :
    (traced name attributes program).Brings world property := by
  obtain ⟨value, gives, holds⟩ := one
  exact ⟨value, gives.traced, holds⟩

theorem mono {other : α → Prop} (one : program.Brings world property)
    (implies : ∀ value, property value → other value) : program.Brings world other := by
  obtain ⟨value, gives, holds⟩ := one
  exact ⟨value, gives, implies value holds⟩

end Brings

end Program

end Enhance
