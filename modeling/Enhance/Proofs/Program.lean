import Enhance.World
import Mathlib.Order.Defs.Unbundled

/-!
# Reasoning about programs

A program that ends with a value is taken apart along its text: `bind_ok` and the lemmas beside it
say what each part of it did.  What a program leaves alone, whether it ends with a value or fails,
is said by `Keeps`, which only has to be shown for the parts of a program.
-/

namespace Enhance

@[simp] theorem mapError_ok {ε ε' α : Type} (rename : ε → ε') (value : α) :
    (Except.ok value).mapError rename = .ok value := rfl

@[simp] theorem mapError_error {ε ε' α : Type} (rename : ε → ε') (error : ε) :
    (Except.error error : Except ε α).mapError rename = .error (rename error) := rfl

namespace Program

variable {α β : Type} {world after : World} {value : β}

/-! ## Programs that end with a value -/

/-- What a program in two parts does. -/
theorem bind_eq (first : Program α) (second : α → Program β) (world : World) :
    (first >>= second) world =
      match first world with
      | .ok found middle => second found middle
      | .error failure middle => .error failure middle := by
  change EStateM.bind first second world = _
  unfold EStateM.bind
  cases first world with
  | ok found middle => rfl
  | error failure middle => rfl

/-- A program in two parts ends with a value exactly if both parts do. -/
theorem bind_ok {first : Program α} {second : α → Program β} :
    (first >>= second) world = .ok value after ↔
      ∃ found middle, first world = .ok found middle ∧ second found middle = .ok value after := by
  rw [bind_eq]
  cases first world with
  | ok found middle => simp [and_assoc]
  | error failure middle => simp

/-- A program in two parts fails if the first part fails or else the second one. -/
theorem bind_error {first : Program α} {second : α → Program β} {failure : Failure} :
    (first >>= second) world = .error failure after ↔
      first world = .error failure after ∨
        ∃ found middle, first world = .ok found middle ∧
          second found middle = .error failure after := by
  rw [bind_eq]
  cases first world with
  | ok found middle => simp [and_assoc]
  | error failure middle => simp

theorem map_eq (image : α → β) (program : Program α) (world : World) :
    (image <$> program) world =
      match program world with
      | .ok value after => .ok (image value) after
      | .error failure after => .error failure after := by
  change EStateM.map image program world = _
  unfold EStateM.map
  cases program world with
  | ok value after => rfl
  | error failure after => rfl

theorem map_ok {program : Program α} {image : α → β} :
    (image <$> program) world = .ok value after ↔
      ∃ found, program world = .ok found after ∧ image found = value := by
  rw [map_eq]
  cases program world with
  | ok found middle => grind
  | error failure middle => simp

theorem pure_ok {given : β} :
    (pure given : Program β) world = .ok value after ↔ given = value ∧ world = after := by
  change EStateM.Result.ok given world = _ ↔ _
  simp

theorem pure_error {given : β} {failure : Failure} :
    (pure given : Program β) world = .error failure after ↔ False := by
  change EStateM.Result.ok given world = _ ↔ _
  simp

theorem throw_ok {failure : Failure} :
    (throw failure : Program β) world = .ok value after ↔ False := by
  change EStateM.Result.error failure world = _ ↔ _
  simp

theorem throw_error {failure other : Failure} :
    (throw failure : Program β) world = .error other after ↔ failure = other ∧ world = after := by
  change EStateM.Result.error failure world = _ ↔ _
  simp

/-- A program that begins by looking at the world depends on the world it finds. -/
theorem get_bind (next : World → Program β) :
    ((get : Program World) >>= next) world = next world world := rfl

theorem set_ok {next : World} {answer : PUnit} :
    (set next : Program PUnit) world = .ok answer after ↔ next = after := by
  change EStateM.Result.ok PUnit.unit next = _ ↔ _
  simp

theorem set_error {next : World} {failure : Failure} :
    (set next : Program PUnit) world = .error failure after ↔ False := by
  change EStateM.Result.ok PUnit.unit next = _ ↔ _
  simp

theorem modify_ok {change : World → World} {answer : PUnit} :
    (modify change : Program PUnit) world = .ok answer after ↔ change world = after := by
  change EStateM.Result.ok PUnit.unit (change world) = _ ↔ _
  simp

theorem modify_error {change : World → World} {failure : Failure} :
    (modify change : Program PUnit) world = .error failure after ↔ False := by
  change EStateM.Result.ok PUnit.unit (change world) = _ ↔ _
  simp

theorem fail_ok {error : SystemError} :
    (fail error : Program β) world = .ok value after ↔ False :=
  throw_ok

theorem fail_error {error : SystemError} {failure : Failure} :
    (fail error : Program β) world = .error failure after ↔
      .system error = failure ∧ world = after :=
  throw_error

/-- A call gets through if no fault strikes it; the faults have counted it. -/
theorem strike_ok {call : SystemCall} {name : Option String} {answer : Unit} :
    strike call name world = .ok answer after ↔
      (Fault.ask call name world.faults).1 = none ∧
        { world with faults := (Fault.ask call name world.faults).2 } = after := by
  rw [strike, get_bind]
  rcases Fault.ask call name world.faults with ⟨_ | code, faults⟩
  · simp [set_ok]
  · simp [bind_ok, set_ok, fail_ok]

theorem strike_error {call : SystemCall} {name : Option String} {failure : Failure} :
    strike call name world = .error failure after ↔
      ∃ code, (Fault.ask call name world.faults).1 = some code ∧ .system { code } = failure ∧
        { world with faults := (Fault.ask call name world.faults).2 } = after := by
  rw [strike, get_bind]
  rcases Fault.ask call name world.faults with ⟨_ | code, faults⟩
  · simp [set_error]
  · simp [bind_error, set_ok, set_error, fail_error]

/-- A question about the files is answered by what the files are. -/
theorem ask_ok {question : Listing → List String → Except Failure β} :
    ask question world = .ok value after ↔
      question world.disk world.cwd = .ok value ∧ world = after := by
  rw [ask, get_bind]
  cases answered : question world.disk world.cwd with
  | ok answer => simp [pure_ok]
  | error failure => simp [throw_ok]

theorem ask_error {question : Listing → List String → Except Failure β} {failure : Failure} :
    ask question world = .error failure after ↔
      question world.disk world.cwd = .error failure ∧ world = after := by
  rw [ask, get_bind]
  cases answered : question world.disk world.cwd with
  | ok answer => simp [pure_error]
  | error failure => simp [throw_error]

/-- A call changes the files if it succeeds. -/
theorem alter_ok {call : Listing → List String → Except Failure Listing} {answer : Unit} :
    alter call world = .ok answer after ↔
      ∃ disk, call world.disk world.cwd = .ok disk ∧
        { world with disk, moments := disk :: world.moments } = after := by
  rw [alter, get_bind]
  cases call world.disk world.cwd with
  | ok disk => simp [set_ok]
  | error failure => simp [throw_ok]

/-- A call that fails changes nothing. -/
theorem alter_error {call : Listing → List String → Except Failure Listing} {failure : Failure} :
    alter call world = .error failure after ↔
      call world.disk world.cwd = .error failure ∧ world = after := by
  rw [alter, get_bind]
  cases call world.disk world.cwd with
  | ok disk => simp [set_error]
  | error failure => simp [throw_error]

/-- A call about a path that succeeds changes the files. -/
theorem change_ok {path : Path} {call : Listing → List String → Except Nat Listing}
    {answer : Unit} (done : change path call world = .ok answer after) :
    ∃ disk, call world.disk world.cwd = .ok disk ∧
      { world with disk, moments := disk :: world.moments } = after := by
  obtain ⟨disk, called, same⟩ := alter_ok.1 done
  refine ⟨disk, ?_, same⟩
  split at called
  · contradiction
  · cases answered : call world.disk world.cwd with
    | ok found =>
        rw [answered] at called
        cases called
        rfl
    | error code =>
        rw [answered] at called
        contradiction

theorem change_error {path : Path} {call : Listing → List String → Except Nat Listing}
    {failure : Failure} (failed : change path call world = .error failure after) :
    world = after :=
  (alter_error.1 failed).2

theorem askSystem_ok {question : Listing → List String → Except SystemError β} :
    askSystem question world = .ok value after ↔
      question world.disk world.cwd = .ok value ∧ world = after := by
  rw [askSystem, ask_ok]
  cases question world.disk world.cwd with
  | ok answer =>
      change Except.ok answer = _ ∧ _ ↔ _
      simp
  | error error =>
      change Except.error (Failure.system error) = _ ∧ _ ↔ _
      simp

theorem askSystem_error {question : Listing → List String → Except SystemError β}
    {failure : Failure} :
    askSystem question world = .error failure after ↔
      ∃ error, question world.disk world.cwd = .error error ∧ .system error = failure ∧
        world = after := by
  rw [askSystem, ask, get_bind]
  cases question world.disk world.cwd with
  | ok answer =>
      change (pure answer : Program β) world = _ ↔ _
      simp [pure_error]
  | error error =>
      change (throw (.system error) : Program β) world = _ ↔ _
      simp [throw_error]

/-- Reading the clock always succeeds and uses up nothing but readings. -/
theorem readClock_eq (world : World) :
    ∃ reading clock, readClock world = .ok reading { world with clock } :=
  match world with
  | { clock := [], .. } => ⟨_, _, rfl⟩
  | { clock := [_], .. } => ⟨_, _, rfl⟩
  | { clock := _ :: _ :: _, .. } => ⟨_, _, rfl⟩

/-- What a program does that is followed by what is done about its failures. -/
theorem tryCatch_eq (program : Program β) (handler : Failure → Program β) (world : World) :
    (tryCatch program handler : Program β) world =
      match program world with
      | .ok value after => .ok value after
      | .error failure after => handler failure after := by
  change EStateM.tryCatch program handler world = _
  delta EStateM.tryCatch
  cases program world with
  | ok value after => rfl
  | error failure after => rfl

/-- What is done about the failures of a program does not matter for its value. -/
theorem tryCatch_map_eq (wrap : α → β) (program : Program α) (handler : Failure → Program β)
    (world : World) :
    (tryCatch (wrap <$> program) handler : Program β) world =
      match program world with
      | .ok value after => .ok (wrap value) after
      | .error failure after => handler failure after := by
  rw [tryCatch_eq, map_eq]
  cases program world with
  | ok value after => rfl
  | error failure after => rfl

/-- What comes of a program whose system errors are caught: its value, or the system error that it
failed with. -/
theorem catchSystem_ok {program : Program α} {found : Except SystemError α} :
    catchSystem program world = .ok found after ↔
      (∃ value, program world = .ok value after ∧ found = .ok value) ∨
        ∃ error, program world = .error (.system error) after ∧ found = .error error := by
  rw [catchSystem, tryCatch_map_eq]
  cases program world with
  | ok value middle => grind
  | error failure middle =>
      cases failure with
      | system error =>
          change EStateM.Result.ok (Except.error error) middle = _ ↔ _
          grind
      | _ =>
          change EStateM.Result.error _ middle = _ ↔ _
          simp

theorem catchSystem_value {program : Program α} {value : α} :
    catchSystem program world = .ok (.ok value) after ↔ program world = .ok value after := by
  rw [catchSystem_ok]
  grind

theorem catchSystem_caught {program : Program α} {error : SystemError} :
    catchSystem program world = .ok (.error error) after ↔
      program world = .error (.system error) after := by
  rw [catchSystem_ok]
  grind

/-- A failure that is not caught is that of the program. -/
theorem error_of_catchSystem {program : Program α} {failure : Failure}
    (failed : catchSystem program world = .error failure after) :
    program world = .error failure after := by
  revert failed
  rw [catchSystem, tryCatch_map_eq]
  cases program world with
  | ok value middle => simp
  | error other middle =>
      cases other with
      | system error =>
          change EStateM.Result.ok (Except.error error) middle = _ → _
          simp
      | _ =>
          change EStateM.Result.error _ middle = _ → _
          simp

/-- What comes of a program whose ordinary failures are caught. -/
theorem catchOrdinary_ok {program : Program α} {found : Except Failure α} :
    catchOrdinary program world = .ok found after ↔
      (∃ value, program world = .ok value after ∧ found = .ok value) ∨
        ∃ failure, program world = .error failure after ∧ failure.isOrdinary = true ∧
          found = .error failure := by
  rw [catchOrdinary, tryCatch_map_eq]
  cases program world with
  | ok value middle => grind
  | error failure middle =>
      by_cases ordinary : failure.isOrdinary = true
      · simp only [ordinary, ↓reduceIte]
        change EStateM.Result.ok (Except.error failure) middle = _ ↔ _
        grind
      · simp only [ordinary, Bool.false_eq_true, ↓reduceIte]
        change EStateM.Result.error _ middle = _ ↔ _
        grind

/-- Tracing a program changes nothing but the traces. -/
theorem traced_eq (name : String) (attributes : List (String × Json)) (program : Program β)
    (world : World) :
    traced name attributes program world =
      match program { world with spansBegun := world.spansBegun + 1 } with
      | .ok value middle => .ok value
          { middle with spans := (world.spansBegun, ⟨name, attributes, .ok⟩) :: middle.spans }
      | .error failure middle => .error failure
          { middle with spans :=
              (world.spansBegun, ⟨name, attributes,
                if failure.isOrdinary then .failed failure else .stopped⟩) :: middle.spans } := by
  change ((tryCatch program _ : Program β) >>= _) { world with spansBegun := world.spansBegun + 1 } = _
  rw [bind_eq, tryCatch_eq]
  cases program { world with spansBegun := world.spansBegun + 1 } with
  | ok value middle => rfl
  | error failure middle => rfl

theorem traced_ok {name : String} {attributes : List (String × Json)} {program : Program β} :
    traced name attributes program world = .ok value after ↔
      ∃ middle, program { world with spansBegun := world.spansBegun + 1 } = .ok value middle ∧
        { middle with
          spans := (world.spansBegun, ⟨name, attributes, .ok⟩) :: middle.spans } = after := by
  rw [traced_eq]
  cases program { world with spansBegun := world.spansBegun + 1 } with
  | ok value middle => grind
  | error failure middle => simp

/-- Whether a program ends with a value that passes a test, which can be computed. -/
def endsWith (test : β → Bool) (program : Program β) (world : World) : Bool :=
  match program world with
  | .ok value _ => test value
  | .error _ _ => false

theorem ok_of_endsWith {test : β → Bool} {program : Program β}
    (ends : program.endsWith test world = true) :
    ∃ value after, program world = .ok value after ∧ test value = true := by
  rw [endsWith] at ends
  split at ends
  · next value after done => exact ⟨value, after, done, ends⟩
  · contradiction

/-- Whether the value and the world that a program ends with pass a test, which can be computed. -/
def endsIn (test : β → World → Bool) (program : Program β) (world : World) : Bool :=
  match program world with
  | .ok value after => test value after
  | .error _ _ => false

theorem ok_of_endsIn {test : β → World → Bool} {program : Program β}
    (ends : program.endsIn test world = true) :
    ∃ value after, program world = .ok value after ∧ test value after = true := by
  rw [endsIn] at ends
  split at ends
  · next value after done => exact ⟨value, after, done, ends⟩
  · contradiction

/-- Whether a program fails with a failure that passes a test, which can be computed. -/
def failsWith (test : Failure → Bool) (program : Program β) (world : World) : Bool :=
  match program world with
  | .ok _ _ => false
  | .error failure _ => test failure

theorem error_of_failsWith {test : Failure → Bool} {program : Program β}
    (fails : program.failsWith test world = true) :
    ∃ failure after, program world = .error failure after ∧ test failure = true := by
  rw [failsWith] at fails
  split at fails
  · contradiction
  · next failure after failed => exact ⟨failure, after, failed, fails⟩

/-! ## What programs end with -/

/-- Whatever a program ends with has a property. -/
def Yields (property : α → Prop) (program : Program α) : Prop :=
  ∀ world value after, program world = .ok value after → property value

theorem yields_pure {property : β → Prop} {given : β} (has : property given) :
    (pure given : Program β).Yields property := by
  intro world value after done
  obtain ⟨rfl, -⟩ := pure_ok.1 done
  exact has

theorem yields_bind {property : β → Prop} {first : Program α} {second : α → Program β}
    (yields : ∀ found, (second found).Yields property) : (first >>= second).Yields property := by
  intro world value after done
  obtain ⟨found, middle, -, done⟩ := bind_ok.1 done
  exact yields found middle value after done

/-- A program comes to an end in a world, without a failure. -/
def Returns (program : Program α) (world : World) : Prop :=
  ∃ value after, program world = .ok value after

theorem returns_pure (given : β) (world : World) : (pure given : Program β).Returns world :=
  ⟨given, world, rfl⟩

theorem returns_log (entry : LogEntry) (world : World) : (log entry).Returns world :=
  ⟨(), _, rfl⟩

theorem returns_readClock (world : World) : readClock.Returns world := by
  obtain ⟨reading, clock, read⟩ := readClock_eq world
  exact ⟨reading, _, read⟩

theorem Returns.bind {first : Program α} {second : α → Program β} (one : first.Returns world)
    (two : ∀ found middle, first world = .ok found middle → (second found).Returns middle) :
    (first >>= second).Returns world := by
  obtain ⟨found, middle, done⟩ := one
  obtain ⟨value, after, done'⟩ := two found middle done
  exact ⟨value, after, bind_ok.2 ⟨found, middle, done, done'⟩⟩

/-- A program that fails in a world fails with a system error. -/
def FailsBySystem (program : Program α) (world : World) : Prop :=
  ∀ failure after, program world = .error failure after → ∃ error, failure = .system error

theorem FailsBySystem.bind {first : Program α} {second : α → Program β}
    (one : first.FailsBySystem world)
    (two : ∀ found middle, first world = .ok found middle → (second found).FailsBySystem middle) :
    (first >>= second).FailsBySystem world := by
  intro failure after failed
  rcases bind_error.1 failed with failing | ⟨found, middle, done, failing⟩
  · exact one failure after failing
  · exact two found middle done failure after failing

/-- Such a program comes to an end if its system errors are caught. -/
theorem FailsBySystem.returns {program : Program α} (fails : program.FailsBySystem world) :
    (catchSystem program).Returns world := by
  cases ended : program world with
  | ok value after => exact ⟨.ok value, after, catchSystem_value.2 ended⟩
  | error failure after =>
      obtain ⟨error, rfl⟩ := fails failure after ended
      exact ⟨.error error, after, catchSystem_caught.2 ended⟩

theorem strike_failsBySystem (call : SystemCall) (name : Option String) (world : World) :
    (strike call name).FailsBySystem world := by
  intro failure after failed
  obtain ⟨code, -, rfl, -⟩ := strike_error.1 failed
  exact ⟨{ code }, rfl⟩

/-- A call about a path without the character that ends texts. -/
theorem change_failsBySystem {path : Path} (noNul : Disk.hasNul path = false)
    (call : Listing → List String → Except Nat Listing) (world : World) :
    (change path call).FailsBySystem world := by
  intro failure after failed
  obtain ⟨called, -⟩ := alter_error.1 failed
  rw [noNul] at called
  cases answered : call world.disk world.cwd with
  | ok disk => simp [answered] at called
  | error code =>
      simp only [Bool.false_eq_true, ↓reduceIte, answered, mapError_error] at called
      cases called
      exact ⟨_, rfl⟩

/-! ## What programs leave alone -/

/-- The world that a program leaves, whether it ends with a value or fails. -/
def leaves (program : Program α) (world : World) : World :=
  match program world with
  | .ok _ after => after
  | .error _ after => after

theorem leaves_of_ok {program : Program β} (done : program world = .ok value after) :
    program.leaves world = after := by
  simp [leaves, done]

theorem leaves_of_error {program : Program β} {failure : Failure}
    (failed : program world = .error failure after) : program.leaves world = after := by
  simp [leaves, failed]

/-- What holds of the world at both ends that a program can have holds of the one it leaves. -/
theorem leaves_of_ends {holds : World → Prop} {program : Program α}
    (ok : ∀ value after, program world = .ok value after → holds after)
    (error : ∀ failure after, program world = .error failure after → holds after) :
    holds (program.leaves world) := by
  unfold leaves
  cases ended : program world with
  | ok value after => exact ok value after ended
  | error failure after => exact error failure after ended

/-- A program in two parts leaves what the second part leaves, unless the first part fails. -/
theorem leaves_bind {holds : World → Prop} {first : Program α} {second : α → Program β}
    (ok : ∀ found middle, first world = .ok found middle → holds ((second found).leaves middle))
    (error : ∀ failure middle, first world = .error failure middle → holds middle) :
    holds ((first >>= second).leaves world) := by
  unfold leaves at ok ⊢
  rw [bind_eq]
  cases ended : first world with
  | ok found middle => exact ok found middle ended
  | error failure middle => exact error failure middle ended

theorem leaves_bind_pure (program : Program α) (value : α → β) (world : World) :
    (program >>= fun found => pure (value found)).leaves world = program.leaves world := by
  unfold leaves
  rw [bind_eq]
  cases program world <;> rfl

/-- A program that begins by looking at the world leaves what is left by what it does then. -/
theorem leaves_get_bind (next : World → Program β) (world : World) :
    ((get : Program World) >>= next).leaves world = (next world).leaves world := rfl

theorem leaves_catchSystem (program : Program α) (world : World) :
    (catchSystem program).leaves world = program.leaves world := by
  rw [leaves, leaves, catchSystem, tryCatch_map_eq]
  cases program world with
  | ok value after => rfl
  | error failure after => cases failure <;> rfl

/-- A program whose system errors are caught leaves what is left by what is done about its end. -/
theorem leaves_catch {holds : World → Prop} {program : Program α}
    {next : Except SystemError α → Program β}
    (ok : ∀ value middle, program world = .ok value middle →
      holds ((next (.ok value)).leaves middle))
    (caught : ∀ error middle, program world = .error (.system error) middle →
      holds ((next (.error error)).leaves middle))
    (error : ∀ failure middle, program world = .error failure middle → holds middle) :
    holds ((catchSystem program >>= next).leaves world) := by
  apply leaves_bind
  · intro found middle done
    cases found with
    | ok value => exact ok value middle (catchSystem_value.1 done)
    | error other => exact caught other middle (catchSystem_caught.1 done)
  · intro failure middle failed
    exact error failure middle (error_of_catchSystem failed)

theorem leaves_catchOrdinary (program : Program α) (world : World) :
    (catchOrdinary program).leaves world = program.leaves world := by
  rw [leaves, leaves, catchOrdinary, tryCatch_map_eq]
  cases program world with
  | ok value after => rfl
  | error failure after =>
      by_cases ordinary : failure.isOrdinary = true
      · simp only [ordinary, ↓reduceIte]
        rfl
      · simp only [ordinary, Bool.false_eq_true, ↓reduceIte]
        rfl

/-- Tracing makes no difference to what a program leaves, but for the traces. -/
theorem leaves_traced (name : String) (attributes : List (String × Json)) (program : Program α)
    (world : World) :
    ∃ spans, (traced name attributes program).leaves world =
      { program.leaves { world with spansBegun := world.spansBegun + 1 } with spans } := by
  rw [leaves, leaves, traced_eq]
  cases program { world with spansBegun := world.spansBegun + 1 } with
  | ok value middle => exact ⟨_, rfl⟩
  | error failure middle => exact ⟨_, rfl⟩

theorem leaves_apart (program : Program α) (world : World) :
    (apart program).leaves world = (program.leaves world).withRecordsOf world := by
  rw [leaves, leaves, apart]
  cases program world <;> rfl

theorem leaves_map (image : α → β) (program : Program α) (world : World) :
    (image <$> program).leaves world = program.leaves world := by
  rw [leaves, leaves, map_eq]
  cases program world <;> rfl

/-- However a program ends, the world that it leaves stands in a relation to the one it began
with. -/
def Keeps (relation : World → World → Prop) (program : Program α) : Prop :=
  ∀ world, relation world (program.leaves world)

section

variable {relation : World → World → Prop}

theorem Keeps.of_ok {program : Program β} (keeps : program.Keeps relation)
    (done : program world = .ok value after) : relation world after :=
  leaves_of_ok done ▸ keeps world

theorem Keeps.of_error {program : Program β} {failure : Failure} (keeps : program.Keeps relation)
    (failed : program world = .error failure after) : relation world after :=
  leaves_of_error failed ▸ keeps world

theorem Keeps.mono {other : World → World → Prop} {program : Program β}
    (keeps : program.Keeps relation) (weaker : ∀ before after, relation before after →
      other before after) : program.Keeps other :=
  fun world => weaker _ _ (keeps world)

/-- It is enough to look at both ends that a program can have. -/
theorem keeps_of_ends {program : Program β}
    (ok : ∀ world value after, program world = .ok value after → relation world after)
    (error : ∀ world failure after, program world = .error failure after → relation world after) :
    program.Keeps relation :=
  fun world => leaves_of_ends (ok world) (error world)

variable [IsPreorder World relation]

theorem keeps_pure (given : β) : (pure given : Program β).Keeps relation :=
  fun world => refl_of relation world

theorem keeps_throw (failure : Failure) : (throw failure : Program β).Keeps relation :=
  fun world => refl_of relation world

theorem keeps_get : (get : Program World).Keeps relation :=
  fun world => refl_of relation world

theorem keeps_bind {first : Program α} {second : α → Program β} (keepsFirst : first.Keeps relation)
    (keepsSecond : ∀ found, (second found).Keeps relation) : (first >>= second).Keeps relation := by
  intro world
  apply leaves_bind
  · intro found middle done
    exact trans_of relation (keepsFirst.of_ok done) (keepsSecond found middle)
  · intro failure middle failed
    exact keepsFirst.of_error failed

/-- What a call may change is the files, and with them the record of how they were. -/
theorem keeps_alter
    (changes : ∀ (world : World) (disk : Listing),
      relation world { world with disk, moments := disk :: world.moments })
    (call : Listing → List String → Except Failure Listing) : (alter call).Keeps relation := by
  apply keeps_of_ends
  · intro world answer after done
    obtain ⟨disk, -, rfl⟩ := alter_ok.1 done
    exact changes world disk
  · intro world failure after failed
    obtain ⟨-, rfl⟩ := alter_error.1 failed
    exact refl_of relation _

omit [IsPreorder World relation] in
theorem keeps_readClock
    (ticks : ∀ (world : World) (clock : List Float), relation world { world with clock }) :
    readClock.Keeps relation := by
  intro world
  obtain ⟨reading, clock, read⟩ := readClock_eq world
  rw [leaves_of_ok read]
  exact ticks world clock

omit [IsPreorder World relation] in
theorem keeps_catchSystem {program : Program β} (keeps : program.Keeps relation) :
    (catchSystem program).Keeps relation := by
  intro world
  rw [leaves_catchSystem]
  exact keeps world

omit [IsPreorder World relation] in
theorem keeps_catchOrdinary {program : Program β} (keeps : program.Keeps relation) :
    (catchOrdinary program).Keeps relation := by
  intro world
  rw [leaves_catchOrdinary]
  exact keeps world

/-- A traced program keeps what it kept, if that has nothing to do with the traces. -/
theorem keeps_traced
    (traces : ∀ (world : World) (spans : List (Nat × Span)) (spansBegun : Nat),
      relation world { world with spans, spansBegun })
    (name : String) (attributes : List (String × Json)) {program : Program β}
    (keeps : program.Keeps relation) : (traced name attributes program).Keeps relation := by
  intro world
  obtain ⟨spans, same⟩ := leaves_traced name attributes program world
  rw [same]
  have begun := traces world world.spans (world.spansBegun + 1)
  have ended := traces (program.leaves { world with spansBegun := world.spansBegun + 1 }) spans
    (program.leaves { world with spansBegun := world.spansBegun + 1 }).spansBegun
  exact trans_of relation (trans_of relation begun (keeps _)) ended

end

end Program

/-! ## What programs may change in a world -/

/-- Nothing but the log, the faults and what was handed to the caller is different. -/
def World.Silent (before after : World) : Prop :=
  ∃ log faults reported, { before with log, faults, reported } = after

namespace World.Silent

theorem refl (world : World) : world.Silent world :=
  ⟨_, _, _, rfl⟩

theorem trans {first second third : World} (one : first.Silent second)
    (two : second.Silent third) : first.Silent third := by
  obtain ⟨_, _, _, rfl⟩ := one
  obtain ⟨log, faults, reported, rfl⟩ := two
  exact ⟨log, faults, reported, rfl⟩

theorem calls {before after : World} (silent : before.Silent after) :
    after.calls = before.calls := by
  obtain ⟨_, _, _, rfl⟩ := silent
  rfl

instance : IsPreorder World World.Silent where
  refl := refl
  trans _ _ _ := trans

end World.Silent

/-- The files, the working directory and the records of a run are as they were. -/
structure World.Quiet (before after : World) : Prop where
  disk : after.disk = before.disk
  cwd : after.cwd = before.cwd
  calls : after.calls = before.calls
  stranded : after.stranded = before.stranded

namespace World.Quiet

theorem of_silent {before after : World} (silent : before.Silent after) : before.Quiet after := by
  obtain ⟨log, faults, reported, rfl⟩ := silent
  exact ⟨rfl, rfl, rfl, rfl⟩

theorem refl (world : World) : world.Quiet world :=
  ⟨rfl, rfl, rfl, rfl⟩

theorem trans {first second third : World} (one : first.Quiet second) (two : second.Quiet third) :
    first.Quiet third :=
  ⟨two.disk.trans one.disk, two.cwd.trans one.cwd, two.calls.trans one.calls,
    two.stranded.trans one.stranded⟩

instance : IsPreorder World World.Quiet where
  refl := refl
  trans _ _ _ := trans

end World.Quiet

/-- The working directory and the calls of the transformer are as they were. -/
structure World.SameCalls (before after : World) : Prop where
  cwd : after.cwd = before.cwd
  calls : after.calls = before.calls

namespace World.SameCalls

theorem of_quiet {before after : World} (quiet : before.Quiet after) : before.SameCalls after :=
  ⟨quiet.cwd, quiet.calls⟩

theorem refl (world : World) : world.SameCalls world :=
  ⟨rfl, rfl⟩

theorem trans {first second third : World} (one : first.SameCalls second)
    (two : second.SameCalls third) : first.SameCalls third :=
  ⟨two.cwd.trans one.cwd, two.calls.trans one.calls⟩

instance : IsPreorder World World.SameCalls where
  refl := refl
  trans _ _ _ := trans

end World.SameCalls

namespace Program

/-- A program that leaves the files, the working directory and the records of a run alone. -/
abbrev IsQuiet {α : Type} (program : Program α) : Prop :=
  program.Keeps World.Quiet

variable {α : Type}

theorem log_silent (entry : LogEntry) : (log entry).Keeps World.Silent :=
  fun _ => ⟨_, _, _, rfl⟩

theorem strike_silent (call : SystemCall) (name : Option String) :
    (strike call name).Keeps World.Silent := by
  apply keeps_of_ends
  · intro world answer after done
    obtain ⟨_, rfl⟩ := strike_ok.1 done
    exact ⟨_, _, _, rfl⟩
  · intro world failure after failed
    obtain ⟨_, _, _, rfl⟩ := strike_error.1 failed
    exact ⟨_, _, _, rfl⟩

theorem log_quiet (entry : LogEntry) : (log entry).IsQuiet :=
  (log_silent entry).mono fun _ _ => .of_silent

theorem strike_quiet (call : SystemCall) (name : Option String) : (strike call name).IsQuiet :=
  (strike_silent call name).mono fun _ _ => .of_silent

theorem ask_silent (question : Listing → List String → Except Failure α) :
    (ask question).Keeps World.Silent := by
  refine keeps_bind keeps_get fun world => ?_
  cases question world.disk world.cwd with
  | ok answer => exact keeps_pure answer
  | error failure => exact keeps_throw failure

theorem ask_quiet (question : Listing → List String → Except Failure α) :
    (ask question).IsQuiet :=
  (ask_silent question).mono fun _ _ => .of_silent

theorem askSystem_quiet (question : Listing → List String → Except SystemError α) :
    (askSystem question).IsQuiet :=
  ask_quiet _

theorem readClock_quiet : readClock.IsQuiet :=
  keeps_readClock fun _ _ => ⟨rfl, rfl, rfl, rfl⟩

/-- What happens around a traced program is quiet. -/
theorem ok_of_traced {name : String} {attributes : List (String × Json)} {program : Program α}
    {world after : World} {value : α}
    (done : traced name attributes program world = .ok value after) :
    ∃ before middle, world.Quiet before ∧ program before = .ok value middle ∧
      middle.Quiet after := by
  obtain ⟨middle, ran, rfl⟩ := traced_ok.1 done
  refine ⟨_, middle, ?_, ran, ?_⟩
  · exact ⟨rfl, rfl, rfl, rfl⟩
  · exact ⟨rfl, rfl, rfl, rfl⟩

end Program

end Enhance
