import Enhance.Proofs.Lawful

/-!
# Programs that look at nothing but the files

Two worlds hold the same tree if their files, their working directories and what the system refuses are
the same.  A program is grounded if it ends in the same way in worlds with the same tree
(`Program.Grounded`), so that it makes no difference to it what was done before.  A program that changes no
files leaves the tree as it is if what the system refuses it always refuses (`Program.lasting_lawful`).
-/

namespace Enhance

namespace Fault

/-- What is to be expected of a fault. The calls are only counted for one that strikes some of them. -/
def outlook (fault : Fault) : Fault :=
  match fault.strikes with
  | none => { fault with seen := 0 }
  | some _ => fault

variable {one two : Fault} {call : SystemCall} {name : Option String} {faults others : List Fault}

theorem concerns_outlook (fault : Fault) (call : SystemCall) (name : Option String) :
    fault.outlook.concerns call name = fault.concerns call name := by
  rw [outlook]
  split <;> rfl

theorem strikes_outlook (fault : Fault) : fault.outlook.strikes = fault.strikes := by
  rw [outlook]
  split <;> rfl

theorem code_outlook (fault : Fault) : fault.outlook.code = fault.code := by
  rw [outlook]
  split <;> rfl

theorem isDue_outlook (fault : Fault) : fault.outlook.isDue = fault.isDue := by
  rw [outlook]
  split
  · next always => simp [isDue, always]
  · rfl

/-- Counting a call comes to the same for faults of which the same is to be expected. -/
theorem outlook_counted (same : one.outlook = two.outlook) :
    outlook { one with seen := one.seen + 1 } = outlook { two with seen := two.seen + 1 } := by
  have strikes : one.strikes = two.strikes := by
    rw [← strikes_outlook, same, strikes_outlook]
  cases sometimes : two.strikes with
  | none => simpa [outlook, strikes, sometimes] using same
  | some chosen =>
      have equal : one = two := by simpa [outlook, strikes, sometimes] using same
      rw [equal, sometimes]

/-- Faults of which the same is to be expected answer in the same way, and the same is to be expected of
them afterwards. -/
theorem ask_of_outlook (call : SystemCall) (name : Option String)
    (same : faults.map outlook = others.map outlook) :
    (ask call name faults).1 = (ask call name others).1 ∧
      (ask call name faults).2.map outlook = (ask call name others).2.map outlook := by
  induction faults generalizing others with
  | nil =>
      obtain rfl : others = [] := by simpa using same.symm
      exact ⟨rfl, rfl⟩
  | cons fault faults ih =>
      cases others with
      | nil => simp at same
      | cons other others =>
          obtain ⟨alike, rest⟩ := List.cons.inj same
          obtain ⟨answer, later⟩ := ih rest
          have concerns : fault.concerns call name = other.concerns call name := by
            rw [← concerns_outlook, alike, concerns_outlook]
          have isDue : fault.isDue = other.isDue := by
            rw [← isDue_outlook, alike, isDue_outlook]
          have code : fault.code = other.code := by
            rw [← code_outlook, alike, code_outlook]
          have counted := outlook_counted alike
          rw [ask, ask, concerns, isDue]
          split
          · split
            · exact ⟨congrArg some code, by simp [counted, rest]⟩
            · exact ⟨answer, by simp [counted, later]⟩
          · exact ⟨answer, by simp [alike, later]⟩

/-- Of faults that always strike the same is to be expected after they were asked. -/
theorem map_outlook_ask (always : ∀ fault ∈ faults, fault.strikes = none) :
    (ask call name faults).2.map outlook = faults.map outlook := by
  induction faults with
  | nil => rfl
  | cons fault faults ih =>
      obtain ⟨first, others⟩ := List.forall_mem_cons.1 always
      have counted : outlook { fault with seen := fault.seen + 1 } = fault.outlook := by
        simp [outlook, first]
      rw [ask]
      split
      · split
        · simp [counted]
        · simp [counted, ih others]
      · simp [ih others]

end Fault

/-- Two worlds hold the same files, seen from the same directory, and the system refuses the same. -/
structure World.SameTree (one two : World) : Prop where
  disk : two.disk = one.disk
  cwd : two.cwd = one.cwd
  faults : two.faults.map Fault.outlook = one.faults.map Fault.outlook

/-- What the system refuses in a world it always refuses. -/
def World.IsSteady (world : World) : Prop :=
  ∀ fault ∈ world.faults, fault.strikes = none

namespace World.SameTree

variable {one two three : World}

theorem refl (world : World) : world.SameTree world :=
  ⟨rfl, rfl, rfl⟩

theorem symm (same : one.SameTree two) : two.SameTree one :=
  ⟨same.disk.symm, same.cwd.symm, same.faults.symm⟩

theorem trans (same : one.SameTree two) (more : two.SameTree three) : one.SameTree three :=
  ⟨more.disk.trans same.disk, more.cwd.trans same.cwd, more.faults.trans same.faults⟩

theorem isSteady (same : one.SameTree two) (steady : one.IsSteady) : two.IsSteady := by
  intro fault member
  have isOne : fault.outlook ∈ one.faults.map Fault.outlook :=
    same.faults ▸ List.mem_map_of_mem member
  obtain ⟨other, isOther, alike⟩ := List.mem_map.1 isOne
  rw [← Fault.strikes_outlook, ← alike, Fault.strikes_outlook]
  exact steady other isOther

end World.SameTree

/-- The tree is as before if what the system refuses it always refuses. -/
def World.Lasts (before after : World) : Prop :=
  before.IsSteady → before.SameTree after

instance : IsPreorder World World.Lasts where
  refl world _ := .refl world
  trans _ _ _ one two steady := (one steady).trans (two ((one steady).isSteady steady))

namespace Program

variable {α β : Type}

/-- Two ends of programs tell the same and leave the same tree. -/
inductive EndsAlike : EStateM.Result Failure World α → EStateM.Result Failure World α → Prop
  | ok {value : α} {one two : World} (same : one.SameTree two) :
      EndsAlike (.ok value one) (.ok value two)
  | error {failure : Failure} {one two : World} (same : one.SameTree two) :
      EndsAlike (.error failure one) (.error failure two)

/-- A program ends in the same way in worlds with the same tree. -/
def Grounded (program : Program α) : Prop :=
  ∀ one two, one.SameTree two → EndsAlike (program one) (program two)

/-- A program that is grounded ends with a value wherever it does so in the same tree. -/
theorem Grounded.of_ok {program : Program α} (grounded : program.Grounded) {one two after : World}
    {value : α} (same : one.SameTree two) (done : program one = .ok value after) :
    ∃ after', program two = .ok value after' ∧ after.SameTree after' := by
  have ends := grounded one two same
  rw [done] at ends
  generalize program two = right at ends
  cases ends with
  | ok same' => exact ⟨_, rfl, same'⟩

/-! ## What is made of programs that are grounded -/

theorem grounded_bind {first : Program α} {second : α → Program β} (one : first.Grounded)
    (two : ∀ found, (second found).Grounded) : (first >>= second).Grounded := by
  intro world world' same
  have ends := one world world' same
  rw [bind_eq, bind_eq]
  generalize first world = left at ends
  generalize first world' = right at ends
  cases ends with
  | ok same' => exact two _ _ _ same'
  | error same' => exact .error same'

theorem grounded_catchSystem {program : Program α} (grounded : program.Grounded) :
    program.catchSystem.Grounded := by
  intro world world' same
  have ends := grounded world world' same
  rw [catchSystem, tryCatch_map_eq, tryCatch_map_eq]
  generalize program world = left at ends
  generalize program world' = right at ends
  cases ends with
  | ok same' => exact .ok same'
  | @error failure _ _ same' =>
      cases failure with
      | system error => exact .ok same'
      | _ => exact .error same'

theorem grounded_strike (call : SystemCall) (name : Option String) : (strike call name).Grounded := by
  intro world world' same
  obtain ⟨answer, later⟩ := Fault.ask_of_outlook call name same.faults
  rw [strike, get_bind, get_bind]
  generalize Fault.ask call name world.faults = left at answer later
  generalize Fault.ask call name world'.faults = right at answer later
  obtain ⟨struck, faults⟩ := left
  obtain ⟨_, faults'⟩ := right
  cases answer
  have counted : World.SameTree { world with faults } { world' with faults := faults' } :=
    ⟨same.disk, same.cwd, later⟩
  cases struck with
  | none => exact .ok counted
  | some code => exact .error counted

/-- Programs that change no files are grounded. -/
theorem grounded_lawful : Lawful fun _ program => program.Grounded where
  pure _ := fun _ _ same => .ok same
  throw _ := fun _ _ same => .error same
  bind := grounded_bind
  look steps depends := by
    intro one two same
    rw [get_bind, get_bind, ← depends one two same.disk.symm same.cwd.symm]
    exact steps one one two same
  catchSystem := grounded_catchSystem
  log _ := fun _ _ same => .ok ⟨same.disk, same.cwd, same.faults⟩
  strike := grounded_strike

/-- They leave the tree as it is if what the system refuses it always refuses. -/
theorem lasting_lawful : Lawful fun _ program => program.Keeps World.Lasts where
  pure := keeps_pure
  throw := keeps_throw
  bind := keeps_bind
  look steps _ := fun world => steps world world
  catchSystem := keeps_catchSystem
  log _ := fun _ _ => ⟨rfl, rfl, rfl⟩
  strike call name := by
    apply keeps_of_ends
    · intro world answer after done steady
      obtain ⟨-, rfl⟩ := strike_ok.1 done
      exact ⟨rfl, rfl, Fault.map_outlook_ask steady⟩
    · intro world failure after failed steady
      obtain ⟨code, -, -, rfl⟩ := strike_error.1 failed
      exact ⟨rfl, rfl, Fault.map_outlook_ask steady⟩

end Program

end Enhance
