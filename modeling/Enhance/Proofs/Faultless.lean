import Enhance.Proofs.Calm
import Enhance.Proofs.Run.Steps

/-!
# Programs that no fault strikes

In a world in which no fault strikes, transforming a class file gives what the rule of the transformer makes
of the bytes that are read (`Invocation.run_gives`).
-/

namespace Enhance

/-! ## Transforming a class file -/

/-- A transformer answers by a rule, leaves the files alone and lets no fault strike. -/
structure Transformer.Computes (transformer : Transformer) (rule : ClassFile → Except Failure Answer) :
    Prop where
  follows : transformer.Follows rule
  faults : transformer.Has fun _ program =>
    program.Keeps fun before after => before.faults = [] → after.faults = []

open Program

/-- Calling a transformer gives what its rule says. -/
theorem Transformer.Computes.gives {transformer : Transformer}
    {rule : ClassFile → Except Failure Answer} (computes : transformer.Computes rule)
    (file : ClassFile) (classpath : Classpath) (capabilities : Capabilities) (world : World) :
    (apart (transformer.transform file classpath capabilities)).Gives world (rule file) := by
  have faults := computes.faults file classpath capabilities world
  cases done : transformer.transform file classpath capabilities world with
  | ok answer after =>
      obtain ⟨answers, same⟩ := computes.follows.of_ok done
      rw [leaves_of_ok done] at faults
      rw [answers]
      exact ⟨_, apart_ok.2 ⟨after, done, rfl⟩, same.disk, same.cwd, rfl, faults⟩
  | error failure after =>
      obtain ⟨fails, same⟩ := computes.follows.of_error done
      rw [leaves_of_error done] at faults
      rw [fails]
      exact ⟨_, apart_error.2 ⟨after, done, rfl⟩, same.disk, same.cwd, rfl, faults⟩

namespace Invocation

variable {invocation : Invocation} {rule : ClassFile → Except Failure Answer} {world : World}

/-- What transforming a class file comes to when no fault strikes. -/
def glance (rule : ClassFile → Except Failure Answer) (disk : Listing) (cwd : List String)
    (path : Path) : Except Failure Outcome := do
  match ← caughtSystem (Classpath.readFile disk cwd path) with
  | .error error => pure (.failed (message path) (some (.system error)))
  | .ok given => caughtOrdinary (rule ⟨given, path.name⟩) >>= judged path given

theorem gives_failed (event : String) (path : Path) (failure : Failure) (world : World) :
    (failed event path failure).Gives world (.ok (.failed (message path) (some failure))) :=
  (gives_log _ world).bind_ok fun middle _ => gives_pure _ middle

theorem gives_readClass (faultless : world.faults = []) (path : Path) :
    (readClass path).Gives world (Classpath.readFile world.disk world.cwd path) := by
  refine (gives_strike faultless _ _).bind_ok fun middle calm => ?_
  rw [← calm.disk, ← calm.cwd]
  exact gives_ask _ middle

theorem call_gives (computes : invocation.transformer.Computes rule) (path : Path)
    (given : List UInt8) (world : World) :
    (invocation.call path given).Gives world (rule ⟨given, path.name⟩) := by
  have records : (modify fun world : World => { world with
      calls := ⟨path, given, invocation.capabilities.names⟩ :: world.calls } : Program PUnit).Gives
        world (.ok ⟨⟩) := ⟨_, rfl, rfl, rfl, rfl, id⟩
  exact records.bind_ok fun middle _ => computes.gives _ _ _ middle

/-- When no fault strikes, transforming a class file comes to what can be computed from the files. -/
theorem run_gives (computes : invocation.transformer.Computes rule) (faultless : world.faults = [])
    (path : Path) : (invocation.run path).Gives world (glance rule world.disk world.cwd path) := by
  refine (gives_readClass faultless path).catchSystem.bind fun found middle calm => ?_
  cases found with
  | error error => exact gives_failed _ _ _ middle
  | ok given =>
      refine (call_gives computes path given middle).catchOrdinary.bind fun result last _ => ?_
      cases result with
      | error failure => exact gives_failed _ _ _ last
      | ok answer =>
          cases answer with
          | nothing | bytes => exact gives_pure _ last
          | other kind => exact gives_failed _ _ _ last
          | unreadable failure | wordless failure => exact gives_throw _ last

end Invocation

end Enhance
