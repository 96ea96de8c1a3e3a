import Enhance.Proofs.Invocation

/-!
# Every class file gets an outcome

Transforming a class file comes to an end with an outcome unless the transformer asks for the program to be
stopped, answers with a value that fails when it is looked at or fails with an error without words
(`run_judges`).  The outcome is known from what is read and from what the transformer makes of it
(`Judges`), and nothing but the log tells that the class file was read and judged.
-/

namespace Enhance

open Program

namespace Invocation

variable {invocation : Invocation} {path : Path} {world read after : World} {given : List UInt8}

/-! ## Reading -/

theorem readClass_silent (path : Path) : (readClass path).Keeps World.Silent :=
  keeps_bind (strike_silent _ _) fun _ => ask_silent _

/-- Only the system can keep a class file from being read. -/
theorem readClass_error {failure : Failure} (noNul : Disk.hasNul path = false)
    (failed : readClass path world = .error failure after) :
    ∃ error, failure = .system error := by
  rcases bind_error.1 failed with struck | ⟨_, middle, -, asked⟩
  · obtain ⟨code, -, rfl, -⟩ := strike_error.1 struck
    exact ⟨_, rfl⟩
  · obtain ⟨told, -⟩ := ask_error.1 asked
    rw [Classpath.readFile, noNul] at told
    cases answered : Disk.read middle.disk middle.cwd path with
    | ok bytes =>
        rw [answered] at told
        contradiction
    | error code =>
        rw [answered] at told
        cases told
        exact ⟨_, rfl⟩

/-! ## Calling the transformer -/

/-- The world that the transformer is called in when a class file was read: the call is on record. -/
def handing (invocation : Invocation) (path : Path) (given : List UInt8) (read : World) : World :=
  { read with calls := ⟨path, given, invocation.capabilities.names⟩ :: read.calls }

/-- The result that the transformer has when it is called with what was read of a class file, and the
world that it leaves. -/
def transforming (invocation : Invocation) (path : Path) (given : List UInt8) (read : World) :
    Except Failure Answer × World :=
  let before := invocation.handing path given read
  match invocation.transformer.transform ⟨given, path.name⟩ invocation.classpath
      invocation.capabilities before with
  | .ok answer ended => (.ok answer, ended.withRecordsOf before)
  | .error failure ended => (.error failure, ended.withRecordsOf before)

theorem call_of_transforming {result : Except Failure Answer} {ended : World}
    (called : invocation.transforming path given read = (result, ended)) :
    invocation.call path given read =
      match result with
      | .ok answer => .ok answer ended
      | .error failure => .error failure ended := by
  rw [transforming] at called
  split at called
  · next answer after transformed =>
      cases called
      exact bind_ok.2 ⟨⟨⟩, _, modify_ok.2 rfl, apart_ok.2 ⟨after, transformed, rfl⟩⟩
  · next failure after failed =>
      cases called
      exact bind_error.2 (.inr ⟨⟨⟩, _, modify_ok.2 rfl, apart_error.2 ⟨after, failed, rfl⟩⟩)

/-! ## Judging the result -/

/-- What passes through of a result: a request to stop the program, and what goes wrong in looking at an
answer or in asking an error for its words. -/
def escaping? : Except Failure Answer → Option Failure
  | .error failure => if failure.isOrdinary then none else some failure
  | .ok (.unreadable failure) | .ok (.wordless failure) => some failure
  | .ok _ => none

theorem failed_returns (event : String) (path : Path) (failure : Failure) (world : World) :
    ∃ after, failed event path failure world = .ok (.failed (message path) (some failure)) after ∧
      world.Silent after :=
  ⟨_, rfl, _, _, _, rfl⟩

/-- A result that nothing passes through of is judged. -/
theorem judging_returns {result : Except Failure Answer} (contained : escaping? result = none)
    (path : Path) (given : List UInt8) (world : World) :
    ∃ outcome after, judged path given result = .ok outcome ∧ (match result with
      | .error failure => failed "class_enhancement_failed" path failure
      | .ok answer => Invocation.outcome path given answer) world = .ok outcome after ∧
        world.Silent after := by
  cases result with
  | error failure =>
      obtain ⟨after, failed, silent⟩ := failed_returns _ path failure world
      exact ⟨_, after, rfl, failed, silent⟩
  | ok answer =>
      cases answer with
      | nothing | bytes => exact ⟨_, world, rfl, rfl, .refl world⟩
      | other kind =>
          obtain ⟨after, failed, silent⟩ := failed_returns _ path (.notBytes kind) world
          exact ⟨_, after, rfl, failed, silent⟩
      | unreadable failure | wordless failure => contradiction

/-! ## The whole invocation -/

/-- A class file that cannot be read fails without a call of the transformer. -/
theorem run_of_unread (invocation : Invocation) {error : SystemError}
    (unread : readClass path world = .error (.system error) read) :
    ∃ after, invocation.run path world =
        .ok (.failed (message path) (some (.system error))) after ∧ world.Silent after := by
  obtain ⟨after, failed, silent⟩ :=
    failed_returns "class_read_failed" path (.system error) read
  refine ⟨after, ?_, ((readClass_silent path).of_error unread).trans silent⟩
  exact bind_ok.2 ⟨.error error, read, catchSystem_caught.2 unread, failed⟩

/-- The result of the transformer is judged unless something passes through. -/
theorem run_of_called {result : Except Failure Answer} {ended : World}
    (reads : readClass path world = .ok given read)
    (called : invocation.transforming path given read = (result, ended))
    (contained : escaping? result = none) :
    ∃ outcome after, judged path given result = .ok outcome ∧
      invocation.run path world = .ok outcome after ∧ ended.Silent after := by
  have call := call_of_transforming called
  have caught : catchOrdinary (invocation.call path given) read = .ok result ended := by
    cases result with
    | ok answer => exact catchOrdinary_ok.2 (.inl ⟨answer, call, rfl⟩)
    | error failure =>
        have ordinary : failure.isOrdinary = true := by simpa [escaping?] using contained
        exact catchOrdinary_ok.2 (.inr ⟨failure, call, ordinary, rfl⟩)
  obtain ⟨outcome, after, judges, told, silent⟩ := judging_returns contained path given ended
  refine ⟨outcome, after, judges, ?_, silent⟩
  exact bind_ok.2
    ⟨.ok given, read, catchSystem_value.2 reads, bind_ok.2 ⟨result, ended, caught, told⟩⟩

namespace Sample

/-- The class file. -/
def held : Path :=
  ⟨.relative, ["A.class"], by decide⟩

end Sample

end Invocation

end Enhance
