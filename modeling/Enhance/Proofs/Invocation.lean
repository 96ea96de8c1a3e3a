import Enhance.Proofs.Lawful
import Enhance.Transformer.Invocation

/-!
# What an invocation does

Transforming one class file reads it and calls the transformer at most once.  `Invocation.Invoked`
tells what may have happened when there is an outcome: the class file could not be read, or the
transformer was called with what it holds and its result was judged.
-/

namespace Enhance

namespace Program

/-- The world after a program that has no part in keeping the records of a run. -/
theorem apart_ok {α : Type} {program : Program α} {world after : World} {value : α} :
    apart program world = .ok value after ↔
      ∃ middle, program world = .ok value middle ∧
        middle.withRecordsOf world = after := by
  simp only [apart]
  cases program world with
  | ok found middle => grind
  | error failure middle => simp

theorem apart_error {α : Type} {program : Program α} {world after : World} {failure : Failure} :
    apart program world = .error failure after ↔
      ∃ middle, program world = .error failure middle ∧
        middle.withRecordsOf world = after := by
  simp only [apart]
  cases program world with
  | ok found middle => simp
  | error failure middle => grind

end Program

/-- The files and the working directory are as before. -/
structure World.SameFiles (before after : World) : Prop where
  disk : after.disk = before.disk
  cwd : after.cwd = before.cwd

/-- A transformer answers by a rule about the bytes and the name of a class file, and leaves the files
and the working directory alone. -/
def Transformer.Follows (transformer : Transformer)
    (rule : ClassFile → Except Failure Answer) : Prop :=
  ∀ file classpath capabilities world,
    match transformer.transform file classpath capabilities world with
    | .ok answer after => rule file = .ok answer ∧ world.SameFiles after
    | .error failure after => rule file = .error failure ∧ world.SameFiles after

namespace Transformer.Follows

variable {transformer : Transformer} {rule : ClassFile → Except Failure Answer}
  {file : ClassFile} {classpath : Classpath} {capabilities : Capabilities} {world after : World}

theorem of_ok (follows : transformer.Follows rule) {answer : Answer}
    (done : transformer.transform file classpath capabilities world = .ok answer after) :
    rule file = .ok answer ∧ world.SameFiles after := by
  have ends := follows file classpath capabilities world
  rw [done] at ends
  exact ends

theorem of_error (follows : transformer.Follows rule) {failure : Failure}
    (failed : transformer.transform file classpath capabilities world = .error failure after) :
    rule file = .error failure ∧ world.SameFiles after := by
  have ends := follows file classpath capabilities world
  rw [failed] at ends
  exact ends

end Transformer.Follows

namespace Invocation

open Program

variable {invocation : Invocation} {path : Path} {world after : World} {outcome : Outcome}

/-- What the result of the transformer makes of a class file with these bytes, if looking at it does
not fail. -/
def judged (path : Path) (given : List UInt8) : Except Failure Answer → Except Failure Outcome
  | .error failure => .ok (.failed (message path) (some failure))
  | .ok .nothing => .ok .unchanged
  | .ok (.bytes data) => .ok (if data = given then .unchanged else .transformed data)
  | .ok (.other kind) => .ok (.failed (message path) (some (.notBytes kind)))
  | .ok (.unreadable failure) | .ok (.wordless failure) => .error failure

/-- New bytes come of bytes that are other ones than those that were given. -/
theorem judged_transformed {given data : List UInt8} {result : Except Failure Answer} :
    judged path given result = .ok (.transformed data) ↔
      result = .ok (.bytes data) ∧ data ≠ given := by
  cases result with
  | error failure => simp [judged]
  | ok answer => cases answer <;> grind [judged]

/-- What happened when an invocation had an outcome. -/
inductive Invoked (invocation : Invocation) (path : Path) (world : World) :
    Outcome → World → Prop
  /-- The class file could not be read. -/
  | unread {error : SystemError} {after : World} (quiet : world.Quiet after) :
      Invoked invocation path world (.failed (message path) (some (.system error))) after
  /-- The transformer was called. -/
  | called {given : List UInt8} {result : Except Failure Answer} {outcome : Outcome}
      {before ended after : World} (quiet : world.Quiet before)
      (read : Classpath.readFile before.disk before.cwd path = .ok given)
      (call : catchOrdinary (invocation.call path given) before = .ok result ended)
      (judges : judged path given result = .ok outcome) (quietAfter : ended.Quiet after) :
      Invoked invocation path world outcome after

theorem failed_ok {event : String} {failure : Failure}
    (done : failed event path failure world = .ok outcome after) :
    outcome = .failed (message path) (some failure) ∧ world.Quiet after := by
  simp only [failed, bind_ok, pure_ok] at done
  obtain ⟨_, middle, logged, rfl, rfl⟩ := done
  exact ⟨rfl, (log_quiet _).of_ok logged⟩

/-- An answer is judged without touching anything. -/
theorem outcome_ok {given : List UInt8} {answer : Answer}
    (done : Invocation.outcome path given answer world = .ok outcome after) :
    judged path given (.ok answer) = .ok outcome ∧ world.Quiet after := by
  cases answer with
  | nothing | bytes =>
      obtain ⟨rfl, rfl⟩ := pure_ok.1 done
      exact ⟨rfl, .refl _⟩
  | other kind =>
      obtain ⟨rfl, quiet⟩ := failed_ok done
      exact ⟨rfl, quiet⟩
  | unreadable failure | wordless failure => contradiction

theorem readClass_quiet (path : Path) : (readClass path).IsQuiet :=
  keeps_bind (strike_quiet _ _) fun _ => ask_quiet _

/-- The bytes that are read are those of the file that the path leads to. -/
theorem readClass_ok {given : List UInt8} (done : readClass path world = .ok given after) :
    Classpath.readFile after.disk after.cwd path = .ok given := by
  obtain ⟨_, middle, -, asked⟩ := bind_ok.1 done
  obtain ⟨read, rfl⟩ := ask_ok.1 asked
  exact read

theorem run_ok (done : invocation.run path world = .ok outcome after) :
    Invoked invocation path world outcome after := by
  obtain ⟨found, middle, read, done⟩ := bind_ok.1 done
  have quiet := (keeps_catchSystem (readClass_quiet path)).of_ok read
  cases found with
  | error error =>
      obtain ⟨rfl, quietAfter⟩ := failed_ok done
      exact .unread (quiet.trans quietAfter)
  | ok given =>
      obtain ⟨result, ended, call, done⟩ := bind_ok.1 done
      have given_read : readClass path world = .ok given middle := by
        rcases catchSystem_ok.1 read with ⟨value, done, same⟩ | ⟨error, -, same⟩
        · cases same
          exact done
        · contradiction
      cases result with
      | error failure =>
          obtain ⟨rfl, quietAfter⟩ := failed_ok done
          exact .called quiet (readClass_ok given_read) call rfl quietAfter
      | ok answer =>
          obtain ⟨judges, quietAfter⟩ := outcome_ok done
          exact .called quiet (readClass_ok given_read) call judges quietAfter

/-- A call is recorded whatever comes of it. -/
theorem call_calls {given : List UInt8} {result : Except Failure Answer}
    (call : catchOrdinary (invocation.call path given) world = .ok result after) :
    after.calls = ⟨path, given, invocation.capabilities.names⟩ :: world.calls ∧
      after.stranded = world.stranded := by
  rcases catchOrdinary_ok.1 call with ⟨answer, done, -⟩ | ⟨failure, done, -, -⟩
  · obtain ⟨_, middle, recorded, done⟩ := bind_ok.1 done
    obtain rfl := modify_ok.1 recorded
    obtain ⟨ended, -, rfl⟩ := apart_ok.1 done
    exact ⟨rfl, rfl⟩
  · rcases bind_error.1 done with recorded | ⟨_, middle, recorded, done⟩
    · exact (modify_error.1 recorded).elim
    · obtain rfl := modify_ok.1 recorded
      obtain ⟨ended, -, rfl⟩ := apart_error.1 done
      exact ⟨rfl, rfl⟩

/-- A call has the result that the rule of the transformer gives. -/
theorem call_follows {rule : ClassFile → Except Failure Answer} {given : List UInt8}
    {result : Except Failure Answer} (follows : invocation.transformer.Follows rule)
    (call : catchOrdinary (invocation.call path given) world = .ok result after) :
    rule ⟨given, path.name⟩ = result ∧ world.SameFiles after := by
  rcases catchOrdinary_ok.1 call with ⟨answer, done, rfl⟩ | ⟨failure, failed, -, rfl⟩
  · obtain ⟨_, middle, recorded, done⟩ := bind_ok.1 done
    obtain rfl := modify_ok.1 recorded
    obtain ⟨ended, transformed, rfl⟩ := apart_ok.1 done
    obtain ⟨answers, same⟩ := follows.of_ok transformed
    exact ⟨answers, same.disk, same.cwd⟩
  · rcases bind_error.1 failed with recorded | ⟨_, middle, recorded, failed⟩
    · exact (modify_error.1 recorded).elim
    · obtain rfl := modify_ok.1 recorded
      obtain ⟨ended, transformed, rfl⟩ := apart_error.1 failed
      obtain ⟨fails, same⟩ := follows.of_error transformed
      exact ⟨fails, same.disk, same.cwd⟩

namespace Invoked

theorem of_quiet {before : World} (quiet : world.Quiet before)
    (invoked : Invoked invocation path before outcome after) :
    Invoked invocation path world outcome after := by
  cases invoked with
  | unread quietAfter => exact .unread (quiet.trans quietAfter)
  | called quietBefore read call judges quietAfter =>
      exact .called (quiet.trans quietBefore) read call judges quietAfter

theorem before_quiet (invoked : Invoked invocation path world outcome after) {last : World}
    (quiet : after.Quiet last) : Invoked invocation path world outcome last := by
  cases invoked with
  | unread quietBefore => exact .unread (quietBefore.trans quiet)
  | called quietBefore read call judges quietAfter =>
      exact .called quietBefore read call judges (quietAfter.trans quiet)

/-- A class file is handed to the transformer at most once, and it is if it does not fail. -/
theorem calls_eq (invoked : Invoked invocation path world outcome after) :
    after.stranded = world.stranded ∧
      (after.calls = world.calls ∧ (∃ message cause, outcome = .failed message cause) ∨
        ∃ call, call.path = path ∧ after.calls = call :: world.calls) := by
  cases invoked with
  | unread quiet => exact ⟨quiet.stranded, .inl ⟨quiet.calls, _, _, rfl⟩⟩
  | @called given _ _ _ _ _ quiet read call judges quietAfter =>
      obtain ⟨calls, stranded⟩ := call_calls call
      refine ⟨?_, .inr ⟨⟨path, given, invocation.capabilities.names⟩, rfl, ?_⟩⟩
      · rw [quietAfter.stranded, stranded, quiet.stranded]
      · rw [quietAfter.calls, calls, quiet.calls]

/-- The transformer is handed what was read of the class file. -/
theorem handed (invoked : Invoked invocation path world outcome after) :
    after.calls = world.calls ∨ ∃ given features,
      Classpath.readFile world.disk world.cwd path = .ok given ∧
        after.calls = ⟨path, given, features⟩ :: world.calls := by
  cases invoked with
  | unread quiet => exact .inl quiet.calls
  | @called given _ _ _ _ _ quiet read call judges quietAfter =>
      rw [quiet.disk, quiet.cwd] at read
      refine .inr ⟨given, invocation.capabilities.names, read, ?_⟩
      rw [quietAfter.calls, (call_calls call).1, quiet.calls]

/-- New bytes are those that the rule of the transformer gives for a class file that was read, and
other ones than those that were read. -/
theorem transformed {rule : ClassFile → Except Failure Answer} {data : List UInt8}
    (invoked : Invoked invocation path world outcome after)
    (follows : invocation.transformer.Follows rule) (news : outcome = .transformed data) :
    ∃ given, Classpath.readFile world.disk world.cwd path = .ok given ∧
      rule ⟨given, path.name⟩ = .ok (.bytes data) ∧ data ≠ given := by
  cases invoked with
  | unread quiet => contradiction
  | @called given result _ before ended after quiet read call judges quietAfter =>
      obtain ⟨answers, -⟩ := call_follows follows call
      rw [quiet.disk, quiet.cwd] at read
      refine ⟨given, read, ?_⟩
      rw [news] at judges
      obtain ⟨rfl, ne⟩ := judged_transformed.1 judges
      exact ⟨answers, ne⟩

/-- A transformer that leaves the files alone makes no difference to them. -/
theorem sameFiles {rule : ClassFile → Except Failure Answer}
    (invoked : Invoked invocation path world outcome after)
    (follows : invocation.transformer.Follows rule) : world.SameFiles after := by
  cases invoked with
  | unread quiet => exact ⟨quiet.disk, quiet.cwd⟩
  | called quiet read call judges quietAfter =>
      obtain ⟨-, same⟩ := call_follows follows call
      exact ⟨(quietAfter.disk.trans same.disk).trans quiet.disk,
        (quietAfter.cwd.trans same.cwd).trans quiet.cwd⟩

end Invoked

end Invocation

end Enhance
