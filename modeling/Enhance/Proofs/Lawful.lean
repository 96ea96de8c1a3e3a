import Enhance.Proofs.Program
import Enhance.Sink

/-!
# Properties that programs inherit from their steps

Some properties of programs hold of a program because they hold of every single step it is made of:
that it leaves the files alone is one, that it does not read the log is another.  What has to be known
of such a property is collected in `Lawful`, in `Reporting` if it also holds of reporting diagnostics, in
`Changing` if it holds of the calls that change files, in `Timed` if it holds of looking at the clock, in
`Recording` if it holds of keeping records, and in `Working` if it holds of all that a run does.  It is
then shown once of every program, whatever the property is.
-/

namespace Enhance.Program

variable {α : Type}

/-- A property of programs that holds of the steps which change no files and report no diagnostics, and
of what is made of them. -/
structure Lawful (holds : (α : Type) → Program α → Prop) : Prop where
  pure {α : Type} (value : α) : holds α (pure value)
  throw {α : Type} (failure : Failure) : holds α (throw failure)
  bind {α β : Type} {first : Program α} {second : α → Program β} (one : holds α first)
    (two : ∀ found, holds β (second found)) : holds β (first >>= second)
  /-- What is done next may depend on the files. -/
  look {α : Type} {next : World → Program α} (steps : ∀ world, holds α (next world))
    (depends : ∀ one two : World, one.disk = two.disk → one.cwd = two.cwd → next one = next two) :
    holds α (get >>= next)
  catchSystem {α : Type} {program : Program α} (one : holds α program) :
    holds (Except SystemError α) program.catchSystem
  /-- The entries of a sink are left to reporting. -/
  log {entry : LogEntry} (own : entry.source ≠ .diagnostics) : holds Unit (log entry)
  strike (call : SystemCall) (name : Option String) : holds Unit (strike call name)

/-- A property that holds of reporting diagnostics, too. -/
structure Reporting (holds : (α : Type) → Program α → Prop) : Prop extends Lawful holds where
  report (sink : Sink) (diagnostic : Diagnostic) : holds Unit (sink.report diagnostic)

/-- A property that holds of the calls that change files, too. -/
structure Changing (holds : (α : Type) → Program α → Prop) : Prop extends Lawful holds where
  alter (call : Listing → List String → Except Failure Listing) : holds Unit (alter call)
  strand (temporary : Path) : holds Unit (strand temporary)

/-- A property that holds of looking at the clock, too. -/
structure Timed (holds : (α : Type) → Program α → Prop) : Prop extends Lawful holds where
  readClock : holds Float readClock
  /-- What is done next may depend on the date. -/
  now {α : Type} {next : Timestamp → Program α} (steps : ∀ time, holds α (next time)) :
    holds α (get >>= fun world => next world.now)

/-- A property that holds of keeping records of a run, too. -/
structure Recording (holds : (α : Type) → Program α → Prop) : Prop extends Timed holds where
  catchOrdinary {α : Type} {program : Program α} (one : holds α program) :
    holds (Except Failure α) program.catchOrdinary
  traced {α : Type} {program : Program α} (name : String) (attributes : List (String × Json))
    (one : holds α program) : holds α (traced name attributes program)
  apart {α : Type} {program : Program α} (one : holds α program) : holds α program.apart
  record (call : TransformerCall) :
    holds PUnit (modify fun world => { world with calls := call :: world.calls })

/-- A property that holds of everything that a run does itself. -/
structure Working (holds : (α : Type) → Program α → Prop) : Prop extends
    Reporting holds, Changing holds, Recording holds

namespace Lawful

variable {holds : (α : Type) → Program α → Prop} (lawful : Lawful holds)

include lawful

theorem fail (error : SystemError) : holds α (fail error) :=
  lawful.throw _

theorem ask (question : Listing → List String → Except Failure α) : holds α (ask question) := by
  apply lawful.look
  · intro world
    cases question world.disk world.cwd with
    | ok answer => exact lawful.pure answer
    | error failure => exact lawful.throw failure
  · intro one two sameDisk sameCwd
    rw [sameDisk, sameCwd]

theorem askSystem (question : Listing → List String → Except SystemError α) :
    holds α (askSystem question) :=
  lawful.ask _

end Lawful

/-! ## Programs that leave something alone -/

theorem report_silent (sink : Sink) (diagnostic : Diagnostic) :
    (sink.report diagnostic).Keeps World.Silent := by
  cases sink with
  | none | collecting => exact fun _ => ⟨_, _, _, rfl⟩
  | logging => exact log_silent _

theorem report_quiet (sink : Sink) (diagnostic : Diagnostic) : (sink.report diagnostic).IsQuiet :=
  (report_silent sink diagnostic).mono fun _ _ => .of_silent

/-- What no step changes that changes no files, no program changes that is made of such steps. -/
theorem keeps_lawful {relation : World → World → Prop} [IsPreorder World relation]
    (silent : ∀ before after, before.Silent after → relation before after) :
    Lawful fun _ program => program.Keeps relation where
  pure := keeps_pure
  throw := keeps_throw
  bind := keeps_bind
  look steps _ := fun world => steps world world
  catchSystem := keeps_catchSystem
  log {entry} _ := (log_silent entry).mono silent
  strike call name := (strike_silent call name).mono silent

theorem keeps_reporting {relation : World → World → Prop} [IsPreorder World relation]
    (silent : ∀ before after, before.Silent after → relation before after) :
    Reporting fun _ program => program.Keeps relation where
  toLawful := keeps_lawful silent
  report sink diagnostic := (report_silent sink diagnostic).mono silent

theorem quiet_reporting : Reporting fun _ program => program.IsQuiet :=
  keeps_reporting fun _ _ => .of_silent

theorem quiet_lawful : Lawful fun _ program => program.IsQuiet :=
  quiet_reporting.toLawful

theorem sameCalls_changing : Changing fun _ program => program.Keeps World.SameCalls where
  toLawful := keeps_lawful fun _ _ silent => .of_quiet (.of_silent silent)
  alter := keeps_alter fun _ _ => ⟨rfl, rfl⟩
  strand _ := fun _ => ⟨rfl, rfl⟩

/-- What no step changes keeping the records does not change, if it has nothing to do with these. -/
theorem keeps_recording {relation : World → World → Prop} [IsPreorder World relation]
    (lawful : Lawful fun _ program => program.Keeps relation)
    (ticks : ∀ (world : World) (clock : List Float), relation world { world with clock })
    (traces : ∀ (world : World) (spans : List (Nat × Span)) (spansBegun : Nat),
      relation world { world with spans, spansBegun })
    (calls : ∀ (world : World) (calls : List TransformerCall), relation world { world with calls })
    (records : ∀ world after, relation world after → relation world (after.withRecordsOf world)) :
    Recording fun _ program => program.Keeps relation where
  toLawful := lawful
  readClock := keeps_readClock ticks
  now steps := fun world => steps world.now world
  catchOrdinary := keeps_catchOrdinary
  traced name attributes keeps := keeps_traced traces name attributes keeps
  apart {_ program} keeps := by
    intro world
    rw [leaves_apart]
    exact records _ _ (keeps world)
  record call := fun world => calls world (call :: world.calls)

end Enhance.Program
