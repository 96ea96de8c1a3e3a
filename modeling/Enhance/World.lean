import Enhance.Console.Block
import Enhance.Diagnostic
import Enhance.Disk.Change
import Enhance.Disk.Resolve
import Enhance.Disk.Setup
import Enhance.Log
import Enhance.Report.Basic
import Enhance.Temporary
import Enhance.UserError

/-!
# The world of a run

What a run works on and leaves behind: the files, the log, the spans of time that were traced
and the calls of the transformer. System calls can be made to fail: before a call is made,
every fault is asked whether it strikes.

A program is a computation on the world. When it fails, the world stays as it is at that
point.
-/

namespace Enhance

/-- The system calls that faults can strike. -/
inductive SystemCall where
  | listDirectory
  | makeTemporary
  | sync
  | copyMode
  | replace
  | unlink
  | create
  | readClass
  | openSettings
  deriving DecidableEq, Repr

/-- The files that a fault is about. -/
inductive FileChoice where
  | any
  | named (name : String)
  | temporary
  deriving DecidableEq, Repr

/-- Whether a call about a file of some name, or about no file, is meant. -/
def FileChoice.covers (name : Option String) : FileChoice → Bool
  | .any => true
  | .named wanted => name = some wanted
  | .temporary => name.any Temporary.isName

/-- What makes a system call fail. -/
structure Fault where
  call : SystemCall
  code : Nat
  /-- The files the call has to be about. -/
  about : FileChoice := .any
  /-- Which of the calls it strikes, counted from zero; all of them if nothing is said. -/
  strikes : Option (List Nat) := none
  /-- The number of such calls made so far. -/
  seen : Nat := 0
  deriving DecidableEq, Repr

namespace Fault

/-- Whether a fault is about a call. -/
def concerns (fault : Fault) (call : SystemCall) (name : Option String) : Bool :=
  fault.call = call && fault.about.covers name

/-- Whether a fault strikes a call that it is about. -/
def isDue (fault : Fault) : Bool :=
  match fault.strikes with
  | none => true
  | some strikes => strikes.contains fault.seen

/-- Asks the faults in order about a call: the error of the first one that strikes, and the
faults with their counts. -/
def ask (call : SystemCall) (name : Option String) : List Fault → Option Nat × List Fault
  | [] => (none, [])
  | fault :: faults =>
    if fault.concerns call name then
      let counted := { fault with seen := fault.seen + 1 }
      if fault.isDue then (some fault.code, counted :: faults)
      else
        let answer := ask call name faults
        (answer.1, counted :: answer.2)
    else
      let answer := ask call name faults
      (answer.1, fault :: answer.2)

@[simp] theorem ask_nil (call : SystemCall) (name : Option String) :
    ask call name [] = (none, []) := rfl

end Fault

/-- How a traced stretch of a run ended. -/
inductive SpanEnd where
  | ok
  | failed (failure : Failure)
  /-- The program was stopped. -/
  | stopped
  deriving DecidableEq, Repr

/-- A traced stretch of a run. -/
structure Span where
  name : String
  attributes : List (String × Json)
  ending : SpanEnd

/-- One call of the transformer: the class file it is about, the bytes it was given and the names of
the features asked for. -/
structure TransformerCall where
  path : Path
  data : List UInt8
  features : List String
  deriving DecidableEq, Repr

/-- The name that the transformer is given. -/
def TransformerCall.name (call : TransformerCall) : String :=
  call.path.name

/-- The number of bytes that the transformer is given. -/
def TransformerCall.size (call : TransformerCall) : Nat :=
  call.data.length

/-- What a run works on and leaves behind. -/
structure World where
  disk : Listing := .empty
  /-- The names that lead from the root to the working directory. -/
  cwd : List String := []
  faults : List Fault := []
  /-- The entries of the log, latest first. -/
  log : List LogEntry := []
  /-- The rank from which on the entries of the log are shown as lines, if they are. -/
  shownFrom : Option Nat := none
  /-- The width of the console. -/
  columns : Nat := 80
  /-- What was printed, latest first. -/
  printed : List String := []
  /-- The traced stretches, latest first. -/
  spans : List (Nat × Span) := []
  /-- The number of stretches begun. -/
  spansBegun : Nat := 0
  /-- The diagnostics that were handed to the caller, latest first. -/
  reported : List Diagnostic := []
  /-- The calls of the transformer, latest first. -/
  calls : List TransformerCall := []
  /-- The disk after each call that may have changed it, latest first. -/
  moments : List Listing := []
  /-- The temporary files that the system did not let be removed, latest first. -/
  stranded : List Path := []
  /-- The coming readings of the clock, in seconds; the last one is repeated. -/
  clock : List Float := [0.0]
  now : Timestamp

/-- The traced stretches in the order in which they began. -/
def World.spansInOrder (world : World) : List Span :=
  (world.spans.mergeSort fun first second => first.1 ≤ second.1).map (·.2)

/-- The entries of the log that are shown, as lines. -/
def World.shownLog (world : World) : List Json :=
  match world.shownFrom with
  | none => []
  | some rank =>
    (world.log.reverse.filter fun entry => rank ≤ entry.level.rank).map LogEntry.toJson

/-- A world with the records of a run as they were in an earlier one: what was handed to the caller,
the calls of the transformer and the temporary files left behind. -/
def World.withRecordsOf (world earlier : World) : World :=
  { world with
    reported := earlier.reported, calls := earlier.calls, stranded := earlier.stranded }

/-- A computation on the world. -/
abbrev Program := EStateM Failure World

namespace Program

/-- Writes an entry into the log. -/
def log (entry : LogEntry) : Program Unit :=
  modify fun world => { world with log := entry :: world.log }

/-- Writes a text as it is. -/
def write (text : String) : Program Unit :=
  modify fun world => { world with printed := text :: world.printed }

/-- Prints on the console. -/
def print (block : Console.Block) : Program Unit := do
  match block.text (← get).columns with
  | .ok text => write text
  | .error error => throw (.markup error)

/-- Fails with a system error. -/
def fail {α : Type} (error : SystemError) : Program α :=
  throw (.system error)

/-- Lets the faults strike a call. -/
def strike (call : SystemCall) (name : Option String) : Program Unit := do
  let world ← get
  let (struck, faults) := Fault.ask call name world.faults
  set { world with faults }
  match struck with
  | some code => fail { code }
  | none => pure ()

/-- The answer of a question about the files. -/
def ask {α : Type} (question : Listing → List String → Except Failure α) : Program α := do
  let world ← get
  match question world.disk world.cwd with
  | .ok answer => pure answer
  | .error failure => throw failure

/-- The answer of a question that fails with a system error. -/
def askSystem {α : Type} (question : Listing → List String → Except SystemError α) : Program α :=
  ask fun disk cwd => (question disk cwd).mapError .system

/-- Changes the files by a call. -/
def alter (call : Listing → List String → Except Failure Listing) : Program Unit := do
  let world ← get
  match call world.disk world.cwd with
  | .ok disk => set { world with disk, moments := disk :: world.moments }
  | .error failure => throw failure

/-- Changes the files by a call about a path. -/
def change (path : Path) (call : Listing → List String → Except Nat Listing) : Program Unit :=
  alter fun disk cwd =>
    if Disk.hasNul path then .error .embeddedNul
    else (call disk cwd).mapError fun code => .system (Disk.errorAt code path)

/-- Notes a temporary file that was left behind. -/
def strand (temporary : Path) : Program Unit :=
  modify fun world => { world with stranded := temporary :: world.stranded }

/-- Sets up files. What was done before an item that cannot be applied stays. -/
def setUp (items : List Disk.Item) : Program Unit := do
  let world ← get
  let (disk, refused) := Disk.setUp world.disk world.cwd items
  set { world with disk, moments := disk :: world.moments }
  match refused with
  | some error => fail error
  | none => pure ()

/-- Reads the clock. -/
def readClock : Program Float := do
  let world ← get
  match world.clock with
  | [] => pure 0.0
  | [last] => pure last
  | next :: rest =>
    set { world with clock := rest }
    pure next

/-- Runs a program and gives a system error it fails with as a value. -/
def catchSystem {α : Type} (program : Program α) : Program (Except SystemError α) :=
  tryCatch (Except.ok <$> program) fun failure =>
    match failure with
    | .system error => pure (.error error)
    | other => throw other

/-- Runs a program and gives an ordinary failure as a value. -/
def catchOrdinary {α : Type} (program : Program α) : Program (Except Failure α) :=
  tryCatch (Except.ok <$> program) fun failure =>
    if failure.isOrdinary then pure (.error failure) else throw failure

/-- Runs a program that has no part in keeping the records of a run. -/
def apart {α : Type} (program : Program α) : Program α := fun world =>
  match program world with
  | .ok value after => .ok value (after.withRecordsOf world)
  | .error failure after => .error failure (after.withRecordsOf world)

/-- Traces a program as a stretch of that name. -/
def traced {α : Type} (name : String) (attributes : List (String × Json)) (program : Program α) :
    Program α := do
  let number := (← get).spansBegun
  modify fun world => { world with spansBegun := number + 1 }
  let finish (ending : SpanEnd) : Program Unit :=
    modify fun world => { world with spans := (number, ⟨name, attributes, ending⟩) :: world.spans }
  let result ← tryCatch program fun failure => do
    finish (if failure.isOrdinary then .failed failure else .stopped)
    throw failure
  finish .ok
  pure result

end Program

end Enhance
