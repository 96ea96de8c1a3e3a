import Enhance.World

/-!
# Where diagnostics go
-/

namespace Enhance

/-- Where diagnostics are reported to. -/
inductive Sink where
  /-- Nowhere. -/
  | none
  /-- To the caller, in order. -/
  | collecting
  /-- Into the log. -/
  | logging
  deriving DecidableEq, Repr

/-- Reports a diagnostic. -/
def Sink.report (sink : Sink) (diagnostic : Diagnostic) : Program Unit :=
  match sink with
  | .none => pure ()
  | .collecting => modify fun world => { world with reported := diagnostic :: world.reported }
  | .logging => Program.log diagnostic.logEntry

end Enhance
