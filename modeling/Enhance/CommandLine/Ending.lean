import Enhance.CommandLine.Arguments
import Enhance.CommandLine.Stop

/-!
# How the program ends

The program ends with a code. If a command was not used as it should be or refused its work,
it also says why; nothing of that has been printed yet.
-/

namespace Enhance.CommandLine

/-- How the program ends. -/
inductive Ending where
  | exit (code : Nat)
  | misused (error : UsageError)
  | refused (refusal : Refusal)
  /-- An error that no command expects. -/
  | escaped (kind message : String)
  deriving DecidableEq, Repr

namespace Ending

/-- The code for an error that no command expects. -/
def escapedCode : Nat := 1

/-- The code that the program ends with. -/
def code : Ending → Nat
  | .exit code => code
  | .misused _ => UsageError.exitCode
  | .refused refusal => refusal.exitCode
  | .escaped .. => escapedCode

/-- What remains to be said about the end. -/
def words? : Ending → Option String
  | .exit _ => none
  | .misused error => some error.message
  | .refused refusal => some refusal.message
  | .escaped kind message => some s!"{kind}: {message}"

/-- The ending of a failure. -/
def ofFailure (failure : Failure) : Ending :=
  .escaped failure.kind failure.message

/-- The ending of a command that stopped. -/
def ofStop : Stop → Ending
  | .refused refusal => .refused refusal
  | .escaped kind message => .escaped kind message

end Ending

end Enhance.CommandLine
