import Enhance.Archive.Error
import Enhance.Console.Markup
import Enhance.Path.Basic
import Enhance.SystemError
import Enhance.Text.Half

/-!
# Failures

Everything that can go wrong while classes are found, read, transformed and written. A failure
is ordinary unless it is a request to stop the whole program; only ordinary failures are kept
as the cause of a diagnostic, the others end the run.
-/

namespace Enhance

/-- What went wrong. -/
inductive Failure where
  /-- A system call failed. -/
  | system (error : SystemError)
  /-- Following the links of a path never ends. -/
  | linkLoop (path : Path)
  /-- A path holds the character that ends texts in system calls. -/
  | embeddedNul
  /-- A text stands for no bytes that a system call could be about. -/
  | unencodable (error : Text.UnencodableError)
  /-- An archive cannot be read. -/
  | archive (error : Archive.Error)
  /-- The transformer returned a value of another kind than bytes. -/
  | notBytes (kind : String)
  /-- A relative path has no location. -/
  | relativeLocation
  /-- A text that is to be printed has tags that make no sense. -/
  | markup (error : Console.MarkupError)
  /-- The transformer failed with an error of its own. -/
  | raised (kind message : String)
  /-- A request to stop the program. -/
  | interrupt (kind message : String)
  deriving DecidableEq, Repr

namespace Failure

/-- The class of a failure. -/
def kind : Failure → String
  | .system error => error.kind
  | .linkLoop _ => "RuntimeError"
  | .embeddedNul => "ValueError"
  | .unencodable _ => Text.UnencodableError.kind
  | .archive error => error.kind
  | .notBytes _ => "TypeError"
  | .relativeLocation => "ValueError"
  | .markup _ => "MarkupError"
  | .raised kind _ => kind
  | .interrupt kind _ => kind

/-- What went wrong, in words. -/
def message : Failure → String
  | .system error => error.message
  | .linkLoop path => s!"Symlink loop from {Text.quoted path.toString}"
  | .embeddedNul => "embedded null byte"
  | .unencodable error => error.message
  | .archive error => error.message
  | .notBytes kind => s!"transformer returned {kind}, expected bytes"
  | .relativeLocation => "relative path can't be expressed as a file URI"
  | .markup error => error.message
  | .raised _ message => message
  | .interrupt _ message => message

/-- The class of a failure and what went wrong. -/
def text (failure : Failure) : String :=
  failure.kind ++ ": " ++ failure.message

/-- Whether a failure is no request to stop the program. -/
def isOrdinary : Failure → Bool
  | .interrupt _ _ => false
  | _ => true

end Failure

end Enhance
