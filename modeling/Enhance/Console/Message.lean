import Enhance.Console.Block

/-!
# Messages

A message is a text behind a mark that says what kind of message it is. Both are printed as one
marked-up text.
-/

namespace Enhance.Console

/-- The kinds of messages. -/
inductive MessageKind where
  | success
  | error
  | warning
  /-- A message without a mark. -/
  | info
  deriving DecidableEq, Repr

/-- The mark before a message, with its colour. -/
def MessageKind.mark : MessageKind → String
  | .success => "[green]✓[/green] "
  | .error => "[red]✗[/red] "
  | .warning => "[yellow]⚠[/yellow] "
  | .info => ""

/-- The message of a kind with a text. -/
def message (kind : MessageKind) (text : String) : Block :=
  .markup (kind.mark ++ text)

end Enhance.Console
