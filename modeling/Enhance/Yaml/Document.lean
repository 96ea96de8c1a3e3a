import Enhance.Yaml.Content
import Enhance.Yaml.Node.Grammar

/-!
# Reading a document

A text holds at most one document. Line ends are made line feeds first and all characters are
checked before the first token is read.
-/

namespace Enhance.Yaml

/-- Makes every line end a line feed. -/
def normalized : List Char → List Char
  | '\r' :: '\n' :: rest => '\n' :: normalized rest
  | '\r' :: rest => '\n' :: normalized rest
  | c :: rest => c :: normalized rest
  | [] => []

/-- Line ends are line feeds afterwards. -/
theorem notMem_normalized (text : List Char) : '\r' ∉ normalized text := by
  fun_induction normalized text with
  | case1 rest ih => simpa using ih
  | case2 rest _ ih => simpa using ih
  | case3 c rest _ notReturn ih =>
    have : '\r' ≠ c := fun same => notReturn same.symm
    simp [this, ih]
  | case4 => simp

/-- Whether a document may hold a character: control characters are refused apart from tabs
and line ends. -/
def isAllowed (c : Char) : Bool :=
  c = '\t' || c = '\n' || c = '\r' || ('\x20' ≤ c && c ≤ '\x7e') || c = '\u0085' ||
    ('\u00a0' ≤ c && c ≤ '\ufffd') || 0x10000 ≤ c.toNat

/-- The first character that no document may hold, and its place. -/
def forbidden? (text : List Char) : Option (Char × Nat) :=
  (text.zipIdx).find? fun entry => !isAllowed entry.1

/-- The value of the document in a text, down to a depth; null if there is no document. -/
def valueOf (depth : Nat) (text : String) : Except Error Value := do
  let text := normalized text.toList
  if let some (c, index) := forbidden? text then throw (.character c index)
  let (graph, root) ← Graph.ofTokens? (tokens text)
  match root with
  | none => return .null
  | some root => graph.value depth root

end Enhance.Yaml
