import Enhance.Classpath.Context
import Enhance.Settings.Basic
import Enhance.World

/-!
# Transformers

A transformer gets the bytes of a class and answers with new bytes, or with nothing if the
class stays as it is. It sees the class path and the features that are asked for, and it may
fail.
-/

namespace Enhance

/-- What a transformer answers. -/
inductive Answer where
  | nothing
  /-- Bytes that can be read, whichever type of bytes holds them. -/
  | bytes (data : List UInt8)
  /-- A value of another kind. -/
  | other (kind : String)
  /-- A value that fails when it is looked at, such as a view of bytes that was released. -/
  | unreadable (failure : Failure)
  /-- An error without words instead of a value: asking for its text fails in turn. -/
  | wordless (failure : Failure)
  deriving DecidableEq, Repr

/-- A class that is handed to a transformer. -/
structure ClassFile where
  data : List UInt8
  /-- The name of the file. -/
  name : String
  deriving DecidableEq, Repr

/-- A transformer. -/
structure Transformer where
  /-- The kind of the transformer, for messages. -/
  kind : String
  transform : ClassFile → Classpath → Capabilities → Program Answer

namespace Transformer

/-- The transformer that leaves every class as it is. -/
def noOp : Transformer :=
  { kind := "NoOpTransformer", transform := fun _ _ _ => pure .nothing }

/-- A small letter of ASCII as a capital one. -/
def upperByte (byte : UInt8) : UInt8 :=
  if 0x61 ≤ byte && byte ≤ 0x7a then byte - 0x20 else byte

/-- A transformer that capitalises the ASCII letters among the bytes. -/
def capitals (kind : String) : Transformer :=
  { kind, transform := fun file _ _ => pure (.bytes (file.data.map upperByte)) }

/-- A transformer that fails on every class. -/
def failing (kind : String) (failure : Failure) : Transformer :=
  { kind, transform := fun _ _ _ => throw failure }

end Transformer

end Enhance
