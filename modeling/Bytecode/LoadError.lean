import Bytecode.FileTree
import Bytecode.Stream.Fault
import Bytecode.Text.Quoted

/-!
# Why an executable cannot be loaded

An executable is refused because its file cannot be opened, because it does not
start with the signature, or because its length is not what its header declares.
Everything else that goes wrong is a fault of the source it is read from.
-/

namespace Bytecode

/-- Why loading an executable fails. -/
inductive LoadError where
  | notFound (path : String) (cause : OpenFault)
  /-- The source starts with `found` instead of the signature. -/
  | invalidSignature (found : String)
  /-- The source is `actual` bytes long and not `expected`. -/
  | invalidSize (expected actual : Nat)
  | io (cause : IoFault)
deriving DecidableEq, Repr

def LoadError.message : LoadError → String
  | notFound path _ => s!"Executable not found at {path}"
  | invalidSignature found =>
      "Invalid signature " ++ Text.quoted found ++ ", expected \"ESET-VM2\""
  | invalidSize expected actual =>
      s!"Invalid size: header declares {expected} bytes, source has {actual}"
  | io cause => cause.message

end Bytecode
