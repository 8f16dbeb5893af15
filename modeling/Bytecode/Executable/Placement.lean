import Bytecode.Executable.Basic
import Bytecode.Memory.Basic

/-!
# Placing executables in memory

Before an executable runs, memory is allocated and its code and data are copied
there.
-/

namespace Bytecode

/-- Where the parts of an executable go in memory. -/
structure Placement where
  /-- How much memory is allocated. -/
  memorySize : Nat
  /-- Where the code goes. -/
  codeAt : Nat
  /-- Where the data goes. -/
  dataAt : Nat
deriving DecidableEq, Repr

/-- The usual placement: the code at the start of memory, right after it the
data, and room for the whole data segment. -/
def Header.placement (header : Header) : Placement :=
  { memorySize := header.codeSize.toNat + header.dataSize.toNat
    codeAt := 0
    dataAt := header.codeSize.toNat }

/-- Fresh memory with the sections of an executable copied into it, code before data,
or `none` when a part does not fit or nothing is loaded. -/
def Executable.place? {σ : Type} (executable : Executable σ) (placement : Placement) :
    Option Memory := do
  let memory := Memory.unallocated.allocate placement.memorySize
  let code ← executable.section? .code
  let memory ← memory.write? placement.codeAt code.bytes
  match executable.section? .data with
  | none => return memory
  | some data => memory.write? placement.dataAt data.bytes

end Bytecode
