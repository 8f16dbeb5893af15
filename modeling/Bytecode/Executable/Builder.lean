import Bytecode.Header.Basic
import Bytecode.Stream.Sink

/-!
# Building executables

A builder puts an executable together from its code and its data, and derives
the header from them.
-/

namespace Bytecode

/-- The parts of an executable that is being built. -/
structure ExecutableBuilder where
  code : Bytes := #[]
  /-- The bytes that the data segment starts with. -/
  data : Bytes := #[]
  /-- The size of the data segment at run time, where it is not the length of
  the data. -/
  dataSize : Option UInt32 := none
deriving DecidableEq

namespace ExecutableBuilder

def empty : ExecutableBuilder :=
  {}

/-- Gives the code, in place of any given before. -/
def withCode (builder : ExecutableBuilder) (code : Bytes) : ExecutableBuilder :=
  { builder with code }

def withData (builder : ExecutableBuilder) (data : Bytes) : ExecutableBuilder :=
  { builder with data }

def withDataSize (builder : ExecutableBuilder) (size : UInt32) : ExecutableBuilder :=
  { builder with dataSize := some size }

/-- The header derived from the parts. A length is kept in 32 bits, so of a part
longer than that only the low 32 bits of its length are declared. -/
def header (builder : ExecutableBuilder) : Header :=
  let initialDataSize := UInt32.ofNat builder.data.size
  .ofSizes (.ofNat builder.code.size) (builder.dataSize.getD initialDataSize)
    initialDataSize

/-- The bytes of the executable: header, code, data. -/
def toBytes (builder : ExecutableBuilder) : Bytes :=
  builder.header.toBytes.toArray ++ builder.code ++ builder.data

/-- Writes the executable to a sink part by part, and flushes the sink once all
of it was taken. -/
def write {σ : Type} [Sink σ] (builder : ExecutableBuilder) : Writing σ Unit := do
  Sink.writeAll builder.header.toBytes.toArray
  Sink.writeAll builder.code
  Sink.writeAll builder.data
  Sink.flush

end ExecutableBuilder

end Bytecode
