import Bytecode.Bytes
import Bytecode.Stream.Fault

/-!
# Byte sinks

A sink takes bytes in the order in which they are offered to it. It may take
fewer of them at a time than it is offered, and it may come to refuse them.
Writing a block goes on until all of it was taken or the sink refuses; writing
an empty block does not touch the sink.

What becomes of the bytes is up to the kind of the sink (`Sink`). The sinks of
one kind keep them, take a fixed number of them at a time and may be full after
some number of bytes (`ByteSink`).
-/

namespace Bytecode

/-- Writing to a sink: the sink is left as it stands when the writing ends, in
success or failure. -/
abbrev Writing (σ : Type) := EStateM IoFault σ

/-- A kind of sinks. -/
class Sink (σ : Type) where
  /-- Offers some bytes to a sink and tells how many of them it has taken, from
  the first one on. -/
  offer (bytes : Bytes) : Writing σ Nat
  flush : Writing σ Unit

namespace Sink

variable {σ : Type} [Sink σ]

/-- Writes the bytes of a block from index `start` on. A sink that takes none of
them fails the writing like one that fails itself. -/
def writeFrom (block : Bytes) (start : Nat) (sink : σ) :
    EStateM.Result IoFault σ Unit :=
  if block.size ≤ start then
    .ok () sink
  else
    match offer (block.extract start) sink with
    | .error fault next => .error fault next
    | .ok count next =>
        if count = 0 then
          .error .noProgress next
        else
          writeFrom block (start + count) next
termination_by block.size - start

def writeAll (block : Bytes) : Writing σ Unit :=
  writeFrom block 0

end Sink

/-! ## Sinks that keep their bytes -/

/-- How a full sink refuses the bytes that it is offered: the write fails, or it
succeeds and takes nothing. -/
inductive FullSink where
  | fails
  | takesNothing
deriving DecidableEq, Repr

/-- A sink with the bytes that it has taken so far. -/
structure ByteSink where
  /-- The number of bytes after which the sink is full. -/
  limit : Option Nat := none
  whenFull : FullSink := .fails
  /-- The most bytes that are taken at a time. -/
  chunk : Option Nat := none
  flushFails : Bool := false
  taken : Bytes := #[]
  flushes : Nat := 0
deriving DecidableEq

namespace ByteSink

/-- Whether the sink takes no more bytes. -/
def isFull (sink : ByteSink) : Bool :=
  sink.limit.any fun limit => limit ≤ sink.taken.size

/-- How many of `offered` bytes the sink takes at once while it is not full. -/
def capacity (sink : ByteSink) (offered : Nat) : Nat :=
  min (min offered ((sink.limit.map (· - sink.taken.size)).getD offered))
    (sink.chunk.getD offered)

def take (sink : ByteSink) (bytes : Bytes) : ByteSink :=
  { sink with taken := sink.taken ++ bytes }

def offer (bytes : Bytes) : Writing ByteSink Nat := fun sink =>
  if sink.isFull then
    match sink.whenFull with
    | .fails => .error .write sink
    | .takesNothing => .ok 0 sink
  else
    let count := sink.capacity bytes.size
    .ok count (sink.take (bytes.extract 0 count))

def flush : Writing ByteSink Unit := fun sink =>
  let flushed := { sink with flushes := sink.flushes + 1 }
  if sink.flushFails then .error .flush flushed else .ok () flushed

instance : Sink ByteSink where
  offer := offer
  flush := flush

end ByteSink

end Bytecode
