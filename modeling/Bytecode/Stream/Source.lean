import Bytecode.Bytes
import Bytecode.Stream.Fault

/-!
# Byte sources

A source delivers bytes from a position that can be moved. A call that asks for
bytes may deliver fewer of them, be interrupted so that it has to be made again,
or fail. Reading goes on over short deliveries and interruptions until it has
what it needs, a call fails or nothing more comes. A read that needs no bytes
makes no call.

What the bytes are and what goes wrong is up to the kind of the source
(`Source`). A source of any kind can be observed by recording the calls that are
made to it (`Recorded`).
-/

namespace Bytecode

/-- Reading from a source: the source is left as it stands when the reading
ends, in success or failure. -/
abbrev Reading (σ : Type) := EStateM IoFault σ

/-- What a call that asks for bytes comes to. -/
inductive Delivery where
  /-- Nothing was read, and the call is to be made again. -/
  | interrupted
  | failed (fault : IoFault)
  /-- The next bytes; there are none only where the source ends. -/
  | bytes (piece : Bytes)

/-- A kind of sources. They may do anything at any call, except for two things: no call
delivers more bytes than it was asked for, and no source is interrupted without end, as
reading from such a one would never come to an end. -/
class Source (σ : Type) where
  /-- Moves to the end and tells its position. -/
  seekEnd : Reading σ Nat
  /-- Moves to a position, wherever the source is positioned. -/
  seekTo (target : Nat) : Reading σ Unit
  /-- Asks for some bytes and tells what has come of it. -/
  read (wanted : Nat) (source : σ) : Delivery × σ
  /-- How often a source is interrupted at most before such a call has another
  outcome. -/
  patience (wanted : Nat) (source : σ) : Nat
  patience_lt {wanted : Nat} {source next : σ} :
    read wanted source = (.interrupted, next) → patience wanted next < patience wanted source
  size_le {wanted : Nat} {source next : σ} {piece : Bytes} :
    read wanted source = (.bytes piece, next) → piece.size ≤ wanted

namespace Source

variable {σ : Type} [Source σ]

/-- Reads until `missing` more bytes are there or nothing more comes, after the
bytes in `got`. -/
def gather (missing : Nat) (got : Bytes) (source : σ) : EStateM.Result IoFault σ Bytes :=
  if missing = 0 then
    .ok got source
  else
    match answer : read missing source with
    | (.interrupted, next) =>
        have := patience_lt answer
        gather missing got next
    | (.failed fault, next) => .error fault next
    | (.bytes piece, next) =>
        if piece.size = 0 then
          .ok got next
        else
          gather (missing - piece.size) (got ++ piece) next
termination_by (missing, patience missing source)

/-- Reads up to `limit` bytes, fewer only where the source ends. -/
def readUpTo (limit : Nat) : Reading σ Bytes :=
  gather limit #[]

def readExact (count : Nat) : Reading σ Bytes := do
  let bytes ← readUpTo count
  if bytes.size < count then throw .endOfSource
  return bytes

/-- A call that is made to a source. -/
inductive Call where
  | seekEnd
  | seekTo (target : Nat)
  | read (wanted : Nat)
deriving DecidableEq, Repr

end Source

/-- A source with the calls that were made to it so far. -/
structure Recorded (σ : Type) where
  source : σ
  calls : List Source.Call

namespace Recorded

variable {σ α : Type}

/-- A source with one call more. -/
def record (calls : List Source.Call) (call : Source.Call) (source : σ) : Recorded σ :=
  ⟨source, calls ++ [call]⟩

/-- What a call comes to, with the call recorded. -/
def result (calls : List Source.Call) (call : Source.Call) :
    EStateM.Result IoFault σ α → EStateM.Result IoFault (Recorded σ) α
  | .ok value source => .ok value (record calls call source)
  | .error fault source => .error fault (record calls call source)

instance [Source σ] : Source (Recorded σ) where
  seekEnd := fun recorded =>
    result recorded.calls .seekEnd (Source.seekEnd recorded.source)
  seekTo := fun target recorded =>
    result recorded.calls (.seekTo target) (Source.seekTo target recorded.source)
  read := fun wanted recorded =>
    let answer := Source.read wanted recorded.source
    (answer.1, record recorded.calls (.read wanted) answer.2)
  patience := fun wanted recorded => Source.patience wanted recorded.source
  patience_lt := by
    intro wanted recorded next answer
    obtain ⟨delivery, rfl⟩ := Prod.mk.inj answer
    exact Source.patience_lt (Prod.ext delivery rfl)
  size_le := by
    intro wanted recorded next piece answer
    exact Source.size_le (Prod.ext (Prod.mk.inj answer).1 rfl)

end Recorded

end Bytecode
