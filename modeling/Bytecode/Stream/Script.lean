import Bytecode.Stream.Source

/-!
# Scripted sources

What a source of this kind does is written down call by call, so that any call may
go wrong in any way, whatever went well before it, and the content may be another
one from one call to the next.
-/

namespace Bytecode

/-- What becomes of a call to a source. -/
inductive Turn where
  /-- The call does what it is asked for. -/
  | sound
  | interrupted
  /-- No more than so many bytes are delivered. -/
  | short (count : Nat)
  | failed (fault : IoFault)
  /-- The source has got another content, and the call is sound. -/
  | exchanged (content : Bytes)
deriving DecidableEq, Repr

/-- Some content with the position in it. -/
structure ScriptedSource where
  content : Bytes
  position : Nat
  /-- What becomes of the calls to come. Behind the last of these turns all calls
  are sound. -/
  script : List Turn
deriving DecidableEq

namespace ScriptedSource

/-- What becomes of the next call, and the source behind that turn of its script. -/
def turn (source : ScriptedSource) : Turn × ScriptedSource :=
  match source.script with
  | [] => (.sound, source)
  | .exchanged content :: script => (.sound, { source with content, script })
  | turn :: script => (turn, { source with script })

def seekEnd : Reading ScriptedSource Nat := fun source =>
  match source.turn with
  | (.failed fault, source) => .error fault source
  | (_, source) => .ok source.content.size { source with position := source.content.size }

def seekTo (target : Nat) : Reading ScriptedSource Unit := fun source =>
  match source.turn with
  | (.failed fault, source) => .error fault source
  | (_, source) => .ok () { source with position := target }

/-- Delivers `count` bytes, or what is left of the content. -/
def deliver (source : ScriptedSource) (count : Nat) : Delivery × ScriptedSource :=
  let piece := source.content.extract source.position (source.position + count)
  (.bytes piece, { source with position := source.position + piece.size })

def read (wanted : Nat) (source : ScriptedSource) : Delivery × ScriptedSource :=
  match source.turn with
  | (.interrupted, source) => (.interrupted, source)
  | (.failed fault, source) => (.failed fault, source)
  | (.short count, source) => source.deliver (min count wanted)
  | (_, source) => source.deliver wanted

theorem size_of_deliver {source next : ScriptedSource} {count : Nat} {piece : Bytes}
    (answer : source.deliver count = (.bytes piece, next)) : piece.size ≤ count := by
  obtain rfl := Delivery.bytes.inj (Prod.mk.inj answer).1
  rw [Array.size_extract]
  omega

instance : Source ScriptedSource where
  seekEnd := seekEnd
  seekTo := seekTo
  read := read
  patience := fun _ source => source.script.length
  patience_lt := by
    rintro wanted ⟨content, position, script⟩ next answer
    match script with
    | .interrupted :: rest =>
        obtain rfl := (Prod.mk.inj answer).2
        exact Nat.lt_succ_self _
    | [] | .sound :: _ | .short _ :: _ | .failed _ :: _ | .exchanged _ :: _ =>
        simp [read, turn, deliver] at answer
  size_le := by
    rintro wanted ⟨content, position, script⟩ next piece answer
    match script with
    | .interrupted :: _ | .failed _ :: _ => simp [read, turn] at answer
    | .short count :: _ => exact Nat.le_trans (size_of_deliver answer) (Nat.min_le_right _ _)
    | [] | .sound :: _ | .exchanged _ :: _ => exact size_of_deliver answer

end ScriptedSource

end Bytecode
