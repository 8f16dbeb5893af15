import Bytecode.Stream.Source

/-!
# Sources on a medium

A source of this kind delivers the content of a medium, and the medium may
misbehave in ways that a reader has to cope with: it may hand out fewer bytes at a
time than were asked for, interrupt a read that then has to be repeated, refuse to
be positioned, fail from some byte on, or state a length that is not that of its
content.
-/

namespace Bytecode

/-- What a source reads from. -/
structure Medium where
  content : Bytes
  /-- The position of the end, where it is not the length of the content. -/
  statedLength : Option Nat := none
  /-- The most bytes that are delivered at a time. -/
  chunk : Option Nat := none
  /-- The position from which on reading fails. -/
  faultAt : Option Nat := none
  /-- The positions at which a read is interrupted, once for each entry. -/
  interruptions : List Nat := []
  seekEndFails : Bool := false
  /-- The positions to which positioning fails. -/
  seekFaults : List Nat := []
deriving DecidableEq

namespace Medium

def reliable (content : Bytes) : Medium :=
  { content }

/-- The position of the end. -/
def length (medium : Medium) : Nat :=
  medium.statedLength.getD medium.content.size

def isFaulty (medium : Medium) (position : Nat) : Bool :=
  medium.faultAt.any fun fault => fault ≤ position

/-- The positions past which one delivery from `position` does not reach. -/
def barriers (medium : Medium) (position : Nat) : List Nat :=
  medium.chunk.toList.map (position + ·) ++ medium.faultAt.toList ++
    medium.interruptions.filter fun interruption => position < interruption

/-- The bytes that one call delivers from `position` when `wanted` are asked
for. -/
def delivery (medium : Medium) (position wanted : Nat) : Bytes :=
  medium.content.extract position
    ((medium.barriers position).foldl min (position + wanted))

theorem size_delivery_le (medium : Medium) (position wanted : Nat) :
    (medium.delivery position wanted).size ≤ wanted := by
  have bound : ∀ (barriers : List Nat) (stop : Nat), barriers.foldl min stop ≤ stop := by
    intro barriers
    induction barriers with
    | nil => simp
    | cons barrier rest ih =>
        intro stop
        exact Nat.le_trans (ih _) (Nat.min_le_left _ _)
  have := bound (medium.barriers position) (position + wanted)
  simp only [delivery, Array.size_extract]
  omega

end Medium

/-- A medium with the position at which the next read starts. -/
structure ByteSource where
  medium : Medium
  position : Nat
deriving DecidableEq

namespace ByteSource

/-- A source that delivers the bytes of a block and never misbehaves. -/
def ofBytes (content : Bytes) : ByteSource :=
  ⟨.reliable content, 0⟩

def seekEnd : Reading ByteSource Nat := fun source =>
  if source.medium.seekEndFails then
    .error .seekEnd source
  else
    .ok source.medium.length { source with position := source.medium.length }

/-- Moves to a position, which need not lie within the content. -/
def seekTo (target : Nat) : Reading ByteSource Unit := fun source =>
  if target ∈ source.medium.seekFaults then
    .error .seekStart source
  else
    .ok () { source with position := target }

def isInterrupted (source : ByteSource) : Bool :=
  source.medium.interruptions.contains source.position

/-- The source after an interruption at its position. -/
def resume (source : ByteSource) : ByteSource :=
  { source with
    medium.interruptions := source.medium.interruptions.erase source.position }

def skip (source : ByteSource) (count : Nat) : ByteSource :=
  { source with position := source.position + count }

def read (wanted : Nat) (source : ByteSource) : Delivery × ByteSource :=
  if source.isInterrupted then
    (.interrupted, source.resume)
  else if source.medium.isFaulty source.position then
    (.failed .read, source)
  else
    let piece := source.medium.delivery source.position wanted
    (.bytes piece, source.skip piece.size)

theorem length_interruptions_resume {source : ByteSource}
    (interrupted : source.isInterrupted = true) :
    source.resume.medium.interruptions.length <
      source.medium.interruptions.length := by
  have member : source.position ∈ source.medium.interruptions := by
    simpa [isInterrupted] using interrupted
  have positive := List.length_pos_of_mem member
  simp only [resume, List.length_erase_of_mem member]
  omega

instance : Source ByteSource where
  seekEnd := seekEnd
  seekTo := seekTo
  read := read
  patience := fun _ source => source.medium.interruptions.length
  patience_lt := by
    intro wanted source next answer
    unfold read at answer
    split at answer
    · next interrupted =>
        obtain rfl := (Prod.mk.inj answer).2
        exact length_interruptions_resume interrupted
    · split at answer <;> simp at answer
  size_le := by
    intro wanted source next piece answer
    unfold read at answer
    split at answer
    · simp at answer
    · split at answer
      · simp at answer
      · obtain ⟨delivered, -⟩ := Prod.mk.inj answer
        obtain rfl := Delivery.bytes.inj delivered
        exact source.medium.size_delivery_le _ _

end ByteSource

end Bytecode
