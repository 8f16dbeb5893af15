import Bytecode.Except
import Bytecode.Memory.Basic
import Bytecode.BitCursor.Field

/-!
# Bit cursors

A bit cursor hands out the bits of memory in order, most significant bit of each
byte first, in fields of 1 to 32 bits. Between memory and caller it keeps up to
32 bits in two places: the `accumulator`, whose top `valid` bits come next, and
the `pending` remainder of the last unit fetched, whose low `pendingBits` bits
follow them. `offset` is the byte of memory that is fetched next.

The accumulator is filled with four bytes at the start. Later, when a field
needs more bits than are valid, the cursor merges the pending remainder first
and then fetches one byte for a deficit of at most 8 bits, and two bytes for a
larger one. It never fetches a byte that the deficit does not reach into, so
fields that cover memory exactly never read past its end.
-/

namespace Bytecode

/-- A position within the bits of memory, with the bits fetched ahead of it. -/
structure BitCursor where
  memory : Memory
  /-- The byte of memory that is fetched next. -/
  offset : Nat
  /-- The next bits, from the top bit down. -/
  accumulator : BitVec 32
  /-- How many of the top bits of the accumulator are real. -/
  valid : Nat
  /-- The bits that were fetched but did not fit the accumulator. -/
  pending : BitVec 32
  /-- How many of the low bits of `pending` are real. -/
  pendingBits : Nat
deriving DecidableEq

/-- Why a field cannot be extracted. -/
inductive FieldError where
  | invalidWidth (width : Nat)
  | memory (cause : MemoryError)
deriving DecidableEq, Repr

def FieldError.message : FieldError → String
  | invalidWidth width => s!"Invalid field width {width}, expected 1..=32 bits"
  | memory cause => cause.message

namespace BitCursor

/-- A cursor on `memory` that starts at byte `offset`, where four bytes must be
available. -/
def start (memory : Memory) (offset : Nat) : Except MemoryError BitCursor :=
  (memory.readBigEndian .word offset).map fun bits =>
    { memory
      offset := offset + 4
      accumulator := bits
      valid := 32
      pending := 0
      pendingBits := 0 }

/-- How many bits were fetched but not yet returned. -/
def bufferedBits (cursor : BitCursor) : Nat :=
  cursor.valid + cursor.pendingBits

/-- The index in the bit string of memory of the next bit to be returned. -/
def bitPosition (cursor : BitCursor) : Nat :=
  cursor.offset * 8 - cursor.bufferedBits

/-! ## Fetching -/

/-- The unit fetched to cover a deficit: one byte for up to 8 bits, two for
more. -/
def unitFor (deficit : Nat) : WordSize :=
  if deficit ≤ 8 then .byte else .half

/-- Fetches the next unit of memory into the pending remainder. -/
def fetch (cursor : BitCursor) (unit : WordSize) : Except MemoryError BitCursor :=
  (cursor.memory.readBigEndian unit cursor.offset).map fun bits =>
    { cursor with
      offset := cursor.offset + unit.bytes
      pending := bits.setWidth 32
      pendingBits := unit.bits }

/-! ## Merging -/

/-- How many more bits the accumulator can take. -/
def room (cursor : BitCursor) : Nat :=
  32 - cursor.valid

/-- How many pending bits the next merge moves into the accumulator. -/
def mergedBits (cursor : BitCursor) : Nat :=
  min cursor.room cursor.pendingBits

/-- How many pending bits the next merge leaves behind. -/
def restBits (cursor : BitCursor) : Nat :=
  cursor.pendingBits - cursor.mergedBits

/-- A word whose lowest `bits` bits are set and no others. -/
def lowMask (bits : Nat) : BitVec 32 :=
  if bits = 0 then 0 else BitVec.allOnes 32 >>> (32 - bits)

/-- Moves as many pending bits as fit to the end of the valid ones. -/
def merge (cursor : BitCursor) : BitCursor :=
  { cursor with
    accumulator := cursor.accumulator |||
      (cursor.pending >>> cursor.restBits) <<< (cursor.room - cursor.mergedBits)
    valid := cursor.valid + cursor.mergedBits
    pending := cursor.pending &&& lowMask cursor.restBits
    pendingBits := cursor.restBits }

/-- The cursor with at least one bit pending: fetches a unit that suits the
deficit when the remainder is used up. -/
def replenish (cursor : BitCursor) (deficit : Nat) : Except MemoryError BitCursor :=
  if cursor.pendingBits = 0 then cursor.fetch (unitFor deficit) else .ok cursor

/-- One round of filling the accumulator for a field of `width` bits. -/
def advance (cursor : BitCursor) (width : Nat) : Except MemoryError BitCursor :=
  (cursor.replenish (width - cursor.valid)).map merge

/-! ## Small laws -/

@[simp] theorem memory_merge (cursor : BitCursor) :
    cursor.merge.memory = cursor.memory := rfl

@[simp] theorem offset_merge (cursor : BitCursor) :
    cursor.merge.offset = cursor.offset := rfl

/-- Merging moves bits and loses none. -/
@[simp] theorem bufferedBits_merge (cursor : BitCursor) :
    cursor.merge.bufferedBits = cursor.bufferedBits := by
  simp only [bufferedBits, merge, restBits, mergedBits]
  omega

/-- A unit that is fetched lies behind the offset then, and all of it is pending. -/
theorem of_fetch {cursor ready : BitCursor} {unit : WordSize}
    (done : cursor.fetch unit = .ok ready) :
    ready.offset = cursor.offset + unit.bytes ∧ ready.valid = cursor.valid ∧
      ready.pendingBits = unit.bits := by
  unfold fetch at done
  obtain ⟨bits, -, rfl⟩ := map_eq_ok_iff.mp done
  exact ⟨rfl, rfl, rfl⟩

/-- A round with nothing pending fetches the unit for its deficit and merges it. -/
theorem advance_of_pendingBits_eq_zero {cursor : BitCursor}
    (empty : cursor.pendingBits = 0) (width : Nat) :
    cursor.advance width = (cursor.fetch (unitFor (width - cursor.valid))).map merge := by
  rw [advance, replenish, if_pos empty]

/-- Any other round only merges. -/
theorem advance_of_pendingBits_ne_zero {cursor : BitCursor}
    (waiting : cursor.pendingBits ≠ 0) (width : Nat) :
    cursor.advance width = .ok cursor.merge := by
  rw [advance, replenish, if_neg waiting]
  rfl

/-- A round that succeeds while the accumulator has room adds at least one valid
bit, and no more than fit. -/
theorem valid_of_advance {cursor next : BitCursor} {width : Nat}
    (roomy : cursor.valid < 32) (done : cursor.advance width = .ok next) :
    cursor.valid < next.valid ∧ next.valid ≤ 32 := by
  by_cases empty : cursor.pendingBits = 0
  · rw [advance_of_pendingBits_eq_zero empty] at done
    obtain ⟨ready, fetched, rfl⟩ := map_eq_ok_iff.mp done
    obtain ⟨-, sameValid, units⟩ := of_fetch fetched
    have some := (unitFor (width - cursor.valid)).bits_pos
    simp only [merge, mergedBits, room]
    omega
  · rw [advance_of_pendingBits_ne_zero empty, Except.ok.injEq] at done
    subst done
    simp only [merge, mergedBits, room]
    omega

/-- So a successful round brings a field that is still short closer. -/
theorem deficit_lt_of_advance {cursor next : BitCursor} (width : FieldWidth)
    (short : cursor.valid < width.bits) (done : cursor.advance width.bits = .ok next) :
    width.bits - next.valid < width.bits - cursor.valid := by
  have grown := (valid_of_advance (Nat.lt_of_lt_of_le short width.bits_le) done).1
  omega

end BitCursor

end Bytecode
