import Bytecode.BitCursor.Extraction
import Bytecode.Proofs.Memory.BitString

/-!
# What a cursor holds between and during extractions

A cursor splits the bits that it fetched ahead over the accumulator and the
pending remainder. `StandsAt` says that the two together are the piece of the
bit string from the position of the cursor up to the next byte to be fetched;
fetching and merging keep it.

How many bits may be buffered differs: between extractions at most 32, of which
at most 7 are pending (`Settled`), while a field of some width is being filled
up to that width and 32 more (`Filling`). The larger bound is what lets a round
fetch a unit of which the accumulator takes only a part.
-/

namespace Bytecode.BitCursor

variable {memory : Memory} {position : Nat} {cursor : BitCursor}

/-- The cursor stands at bit `position` of `memory`: its valid bits and then its
pending ones are the bits of memory from there up to its offset. -/
structure StandsAt (memory : Memory) (position : Nat) (cursor : BitCursor) : Prop where
  memory_eq : cursor.memory = memory
  allocated : memory.isAllocated = true
  offset_le : cursor.offset ≤ memory.size
  valid_le : cursor.valid ≤ 32
  position_add : position + cursor.bufferedBits = 8 * cursor.offset
  accumulator_bit : ∀ index, cursor.accumulator.getMsbD index =
    (decide (index < cursor.valid) && memory.bit (position + index))
  pending_bit : ∀ index, cursor.pending.getLsbD index =
    (decide (index < cursor.pendingBits) && memory.bit (8 * cursor.offset - 1 - index))

theorem StandsAt.bitPosition_eq (stands : StandsAt memory position cursor) :
    cursor.bitPosition = position := by
  have sum := stands.position_add
  unfold bitPosition
  omega

/-- With nothing pending, the valid bits reach up to the offset. -/
theorem StandsAt.position_add_valid (stands : StandsAt memory position cursor)
    (empty : cursor.pendingBits = 0) : position + cursor.valid = 8 * cursor.offset := by
  rw [← stands.position_add, bufferedBits, empty, Nat.add_zero]

/-- The cursor stands there and buffers no more than it may between two
extractions. -/
structure Settled (memory : Memory) (position : Nat) (cursor : BitCursor) : Prop
    extends StandsAt memory position cursor where
  pendingBits_le : cursor.pendingBits ≤ 7
  bufferedBits_le : cursor.bufferedBits ≤ 32

/-- The cursor stands there and buffers no more than it may while a field of
`width` bits is being filled. -/
structure Filling (memory : Memory) (position width : Nat) (cursor : BitCursor) : Prop
    extends StandsAt memory position cursor where
  pendingBits_le : cursor.pendingBits ≤ 7
  bufferedBits_le : cursor.bufferedBits ≤ width + 32
  settled_of_short : cursor.valid < width → cursor.bufferedBits ≤ 32

theorem Settled.filling (settled : Settled memory position cursor) (width : Nat) :
    Filling memory position width cursor :=
  { settled with
    bufferedBits_le := Nat.le_trans settled.bufferedBits_le (Nat.le_add_left _ _)
    settled_of_short := fun _ => settled.bufferedBits_le }

theorem Filling.settled {width : Nat} (filling : Filling memory position width cursor)
    (short : cursor.valid < width) : Settled memory position cursor :=
  { filling with bufferedBits_le := filling.settled_of_short short }

/-! ## The start -/

/-- A cursor can be started exactly where four bytes are available. -/
theorem start_eq_ok_iff {offset : Nat} :
    (∃ cursor, start memory offset = .ok cursor) ↔
      memory.isAllocated = true ∧ offset + 4 ≤ memory.size := by
  unfold start
  constructor
  · rintro ⟨cursor, started⟩
    obtain ⟨word, read, -⟩ := map_eq_ok_iff.mp started
    obtain ⟨allocated, inside, -⟩ := Memory.readBigEndian_eq_ok_iff.mp read
    exact ⟨allocated, inside⟩
  · rintro ⟨allocated, inside⟩
    rw [Memory.readBigEndian_eq_ok_iff.mpr ⟨allocated, inside, rfl⟩]
    exact ⟨_, rfl⟩

/-- A new cursor stands at the first bit of the byte where it was started. -/
theorem settled_of_start {offset : Nat} (started : start memory offset = .ok cursor) :
    Settled memory (8 * offset) cursor := by
  unfold start at started
  obtain ⟨word, read, rfl⟩ := map_eq_ok_iff.mp started
  obtain ⟨allocated, inside, -⟩ := Memory.readBigEndian_eq_ok_iff.mp read
  refine {
    memory_eq := rfl
    allocated
    offset_le := inside
    valid_le := Nat.le_refl 32
    position_add := by simp only [bufferedBits]; omega
    accumulator_bit := ?_
    pending_bit := by simp
    pendingBits_le := Nat.zero_le 7
    bufferedBits_le := Nat.le_refl 32 }
  intro index
  -- from the top, the bits of the word count up in memory
  have lowBit := Memory.getLsbD_of_readBigEndian read (32 - 1 - index)
  rw [BitVec.getMsbD_eq_getLsbD]
  by_cases within : index < 32
  · have place : 8 * (offset + 4) - 1 - (32 - 1 - index) = 8 * offset + index := by
      omega
    have below : 32 - 1 - index < 32 := by omega
    simp only [WordSize.bits, WordSize.bytes, place, below] at lowBit
    simpa [within] using lowBit
  · simp [within]

/-! ## Fetching and merging -/

/-- Fetching a unit while nothing is pending keeps the position. -/
theorem StandsAt.of_fetch {next : BitCursor} {unit : WordSize}
    (stands : StandsAt memory position cursor) (empty : cursor.pendingBits = 0)
    (done : cursor.fetch unit = .ok next) :
    StandsAt memory position next := by
  unfold fetch at done
  obtain ⟨word, read, rfl⟩ := map_eq_ok_iff.mp done
  rw [stands.memory_eq] at read
  obtain ⟨-, inside, -⟩ := Memory.readBigEndian_eq_ok_iff.mp read
  have small : unit.bits ≤ 32 := by cases unit <;> decide
  have sum := stands.position_add
  refine { stands with
    offset_le := inside
    position_add := ?_
    pending_bit := ?_ }
  · simp only [bufferedBits, empty, WordSize.bits] at sum ⊢
    omega
  · intro index
    rw [BitVec.getLsbD_setWidth, Memory.getLsbD_of_readBigEndian read]
    by_cases within : index < unit.bits
    · have below : index < 32 := by omega
      simp [below]
    · simp [within]

theorem getLsbD_lowMask {bits : Nat} (small : bits ≤ 32) (index : Nat) :
    (lowMask bits).getLsbD index = decide (index < bits) := by
  unfold lowMask
  split
  · next none => simp [none]
  · simp only [BitVec.getLsbD_ushiftRight, BitVec.getLsbD_allOnes, decide_eq_decide]
    omega

/-- The pending bits that fit move up to right behind the valid ones. -/
theorem StandsAt.merged_bit (stands : StandsAt memory position cursor) (index : Nat) :
    ((cursor.pending >>> cursor.restBits) <<<
        (cursor.room - cursor.mergedBits)).getMsbD index =
      (decide (cursor.valid ≤ index) && decide (index < cursor.valid + cursor.mergedBits) &&
        memory.bit (position + index)) := by
  have sum := stands.position_add
  have full := stands.valid_le
  have some_le : cursor.mergedBits ≤ cursor.pendingBits := Nat.min_le_right _ _
  have room_le : cursor.mergedBits ≤ 32 - cursor.valid := Nat.min_le_left _ _
  rw [BitVec.getMsbD_shiftLeft, BitVec.getMsbD_eq_getLsbD, BitVec.getLsbD_ushiftRight,
    stands.pending_bit]
  simp only [bufferedBits, restBits, room] at sum ⊢
  by_cases before : index < cursor.valid + cursor.mergedBits
  · have inside : index + (32 - cursor.valid - cursor.mergedBits) < 32 := by omega
    have reached : cursor.pendingBits - cursor.mergedBits +
        (32 - 1 - (index + (32 - cursor.valid - cursor.mergedBits))) <
          cursor.pendingBits ↔ cursor.valid ≤ index := by omega
    have place : 8 * cursor.offset - 1 - (cursor.pendingBits - cursor.mergedBits +
        (32 - 1 - (index + (32 - cursor.valid - cursor.mergedBits)))) =
          position + index := by omega
    simp [inside, reached, place, before]
  · -- the shift has cleared everything behind what was merged
    have outside : ¬ index + (32 - cursor.valid - cursor.mergedBits) < 32 := by omega
    simp [outside, before]

theorem StandsAt.merge (stands : StandsAt memory position cursor)
    (small : cursor.pendingBits ≤ 32) : StandsAt memory position cursor.merge := by
  refine { stands with
    valid_le := ?_
    position_add := by simpa using stands.position_add
    accumulator_bit := ?_
    pending_bit := ?_ }
  · have full := stands.valid_le
    simp only [BitCursor.merge, mergedBits, room]
    omega
  · intro index
    show (cursor.accumulator ||| (cursor.pending >>> cursor.restBits) <<<
        (cursor.room - cursor.mergedBits)).getMsbD index =
      (decide (index < cursor.valid + cursor.mergedBits) && memory.bit (position + index))
    rw [BitVec.getMsbD_or, stands.accumulator_bit, stands.merged_bit]
    -- the two halves do not meet: merged bits start at `valid`
    by_cases before : index < cursor.valid
    · have within : index < cursor.valid + cursor.mergedBits := by omega
      simp [before, within]
    · have behind : cursor.valid ≤ index := by omega
      simp [before, behind]
  · intro index
    have fewer : cursor.restBits ≤ cursor.pendingBits := Nat.sub_le _ _
    simp only [BitCursor.merge, BitVec.getLsbD_and, stands.pending_bit,
      getLsbD_lowMask (Nat.le_trans fewer small)]
    by_cases left : index < cursor.restBits
    · have pending : index < cursor.pendingBits := by omega
      simp [left, pending]
    · simp [left]

/-- Between two extractions, all pending bits fit. -/
theorem Settled.merge (settled : Settled memory position cursor) :
    Settled memory position cursor.merge where
  toStandsAt := settled.toStandsAt.merge (by have := settled.pendingBits_le; omega)
  pendingBits_le := Nat.le_trans (Nat.sub_le _ _) settled.pendingBits_le
  bufferedBits_le := by
    rw [bufferedBits_merge]
    exact settled.bufferedBits_le

theorem Settled.pendingBits_merge (settled : Settled memory position cursor) :
    cursor.merge.pendingBits = 0 := by
  have bound := settled.bufferedBits_le
  simp only [bufferedBits] at bound
  simp only [BitCursor.merge, restBits, mergedBits, room]
  omega

end Bytecode.BitCursor
