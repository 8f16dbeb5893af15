import Bytecode.Proofs.BitCursor.Calls
import Bytecode.Proofs.BitCursor.Laziness

/-!
# What the registers of a cursor hold

`Settled` tells bit by bit what a cursor holds, from its position on. `Consistent` tells the
same of the registers as a whole: how much each of them holds at most, that what they do not
use is clear, and that what they hold, put together, is the piece of memory right before the
offset. It is no weaker: from the registers alone the cursor can be told to be settled
(`Consistent.settled`), so consistency is kept by every call, whether or not the cursor was
ever started (`registers_stay_consistent`).
-/

namespace Bytecode.BitCursor

variable {memory : Memory} {position start : Nat} {cursor : BitCursor}

/-- The bits that a cursor has buffered, the next one first: those at the top of the
accumulator and then the pending ones. -/
def buffered (cursor : BitCursor) : List Bool :=
  toBits cursor.valid (cursor.accumulator >>> (32 - cursor.valid)).toNat ++
    toBits cursor.pendingBits cursor.pending.toNat

/-- The registers of a cursor that was started at byte `start` of memory fit together. -/
structure Consistent (memory : Memory) (start : Nat) (cursor : BitCursor) : Prop where
  memory_eq : cursor.memory = memory
  buffered_le : cursor.valid + cursor.pendingBits ≤ 32
  pendingBits_le : cursor.pendingBits ≤ 7
  unused_clear : ∀ index, index < 32 - cursor.valid →
    cursor.accumulator.getLsbD index = false
  pending_lt : cursor.pending.toNat < 2 ^ cursor.pendingBits
  start_add_le : start + 4 ≤ cursor.offset
  offset_le : cursor.offset ≤ memory.size
  buffered_eq : cursor.buffered =
    memory.bits (8 * cursor.offset - cursor.valid - cursor.pendingBits)
      (cursor.valid + cursor.pendingBits)

/-! ## The buffered bits one by one -/

theorem length_buffered (cursor : BitCursor) :
    cursor.buffered.length = cursor.valid + cursor.pendingBits := by
  rw [buffered, List.length_append, length_toBits, length_toBits]

/-- The bits at the front are those of the accumulator, from its top down. -/
theorem getElem?_buffered_of_lt {index : Nat} (full : cursor.valid ≤ 32)
    (before : index < cursor.valid) :
    cursor.buffered[index]? = some (cursor.accumulator.getMsbD index) := by
  have length := length_toBits cursor.valid (cursor.accumulator >>> (32 - cursor.valid)).toNat
  have inside : index < 32 := by omega
  have place : 32 - cursor.valid + (cursor.valid - 1 - index) = 32 - 1 - index := by omega
  rw [buffered, List.getElem?_append_left (by omega), getElem?_toBits _ before,
    BitVec.testBit_toNat, BitVec.getLsbD_ushiftRight, place, BitVec.getMsbD_eq_getLsbD]
  simp [inside]

/-- The bits behind them are the pending ones, down to the lowest. -/
theorem getElem?_buffered_valid_add {index : Nat} (within : index < cursor.pendingBits) :
    cursor.buffered[cursor.valid + index]? =
      some (cursor.pending.getLsbD (cursor.pendingBits - 1 - index)) := by
  have length := length_toBits cursor.valid (cursor.accumulator >>> (32 - cursor.valid)).toNat
  rw [buffered, List.getElem?_append_right (by omega), length, Nat.add_sub_cancel_left,
    getElem?_toBits _ within, BitVec.testBit_toNat]

theorem getElem?_bits {index width : Nat} (within : index < width) :
    (memory.bits position width)[index]? = some (memory.bit (position + index)) := by
  simp [Memory.bits, within]

/-! ## From the position to the registers -/

/-- What a cursor has buffered is the piece of memory from its position on. -/
theorem StandsAt.buffered_eq (stands : StandsAt memory position cursor) :
    cursor.buffered = memory.bits position (cursor.valid + cursor.pendingBits) := by
  have sum := stands.position_add
  have full := stands.valid_le
  rw [bufferedBits] at sum
  apply List.ext_getElem?
  intro index
  by_cases before : index < cursor.valid
  · rw [getElem?_buffered_of_lt full before, getElem?_bits (by omega),
      stands.accumulator_bit]
    simp [before]
  · by_cases within : index - cursor.valid < cursor.pendingBits
    · -- the pending bits count down to the last one before the offset
      have there : index = cursor.valid + (index - cursor.valid) := by omega
      have last : 8 * cursor.offset - 1 - (cursor.pendingBits - 1 - (index - cursor.valid)) =
          position + index := by omega
      have inside : cursor.pendingBits - 1 - (index - cursor.valid) < cursor.pendingBits := by
        omega
      rw [getElem?_bits (by omega), there, getElem?_buffered_valid_add within,
        stands.pending_bit, ← there, last]
      simp [inside]
    · have past : cursor.valid + cursor.pendingBits ≤ index := by omega
      rw [List.getElem?_eq_none (by rw [length_buffered]; exact past),
        List.getElem?_eq_none (by rw [Memory.length_bits]; exact past)]

theorem Settled.consistent (settled : Settled memory position cursor)
    (behind : start + 4 ≤ cursor.offset) : Consistent memory start cursor where
  memory_eq := settled.memory_eq
  buffered_le := settled.bufferedBits_le
  pendingBits_le := settled.pendingBits_le
  unused_clear := by
    intro index unused
    have inside : index < 32 := by omega
    have behindValid : ¬ 32 - 1 - index < cursor.valid := by omega
    rw [BitVec.getLsbD_eq_getMsbD, settled.accumulator_bit]
    simp [behindValid]
  pending_lt := by
    apply Nat.lt_pow_two_of_testBit
    intro index past
    rw [BitVec.testBit_toNat, settled.pending_bit]
    simp [Nat.not_lt.mpr past]
  start_add_le := behind
  offset_le := settled.offset_le
  buffered_eq := by
    have sum := settled.position_add
    have place : 8 * cursor.offset - cursor.valid - cursor.pendingBits = position := by
      rw [bufferedBits] at sum
      omega
    rw [place]
    exact settled.buffered_eq

/-! ## From the registers to the position -/

theorem isAllocated_of_size_pos (some : 0 < memory.size) : memory.isAllocated = true := by
  rcases memory with ⟨_ | block⟩
  · exact absurd some (Nat.lt_irrefl 0)
  · rfl

/-- No bit before the start of memory is buffered. -/
theorem Consistent.bufferedBits_le_offset (consistent : Consistent memory start cursor) :
    cursor.valid + cursor.pendingBits ≤ 8 * cursor.offset := by
  have few := consistent.buffered_le
  have behind := consistent.start_add_le
  omega

/-- A cursor with consistent registers is settled. -/
theorem Consistent.settled (consistent : Consistent memory start cursor) :
    Settled memory (8 * cursor.offset - cursor.valid - cursor.pendingBits) cursor := by
  have few := consistent.buffered_le
  have reach := consistent.bufferedBits_le_offset
  have size := Nat.le_trans consistent.start_add_le consistent.offset_le
  have allocated := isAllocated_of_size_pos (show 0 < memory.size by omega)
  refine {
    memory_eq := consistent.memory_eq
    allocated
    offset_le := consistent.offset_le
    valid_le := by omega
    position_add := by rw [bufferedBits]; omega
    accumulator_bit := ?_
    pending_bit := ?_
    pendingBits_le := consistent.pendingBits_le
    bufferedBits_le := few }
  · intro index
    by_cases before : index < cursor.valid
    · have same := getElem?_buffered_of_lt (by omega) before
      rw [consistent.buffered_eq, getElem?_bits (by omega), Option.some.injEq] at same
      simp [before, same]
    · rw [BitVec.getMsbD_eq_getLsbD]
      by_cases inside : index < 32
      · simp [before, consistent.unused_clear (32 - 1 - index) (by omega)]
      · simp [before, inside]
  · intro index
    by_cases within : index < cursor.pendingBits
    · -- from the front, the pending bits are counted the other way round
      have mirrored : cursor.pendingBits - 1 - (cursor.pendingBits - 1 - index) = index := by
        omega
      have place : 8 * cursor.offset - cursor.valid - cursor.pendingBits +
          (cursor.valid + (cursor.pendingBits - 1 - index)) = 8 * cursor.offset - 1 - index := by
        omega
      have same := getElem?_buffered_valid_add
        (show cursor.pendingBits - 1 - index < cursor.pendingBits by omega)
      rw [consistent.buffered_eq, getElem?_bits (by omega), mirrored, place,
        Option.some.injEq] at same
      simp [within, same]
    · have room : 2 ^ cursor.pendingBits ≤ 2 ^ index :=
        Nat.pow_le_pow_right (by decide) (Nat.not_lt.mp within)
      have small : cursor.pending.toNat < 2 ^ index :=
        Nat.lt_of_lt_of_le consistent.pending_lt room
      rw [← BitVec.testBit_toNat, Nat.testBit_lt_two_pow small]
      simp [within]

/-! ## Calls -/

/-- A call keeps the registers consistent, whether it is answered or not. -/
theorem Consistent.next (consistent : Consistent memory start cursor) (call : Call) :
    Consistent memory start (cursor.next call) := by
  have settled := consistent.settled
  have forward := settled.offset_le_request call.width
  rw [next_eq]
  apply (settled.request call.width).consistent
  exact Nat.le_trans consistent.start_add_le forward

theorem Consistent.follow (consistent : Consistent memory start cursor) (calls : List Call) :
    Consistent memory start (cursor.follow calls) := by
  induction calls generalizing cursor with
  | nil => exact consistent
  | cons call rest ih => exact ih (consistent.next call)

theorem consistent_of_start (started : BitCursor.start memory start = .ok cursor) :
    Consistent memory start cursor :=
  (settled_of_start started).consistent (Nat.le_of_eq (offset_of_start started).symm)

/-- **The registers of a cursor stay consistent.** Wherever calls lead from a start, with
widths fixed beforehand or chosen at run time, answered or not: at most 32 bits are buffered,
at most 7 of them pending; what the registers do not use is clear; the offset lies within
memory and not before the end of the four bytes at the start; and the valid bits with the
pending ones behind them are the bits of memory right before the offset. Each call keeps
this, from any cursor with consistent registers. -/
theorem registers_stay_consistent (memory : Memory) (start : Nat) :
    (∀ fresh, BitCursor.start memory start = .ok fresh → ∀ calls,
      Consistent memory start (fresh.follow calls)) ∧
    ∀ cursor, Consistent memory start cursor → ∀ call,
      Consistent memory start (cursor.next call) := by
  constructor
  · intro fresh started calls
    exact (consistent_of_start started).follow calls
  · intro cursor consistent call
    exact consistent.next call

/-- Twelve and thirty bits leave two bits valid and four pending, which are the last six of
memory. A call for seven more fails and keeps them. -/
theorem registers_stay_consistent_six_bytes :
    let calls := [Call.fixed ⟨12, by decide, by decide⟩, .chosen 30]
    let cursor := atSixBytes.follow calls
    BitCursor.start atSixBytes.memory 0 = .ok atSixBytes ∧
    (cursor.offset, cursor.valid, cursor.pendingBits) = (6, 2, 4) ∧
    cursor.buffered = atSixBytes.memory.bits 42 6 ∧
    Consistent atSixBytes.memory 0 (cursor.next (.chosen 7)) := by
  intro calls cursor
  have registers : (cursor.offset, cursor.valid, cursor.pendingBits) = (6, 2, 4) := by
    unfold cursor calls
    cbv
  obtain ⟨reached, step⟩ := registers_stay_consistent atSixBytes.memory 0
  have consistent := reached atSixBytes rfl calls
  have buffered := consistent.buffered_eq
  simp only [Prod.mk.injEq] at registers
  obtain ⟨offset, valid, pendingBits⟩ := registers
  rw [offset, valid, pendingBits] at buffered
  exact ⟨rfl, by rw [offset, valid, pendingBits], buffered, step _ consistent _⟩

end Bytecode.BitCursor
