import Bytecode.Proofs.BitCursor.Invariant

/-!
# What one extraction does

An extraction fills the accumulator in rounds and then takes a field off its
top. The bounds that carry it all come from one fact about units: a unit ends
less than a byte past the deficit that it is fetched for
(`unitFor_bits_lt`). So the remainder of a round is at most 7 bits, and a fetch
that fails shows that the bits asked for are not all there.

`Settled.of_take_ok` and `Settled.of_take_error` are all that later modules need
to know of an extraction.
-/

namespace Bytecode.BitCursor

variable {memory : Memory} {position : Nat} {cursor : BitCursor}

/-! ## Rounds -/

/-- A unit ends less than a byte past the deficit that it is fetched for. -/
theorem unitFor_bits_lt {deficit : Nat} (positive : 0 < deficit) :
    (unitFor deficit).bits < deficit + 8 := by
  unfold unitFor
  split
  · show 8 < deficit + 8
    omega
  · show 16 < deficit + 8
    omega

theorem unitFor_bits_le (deficit : Nat) : (unitFor deficit).bits ≤ 16 := by
  unfold unitFor
  split <;> decide

/-- A round that succeeds keeps the position, and what it buffers is within the
bounds of the field being filled. -/
theorem Settled.of_advance_ok {next : BitCursor} {width : Nat}
    (settled : Settled memory position cursor) (short : cursor.valid < width)
    (small : width ≤ 32) (done : cursor.advance width = .ok next) :
    Filling memory position width next := by
  by_cases empty : cursor.pendingBits = 0
  · -- a fresh unit: what does not fit is the part past the deficit
    rw [advance_of_pendingBits_eq_zero empty] at done
    obtain ⟨ready, fetched, rfl⟩ := map_eq_ok_iff.mp done
    have stands := settled.toStandsAt.of_fetch empty fetched
    obtain ⟨-, sameValid, units⟩ := of_fetch fetched
    have overrun := unitFor_bits_lt (Nat.sub_pos_of_lt short)
    have atMost := unitFor_bits_le (width - cursor.valid)
    refine {
      toStandsAt := stands.merge (by omega)
      pendingBits_le := ?_
      bufferedBits_le := ?_
      settled_of_short := ?_ }
    · show ready.pendingBits - min (32 - ready.valid) ready.pendingBits ≤ 7
      omega
    · rw [bufferedBits_merge, bufferedBits]
      omega
    · intro stillShort
      change ready.valid + min (32 - ready.valid) ready.pendingBits < width
        at stillShort
      rw [bufferedBits_merge, bufferedBits]
      omega
  · -- a remainder of an earlier field: all of it fits
    rw [advance_of_pendingBits_ne_zero empty, Except.ok.injEq] at done
    subst done
    exact settled.merge.filling width

/-- A round fails only at a fetch, for which the unit overruns the end of memory and
so the bits asked for are not all there. -/
theorem Settled.of_advance_error {cause : MemoryError} {width : Nat}
    (settled : Settled memory position cursor) (short : cursor.valid < width)
    (failed : cursor.advance width = .error cause) :
    let unit := unitFor (width - cursor.valid)
    cursor.pendingBits = 0 ∧ memory.size < cursor.offset + unit.bytes ∧
      memory.bitLength < position + width ∧
      cause = .outOfRange cursor.offset unit.bytes memory.size := by
  by_cases empty : cursor.pendingBits = 0
  · rw [advance_of_pendingBits_eq_zero empty] at failed
    have unread := map_eq_error_iff.mp (map_eq_error_iff.mp failed)
    rw [settled.memory_eq] at unread
    -- the unit overruns the end, and ends less than a byte past the field
    obtain ⟨past, rfl⟩ :=
      (Memory.readBigEndian_eq_error_iff settled.allocated).mp unread
    have overrun := unitFor_bits_lt (Nat.sub_pos_of_lt short)
    simp only [WordSize.bits] at overrun
    have sum := settled.position_add_valid empty
    refine ⟨empty, past, ?_, rfl⟩
    unfold Memory.bitLength
    omega
  · simp [advance_of_pendingBits_ne_zero empty] at failed

/-! ## Filling the accumulator -/

/-- Filling succeeds with the field valid and the cursor where it was. -/
theorem Filling.of_topUp_ok {filled : BitCursor} {width : FieldWidth}
    (filling : Filling memory position width.bits cursor)
    (done : cursor.topUp width = (.ok (), filled)) :
    Filling memory position width.bits filled ∧ width.bits ≤ filled.valid := by
  -- along the rounds, each of which starts short of the field and so settled
  fun_induction topUp cursor width with
  | case1 cursor short cause failed => simp at done
  | case2 cursor short next round closer ih =>
      exact ih ((filling.settled short).of_advance_ok short width.bits_le round) done
  | case3 cursor enough =>
      simp only [Prod.mk.injEq, true_and] at done
      subst done
      exact ⟨filling, Nat.not_lt.mp enough⟩

/-- Filling fails with the cursor where it was, when the bits asked for are not
all in memory. -/
theorem Filling.of_topUp_error {stopped : BitCursor} {width : FieldWidth}
    {cause : MemoryError} (filling : Filling memory position width.bits cursor)
    (failed : cursor.topUp width = (.error cause, stopped)) :
    Settled memory position stopped ∧ memory.bitLength < position + width.bits ∧
      ∃ offset unit, cause = .outOfRange offset unit memory.size := by
  fun_induction topUp cursor width with
  | case1 cursor short reason round =>
      simp only [Prod.mk.injEq, Except.error.injEq] at failed
      obtain ⟨rfl, rfl⟩ := failed
      have settled := filling.settled short
      obtain ⟨-, -, past, outside⟩ := settled.of_advance_error short round
      exact ⟨settled, past, _, _, outside⟩
  | case2 cursor short next round closer ih =>
      exact ih ((filling.settled short).of_advance_ok short width.bits_le round) failed
  | case3 cursor enough => simp at failed

/-! ## Taking a field -/

/-- The top of the accumulator is the field at the position of the cursor. -/
theorem StandsAt.front_eq {width : FieldWidth} (stands : StandsAt memory position cursor)
    (enough : width.bits ≤ cursor.valid) :
    (cursor.front width).toNat = memory.field position width.bits := by
  apply Nat.eq_of_testBit_eq
  intro index
  have narrow := width.bits_le
  -- both sides count from the lowest bit, the accumulator from its top one
  rw [BitVec.testBit_toNat, front, BitVec.getLsbD_ushiftRight,
    BitVec.getLsbD_eq_getMsbD, stands.accumulator_bit, Memory.testBit_field]
  by_cases within : index < width.bits
  · have inside : 32 - width.bits + index < 32 := by omega
    have ready : 32 - 1 - (32 - width.bits + index) < cursor.valid := by omega
    have place : position + (32 - 1 - (32 - width.bits + index)) =
        position + width.bits - 1 - index := by omega
    simp only [within, inside, ready, place, decide_true, Bool.true_and]
  · have outside : ¬ 32 - width.bits + index < 32 := by omega
    simp [within, outside]

/-- Dropping a valid field moves the position past it. -/
theorem StandsAt.drop {width : FieldWidth} (stands : StandsAt memory position cursor)
    (enough : width.bits ≤ cursor.valid) :
    StandsAt memory (position + width.bits) (cursor.drop width) := by
  have sum := stands.position_add
  refine { stands with
    valid_le := Nat.le_trans (Nat.sub_le _ _) stands.valid_le
    position_add := ?_
    accumulator_bit := ?_ }
  · simp only [bufferedBits, BitCursor.drop] at sum ⊢
    omega
  · intro index
    have behind : index + width.bits < cursor.valid ↔
        index < cursor.valid - width.bits := by omega
    have place : position + (index + width.bits) = position + width.bits + index := by
      omega
    show (cursor.accumulator <<< width.bits).getMsbD index =
      (decide (index < cursor.valid - width.bits) &&
        memory.bit (position + width.bits + index))
    rw [BitVec.getMsbD_shiftLeft, stands.accumulator_bit, place]
    simp only [behind]

/-- An extraction that succeeds moves past the field that it returns, and all
bits of it are in memory. -/
theorem Settled.of_take_ok {next : BitCursor} {width : FieldWidth} {value : BitVec 32}
    (settled : Settled memory position cursor)
    (done : cursor.take width = (.ok value, next)) :
    Settled memory (position + width.bits) next ∧
      position + width.bits ≤ memory.bitLength ∧
      value.toNat = memory.field position width.bits := by
  unfold take at done
  split at done
  · simp at done
  · next filled topped =>
      simp only [Prod.mk.injEq, Except.ok.injEq] at done
      obtain ⟨rfl, rfl⟩ := done
      obtain ⟨filling, enough⟩ := (settled.filling width.bits).of_topUp_ok topped
      have sum := filling.position_add
      have inside := filling.offset_le
      have bound := filling.bufferedBits_le
      refine ⟨{
        toStandsAt := filling.drop enough
        pendingBits_le := filling.pendingBits_le
        bufferedBits_le := ?_ }, ?_, filling.front_eq enough⟩
      · simp only [bufferedBits, BitCursor.drop] at bound ⊢
        omega
      · -- the field is buffered, and no buffered bit lies past the offset
        simp only [bufferedBits, Memory.bitLength] at sum ⊢
        omega

/-- An extraction that fails leaves the position as it is, and some bit asked
for lies past the end of memory. -/
theorem Settled.of_take_error {stopped : BitCursor} {width : FieldWidth}
    {cause : MemoryError} (settled : Settled memory position cursor)
    (failed : cursor.take width = (.error cause, stopped)) :
    Settled memory position stopped ∧ memory.bitLength < position + width.bits ∧
      ∃ offset unit, cause = .outOfRange offset unit memory.size := by
  unfold take at failed
  split at failed
  · next reason halted topped =>
      simp only [Prod.mk.injEq, Except.error.injEq] at failed
      obtain ⟨rfl, rfl⟩ := failed
      exact (settled.filling width.bits).of_topUp_error topped
  · simp at failed

/-! ## Narrow fields -/

/-- Narrowing loses nothing of a value that fits its width. -/
theorem toNat_narrow {width : FieldWidth} {value : BitVec 32}
    (fits : value.toNat < 2 ^ width.bits) :
    (Field.narrow width value).toNat = value.toNat := by
  unfold Field.narrow
  split
  · next small =>
      have bound : 2 ^ width.bits ≤ 2 ^ 8 := Nat.pow_le_pow_right (by decide) small
      simp only [Field.toNat, BitVec.toNat_setWidth]
      exact Nat.mod_eq_of_lt (by omega)
  · split
    · next small =>
        have bound : 2 ^ width.bits ≤ 2 ^ 16 := Nat.pow_le_pow_right (by decide) small
        simp only [Field.toNat, BitVec.toNat_setWidth]
        exact Nat.mod_eq_of_lt (by omega)
    · rfl

end Bytecode.BitCursor
