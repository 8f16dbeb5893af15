import Bytecode.Proofs.BitCursor.Reachable

/-!
# How far an extraction fetches

A round of filling the accumulator fetches one unit when nothing is pending and
nothing at all otherwise (`Settled.offset_of_advance`). Two bounds follow from it:

* an extraction that succeeds fetches no byte that its field does not reach into,
  so the offset afterwards is the greater of the one before and the end of the
  field, rounded up to a byte (`Settled.offset_of_take_ok`);
* an extraction that fails has fetched either nothing or one unit of two bytes,
  and stands right before the unit that overran the end of memory
  (`Settled.of_take_error_exact`).

The two bytes fetched by a failed extraction stay buffered. So it always leaves
the bit position as it was, but not always the offset
(`failed_extraction_unchanged_iff`).
-/

namespace Bytecode.BitCursor

variable {memory : Memory} {position : Nat} {cursor : BitCursor}

/-! ## One round -/

/-- A round fetches nothing, or, with nothing pending, the unit for its deficit. -/
theorem Settled.offset_of_advance {next : BitCursor} {width : Nat}
    (settled : Settled memory position cursor) (done : cursor.advance width = .ok next) :
    next.offset = cursor.offset ∨
      position + cursor.valid = 8 * cursor.offset ∧
        next.offset = cursor.offset + (unitFor (width - cursor.valid)).bytes := by
  by_cases empty : cursor.pendingBits = 0
  · rw [advance_of_pendingBits_eq_zero empty] at done
    obtain ⟨ready, fetched, rfl⟩ := map_eq_ok_iff.mp done
    exact .inr ⟨settled.position_add_valid empty, (of_fetch fetched).1⟩
  · rw [advance_of_pendingBits_ne_zero empty, Except.ok.injEq] at done
    subst done
    exact .inl rfl

/-- A round never goes back, and fetches no byte that the field does not reach
into. -/
theorem Settled.offset_of_advance_le {next : BitCursor} {width : Nat}
    (settled : Settled memory position cursor) (short : cursor.valid < width)
    (done : cursor.advance width = .ok next) :
    cursor.offset ≤ next.offset ∧
      (next.offset = cursor.offset ∨ 8 * next.offset < position + width + 8) := by
  have overrun := unitFor_bits_lt (Nat.sub_pos_of_lt short)
  rcases settled.offset_of_advance done with same | ⟨sum, fetched⟩
  · exact ⟨Nat.le_of_eq same.symm, .inl same⟩
  · simp only [WordSize.bits] at overrun
    exact ⟨by omega, .inr (by omega)⟩

/-- A merge that leaves room leaves nothing pending. -/
theorem of_merge_roomy (roomy : cursor.merge.valid < 32) :
    cursor.merge.pendingBits = 0 ∧ cursor.merge.valid = cursor.valid + cursor.pendingBits := by
  simp only [merge, restBits, mergedBits, room] at roomy ⊢
  omega

/-- After a round that leaves the field short nothing is pending. If it fetched a unit,
that had two bytes, and all of its bits are valid. -/
theorem of_advance_short {next : BitCursor} {width : Nat} (small : width ≤ 32)
    (stillShort : next.valid < width) (done : cursor.advance width = .ok next) :
    next.pendingBits = 0 ∧
      (cursor.pendingBits ≠ 0 ∧ next.offset = cursor.offset ∨
        cursor.pendingBits = 0 ∧ next.offset = cursor.offset + 2 ∧
          next.valid = cursor.valid + 16) := by
  by_cases empty : cursor.pendingBits = 0
  · rw [advance_of_pendingBits_eq_zero empty] at done
    obtain ⟨ready, fetched, rfl⟩ := map_eq_ok_iff.mp done
    obtain ⟨moved, sameValid, units⟩ := of_fetch fetched
    obtain ⟨spent, grown⟩ := of_merge_roomy (Nat.lt_of_lt_of_le stillShort small)
    -- one byte would have covered a deficit of 8 bits
    have half : unitFor (width - cursor.valid) = .half := by
      apply if_neg
      intro near
      rw [unitFor, if_pos near, show WordSize.byte.bits = 8 from rfl] at units
      omega
    rw [half, show WordSize.half.bits = 16 from rfl] at units
    rw [half, show WordSize.half.bytes = 2 from rfl] at moved
    exact ⟨spent, .inr ⟨empty, moved, by omega⟩⟩
  · rw [advance_of_pendingBits_ne_zero empty, Except.ok.injEq] at done
    subst done
    obtain ⟨spent, -⟩ := of_merge_roomy (Nat.lt_of_lt_of_le stillShort small)
    exact ⟨spent, .inl ⟨empty, rfl⟩⟩

theorem Settled.offset_of_advance_short {next : BitCursor} {width : Nat}
    (settled : Settled memory position cursor) (small : width ≤ 32)
    (stillShort : next.valid < width) (done : cursor.advance width = .ok next) :
    next.offset = cursor.offset ∨
      next.offset = cursor.offset + 2 ∧ 8 * cursor.offset + 16 < position + width := by
  rcases (of_advance_short small stillShort done).2 with ⟨-, same⟩ | ⟨empty, moved, grown⟩
  · exact .inl same
  · have sum := settled.position_add_valid empty
    exact .inr ⟨moved, by omega⟩

/-! ## Filling the accumulator -/

theorem Filling.offset_of_topUp_ok {filled : BitCursor} {width : FieldWidth}
    (filling : Filling memory position width.bits cursor)
    (done : cursor.topUp width = (.ok (), filled)) :
    cursor.offset ≤ filled.offset ∧
      (filled.offset = cursor.offset ∨ 8 * filled.offset < position + width.bits + 8) := by
  fun_induction topUp cursor width with
  | case1 cursor short cause failed => simp at done
  | case2 cursor short next round closer ih =>
      have settled := filling.settled short
      have step := settled.offset_of_advance_le short round
      have tail := ih (settled.of_advance_ok short width.bits_le round) done
      omega
  | case3 cursor enough =>
      simp only [Prod.mk.injEq, true_and] at done
      subst done
      exact ⟨Nat.le_refl _, .inl rfl⟩

theorem topUp_of_le_valid {width : FieldWidth} (enough : width.bits ≤ cursor.valid) :
    cursor.topUp width = (.ok (), cursor) := by
  rw [topUp, dif_neg (Nat.not_lt.mpr enough)]

/-- Filling that fails starts with the field short. -/
theorem short_of_topUp_error {stopped : BitCursor} {width : FieldWidth}
    {cause : MemoryError} (failed : cursor.topUp width = (.error cause, stopped)) :
    cursor.valid < width.bits := by
  apply Decidable.byContradiction
  intro enough
  simp [topUp_of_le_valid (Nat.not_lt.mp enough)] at failed

/-- Filling fails at the first unit or at the second one, which comes behind a unit
of two bytes. -/
theorem Filling.of_topUp_error_exact {stopped : BitCursor} {width : FieldWidth}
    {cause : MemoryError} (filling : Filling memory position width.bits cursor)
    (failed : cursor.topUp width = (.error cause, stopped)) :
    let unit := unitFor (position + width.bits - 8 * stopped.offset)
    (stopped.offset = cursor.offset ∨ stopped.offset = cursor.offset + 2 ∧
      8 * cursor.offset + 16 < position + width.bits) ∧
      memory.size < stopped.offset + unit.bytes ∧
      cause = .outOfRange stopped.offset unit.bytes memory.size := by
  fun_induction topUp cursor width with
  | case1 cursor short reason round =>
      simp only [Prod.mk.injEq, Except.error.injEq] at failed
      obtain ⟨rfl, rfl⟩ := failed
      have settled := filling.settled short
      obtain ⟨empty, past, -, outside⟩ := settled.of_advance_error short round
      have sum := settled.position_add_valid empty
      have deficit : width.bits - cursor.valid =
          position + width.bits - 8 * cursor.offset := by omega
      rw [← deficit]
      exact ⟨.inl rfl, past, outside⟩
  | case2 cursor short next round closer ih =>
      have settled := filling.settled short
      have sum := settled.position_add
      have small := width.bits_le
      have stillShort := short_of_topUp_error failed
      have step := settled.offset_of_advance_short small stillShort round
      obtain ⟨reached, overrun⟩ :=
        ih (settled.of_advance_ok short small round) failed
      -- a second unit of two bytes would end past the widest field
      exact ⟨by omega, overrun⟩
  | case3 cursor enough => simp at failed

/-! ## Taking a field -/

/-- **An extraction fetches as little as it can.** Afterwards the offset is the end
of the field, rounded up to a byte, unless it was past that before. -/
theorem Settled.offset_of_take_ok {next : BitCursor} {width : FieldWidth}
    {value : BitVec 32} (settled : Settled memory position cursor)
    (done : cursor.take width = (.ok value, next)) :
    next.offset = max cursor.offset ((position + width.bits + 7) / 8) := by
  -- the field was buffered, so the offset is not before its end
  have reached := (settled.of_take_ok done).1.position_add
  unfold take at done
  split at done
  · simp at done
  · next filled topped =>
      simp only [Prod.mk.injEq, Except.ok.injEq] at done
      obtain ⟨rfl, rfl⟩ := done
      have fetched := (settled.filling width.bits).offset_of_topUp_ok topped
      have same : (filled.drop width).offset = filled.offset := rfl
      omega

/-- An extraction fails at its first unit or at its second one, which comes behind
a unit of two bytes. -/
theorem Settled.of_take_error_exact {stopped : BitCursor} {width : FieldWidth}
    {cause : MemoryError} (settled : Settled memory position cursor)
    (failed : cursor.take width = (.error cause, stopped)) :
    let unit := unitFor (position + width.bits - 8 * stopped.offset)
    (stopped.offset = cursor.offset ∨ stopped.offset = cursor.offset + 2 ∧
      8 * cursor.offset + 16 < position + width.bits) ∧
      memory.size < stopped.offset + unit.bytes ∧
      cause = .outOfRange stopped.offset unit.bytes memory.size := by
  unfold take at failed
  split at failed
  · next reason halted topped =>
      simp only [Prod.mk.injEq, Except.error.injEq] at failed
      obtain ⟨rfl, rfl⟩ := failed
      exact (settled.filling width.bits).of_topUp_error_exact topped
  · simp at failed

/-! ## Successful extractions -/

/-- A request for a field of this width is answered, be the width fixed beforehand or
chosen at run time, and leaves the cursor `next`. -/
def Succeeds (cursor : BitCursor) (width : Nat) (next : BitCursor) : Prop :=
  (∃ value, cursor.extractBits width = (.ok value, next)) ∨
    ∃ (field : FieldWidth) (value : Field),
      field.bits = width ∧ cursor.extract field = (.ok value, next)

theorem Succeeds.exists_take {width : Nat} {next : BitCursor}
    (done : cursor.Succeeds width next) :
    ∃ (field : FieldWidth) (value : BitVec 32),
      field.bits = width ∧ cursor.take field = (.ok value, next) := by
  rcases done with ⟨value, done⟩ | ⟨field, narrow, same, done⟩
  · obtain ⟨field, same, taken⟩ := exists_take_of_extractBits_ok done
    exact ⟨field, value, same, taken⟩
  · obtain ⟨value, taken⟩ := exists_take_of_extract_ok done
    exact ⟨field, value, same, taken⟩

/-- A request that is answered moves the position past the field, and the offset just
far enough to have fetched it. -/
theorem Settled.of_succeeds {width : Nat} {next : BitCursor}
    (settled : Settled memory position cursor) (done : cursor.Succeeds width next) :
    Settled memory (position + width) next ∧
      next.offset = max cursor.offset ((position + width + 7) / 8) := by
  obtain ⟨field, value, rfl, taken⟩ := done.exists_take
  exact ⟨(settled.of_take_ok taken).1, settled.offset_of_take_ok taken⟩

/-! ## Failed extractions -/

/-- A field of this width reaches past a whole unit of two bytes, and memory has
that unit. -/
def KeepsUnit (cursor : BitCursor) (width : Nat) : Prop :=
  width ≤ 32 ∧ cursor.bufferedBits + 16 < width ∧ cursor.offset + 2 ≤ cursor.memory.size

instance (cursor : BitCursor) (width : Nat) : Decidable (cursor.KeepsUnit width) :=
  inferInstanceAs (Decidable (_ ∧ _))

/-- What a cursor tells about itself after a request for a field of this width has
failed. -/
def standingAfterFailure (cursor : BitCursor) (width : Nat) : Standing :=
  if cursor.KeepsUnit width then
    { offset := cursor.offset + 2
      bitPosition := cursor.bitPosition
      bufferedBits := cursor.bufferedBits + 16 }
  else
    cursor.standing

theorem standingAfterFailure_eq_iff (cursor : BitCursor) (width : Nat) :
    cursor.standingAfterFailure width = cursor.standing ↔ ¬ cursor.KeepsUnit width := by
  unfold standingAfterFailure
  split
  · next keeps => simp [standing, keeps]
  · next drops => simp [drops]

theorem Settled.keepsUnit_iff {width : Nat} (settled : Settled memory position cursor) :
    cursor.KeepsUnit width ↔
      width ≤ 32 ∧ cursor.bufferedBits + 16 < width ∧ cursor.offset + 2 ≤ memory.size := by
  rw [KeepsUnit, settled.memory_eq]

theorem Settled.standing_of_take_error {stopped : BitCursor} {width : FieldWidth}
    {cause : MemoryError} (settled : Settled memory position cursor)
    (failed : cursor.take width = (.error cause, stopped)) :
    stopped.standing = cursor.standingAfterFailure width.bits := by
  obtain ⟨after, -, -⟩ := settled.of_take_error failed
  obtain ⟨reached, overrun, -⟩ := settled.of_take_error_exact failed
  have before := settled.position_add
  have behind := after.position_add
  have inside := after.offset_le
  have condition := @settled.keepsUnit_iff _ _ _ width.bits
  unfold standingAfterFailure standing
  rw [after.bitPosition_eq, settled.bitPosition_eq]
  by_cases keeps : cursor.KeepsUnit width.bits
  · have moved : stopped.offset = cursor.offset + 2 := by
      obtain ⟨small, wide, fits⟩ := condition.mp keeps
      rcases reached with same | ⟨moved, -⟩
      · -- the first unit has two bytes, and memory has both
        have half : unitFor (position + width.bits - 8 * stopped.offset) = .half :=
          if_neg (by omega)
        rw [half, show WordSize.half.bytes = 2 from rfl] at overrun
        omega
      · exact moved
    rw [if_pos keeps, Standing.mk.injEq]
    exact ⟨moved, rfl, by omega⟩
  · have same : stopped.offset = cursor.offset := by
      rcases reached with same | ⟨moved, wide⟩
      · exact same
      · exact absurd (condition.mpr ⟨width.bits_le, by omega, by omega⟩) keeps
    rw [if_neg keeps, Standing.mk.injEq]
    exact ⟨same, rfl, by omega⟩

/-- A request for a field of this width fails, be the width fixed beforehand or
chosen at run time, and leaves the cursor `stopped`. -/
def Fails (cursor : BitCursor) (width : Nat) (stopped : BitCursor) : Prop :=
  (∃ cause, cursor.extractBits width = (.error cause, stopped)) ∨
    ∃ (field : FieldWidth) (cause : MemoryError),
      field.bits = width ∧ cursor.extract field = (.error cause, stopped)

theorem Settled.standing_of_fails {stopped : BitCursor} {width : Nat}
    (settled : Settled memory position cursor) (failed : cursor.Fails width stopped) :
    stopped.standing = cursor.standingAfterFailure width := by
  rcases failed with ⟨cause, failed⟩ | ⟨field, cause, rfl, failed⟩
  · rcases of_extractBits_error failed with ⟨invalid, rfl⟩ | ⟨field, reason, rfl, untaken⟩
    · refine ((standingAfterFailure_eq_iff stopped width).mpr ?_).symm
      unfold KeepsUnit
      omega
    · exact settled.standing_of_take_error untaken
  · exact settled.standing_of_take_error (take_eq_error_of_extract failed)

/-- **A failed extraction may keep two bytes.** It leaves the cursor telling the same
as before exactly if the field does not reach past a whole unit of two bytes that
memory has. If it does, the unit stays buffered; the bit position stays in any
case. -/
theorem failed_extraction_unchanged_iff {stopped : BitCursor} {width : Nat}
    (reachable : Reachable memory cursor) (failed : cursor.Fails width stopped) :
    (stopped.standing = cursor.standing ↔
      ¬ (width ≤ 32 ∧ cursor.bufferedBits + 16 < width ∧
        cursor.offset + 2 ≤ memory.size)) ∧
    stopped.bitPosition = cursor.bitPosition ∧
    (stopped.standing ≠ cursor.standing →
      stopped.offset = cursor.offset + 2 ∧
        stopped.bufferedBits = cursor.bufferedBits + 16) := by
  have settled := reachable.settled
  have left := settled.standing_of_fails failed
  have unchanged := standingAfterFailure_eq_iff cursor width
  rw [← left] at unchanged
  unfold standingAfterFailure at left
  refine ⟨by rw [unchanged, settled.keepsUnit_iff], ?_, ?_⟩
  · have same := congrArg Standing.bitPosition left
    split at same <;> exact same
  · intro changed
    have kept : cursor.KeepsUnit width := Decidable.not_not.mp (mt unchanged.mpr changed)
    rw [if_pos kept, standing, Standing.mk.injEq] at left
    exact ⟨left.1, left.2.2⟩

theorem reachable_atSixBytes (widths : List Nat) :
    Reachable atSixBytes.memory (atSixBytes.after widths) :=
  have started : BitCursor.start atSixBytes.memory 0 = .ok atSixBytes := rfl
  (Reachable.start started).after widths

/-- After the failure of a request for 24 bits, of which memory has 16, these are
buffered. A request for 17 bits then fails too and changes nothing more. -/
theorem failed_extraction_unchanged_the_second_time :
    ((atSixBytes.after [32, 24]).extract ⟨17, by decide, by decide⟩).1 =
      .error (.outOfRange 6 1 6) ∧
    ((atSixBytes.after [32, 24]).extract ⟨17, by decide, by decide⟩).2.standing =
      { offset := 6, bitPosition := 32, bufferedBits := 16 } := by
  have answer : ((atSixBytes.after [32, 24]).extract ⟨17, by decide, by decide⟩).1 =
      .error (.outOfRange 6 1 6) := by cbv
  have before : (atSixBytes.after [32, 24]).standing =
      { offset := 6, bitPosition := 32, bufferedBits := 16 } := by cbv
  obtain ⟨unchanged, -, -⟩ := failed_extraction_unchanged_iff
    (reachable_atSixBytes [32, 24]) (.inr ⟨_, _, rfl, Prod.ext answer rfl⟩)
  have buffered : (atSixBytes.after [32, 24]).bufferedBits = 16 :=
    congrArg Standing.bufferedBits before
  refine ⟨answer, (unchanged.mpr ?_).trans before⟩
  rw [buffered]
  decide

/-- So not every failed extraction leaves the cursor as it was: the first request for
24 bits has moved the offset by two bytes. -/
theorem failed_extraction_changes_offset_at_six_bytes :
    Reachable atSixBytes.memory (atSixBytes.after [32]) ∧
    ((atSixBytes.after [32]).extractBits 24).1 =
      .error (.memory (.outOfRange 6 1 6)) ∧
    (atSixBytes.after [32]).standing =
      { offset := 4, bitPosition := 32, bufferedBits := 0 } ∧
    ((atSixBytes.after [32]).extractBits 24).2.standing =
      { offset := 6, bitPosition := 32, bufferedBits := 16 } :=
  ⟨reachable_atSixBytes [32], by cbv, by cbv, by cbv⟩

end Bytecode.BitCursor
