import Bytecode.Proofs.BitCursor.Fetching

/-!
# Requests that memory cannot answer

Of a field, a cursor lacks the bits that it has not buffered. A request is answered
unless these are more than memory has left behind the offset
(`Settled.fails_iff_lacking`). If they are, it fails in one way only:

* it keeps a unit of two bytes if the bits that it lacks reach past one and memory has
  it, and nothing otherwise (`keptBytes`);
* the failure names the unit that comes next, of one byte if that would have covered
  the rest, with the offset at which it was to be fetched
  (`exhausted_request_names_next_unit`).

Neither how the cursor had split its buffered bits nor how many rounds it took shows.
-/

namespace Bytecode.BitCursor

variable {memory : Memory} {position : Nat} {cursor : BitCursor}

theorem bytes_unitFor (deficit : Nat) :
    (unitFor deficit).bytes = if deficit ≤ 8 then 1 else 2 := by
  unfold unitFor
  split <;> rfl

/-- How many bytes a request keeps that fails for a field which lacks `deficit` bits,
where memory has `left` more bytes. -/
def keptBytes (deficit left : Nat) : Nat :=
  if 16 < deficit ∧ 2 ≤ left then 2 else 0

/-- What a cursor tells after a failure, in terms of the bytes that it kept. -/
theorem Settled.standingAfterFailure_eq {width : Nat}
    (settled : Settled memory position cursor) (small : width ≤ 32) :
    let kept := keptBytes (width - cursor.bufferedBits) (memory.size - cursor.offset)
    cursor.standingAfterFailure width =
      { offset := cursor.offset + kept
        bitPosition := cursor.bitPosition
        bufferedBits := cursor.bufferedBits + 8 * kept } := by
  intro kept
  have keeps : cursor.KeepsUnit width ↔
      16 < width - cursor.bufferedBits ∧ 2 ≤ memory.size - cursor.offset := by
    rw [settled.keepsUnit_iff]
    omega
  unfold standingAfterFailure
  by_cases unit : cursor.KeepsUnit width
  · have two : kept = 2 := if_pos (keeps.mp unit)
    rw [if_pos unit, two]
  · have none : kept = 0 := if_neg (mt keeps.mpr unit)
    rw [if_neg unit, none]
    rfl

/-- A request for a field of a valid width fails exactly if memory has fewer bits left
than the field lacks. -/
theorem Settled.fails_iff_lacking {width : Nat} (settled : Settled memory position cursor)
    (positive : 1 ≤ width) (small : width ≤ 32) :
    (∃ cause stopped, cursor.extractBits width = (.error cause, stopped)) ↔
      8 * (memory.size - cursor.offset) < width - cursor.bufferedBits := by
  have sum := settled.position_add
  have inside := settled.offset_le
  have lacking : 8 * (memory.size - cursor.offset) < width - cursor.bufferedBits ↔
      memory.bitLength < position + width := by
    unfold Memory.bitLength
    omega
  rw [lacking]
  constructor
  · rintro ⟨cause, stopped, failed⟩
    by_contra available
    obtain ⟨value, next, returned⟩ :=
      settled.returns_iff.mpr ⟨positive, small, Nat.not_lt.mp available⟩
    simp [failed] at returned
  · intro past
    obtain ⟨offset, unit, stopped, failed⟩ :=
      settled.exhausts_iff.mpr ⟨positive, small, past⟩
    exact ⟨_, stopped, failed⟩

/-- An extraction that fails has kept what it could, and names the unit behind that. -/
theorem Settled.take_error_names_next_unit {stopped : BitCursor} {width : FieldWidth}
    {cause : MemoryError} (settled : Settled memory position cursor)
    (failed : cursor.take width = (.error cause, stopped)) :
    let deficit := width.bits - cursor.bufferedBits
    let kept := keptBytes deficit (memory.size - cursor.offset)
    cause = .outOfRange (cursor.offset + kept)
        (if deficit - 8 * kept ≤ 8 then 1 else 2) memory.size ∧
      stopped.standing =
        { offset := cursor.offset + kept
          bitPosition := cursor.bitPosition
          bufferedBits := cursor.bufferedBits + 8 * kept } := by
  intro deficit kept
  have after := settled.standing_of_take_error failed
  rw [settled.standingAfterFailure_eq width.bits_le] at after
  refine ⟨?_, after⟩
  obtain ⟨-, -, outside⟩ := settled.of_take_error_exact failed
  have reached : stopped.offset = cursor.offset + kept := congrArg Standing.offset after
  -- what is left of the deficit is what lies between the offset and the end of the field
  have sum := settled.position_add
  have rest : position + width.bits - 8 * (cursor.offset + kept) = deficit - 8 * kept := by
    omega
  rw [outside, reached, rest, bytes_unitFor]

/-- **A failure names the unit that memory does not have.** A request for a field of a
valid width fails exactly if the field lacks more bits than memory has left. It keeps a
whole unit of two bytes if the field reaches past one and memory has it, and nothing
otherwise, so the offset stays within memory; the bit position stays in any case. The
failure names the unit behind the bytes that were kept: one byte if that covers what the
field still lacks, and two if not. -/
theorem exhausted_request_names_next_unit {width : Nat}
    (reachable : Reachable memory cursor) (positive : 1 ≤ width) (small : width ≤ 32) :
    let deficit := width - cursor.bufferedBits
    let left := memory.size - cursor.offset
    let kept := if 16 < deficit ∧ 2 ≤ left then 2 else 0
    cursor.offset ≤ memory.size ∧
    ((∃ cause stopped, cursor.extractBits width = (.error cause, stopped)) ↔
      8 * left < deficit) ∧
    (8 * left < deficit →
      ∃ stopped,
        cursor.extractBits width =
          (.error (.memory (.outOfRange (cursor.offset + kept)
            (if deficit - 8 * kept ≤ 8 then 1 else 2) memory.size)), stopped) ∧
        stopped.standing =
          { offset := cursor.offset + kept
            bitPosition := cursor.bitPosition
            bufferedBits := cursor.bufferedBits + 8 * kept } ∧
        stopped.offset ≤ memory.size) := by
  intro deficit left kept
  have settled := reachable.settled
  have fails := settled.fails_iff_lacking positive small
  refine ⟨settled.offset_le, fails, ?_⟩
  intro lacking
  obtain ⟨cause, stopped, failed⟩ := fails.mpr lacking
  rcases of_extractBits_error failed with ⟨invalid, -⟩ | ⟨field, reason, rfl, untaken⟩
  · omega
  · obtain ⟨named, after⟩ := settled.take_error_names_next_unit untaken
    obtain ⟨there, -, -⟩ := settled.of_take_error untaken
    refine ⟨stopped, ?_, after, there.offset_le⟩
    rw [extractBits_bits, untaken, named]
    rfl

/-- Of 24 bits that a field lacks, memory has 16. They are kept, and the failure names
the byte behind them. -/
theorem exhausted_request_names_next_unit_at_six_bytes :
    ∃ stopped,
      (atSixBytes.after [32]).extractBits 24 =
        (.error (.memory (.outOfRange 6 1 6)), stopped) ∧
      stopped.standing = { offset := 6, bitPosition := 32, bufferedBits := 16 } ∧
      stopped.offset ≤ 6 := by
  have before : (atSixBytes.after [32]).standing =
      { offset := 4, bitPosition := 32, bufferedBits := 0 } := by cbv
  rw [standing, Standing.mk.injEq] at before
  obtain ⟨offset, bitPosition, buffered⟩ := before
  have size : atSixBytes.memory.size = 6 := rfl
  obtain ⟨-, -, failure⟩ := exhausted_request_names_next_unit
    (reachable_atSixBytes [32]) (show 1 ≤ 24 by decide) (by decide)
  rw [offset, bitPosition, buffered, size] at failure
  exact failure (by decide)

end Bytecode.BitCursor
