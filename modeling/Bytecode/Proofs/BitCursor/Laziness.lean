import Bytecode.Proofs.BitCursor.Equivalence

/-!
# Fetching late

A cursor fetches a byte when a field reaches into it and not before. What one
extraction does to the offset (`Settled.of_succeeds`) settles what runs do:

* **no way back** (`Settled.offset_le_after`): no request moves the offset back, whether
  it is answered or not;
* **late fetching** (`extraction_fetches_late`): after successful extractions alone, the
  offset is where the field taken last ends, rounded up to a byte, or the end of the four
  bytes that the cursor started with if that lies behind it;
* **exact cover** (`settled_of_exact_cover`): so fields that cover memory exactly are all
  answered, and leave nothing buffered.
-/

namespace Bytecode.BitCursor

variable {memory : Memory} {position : Nat} {cursor : BitCursor}

/-! ## One request -/

theorem Settled.offset_le_of_succeeds {width : Nat} {next : BitCursor}
    (settled : Settled memory position cursor) (done : cursor.Succeeds width next) :
    cursor.offset ≤ next.offset := by
  have fetched := (settled.of_succeeds done).2
  omega

theorem Settled.offset_le_of_fails {width : Nat} {stopped : BitCursor}
    (settled : Settled memory position cursor) (failed : cursor.Fails width stopped) :
    cursor.offset ≤ stopped.offset := by
  have left : stopped.offset = (cursor.standingAfterFailure width).offset :=
    congrArg Standing.offset (settled.standing_of_fails failed)
  rw [left, standingAfterFailure]
  split
  · exact Nat.le_add_right _ _
  · exact Nat.le_refl _

/-- What is left buffered after a fetch is less than the byte that was fetched last. -/
theorem Settled.bufferedBits_lt_of_fetched {width : Nat} {next : BitCursor}
    (settled : Settled memory position cursor) (done : cursor.Succeeds width next)
    (fetched : next.offset ≠ cursor.offset) : next.bufferedBits < 8 := by
  obtain ⟨after, reached⟩ := settled.of_succeeds done
  have sum := after.position_add
  omega

/-! ## Runs of requests -/

/-- No request moves the offset back. -/
theorem Settled.offset_le_request (settled : Settled memory position cursor)
    (width : Nat) : cursor.offset ≤ (cursor.request width).after.offset := by
  unfold BitCursor.request
  cases result : cursor.extractBits width with
  | mk answer next =>
      cases answer with
      | ok value => exact settled.offset_le_of_succeeds (.inl ⟨value, result⟩)
      | error cause => exact settled.offset_le_of_fails (.inl ⟨cause, result⟩)

theorem Settled.offset_le_after (settled : Settled memory position cursor)
    (widths : List Nat) : cursor.offset ≤ (cursor.after widths).offset := by
  induction widths generalizing position cursor with
  | nil => exact Nat.le_refl _
  | cons width rest ih =>
      have step := settled.offset_le_request width
      have tail := ih (settled.request width)
      exact Nat.le_trans step tail

theorem Extracts.trans {first second : Nat} {middle reached : BitCursor}
    (one : Extracts cursor first middle) (other : Extracts middle second reached) :
    Extracts cursor (first + second) reached := by
  induction other with
  | none => exact one
  | extractBits _ done ih =>
      rw [← Nat.add_assoc]
      exact ih.extractBits done
  | extract _ done ih =>
      rw [← Nat.add_assoc]
      exact ih.extract done

/-- Requests that are all answered are successful extractions. -/
theorem extracts_after {widths : List Nat}
    (answered : ∀ request ∈ cursor.requests widths,
      ∃ value, request.answer = .ok value) :
    Extracts cursor widths.sum (cursor.after widths) := by
  induction widths generalizing cursor with
  | nil => exact .none
  | cons width rest ih =>
      obtain ⟨⟨value, answer⟩, others⟩ := List.forall_mem_cons.mp answered
      have first : Extracts cursor (0 + width) (cursor.request width).after :=
        Extracts.none.extractBits (Prod.ext answer rfl)
      rw [Nat.zero_add] at first
      rw [List.sum_cons]
      exact first.trans (ih others)

/-! ## From the start -/

theorem offset_of_start {start : Nat}
    (started : BitCursor.start memory start = .ok cursor) : cursor.offset = start + 4 := by
  unfold BitCursor.start at started
  obtain ⟨word, -, rfl⟩ := map_eq_ok_iff.mp started
  rfl

/-- Successful extractions from a start have fetched no byte that they did not reach
into, but for the four that the cursor started with. -/
theorem Extracts.offset_eq {start total : Nat} {reached : BitCursor}
    (started : BitCursor.start memory start = .ok cursor)
    (extracts : Extracts cursor total reached) :
    reached.offset = max (start + 4) ((reached.bitPosition + 7) / 8) := by
  obtain ⟨settled, fetched⟩ := extracts.settled_and_offset_eq (settled_of_start started)
  rw [settled.bitPosition_eq, fetched, offset_of_start started]

/-- Requests that cover memory exactly are answered, the last one at its end. -/
theorem settled_of_exact_cover {start : Nat} {widths : List Nat}
    (started : BitCursor.start memory start = .ok cursor)
    (valid : ∀ width ∈ widths, 1 ≤ width ∧ width ≤ 32)
    (whole : 8 * start + widths.sum = 8 * memory.size) :
    (∀ request ∈ cursor.requests widths, ∃ value, request.answer = .ok value) ∧
      (cursor.after widths).offset = memory.size ∧
      (cursor.after widths).bufferedBits = 0 := by
  have settled := settled_of_start started
  obtain ⟨answered, -⟩ := settled.requests_answered valid (Nat.le_of_eq whole)
  have returned : ∀ request ∈ cursor.requests widths, ∃ value, request.answer = .ok value := by
    intro request made
    obtain ⟨value, answer, -⟩ := answered request made
    exact ⟨value, answer⟩
  obtain ⟨there, fetched⟩ := (extracts_after returned).settled_and_offset_eq settled
  have inside := settled.offset_le
  have sum := there.position_add
  have reached : (cursor.after widths).offset = memory.size := by omega
  exact ⟨returned, reached, by omega⟩

/-- **A cursor fetches late.** An extraction that succeeds moves the offset to the end of
its field, rounded up to a byte, unless it was there already; so what is left buffered
after a fetch is less than a byte. No request moves the offset back, and never are more
than 32 bits buffered. Successful extractions from a start leave the offset at the end of
what they took, rounded up to a byte, or of the four bytes at the start. Widths that
cover memory exactly from there are all answered, and leave the offset at the end of
memory with nothing buffered. -/
theorem extraction_fetches_late (reachable : Reachable memory cursor) :
    (∀ width next, cursor.Succeeds width next →
      next.offset = max cursor.offset ((next.bitPosition + 7) / 8) ∧
        (next.offset ≠ cursor.offset → next.bufferedBits ≤ 7)) ∧
    (∀ width next, cursor.Succeeds width next ∨ cursor.Fails width next →
      cursor.offset ≤ next.offset) ∧
    (∀ widths, cursor.offset ≤ (cursor.after widths).offset) ∧
    cursor.bufferedBits ≤ 32 ∧
    ∀ start fresh, BitCursor.start memory start = .ok fresh →
      (∀ total reached, Extracts fresh total reached →
        reached.offset = max (start + 4) ((reached.bitPosition + 7) / 8)) ∧
      ∀ widths, (∀ width ∈ widths, 1 ≤ width ∧ width ≤ 32) →
        8 * start + widths.sum = 8 * memory.size →
          (∀ request ∈ fresh.requests widths, ∃ value, request.answer = .ok value) ∧
          (fresh.after widths).offset = memory.size ∧
          (fresh.after widths).bufferedBits = 0 := by
  have settled := reachable.settled
  refine ⟨?_, ?_, settled.offset_le_after, settled.bufferedBits_le, ?_⟩
  · intro width next done
    obtain ⟨after, fetched⟩ := settled.of_succeeds done
    rw [after.bitPosition_eq]
    exact ⟨fetched, fun moved =>
      Nat.lt_succ_iff.mp (settled.bufferedBits_lt_of_fetched done moved)⟩
  · rintro width next (done | failed)
    · exact settled.offset_le_of_succeeds done
    · exact settled.offset_le_of_fails failed
  · intro start fresh started
    refine ⟨fun total reached extracts => extracts.offset_eq started, ?_⟩
    intro widths valid whole
    exact settled_of_exact_cover started valid whole

/-- After twelve bits, a field of thirty takes two bytes and leaves six bits of them,
which end memory. A failure behind it fetches nothing. -/
theorem extraction_fetches_late_six_bytes :
    (atSixBytes.after [12]).Succeeds 30 ((atSixBytes.after [12]).extractBits 30).2 ∧
    ((atSixBytes.after [12]).extractBits 30).2.offset = max 4 ((42 + 7) / 8) ∧
    ((atSixBytes.after [12]).extractBits 30).2.bufferedBits ≤ 7 ∧
    (atSixBytes.after [12]).offset ≤ ((atSixBytes.after [12]).after [30, 32, 6]).offset ∧
    (atSixBytes.after [12]).bufferedBits ≤ 32 ∧
    (atSixBytes.after [12]).offset =
      max (0 + 4) (((atSixBytes.after [12]).bitPosition + 7) / 8) ∧
    (atSixBytes.after [12, 30, 6]).offset = 6 ∧
    (atSixBytes.after [12, 30, 6]).bufferedBits = 0 := by
  have started : start atSixBytes.memory 0 = .ok atSixBytes := rfl
  have twelve : (atSixBytes.extractBits 12).1 = .ok 0xABC := by cbv
  have thirty : ((atSixBytes.after [12]).extractBits 30).1 = .ok 0x37BC048D := by cbv
  have offset : (atSixBytes.after [12]).offset = 4 := by cbv
  have moved : ((atSixBytes.after [12]).extractBits 30).2.offset = 6 := by cbv
  have position : ((atSixBytes.after [12]).extractBits 30).2.bitPosition = 42 := by cbv
  obtain ⟨success, -, forward, buffered, fresh⟩ :=
    extraction_fetches_late (reachable_atSixBytes [12])
  have done : (atSixBytes.after [12]).Succeeds 30
      ((atSixBytes.after [12]).extractBits 30).2 := .inl ⟨_, Prod.ext thirty rfl⟩
  obtain ⟨fetched, few⟩ := success 30 _ done
  obtain ⟨late, cover⟩ := fresh 0 atSixBytes started
  obtain ⟨-, ended, empty⟩ := cover [12, 30, 6] (by decide) rfl
  rw [offset, position] at fetched
  refine ⟨done, fetched, few ?_, forward _, buffered, ?_, ended, empty⟩
  · rw [moved, offset]
    decide
  · exact late (0 + 12) _ (Extracts.none.extractBits (Prod.ext twelve rfl))

end Bytecode.BitCursor
