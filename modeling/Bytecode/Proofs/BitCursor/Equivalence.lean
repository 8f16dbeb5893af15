import Bytecode.Proofs.BitCursor.Fetching

/-!
# Cursors that cannot be told apart

Two cursors may split the bits that they buffer over the accumulator and the pending
remainder in different ways. Neither the fields that they return nor their failures
show it:

* **canonical form** (`Alike.merge_eq`): cursors at one position that have fetched
  equally far are the same cursor once each has merged what it has pending;
* **step** (`Alike.request_eq`, `Alike.request`): they answer a request alike, down to
  the unit that a failure names, and are alike again afterwards;
* **run** (`extraction_forgets_path`): how a cursor was brought to its position by
  successful extractions never shows. What it has fetched is fixed by where it was
  started and how many bits were taken (`Extracts.settled_and_offset_eq`).
-/

namespace Bytecode.BitCursor

variable {memory : Memory} {position : Nat} {cursor first second : BitCursor}

/-! ## The canonical form -/

/-- All of a cursor is given by where it stands, how far it has fetched and how many
of its bits are valid. -/
theorem StandsAt.eq_of_valid_eq (one : StandsAt memory position first)
    (other : StandsAt memory position second) (offset : first.offset = second.offset)
    (valid : first.valid = second.valid) : first = second := by
  have memories : first.memory = second.memory := one.memory_eq.trans other.memory_eq.symm
  have pendingBits : first.pendingBits = second.pendingBits := by
    have sum := one.position_add
    have otherSum := other.position_add
    unfold bufferedBits at sum otherSum
    omega
  have accumulator : first.accumulator = second.accumulator := by
    apply BitVec.eq_of_getMsbD_eq
    intro index _
    rw [one.accumulator_bit, other.accumulator_bit, valid]
  have pending : first.pending = second.pending := by
    apply BitVec.eq_of_getLsbD_eq
    intro index _
    rw [one.pending_bit, other.pending_bit, pendingBits, offset]
  cases first
  cases second
  simp only [BitCursor.mk.injEq]
  exact ⟨memories, offset, accumulator, valid, pending, pendingBits⟩

/-- Two cursors at the same position that have fetched equally far. -/
structure Alike (memory : Memory) (position : Nat) (first second : BitCursor) : Prop where
  first_settled : Settled memory position first
  second_settled : Settled memory position second
  offset_eq : first.offset = second.offset

/-- Merged, two such cursors are one. -/
theorem Alike.merge_eq (alike : Alike memory position first second) :
    first.merge = second.merge := by
  have one := alike.first_settled.merge
  have other := alike.second_settled.merge
  refine one.eq_of_valid_eq other.toStandsAt alike.offset_eq ?_
  -- nothing is pending any more, so the valid bits reach up to the common offset
  have sum := one.position_add_valid alike.first_settled.pendingBits_merge
  have otherSum := other.position_add_valid alike.second_settled.pendingBits_merge
  have same : first.merge.offset = second.merge.offset := alike.offset_eq
  omega

theorem Alike.standing_eq (alike : Alike memory position first second) :
    first.standing = second.standing := by
  have sum := alike.first_settled.position_add
  have otherSum := alike.second_settled.position_add
  have offset := alike.offset_eq
  rw [standing, standing, Standing.mk.injEq, alike.first_settled.bitPosition_eq,
    alike.second_settled.bitPosition_eq]
  exact ⟨offset, rfl, by omega⟩

/-! ## Merging beforehand -/

theorem topUp_of_advance_ok {next : BitCursor} {width : FieldWidth}
    (short : cursor.valid < width.bits) (round : cursor.advance width.bits = .ok next) :
    cursor.topUp width = next.topUp width := by
  rw [topUp, dif_pos short]
  split
  · next cause failed => simp [round] at failed
  · next reached done =>
      rw [round, Except.ok.injEq] at done
      rw [done]

/-- Filling starts with merging what is pending, so it makes no difference when that
was done before. -/
theorem Settled.topUp_merge {width : FieldWidth}
    (settled : Settled memory position cursor) (short : cursor.valid < width.bits) :
    cursor.topUp width = cursor.merge.topUp width := by
  by_cases empty : cursor.pendingBits = 0
  · have valid : cursor.merge.valid = cursor.valid := by
      simp [BitCursor.merge, mergedBits, empty]
    have same := settled.merge.eq_of_valid_eq settled.toStandsAt rfl valid
    rw [same]
  · exact topUp_of_advance_ok short (advance_of_pendingBits_ne_zero empty width.bits)

theorem take_of_le_valid {width : FieldWidth} (enough : width.bits ≤ cursor.valid) :
    cursor.take width = (.ok (cursor.front width), cursor.drop width) := by
  rw [take, topUp_of_le_valid enough]

/-- An extraction returns the same and fetches the same when what is pending was
merged before. -/
theorem Settled.take_merge (settled : Settled memory position cursor)
    (width : FieldWidth) :
    (cursor.take width).1 = (cursor.merge.take width).1 ∧
      (cursor.take width).2.offset = (cursor.merge.take width).2.offset := by
  by_cases short : cursor.valid < width.bits
  · have same : cursor.take width = cursor.merge.take width := by
      rw [take, take, settled.topUp_merge short]
    rw [same]
    exact ⟨rfl, rfl⟩
  · -- the field is valid already, before the merge and after it
    have enough := Nat.not_lt.mp short
    have merged : width.bits ≤ cursor.merge.valid :=
      Nat.le_trans enough (Nat.le_add_right _ _)
    have value : cursor.front width = cursor.merge.front width := by
      apply BitVec.eq_of_toNat_eq
      rw [settled.front_eq enough, settled.merge.front_eq merged]
    rw [take_of_le_valid enough, take_of_le_valid merged, value]
    exact ⟨rfl, rfl⟩

/-! ## Requests to cursors that are alike -/

theorem Alike.take_eq (alike : Alike memory position first second) (width : FieldWidth) :
    (first.take width).1 = (second.take width).1 ∧
      (first.take width).2.offset = (second.take width).2.offset := by
  obtain ⟨answer, offset⟩ := alike.first_settled.take_merge width
  obtain ⟨otherAnswer, otherOffset⟩ := alike.second_settled.take_merge width
  rw [answer, offset, otherAnswer, otherOffset, alike.merge_eq]
  exact ⟨rfl, rfl⟩

/-- A request is answered alike, and the offset afterwards is the same. -/
theorem Alike.request_eq (alike : Alike memory position first second) (width : Nat) :
    (first.request width).answer = (second.request width).answer ∧
      (first.request width).after.offset = (second.request width).after.offset := by
  unfold BitCursor.request
  cases valid : FieldWidth.ofNat? width with
  | none =>
      have invalid := FieldWidth.ofNat?_eq_none_iff.mp valid
      rw [alike.first_settled.refuses_iff.mpr invalid,
        alike.second_settled.refuses_iff.mpr invalid]
      exact ⟨rfl, alike.offset_eq⟩
  | some field =>
      obtain rfl := FieldWidth.ofNat?_eq_some_iff.mp valid
      obtain ⟨answer, offset⟩ := alike.take_eq field
      rw [extractBits_bits, extractBits_bits, answer]
      exact ⟨rfl, offset⟩

theorem Alike.request (alike : Alike memory position first second) (width : Nat) :
    Alike memory (position + (first.request width).taken) (first.request width).after
      (second.request width).after := by
  obtain ⟨answer, offset⟩ := alike.request_eq width
  have consumed : (first.request width).taken = (second.request width).taken := by
    rw [Request.taken, Request.taken, answer]
    rfl
  refine ⟨alike.first_settled.request width, ?_, offset⟩
  rw [consumed]
  exact alike.second_settled.request width

/-- What can be seen of a request: its answer, and what the cursor tells about itself
afterwards. -/
def Request.seen (request : Request) : Except FieldError (BitVec 32) × Standing :=
  (request.answer, request.after.standing)

/-- Any sequence of requests looks the same from cursors that are alike. -/
theorem Alike.map_seen_requests (alike : Alike memory position first second)
    (widths : List Nat) :
    (first.requests widths).map Request.seen = (second.requests widths).map Request.seen := by
  induction widths generalizing position first second with
  | nil => rfl
  | cons width rest ih =>
      have after := alike.request width
      have seen : (first.request width).seen = (second.request width).seen := by
        rw [Request.seen, Request.seen, (alike.request_eq width).1, after.standing_eq]
      rw [requests, requests, List.map_cons, List.map_cons, seen, ih after]

/-! ## Successful extractions -/

/-- The cursors that successful extractions lead to, by how many bits these take
together. -/
inductive Extracts (cursor : BitCursor) : Nat → BitCursor → Prop
  | none : Extracts cursor 0 cursor
  | extractBits {total width : Nat} {reached next : BitCursor} {value : BitVec 32} :
      Extracts cursor total reached → reached.extractBits width = (.ok value, next) →
        Extracts cursor (total + width) next
  | extract {total : Nat} {width : FieldWidth} {reached next : BitCursor} {value : Field} :
      Extracts cursor total reached → reached.extract width = (.ok value, next) →
        Extracts cursor (total + width.bits) next

/-- The end of one more field is reached like the ends of the fields before it. -/
theorem Settled.succeeds_moves {offset total width : Nat} {next : BitCursor}
    (settled : Settled memory (position + total) cursor)
    (fetched : cursor.offset = max offset ((position + total + 7) / 8))
    (done : cursor.Succeeds width next) :
    Settled memory (position + (total + width)) next ∧
      next.offset = max offset ((position + (total + width) + 7) / 8) := by
  obtain ⟨after, moved⟩ := settled.of_succeeds done
  rw [← Nat.add_assoc]
  exact ⟨after, by omega⟩

/-- Where extractions lead is settled by where they start and how many bits they take,
and so is how far they fetch. -/
theorem Extracts.settled_and_offset_eq {total : Nat} {reached : BitCursor}
    (settled : Settled memory position cursor)
    (extracts : Extracts cursor total reached) :
    Settled memory (position + total) reached ∧
      reached.offset = max cursor.offset ((position + total + 7) / 8) := by
  induction extracts with
  | none =>
      have sum := settled.position_add
      exact ⟨settled, by omega⟩
  | extractBits _ done ih => exact ih.1.succeeds_moves ih.2 (.inl ⟨_, done⟩)
  | extract _ done ih => exact ih.1.succeeds_moves ih.2 (.inr ⟨_, _, rfl, done⟩)

/-- **A cursor forgets how it was brought to its position.** Two series of successful
extractions from one start that take as many bits together leave cursors that tell
the same about themselves. Whatever is asked of them afterwards, they answer alike,
call by call and down to the unit that a failure names, and they go on telling the
same. -/
theorem extraction_forgets_path {start total : Nat}
    (started : BitCursor.start memory start = .ok cursor)
    (one : Extracts cursor total first) (other : Extracts cursor total second) :
    first.standing = second.standing ∧
      ∀ widths : List Nat, (first.requests widths).map Request.seen =
        (second.requests widths).map Request.seen := by
  have settled := settled_of_start started
  obtain ⟨there, fetched⟩ := one.settled_and_offset_eq settled
  obtain ⟨thereToo, fetchedToo⟩ := other.settled_and_offset_eq settled
  have alike : Alike memory (8 * start + total) first second :=
    ⟨there, thereToo, fetched.trans fetchedToo.symm⟩
  exact ⟨alike.standing_eq, alike.map_seen_requests⟩

/-- Twelve and thirty bits leave two bits valid and four pending, thirty-two and ten
bits leave six valid, and no later answer tells the one from the other. -/
theorem extraction_forgets_path_six_bytes :
    let one := ((atSixBytes.extractBits 12).2.extractBits 30).2
    let other := ((atSixBytes.extract ⟨32, by decide, by decide⟩).2.extractBits 10).2
    (one.valid, one.pendingBits) = (2, 4) ∧ (other.valid, other.pendingBits) = (6, 0) ∧
    one.standing = other.standing ∧
    (one.requests [5, 9, 33, 1]).map Request.seen =
      (other.requests [5, 9, 33, 1]).map Request.seen ∧
    ((one.after [5]).request 9).answer = .error (.memory (.outOfRange 6 1 6)) := by
  have twelve : (atSixBytes.extractBits 12).1 = .ok 0xABC := by cbv
  have thirty : ((atSixBytes.extractBits 12).2.extractBits 30).1 = .ok 0x37BC048D := by cbv
  have word : (atSixBytes.extract ⟨32, by decide, by decide⟩).1 =
      .ok (.word 0xABCDEF01) := by cbv
  have ten : ((atSixBytes.extract ⟨32, by decide, by decide⟩).2.extractBits 10).1 =
      .ok 0x8D := by cbv
  obtain ⟨standing, later⟩ := @extraction_forgets_path atSixBytes.memory atSixBytes _ _
    0 42 rfl
    ((Extracts.none.extractBits (Prod.ext twelve rfl)).extractBits (Prod.ext thirty rfl))
    ((Extracts.none.extract (Prod.ext word rfl)).extractBits (Prod.ext ten rfl))
  exact ⟨by cbv, by cbv, standing, later _, by cbv⟩

end Bytecode.BitCursor
