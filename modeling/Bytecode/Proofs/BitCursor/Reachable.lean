import Bytecode.Proofs.BitCursor.Run

/-!
# Reachable cursors

A cursor on some memory is reachable when it was started there and then asked for
fields, with widths fixed beforehand or chosen at run time, whether or not the
requests were answered. Every reachable cursor is settled at its own bit position
(`Reachable.settled`), and this is all that is needed of how it was reached.

What can be seen of a cursor from outside, apart from the fields that it returns,
are the three numbers of its `Standing`.
-/

namespace Bytecode.BitCursor

variable {memory : Memory} {cursor : BitCursor}

/-- What a cursor tells about itself. -/
structure Standing where
  offset : Nat
  bitPosition : Nat
  bufferedBits : Nat
deriving DecidableEq

def standing (cursor : BitCursor) : Standing :=
  { offset := cursor.offset
    bitPosition := cursor.bitPosition
    bufferedBits := cursor.bufferedBits }

/-! ## The two ways to ask -/

theorem extractBits_bits (cursor : BitCursor) (width : FieldWidth) :
    cursor.extractBits width.bits =
      ((cursor.take width).1.mapError .memory, (cursor.take width).2) := by
  rw [extractBits, FieldWidth.ofNat?_eq_some_iff.mpr rfl]

/-- Both ways to ask for a field of some width leave the same cursor. -/
theorem extract_after (cursor : BitCursor) (width : FieldWidth) :
    (cursor.extract width).2 = (cursor.extractBits width.bits).2 := by
  rw [extractBits_bits]
  rfl

/-- A field that is returned was taken. -/
theorem exists_take_of_extractBits_ok {width : Nat} {value : BitVec 32} {next : BitCursor}
    (done : cursor.extractBits width = (.ok value, next)) :
    ∃ field : FieldWidth, field.bits = width ∧ cursor.take field = (.ok value, next) := by
  cases valid : FieldWidth.ofNat? width with
  | none => simp [extractBits, valid] at done
  | some field =>
      obtain rfl := FieldWidth.ofNat?_eq_some_iff.mp valid
      rw [extractBits_bits, Prod.mk.injEq] at done
      exact ⟨field, rfl, Prod.ext (mapError_eq_ok_iff.mp done.1) done.2⟩

theorem exists_take_of_extract_ok {width : FieldWidth} {value : Field} {next : BitCursor}
    (done : cursor.extract width = (.ok value, next)) :
    ∃ taken, cursor.take width = (.ok taken, next) := by
  simp only [extract, Prod.mk.injEq] at done
  obtain ⟨taken, result, -⟩ := map_eq_ok_iff.mp done.1
  exact ⟨taken, Prod.ext result done.2⟩

/-- A request that fails is one for a width that no field has, and then changes
nothing, or it could not take the field. -/
theorem of_extractBits_error {width : Nat} {cause : FieldError} {stopped : BitCursor}
    (failed : cursor.extractBits width = (.error cause, stopped)) :
    (width = 0 ∨ 32 < width) ∧ stopped = cursor ∨
      ∃ (field : FieldWidth) (reason : MemoryError), field.bits = width ∧
        cursor.take field = (.error reason, stopped) := by
  cases valid : FieldWidth.ofNat? width with
  | none =>
      simp only [extractBits, valid, Prod.mk.injEq] at failed
      exact .inl ⟨FieldWidth.ofNat?_eq_none_iff.mp valid, failed.2.symm⟩
  | some field =>
      obtain rfl := FieldWidth.ofNat?_eq_some_iff.mp valid
      rw [extractBits_bits, Prod.mk.injEq] at failed
      obtain ⟨reason, result, -⟩ := mapError_eq_error_iff.mp failed.1
      exact .inr ⟨field, reason, rfl, Prod.ext result failed.2⟩

theorem take_eq_error_of_extract {width : FieldWidth} {cause : MemoryError}
    {stopped : BitCursor} (failed : cursor.extract width = (.error cause, stopped)) :
    cursor.take width = (.error cause, stopped) := by
  simp only [extract, Prod.mk.injEq] at failed
  exact Prod.ext (map_eq_error_iff.mp failed.1) failed.2

/-! ## Reachability -/

/-- The cursors that requests for fields lead to from a start in memory. -/
inductive Reachable (memory : Memory) : BitCursor → Prop
  | start {offset : Nat} {cursor : BitCursor} :
      start memory offset = .ok cursor → Reachable memory cursor
  | extractBits {cursor : BitCursor} (width : Nat) :
      Reachable memory cursor → Reachable memory (cursor.extractBits width).2
  | extract {cursor : BitCursor} (width : FieldWidth) :
      Reachable memory cursor → Reachable memory (cursor.extract width).2

theorem Reachable.exists_settled (reachable : Reachable memory cursor) :
    ∃ position, Settled memory position cursor := by
  induction reachable with
  | start started => exact ⟨_, settled_of_start started⟩
  | extractBits width _ ih =>
      obtain ⟨position, settled⟩ := ih
      exact ⟨_, settled.request width⟩
  | extract width _ ih =>
      obtain ⟨position, settled⟩ := ih
      rw [extract_after]
      exact ⟨_, settled.request width.bits⟩

/-- A reachable cursor is settled at its bit position. -/
theorem Reachable.settled (reachable : Reachable memory cursor) :
    Settled memory cursor.bitPosition cursor := by
  obtain ⟨position, settled⟩ := reachable.exists_settled
  rw [settled.bitPosition_eq]
  exact settled

theorem Reachable.after (reachable : Reachable memory cursor) (widths : List Nat) :
    Reachable memory (cursor.after widths) := by
  induction widths generalizing cursor with
  | nil => exact reachable
  | cons width rest ih => exact ih (reachable.extractBits width)

end Bytecode.BitCursor
