import Bytecode.Proofs.BitCursor.Reachable

/-!
# Two ways to ask

A field is asked for with a width fixed beforehand, and then comes in the narrowest word
for that width, or with a width chosen at run time, and then comes in the widest word.
The way of asking decides the word and nothing else:

* **one call** (`answer_eq`, `next_eq`): a call of either kind gives the number, or fails
  for the reason, that the request for its width at run time does, and leaves the same
  cursor. No bit is lost to the narrow word, because a field that is taken fits its width
  (`toNat_lt_of_take_ok`);
* **a run** (`transcript_eq`): so a run of calls shows nothing of which of them were of
  which kind (`extraction_agrees_either_way`).

None of this asks for a reachable cursor.
-/

namespace Bytecode

/-- The size of the word that a field is kept in. -/
def Field.wordSize : Field → WordSize
  | byte _ => .byte
  | half _ => .half
  | word _ => .word

namespace BitCursor

variable {memory : Memory} {position : Nat} {cursor : BitCursor}

/-- A call for a field, in one of the two ways to ask. -/
inductive Call where
  | fixed (width : FieldWidth)
  | chosen (width : Nat)
deriving DecidableEq

def Call.width : Call → Nat
  | fixed width => width.bits
  | chosen width => width

/-- What a call is answered, as a number or the reason that there is none. -/
def answer (cursor : BitCursor) : Call → Except FieldError Nat
  | .fixed width => ((cursor.extract width).1.mapError .memory).map Field.toNat
  | .chosen width => (cursor.extractBits width).1.map BitVec.toNat

/-- The cursor that a call leaves behind. -/
def next (cursor : BitCursor) : Call → BitCursor
  | .fixed width => (cursor.extract width).2
  | .chosen width => (cursor.extractBits width).2

/-- The answers to some calls, each made to the cursor that the one before left behind,
with the cursors that they leave behind. -/
def transcript (cursor : BitCursor) : List Call → List (Except FieldError Nat × BitCursor)
  | [] => []
  | call :: rest => (cursor.answer call, cursor.next call) :: (cursor.next call).transcript rest

/-- The cursor that some calls leave behind. -/
def follow (cursor : BitCursor) (calls : List Call) : BitCursor :=
  calls.foldl next cursor

/-! ## One call -/

/-- The top bits of the accumulator fit the width that they are taken for. -/
theorem front_lt (cursor : BitCursor) (width : FieldWidth) :
    (cursor.front width).toNat < 2 ^ width.bits := by
  have narrow := width.bits_le
  have whole : cursor.accumulator.toNat < 2 ^ width.bits * 2 ^ (32 - width.bits) := by
    rw [← Nat.pow_add, Nat.add_sub_cancel' narrow]
    exact cursor.accumulator.isLt
  rw [front, BitVec.toNat_ushiftRight, Nat.shiftRight_eq_div_pow]
  exact Nat.div_lt_of_lt_mul (by rw [Nat.mul_comm]; exact whole)

theorem toNat_lt_of_take_ok {width : FieldWidth} {value : BitVec 32} {next : BitCursor}
    (done : cursor.take width = (.ok value, next)) : value.toNat < 2 ^ width.bits := by
  unfold take at done
  split at done
  · simp at done
  · next filled topped =>
      simp only [Prod.mk.injEq, Except.ok.injEq] at done
      obtain ⟨rfl, -⟩ := done
      exact filled.front_lt width

/-- A field in its narrow word is the number that the wide word would be. -/
theorem answer_fixed (cursor : BitCursor) (width : FieldWidth) :
    cursor.answer (.fixed width) = cursor.answer (.chosen width.bits) := by
  simp only [answer, extractBits_bits, extract]
  cases taken : cursor.take width with
  | mk result after =>
      cases result with
      | error cause => rfl
      | ok value =>
          show Except.ok (Field.narrow width value).toNat = Except.ok value.toNat
          rw [toNat_narrow (toNat_lt_of_take_ok taken)]

/-- A call is answered as the request for its width at run time is. -/
theorem answer_eq (cursor : BitCursor) (call : Call) :
    cursor.answer call = (cursor.extractBits call.width).1.map BitVec.toNat := by
  cases call with
  | fixed width => exact cursor.answer_fixed width
  | chosen width => rfl

theorem next_eq (cursor : BitCursor) (call : Call) :
    cursor.next call = (cursor.extractBits call.width).2 := by
  cases call with
  | fixed width => exact cursor.extract_after width
  | chosen width => rfl

theorem wordSize_narrow (width : FieldWidth) (value : BitVec 32) :
    ((Field.narrow width value).wordSize = .byte ↔ width.bits ≤ 8) ∧
      ((Field.narrow width value).wordSize = .half ↔ 9 ≤ width.bits ∧ width.bits ≤ 16) ∧
      ((Field.narrow width value).wordSize = .word ↔ 17 ≤ width.bits) := by
  unfold Field.narrow
  split
  · simp only [Field.wordSize, reduceCtorEq, true_iff, false_iff]
    omega
  · split
    · simp only [Field.wordSize, reduceCtorEq, true_iff, false_iff]
      omega
    · simp only [Field.wordSize, reduceCtorEq, true_iff, false_iff]
      omega

/-- A field comes in the narrowest word for its width, and fits the width. -/
theorem of_extract_ok {width : FieldWidth} {field : Field} {next : BitCursor}
    (done : cursor.extract width = (.ok field, next)) :
    field.toNat < 2 ^ width.bits ∧
      (field.wordSize = .byte ↔ width.bits ≤ 8) ∧
      (field.wordSize = .half ↔ 9 ≤ width.bits ∧ width.bits ≤ 16) ∧
      (field.wordSize = .word ↔ 17 ≤ width.bits) := by
  simp only [extract, Prod.mk.injEq] at done
  obtain ⟨value, result, rfl⟩ := map_eq_ok_iff.mp done.1
  have fits := toNat_lt_of_take_ok (Prod.ext result rfl)
  rw [toNat_narrow fits]
  exact ⟨fits, wordSize_narrow width value⟩

/-! ## Calls one after the other -/

/-- The calls of a run show what requests at run time for the same widths do. -/
theorem transcript_eq (cursor : BitCursor) (calls : List Call) :
    cursor.transcript calls =
      (cursor.requests (calls.map Call.width)).map fun request =>
        (request.answer.map BitVec.toNat, request.after) := by
  induction calls generalizing cursor with
  | nil => rfl
  | cons call rest ih =>
      rw [transcript, ih, answer_eq, next_eq]
      rfl

/-- **The way of asking does not show.** A field whose width was fixed beforehand and the
one of that width chosen at run time are the same number, or fail for the same reason, and
leave the same cursor. The narrow word is a byte for up to 8 bits, half a word for 9 to 16
and a word for more, and the number fits the width. So two runs of calls for the same widths
give the same answers and cursors, call by call, whichever calls are of which kind. -/
theorem extraction_agrees_either_way (cursor : BitCursor) :
    (∀ width : FieldWidth,
      ((cursor.extract width).1.mapError FieldError.memory).map Field.toNat =
        (cursor.extractBits width.bits).1.map BitVec.toNat ∧
      (cursor.extract width).2 = (cursor.extractBits width.bits).2 ∧
      ∀ field, (cursor.extract width).1 = .ok field →
        field.toNat < 2 ^ width.bits ∧
        (field.wordSize = .byte ↔ width.bits ≤ 8) ∧
        (field.wordSize = .half ↔ 9 ≤ width.bits ∧ width.bits ≤ 16) ∧
        (field.wordSize = .word ↔ 17 ≤ width.bits)) ∧
    ∀ calls others : List Call, calls.map Call.width = others.map Call.width →
      cursor.transcript calls = cursor.transcript others := by
  constructor
  · intro width
    refine ⟨cursor.answer_fixed width, cursor.extract_after width, ?_⟩
    intro field returned
    exact of_extract_ok (Prod.ext returned rfl)
  · intro calls others same
    rw [transcript_eq, transcript_eq, same]

/-- Nine bits come in half a word. Two runs that ask for 12 and 9 bits in opposite ways,
then for 32 bits that memory does not have and for 9 more, show the same. -/
theorem extraction_agrees_either_way_six_bytes :
    let nine : FieldWidth := ⟨9, by decide, by decide⟩
    let twelve : FieldWidth := ⟨12, by decide, by decide⟩
    let most : FieldWidth := ⟨32, by decide, by decide⟩
    (atSixBytes.extract nine).1 = .ok (.half 0x157) ∧
    (Field.half 0x157).toNat < 2 ^ 9 ∧
    atSixBytes.transcript [.fixed twelve, .chosen 9, .fixed most, .fixed nine] =
      atSixBytes.transcript [.chosen 12, .fixed nine, .chosen 32, .chosen 9] ∧
    (atSixBytes.transcript [.fixed twelve, .chosen 9, .fixed most, .fixed nine]).map Prod.fst =
      [.ok 0xABC, .ok 0x1BD, .error (.memory (.outOfRange 6 1 6)), .ok 0x1C0] := by
  intro nine twelve most
  obtain ⟨single, run⟩ := extraction_agrees_either_way atSixBytes
  have returned : (atSixBytes.extract nine).1 = .ok (.half 0x157) := by cbv
  obtain ⟨-, -, word⟩ := single nine
  exact ⟨returned, (word _ returned).1, run _ _ rfl, by cbv⟩

end BitCursor

end Bytecode
