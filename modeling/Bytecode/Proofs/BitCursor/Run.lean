import Bytecode.Proofs.BitCursor.Extraction
import Mathlib

/-!
# Runs of extractions

Seen from outside, a cursor is a position in the bit string of memory
(`Outcome`): a request for a field is refused for its width, or it returns the
field at the position and moves past it, or it finds memory exhausted and stays.
How the bits are buffered does not show.

* **refinement** (`requests_trace_bitString`): over any sequence of requests, the
  position is where the cursor was started plus the widths of the fields
  returned, and these fields put together are one piece of the bit string;
* **availability** (`extractBits_succeeds_iff_available`): a request is answered
  with a field exactly when its width is one of a field and all its bits are in
  memory. So whole runs are answered for which memory has the bits
  (`exists_start_requests`).

Positions are exact numbers. None exceeds `memory.bitLength`, so the positions in
memory of fewer than `2 ^ 61` bytes fit 64 bits.
-/

namespace Bytecode.BitCursor

variable {memory : Memory} {position : Nat} {cursor : BitCursor}

/-! ## One request -/

/-- What a request for a field of some width does to a cursor at `position`, in
terms of the bit string alone. -/
inductive Outcome (memory : Memory) (position : Nat) (cursor : BitCursor) (width : Nat) :
    Except FieldError (BitVec 32) × BitCursor → Prop
  | refused (invalid : width = 0 ∨ 32 < width) :
      Outcome memory position cursor width (.error (.invalidWidth width), cursor)
  | returned {value : BitVec 32} {next : BitCursor} (positive : 1 ≤ width)
      (small : width ≤ 32) (available : position + width ≤ memory.bitLength)
      (value_eq : value.toNat = memory.field position width)
      (settled : Settled memory (position + width) next) :
      Outcome memory position cursor width (.ok value, next)
  | exhausted {offset unit : Nat} {stopped : BitCursor} (positive : 1 ≤ width)
      (small : width ≤ 32) (past : memory.bitLength < position + width)
      (settled : Settled memory position stopped) :
      Outcome memory position cursor width
        (.error (.memory (.outOfRange offset unit memory.size)), stopped)

/-- Every request to a settled cursor has one of these outcomes. -/
theorem Settled.outcome (settled : Settled memory position cursor) (width : Nat) :
    Outcome memory position cursor width (cursor.extractBits width) := by
  unfold extractBits
  cases valid : FieldWidth.ofNat? width with
  | none => exact .refused (FieldWidth.ofNat?_eq_none_iff.mp valid)
  | some field =>
      obtain rfl := FieldWidth.ofNat?_eq_some_iff.mp valid
      show Outcome memory position cursor field.bits
        ((cursor.take field).1.mapError .memory, (cursor.take field).2)
      cases taken : cursor.take field with
      | mk answer next =>
          cases answer with
          | ok value =>
              obtain ⟨after, available, equal⟩ := settled.of_take_ok taken
              exact .returned field.one_le_bits field.bits_le available equal after
          | error cause =>
              obtain ⟨after, past, offset, unit, rfl⟩ := settled.of_take_error taken
              exact .exhausted field.one_le_bits field.bits_le past after

section Conditions

variable {width : Nat} (settled : Settled memory position cursor)

include settled

/-- A field is returned when it is one of a valid width and all of its bits are in
memory, and only then. -/
theorem Settled.returns_iff :
    (∃ value next, cursor.extractBits width = (.ok value, next)) ↔
      1 ≤ width ∧ width ≤ 32 ∧ position + width ≤ memory.bitLength := by
  have outcome := settled.outcome width
  constructor
  · rintro ⟨value, next, result⟩
    rw [result] at outcome
    cases outcome with
    | returned positive small available => exact ⟨positive, small, available⟩
  · rintro ⟨positive, small, available⟩
    generalize cursor.extractBits width = result at outcome
    cases outcome with
    | refused invalid => omega
    | returned => exact ⟨_, _, rfl⟩
    | exhausted _ _ past => omega

theorem Settled.refuses_iff :
    cursor.extractBits width = (.error (.invalidWidth width), cursor) ↔
      width = 0 ∨ 32 < width := by
  have outcome := settled.outcome width
  constructor
  · intro result
    rw [result] at outcome
    cases outcome with
    | refused invalid => exact invalid
  · intro invalid
    generalize cursor.extractBits width = result at outcome
    cases outcome with
    | refused => rfl
    | returned positive small => omega
    | exhausted positive small => omega

/-- Memory is found exhausted when some bit of a field of a valid width lies past
its end, and only then. -/
theorem Settled.exhausts_iff :
    (∃ offset unit stopped, cursor.extractBits width =
        (.error (.memory (.outOfRange offset unit memory.size)), stopped)) ↔
      1 ≤ width ∧ width ≤ 32 ∧ memory.bitLength < position + width := by
  have outcome := settled.outcome width
  constructor
  · rintro ⟨offset, unit, stopped, result⟩
    rw [result] at outcome
    cases outcome with
    | exhausted positive small past => exact ⟨positive, small, past⟩
  · rintro ⟨positive, small, past⟩
    generalize cursor.extractBits width = result at outcome
    cases outcome with
    | refused invalid => omega
    | returned _ _ available => omega
    | exhausted => exact ⟨_, _, _, rfl⟩

end Conditions

/-! ## Requests one after the other -/

/-- A request for a field of some width, with the answer to it and the cursor
that it leaves behind. -/
structure Request where
  width : Nat
  answer : Except FieldError (BitVec 32)
  after : BitCursor

/-- How many bits a request consumed: those of the field that it returned. -/
def Request.taken (request : Request) : Nat :=
  match request.answer with
  | .ok _ => request.width
  | .error _ => 0

/-- The bits of the field that a request returned, most significant bit first. -/
def Request.bits (request : Request) : List Bool :=
  match request.answer with
  | .ok value => toBits request.width value.toNat
  | .error _ => []

/-- How many bits some requests consumed together. -/
def taken (requests : List Request) : Nat :=
  (requests.map Request.taken).sum

def request (cursor : BitCursor) (width : Nat) : Request :=
  { width
    answer := (cursor.extractBits width).1
    after := (cursor.extractBits width).2 }

/-- Makes requests for fields of the given widths, each to the cursor that the one
before left behind. -/
def requests (cursor : BitCursor) : List Nat → List Request
  | [] => []
  | width :: rest => cursor.request width :: (cursor.request width).after.requests rest

/-- The cursor that requests for fields of the given widths leave behind. -/
def after (cursor : BitCursor) : List Nat → BitCursor
  | [] => cursor
  | width :: rest => (cursor.request width).after.after rest

theorem Settled.request (settled : Settled memory position cursor) (width : Nat) :
    Settled memory (position + (cursor.request width).taken)
      (cursor.request width).after := by
  have outcome := settled.outcome width
  unfold BitCursor.request Request.taken
  cases result : cursor.extractBits width with
  | mk answer next =>
      rw [result] at outcome
      cases outcome with
      | refused => exact settled
      | returned _ _ _ _ after => exact after
      | exhausted _ _ _ after => exact after

/-- A request that returns a field returns the one at the position. -/
theorem Settled.request_answer {width : Nat} {value : BitVec 32}
    (settled : Settled memory position cursor)
    (returned : (cursor.request width).answer = .ok value) :
    position + width ≤ memory.bitLength ∧
      value.toNat = memory.field position width := by
  have outcome := settled.outcome width
  unfold BitCursor.request at returned
  cases result : cursor.extractBits width with
  | mk answer next =>
      rw [result] at outcome returned
      cases outcome with
      | refused => simp at returned
      | returned _ _ available equal _ =>
          simp only [Except.ok.injEq] at returned
          subst returned
          exact ⟨available, equal⟩
      | exhausted => simp at returned

/-- A request for a field of a valid width that memory has all bits of is
answered with it. -/
theorem Settled.exists_answer {width : Nat} (settled : Settled memory position cursor)
    (positive : 1 ≤ width) (small : width ≤ 32)
    (available : position + width ≤ memory.bitLength) :
    ∃ value, (cursor.request width).answer = .ok value ∧ value.toNat < 2 ^ width := by
  obtain ⟨value, next, result⟩ := settled.returns_iff.mpr ⟨positive, small, available⟩
  have answer : (cursor.request width).answer = .ok value := by
    rw [BitCursor.request, result]
  refine ⟨value, answer, ?_⟩
  rw [(settled.request_answer answer).2]
  exact memory.field_lt _ _

/-- The bits that a request returns are those that it moves past. -/
theorem Settled.request_bits (settled : Settled memory position cursor) (width : Nat) :
    (cursor.request width).bits =
      memory.bits position (cursor.request width).taken := by
  unfold Request.bits Request.taken
  cases answer : (cursor.request width).answer with
  | error cause => rfl
  | ok value =>
      show toBits width value.toNat = memory.bits position width
      rw [(settled.request_answer answer).2, Memory.toBits_field]

/-- Requests move the position by the bits that they consumed together. -/
theorem Settled.after (settled : Settled memory position cursor) (widths : List Nat) :
    Settled memory (position + taken (cursor.requests widths)) (cursor.after widths) := by
  induction widths generalizing position cursor with
  | nil => exact settled
  | cons width rest ih =>
      have tail := ih (settled.request width)
      simp only [requests, taken, List.map_cons, List.sum_cons] at tail ⊢
      rw [← Nat.add_assoc]
      exact tail

theorem map_width_requests (cursor : BitCursor) (widths : List Nat) :
    (cursor.requests widths).map Request.width = widths := by
  induction widths generalizing cursor with
  | nil => rfl
  | cons width rest ih =>
      rw [requests, List.map_cons, ih]
      rfl

/-- Requests for fields of valid widths that memory has all bits of are answered
one after the other, and consume their widths. -/
theorem Settled.requests_answered {widths : List Nat}
    (settled : Settled memory position cursor)
    (valid : ∀ width ∈ widths, 1 ≤ width ∧ width ≤ 32)
    (available : position + widths.sum ≤ memory.bitLength) :
    (∀ request ∈ cursor.requests widths,
      ∃ value, request.answer = .ok value ∧ value.toNat < 2 ^ request.width) ∧
      taken (cursor.requests widths) = widths.sum := by
  -- the first request leaves the others what they need
  induction widths generalizing position cursor with
  | nil => exact ⟨by simp [requests], rfl⟩
  | cons width rest ih =>
      obtain ⟨⟨positive, small⟩, restValid⟩ := List.forall_mem_cons.mp valid
      rw [List.sum_cons] at available
      obtain ⟨value, answer, bound⟩ :=
        settled.exists_answer positive small (by omega)
      have consumed : (cursor.request width).taken = width := by
        rw [Request.taken, answer]
        rfl
      have next := settled.request width
      rw [consumed] at next
      obtain ⟨answered, total⟩ := ih next restValid (by omega)
      constructor
      · rw [requests, List.forall_mem_cons]
        exact ⟨⟨value, answer, bound⟩, answered⟩
      · rw [taken] at total ⊢
        rw [requests, List.map_cons, List.sum_cons, consumed, total, List.sum_cons]

/-- Each request of a run is made where the ones before it have led. -/
theorem Settled.exists_request {widths : List Nat} {before later : List Request}
    {request : Request} (settled : Settled memory position cursor)
    (run : cursor.requests widths = before ++ request :: later) :
    ∃ reached, Settled memory (position + taken before) reached ∧
      reached.request request.width = request := by
  -- on the requests before it, each of which moves the cursor and its position
  induction before generalizing position cursor widths with
  | nil =>
      cases widths with
      | nil => simp [requests] at run
      | cons width rest =>
          simp only [requests, List.nil_append, List.cons.injEq] at run
          obtain ⟨rfl, -⟩ := run
          exact ⟨cursor, settled, rfl⟩
  | cons first before ih =>
      cases widths with
      | nil => simp [requests] at run
      | cons width rest =>
          simp only [requests, List.cons_append, List.cons.injEq] at run
          obtain ⟨rfl, run⟩ := run
          have reached := ih (settled.request width) run
          simpa [taken, Nat.add_assoc] using reached

/-- The fields returned by a run, put together, are the bits from the position
on. -/
theorem Settled.flatMap_bits (settled : Settled memory position cursor)
    (widths : List Nat) :
    (cursor.requests widths).flatMap Request.bits =
      memory.bits position (taken (cursor.requests widths)) := by
  induction widths generalizing position cursor with
  | nil => rfl
  | cons width rest ih =>
      simp only [requests, List.flatMap_cons, taken, List.map_cons, List.sum_cons]
      rw [settled.request_bits, ih (settled.request width), ← Memory.bits_append]
      rfl

/-- From memory that holds their bits, a cursor started at some byte cuts fields of
valid widths one after the other. -/
theorem exists_start_requests {start : Nat} {widths : List Nat}
    (allocated : memory.isAllocated = true) (inside : start + 4 ≤ memory.size)
    (valid : ∀ width ∈ widths, 1 ≤ width ∧ width ≤ 32)
    (available : widths.sum ≤ 8 * (memory.size - start)) :
    ∃ cursor, BitCursor.start memory start = .ok cursor ∧
      (∀ request ∈ cursor.requests widths,
        ∃ value, request.answer = .ok value ∧ value.toNat < 2 ^ request.width) ∧
      (cursor.requests widths).flatMap Request.bits =
        ((bitString memory.bytes.toList).drop (8 * start)).take widths.sum := by
  obtain ⟨cursor, started⟩ := start_eq_ok_iff.mpr ⟨allocated, inside⟩
  have settled := settled_of_start started
  have within : 8 * start + widths.sum ≤ memory.bitLength := by
    rw [Memory.bitLength]
    omega
  obtain ⟨answered, total⟩ := settled.requests_answered valid within
  refine ⟨cursor, started, answered, ?_⟩
  rw [settled.flatMap_bits, total, Memory.bits_eq_bitString within]

/-! ## Refinement and availability -/

/-- **The cursor refines a position in the bit string.** After every request the
cursor stands where it was started plus the widths of the fields returned so
far, so a request that fails consumes nothing. A field that is returned is the
number below `2 ^ width` with the bits of memory from the position before it on,
and all fields together are one piece of memory. -/
theorem requests_trace_bitString {start : Nat}
    (started : BitCursor.start memory start = .ok cursor) (widths : List Nat) :
    cursor.bitPosition = 8 * start ∧
    (∀ before request later,
      cursor.requests widths = before ++ request :: later →
        request.after.bitPosition = 8 * start + taken (before ++ [request]) ∧
        ∀ value, request.answer = .ok value →
          8 * start + taken before + request.width ≤ memory.bitLength ∧
          value.toNat < 2 ^ request.width ∧
          toBits request.width value.toNat =
            memory.bits (8 * start + taken before) request.width) ∧
    (cursor.requests widths).flatMap Request.bits =
      memory.bits (8 * start) (taken (cursor.requests widths)) := by
  have settled := settled_of_start started
  refine ⟨settled.bitPosition_eq, ?_, settled.flatMap_bits widths⟩
  intro before request later run
  obtain ⟨reached, there, made⟩ := settled.exists_request run
  constructor
  · have moved := there.request request.width
    rw [made] at moved
    rw [moved.bitPosition_eq]
    simp [taken, Nat.add_assoc]
  · intro value answered
    rw [← made] at answered
    obtain ⟨available, equal⟩ := there.request_answer answered
    rw [equal]
    exact ⟨available, memory.field_lt _ _, memory.toBits_field _ _⟩

/-- A cursor at the start of six bytes. -/
def atSixBytes : BitCursor :=
  { memory := ⟨some #[0xAB, 0xCD, 0xEF, 0x01, 0x23, 0x45]⟩
    offset := 4
    accumulator := 0xABCDEF01
    valid := 32
    pending := 0
    pendingBits := 0 }

/-- A request for 24 bits that fails after fetching two of the three bytes that it
needs consumes nothing, and the next field starts where it would have. -/
theorem requests_trace_six_bytes :
    start atSixBytes.memory 0 = .ok atSixBytes ∧
    atSixBytes.requests [32, 24, 12] =
      [atSixBytes.request 32, (atSixBytes.after [32]).request 24] ++
        (atSixBytes.after [32, 24]).request 12 :: [] ∧
    ((atSixBytes.after [32, 24]).request 12).answer = .ok 0x234 ∧
    (atSixBytes.after [32, 24, 12]).bitPosition = 44 ∧
    toBits 12 0x234 = atSixBytes.memory.bits 32 12 ∧
    (atSixBytes.requests [32, 24, 12]).flatMap Request.bits =
      atSixBytes.memory.bits 0 44 := by
  have answered : ((atSixBytes.after [32, 24]).request 12).answer = .ok 0x234 := by cbv
  have consumed : taken [atSixBytes.request 32, (atSixBytes.after [32]).request 24] =
      32 := by cbv
  have total : taken (atSixBytes.requests [32, 24, 12]) = 44 := by cbv
  obtain ⟨-, each, whole⟩ :=
    @requests_trace_bitString atSixBytes.memory atSixBytes 0 rfl [32, 24, 12]
  obtain ⟨moved, value⟩ := each
    [atSixBytes.request 32, (atSixBytes.after [32]).request 24] _ [] rfl
  obtain ⟨-, -, equal⟩ := value _ answered
  rw [consumed] at equal
  rw [total] at whole
  exact ⟨rfl, rfl, answered, moved.trans (by cbv), equal, whole⟩

/-- **A field is returned exactly when its bits exist.** A cursor can be started
exactly where four bytes are available. A cursor that was reached from there
refuses exactly the widths that no field has, and stays as it is. Any other
request is answered with a field if all bits of it are in memory and fails out
of range if not. -/
theorem extractBits_succeeds_iff_available (memory : Memory) (start : Nat) :
    ((∃ cursor, BitCursor.start memory start = .ok cursor) ↔
      memory.isAllocated = true ∧ start + 4 ≤ memory.size) ∧
    ∀ cursor, BitCursor.start memory start = .ok cursor →
      ∀ (earlier : List Nat) (width : Nat),
        let reached := cursor.after earlier
        let position := reached.bitPosition
        ((∃ value next, reached.extractBits width = (.ok value, next)) ↔
          1 ≤ width ∧ width ≤ 32 ∧ position + width ≤ 8 * memory.size) ∧
        (reached.extractBits width = (.error (.invalidWidth width), reached) ↔
          width = 0 ∨ 32 < width) ∧
        ((∃ offset unit stopped, reached.extractBits width =
            (.error (.memory (.outOfRange offset unit memory.size)), stopped)) ↔
          1 ≤ width ∧ width ≤ 32 ∧ 8 * memory.size < position + width) := by
  refine ⟨start_eq_ok_iff, ?_⟩
  intro cursor started earlier width reached position
  have settled := (settled_of_start started).after earlier
  -- read the position off the cursor
  rw [← settled.bitPosition_eq] at settled
  exact ⟨settled.returns_iff, settled.refuses_iff, settled.exhausts_iff⟩

/-- The two bytes that the failed request for 24 bits fetched are there for later
ones, and no more than these. -/
theorem extractBits_available_after_partial_fetch :
    start atSixBytes.memory 0 = .ok atSixBytes ∧
    (atSixBytes.after [32, 24]).offset = 6 ∧
    (∃ value next, (atSixBytes.after [32, 24]).extractBits 16 = (.ok value, next)) ∧
    ∃ offset unit stopped, (atSixBytes.after [32, 24]).extractBits 17 =
      (.error (.memory (.outOfRange offset unit 6)), stopped) := by
  have position : (atSixBytes.after [32, 24]).bitPosition = 32 := by cbv
  have answers :=
    (extractBits_succeeds_iff_available atSixBytes.memory 0).2 atSixBytes rfl [32, 24]
  refine ⟨rfl, by cbv, (answers 16).1.mpr ?_, (answers 17).2.2.mpr ?_⟩
  · rw [position]
    decide
  · rw [position]
    decide

end Bytecode.BitCursor
