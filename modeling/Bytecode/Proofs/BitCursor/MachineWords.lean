import Bytecode.Proofs.BitCursor.Fetching

/-!
# Cursors in machine words

A machine keeps the offset of a cursor in a word of 64 bits and its other registers in words
of 32. What it computes with them is exact only if no sum or product outgrows its word, no
number is taken from a smaller one, and no word is shifted by its whole length or more. The
operations of a cursor are carried out here step by step with each of these conditions
checked: an operation gives `none` where one fails. Merging also stops where a pending bit
would be shifted out of the accumulator or fall onto a bit that is set there.

* **agreement** (`merge?_eq_some_iff`, `advance_of_advance?`): what comes through is what the
  exact operation gives, for any cursor;
* **soundness** (`Settled.take?_eq`, `machine_words_suffice`): from a reachable cursor on memory
  of fewer than `2 ^ 61` bytes, everything comes through.

The bounds all come from the invariant. A round of filling starts with room in the
accumulator and merges at least one bit, so no shift reaches 32; and the valid and the pending
bits are next to each other in memory, so they do not overlap.
-/

namespace Bytecode

/-! ## Arithmetic with checks -/

/-- The sum of two numbers, if a word of `size` bits holds it. -/
def sum? (size first second : Nat) : Option Nat :=
  if first + second < 2 ^ size then some (first + second) else none

/-- The product of two numbers, if a word of `size` bits holds it. -/
def product? (size first second : Nat) : Option Nat :=
  if first * second < 2 ^ size then some (first * second) else none

/-- The difference of two numbers, if it is not below zero. -/
def difference? (first second : Nat) : Option Nat :=
  if second ≤ first then some (first - second) else none

/-- A word shifted down by less than its length. -/
def shiftDown? (word : BitVec 32) (amount : Nat) : Option (BitVec 32) :=
  if amount ≤ 31 then some (word >>> amount) else none

/-- A word shifted up by less than its length, if no set bit is lost. -/
def shiftUp? (word : BitVec 32) (amount : Nat) : Option (BitVec 32) :=
  if amount ≤ 31 ∧ (word <<< amount) >>> amount = word then some (word <<< amount) else none

/-- Two words laid over each other, if no bit is set in both. -/
def join? (first second : BitVec 32) : Option (BitVec 32) :=
  if first &&& second = 0 then some (first ||| second) else none

namespace BitCursor

variable {memory : Memory} {position : Nat} {cursor : BitCursor}

/-! ## The operations of a cursor -/

def start? (memory : Memory) (offset : Nat) : Option (Except MemoryError BitCursor) :=
  match memory.readBigEndian .word offset with
  | .error cause => some (.error cause)
  | .ok bits => do
      let offset ← sum? 64 offset 4
      return .ok {
        memory, offset, accumulator := bits, valid := 32, pending := 0, pendingBits := 0 }

def bufferedBits? (cursor : BitCursor) : Option Nat :=
  sum? 32 cursor.valid cursor.pendingBits

def bitPosition? (cursor : BitCursor) : Option Nat := do
  let fetched ← product? 64 cursor.offset 8
  let buffered ← cursor.bufferedBits?
  difference? fetched buffered

def fetch? (cursor : BitCursor) (unit : WordSize) : Option (Except MemoryError BitCursor) :=
  match cursor.memory.readBigEndian unit cursor.offset with
  | .error cause => some (.error cause)
  | .ok bits => do
      let offset ← sum? 64 cursor.offset unit.bytes
      return .ok { cursor with offset, pending := bits.setWidth 32, pendingBits := unit.bits }

def lowMask? (bits : Nat) : Option (BitVec 32) :=
  if bits = 0 then
    some 0
  else do
    let surplus ← difference? 32 bits
    shiftDown? (BitVec.allOnes 32) surplus

def merge? (cursor : BitCursor) : Option BitCursor := do
  let room ← difference? 32 cursor.valid
  let merged := min room cursor.pendingBits
  let rest ← difference? cursor.pendingBits merged
  let gap ← difference? room merged
  let piece ← shiftDown? cursor.pending rest
  let raised ← shiftUp? piece gap
  let accumulator ← join? cursor.accumulator raised
  let mask ← lowMask? rest
  let valid ← sum? 32 cursor.valid merged
  return { cursor with
    accumulator, valid, pending := cursor.pending &&& mask, pendingBits := rest }

def replenish? (cursor : BitCursor) (width : Nat) : Option (Except MemoryError BitCursor) :=
  if cursor.pendingBits = 0 then do
    let deficit ← difference? width cursor.valid
    cursor.fetch? (unitFor deficit)
  else
    some (.ok cursor)

def advance? (cursor : BitCursor) (width : Nat) : Option (Except MemoryError BitCursor) := do
  match ← cursor.replenish? width with
  | .error cause => return .error cause
  | .ok ready => return .ok (← ready.merge?)

/-! ## Agreement -/

theorem sum?_eq_some_iff {size first second total : Nat} :
    sum? size first second = some total ↔
      first + second < 2 ^ size ∧ first + second = total := by
  simp [sum?]

theorem difference?_eq_some_iff {first second rest : Nat} :
    difference? first second = some rest ↔ second ≤ first ∧ first - second = rest := by
  simp [difference?]

theorem shiftDown?_eq_some_iff {word shifted : BitVec 32} {amount : Nat} :
    shiftDown? word amount = some shifted ↔ amount ≤ 31 ∧ word >>> amount = shifted := by
  simp [shiftDown?]

theorem shiftUp?_eq_some_iff {word shifted : BitVec 32} {amount : Nat} :
    shiftUp? word amount = some shifted ↔
      (amount ≤ 31 ∧ (word <<< amount) >>> amount = word) ∧ word <<< amount = shifted := by
  simp [shiftUp?]

theorem join?_eq_some_iff {first second joined : BitVec 32} :
    join? first second = some joined ↔ first &&& second = 0 ∧ first ||| second = joined := by
  simp [join?]

theorem lowMask?_eq_some_iff {bits : Nat} {mask : BitVec 32} :
    lowMask? bits = some mask ↔ bits ≤ 32 ∧ lowMask bits = mask := by
  unfold lowMask? lowMask
  by_cases none : bits = 0
  · simp [none]
  · have low : 32 - bits ≤ 31 := by omega
    simp [none, difference?_eq_some_iff, Option.bind_eq_some_iff, shiftDown?, low]

/-- What has to hold of a cursor for its pending bits to be merged in machine words. -/
structure Mergeable (cursor : BitCursor) : Prop where
  valid_le : cursor.valid ≤ 32
  restBits_le : cursor.restBits ≤ 31
  gap_le : cursor.room - cursor.mergedBits ≤ 31
  /-- No pending bit is shifted out at the top. -/
  lossless : (cursor.pending >>> cursor.restBits) <<< (cursor.room - cursor.mergedBits) >>>
    (cursor.room - cursor.mergedBits) = cursor.pending >>> cursor.restBits
  /-- No pending bit falls onto a bit of the accumulator. -/
  disjoint : cursor.accumulator &&&
    (cursor.pending >>> cursor.restBits) <<< (cursor.room - cursor.mergedBits) = 0

/-- A merge comes through exactly if the cursor is mergeable, as the exact one. -/
theorem merge?_eq_some_iff {next : BitCursor} :
    cursor.merge? = some next ↔ cursor.Mergeable ∧ cursor.merge = next := by
  have some_le : cursor.mergedBits ≤ cursor.pendingBits := Nat.min_le_right _ _
  have room_le : cursor.mergedBits ≤ cursor.room := Nat.min_le_left _ _
  simp only [merge?, Option.bind_eq_bind, Option.bind_eq_some_iff, difference?_eq_some_iff,
    shiftDown?_eq_some_iff, shiftUp?_eq_some_iff, join?_eq_some_iff, lowMask?_eq_some_iff,
    sum?_eq_some_iff, Option.pure_def, Option.some.injEq]
  constructor
  · rintro ⟨_, ⟨valid_le, rfl⟩, _, ⟨-, rfl⟩, _, ⟨-, rfl⟩, _, ⟨restBits_le, rfl⟩,
      _, ⟨⟨gap_le, lossless⟩, rfl⟩, _, ⟨disjoint, rfl⟩, _, ⟨-, rfl⟩, _, ⟨-, rfl⟩, rfl⟩
    exact ⟨⟨valid_le, restBits_le, gap_le, lossless, disjoint⟩, rfl⟩
  · rintro ⟨⟨valid_le, restBits_le, gap_le, lossless, disjoint⟩, rfl⟩
    have filled : cursor.valid + cursor.mergedBits < 2 ^ 32 := by
      unfold room at room_le
      omega
    exact ⟨_, ⟨valid_le, rfl⟩, _, ⟨some_le, rfl⟩, _, ⟨room_le, rfl⟩, _, ⟨restBits_le, rfl⟩,
      _, ⟨⟨gap_le, lossless⟩, rfl⟩, _, ⟨disjoint, rfl⟩,
      _, ⟨Nat.le_succ_of_le restBits_le, rfl⟩, _, ⟨filled, rfl⟩, rfl⟩

theorem fetch_of_fetch? {unit : WordSize} {outcome : Except MemoryError BitCursor}
    (done : cursor.fetch? unit = some outcome) : cursor.fetch unit = outcome := by
  unfold fetch? at done
  unfold fetch
  split at done
  · next cause failed =>
      rw [failed]
      exact Option.some.inj done
  · next bits read =>
      simp only [Option.bind_eq_bind, Option.bind_eq_some_iff, sum?_eq_some_iff,
        Option.pure_def, Option.some.injEq] at done
      obtain ⟨_, ⟨-, rfl⟩, rfl⟩ := done
      rw [read]
      rfl

theorem replenish_of_replenish? {width : Nat} {outcome : Except MemoryError BitCursor}
    (done : cursor.replenish? width = some outcome) :
    cursor.replenish (width - cursor.valid) = outcome := by
  unfold replenish? at done
  unfold replenish
  split at done
  · next empty =>
      simp only [Option.bind_eq_bind, Option.bind_eq_some_iff, difference?_eq_some_iff] at done
      obtain ⟨_, ⟨-, rfl⟩, fetched⟩ := done
      rw [if_pos empty]
      exact fetch_of_fetch? fetched
  · next filled =>
      rw [if_neg filled]
      exact Option.some.inj done

/-- A round that comes through does what the exact one does. -/
theorem advance_of_advance? {width : Nat} {outcome : Except MemoryError BitCursor}
    (done : cursor.advance? width = some outcome) : cursor.advance width = outcome := by
  unfold advance? at done
  obtain ⟨replenished, ready, rest⟩ := Option.bind_eq_some_iff.mp done
  unfold advance
  rw [replenish_of_replenish? ready]
  cases replenished with
  | error cause => exact Option.some.inj rest
  | ok ready =>
      obtain ⟨merged, joined, rest⟩ := Option.bind_eq_some_iff.mp rest
      rw [← Option.some.inj rest, ← (merge?_eq_some_iff.mp joined).2]
      rfl

/-! ## Filling and taking -/

def topUp? (cursor : BitCursor) (width : FieldWidth) :
    Option (Except MemoryError Unit × BitCursor) :=
  if short : cursor.valid < width.bits then
    match round : cursor.advance? width.bits with
    | none => none
    | some (.error cause) => some (.error cause, cursor)
    | some (.ok next) =>
        have := deficit_lt_of_advance width short (advance_of_advance? round)
        next.topUp? width
  else
    some (.ok (), cursor)
termination_by width.bits - cursor.valid

theorem topUp?_of_advance?_error {width : FieldWidth} {cause : MemoryError}
    (short : cursor.valid < width.bits)
    (round : cursor.advance? width.bits = some (.error cause)) :
    cursor.topUp? width = some (.error cause, cursor) := by
  rw [topUp?, dif_pos short]
  split
  · next stopped => simp [round] at stopped
  · next reason failed =>
      rw [round, Option.some.injEq, Except.error.injEq] at failed
      rw [failed]
  · next reached done => simp [round] at done

theorem topUp?_of_advance?_ok {width : FieldWidth} {next : BitCursor}
    (short : cursor.valid < width.bits)
    (round : cursor.advance? width.bits = some (.ok next)) :
    cursor.topUp? width = next.topUp? width := by
  rw [topUp?, dif_pos short]
  split
  · next stopped => simp [round] at stopped
  · next reason failed => simp [round] at failed
  · next reached done =>
      rw [round, Option.some.injEq, Except.ok.injEq] at done
      rw [done]

def front? (cursor : BitCursor) (width : FieldWidth) : Option (BitVec 32) := do
  let surplus ← difference? 32 width.bits
  shiftDown? cursor.accumulator surplus

/-- The cursor past the top bits of its accumulator. A field of the whole word leaves the
accumulator clear. -/
def drop? (cursor : BitCursor) (width : FieldWidth) : Option BitCursor := do
  let valid ← difference? cursor.valid width.bits
  return { cursor with
    accumulator := if width.bits ≤ 31 then cursor.accumulator <<< width.bits else 0
    valid }

def take? (cursor : BitCursor) (width : FieldWidth) :
    Option (Except MemoryError (BitVec 32) × BitCursor) := do
  match ← cursor.topUp? width with
  | (.error cause, stopped) => return (.error cause, stopped)
  | (.ok (), filled) => return (.ok (← filled.front? width), ← filled.drop? width)

/-! ## Soundness -/

/-- A cursor that has room in its accumulator and bits pending is mergeable. -/
theorem StandsAt.mergeable (stands : StandsAt memory position cursor)
    (roomy : cursor.valid < 32) (waiting : 0 < cursor.pendingBits)
    (few : cursor.pendingBits ≤ 32) : cursor.Mergeable := by
  have sum := stands.position_add
  have fits : cursor.mergedBits = min (32 - cursor.valid) cursor.pendingBits := rfl
  have rest : cursor.restBits = cursor.pendingBits - cursor.mergedBits := rfl
  have gap : cursor.room - cursor.mergedBits = 32 - cursor.valid - cursor.mergedBits := rfl
  refine {
    valid_le := stands.valid_le
    restBits_le := by omega
    gap_le := by omega
    lossless := ?_
    disjoint := ?_ }
  · apply BitVec.eq_of_getLsbD_eq
    intro index inside
    rw [BitVec.getLsbD_ushiftRight, BitVec.getLsbD_shiftLeft, Nat.add_sub_cancel_left,
      BitVec.getLsbD_ushiftRight, stands.pending_bit]
    by_cases top : cursor.room - cursor.mergedBits + index < 32
    · simp [top]
    · -- above the bits that fit there are none
      have past : ¬ cursor.restBits + index < cursor.pendingBits := by omega
      simp [past]
  · apply BitVec.eq_of_getMsbD_eq
    intro index _
    rw [BitVec.getMsbD_and, stands.accumulator_bit, stands.merged_bit]
    by_cases before : index < cursor.valid
    · simp [Nat.not_le.mpr before]
    · simp [before]

theorem StandsAt.merge?_eq (stands : StandsAt memory position cursor)
    (roomy : cursor.valid < 32) (waiting : 0 < cursor.pendingBits)
    (few : cursor.pendingBits ≤ 32) : cursor.merge? = some cursor.merge :=
  merge?_eq_some_iff.mpr ⟨stands.mergeable roomy waiting few, rfl⟩

theorem front?_eq (cursor : BitCursor) (width : FieldWidth) :
    cursor.front? width = some (cursor.front width) := by
  have positive := width.one_le_bits
  have surplus : difference? 32 width.bits = some (32 - width.bits) := if_pos width.bits_le
  have shifted : shiftDown? cursor.accumulator (32 - width.bits) =
      some (cursor.front width) := if_pos (by omega)
  rw [front?, surplus]
  exact shifted

theorem drop?_eq {width : FieldWidth} (enough : width.bits ≤ cursor.valid) :
    cursor.drop? width = some (cursor.drop width) := by
  have left : difference? cursor.valid width.bits = some (cursor.valid - width.bits) :=
    if_pos enough
  have cleared : (if width.bits ≤ 31 then cursor.accumulator <<< width.bits else 0) =
      cursor.accumulator <<< width.bits := by
    split
    · rfl
    · have whole : 32 ≤ width.bits := by omega
      exact (BitVec.shiftLeft_eq_zero whole).symm
  rw [drop?, left, cleared]
  rfl

section MachineMemory

variable (machine : memory.size < 2 ^ 61)

include machine

theorem start?_eq (offset : Nat) : start? memory offset = some (start memory offset) := by
  unfold start? start
  cases read : memory.readBigEndian .word offset with
  | error cause => rfl
  | ok bits =>
      obtain ⟨-, inside, -⟩ := Memory.readBigEndian_eq_ok_iff.mp read
      have next : sum? 64 offset 4 = some (offset + 4) := if_pos (by
        simp only [WordSize.bytes] at inside
        omega)
      simp only [next, Option.bind_eq_bind, Option.bind_some]
      rfl

theorem Settled.bitPosition?_eq (settled : Settled memory position cursor) :
    cursor.bufferedBits? = some cursor.bufferedBits ∧
      cursor.bitPosition? = some cursor.bitPosition := by
  have buffered : cursor.bufferedBits? = some cursor.bufferedBits := by
    have few := settled.bufferedBits_le
    rw [bufferedBits] at few
    exact if_pos (by omega)
  refine ⟨buffered, ?_⟩
  have inside := settled.offset_le
  have sum := settled.position_add
  have product : product? 64 cursor.offset 8 = some (cursor.offset * 8) := if_pos (by omega)
  have difference : difference? (cursor.offset * 8) cursor.bufferedBits =
      some cursor.bitPosition := if_pos (by omega)
  rw [bitPosition?, product, buffered]
  exact difference

theorem StandsAt.fetch?_eq (stands : StandsAt memory position cursor) (unit : WordSize) :
    cursor.fetch? unit = some (cursor.fetch unit) := by
  unfold fetch? fetch
  cases read : cursor.memory.readBigEndian unit cursor.offset with
  | error cause => rfl
  | ok bits =>
      rw [stands.memory_eq] at read
      obtain ⟨-, inside, -⟩ := Memory.readBigEndian_eq_ok_iff.mp read
      have next : sum? 64 cursor.offset unit.bytes = some (cursor.offset + unit.bytes) :=
        if_pos (by omega)
      simp only [next, Option.bind_eq_bind, Option.bind_some]
      rfl

/-- A round of filling comes through. -/
theorem Settled.advance?_eq {width : Nat} (settled : Settled memory position cursor)
    (short : cursor.valid < width) (small : width ≤ 32) :
    cursor.advance? width = some (cursor.advance width) := by
  have roomy : cursor.valid < 32 := Nat.lt_of_lt_of_le short small
  unfold advance? advance replenish? replenish
  by_cases empty : cursor.pendingBits = 0
  · have deficit : difference? width cursor.valid = some (width - cursor.valid) :=
      if_pos (Nat.le_of_lt short)
    rw [if_pos empty, if_pos empty, deficit]
    show (cursor.fetch? _).bind _ = _
    rw [settled.toStandsAt.fetch?_eq machine]
    cases fetched : cursor.fetch (unitFor (width - cursor.valid)) with
    | error cause => rfl
    | ok ready =>
        have stands := settled.toStandsAt.of_fetch empty fetched
        obtain ⟨-, sameValid, units⟩ := of_fetch fetched
        have atMost := unitFor_bits_le (width - cursor.valid)
        have atLeast := (unitFor (width - cursor.valid)).bits_pos
        show ready.merge?.bind _ = _
        rw [stands.merge?_eq (by omega) (by omega) (by omega)]
        rfl
  · have few := settled.pendingBits_le
    rw [if_neg empty, if_neg empty]
    show cursor.merge?.bind _ = _
    rw [settled.toStandsAt.merge?_eq roomy (by omega) (by omega)]
    rfl

/-- So does filling, to the end of its rounds. -/
theorem Filling.topUp?_eq {width : FieldWidth}
    (filling : Filling memory position width.bits cursor) :
    cursor.topUp? width = some (cursor.topUp width) := by
  fun_induction topUp cursor width with
  | case1 cursor short cause failed =>
      have round := (filling.settled short).advance?_eq machine short width.bits_le
      rw [failed] at round
      exact topUp?_of_advance?_error short round
  | case2 cursor short next reached closer ih =>
      have settled := filling.settled short
      have round := settled.advance?_eq machine short width.bits_le
      rw [reached] at round
      rw [topUp?_of_advance?_ok short round]
      exact ih (settled.of_advance_ok short width.bits_le reached)
  | case3 cursor enough => rw [topUp?, dif_neg enough]

/-- Taking a field comes through. -/
theorem Settled.take?_eq (settled : Settled memory position cursor) (width : FieldWidth) :
    cursor.take? width = some (cursor.take width) := by
  unfold take? take
  rw [(settled.filling width.bits).topUp?_eq machine]
  cases topped : cursor.topUp width with
  | mk result filled =>
      cases result with
      | error cause => rfl
      | ok done =>
          obtain ⟨-, enough⟩ := (settled.filling width.bits).of_topUp_ok topped
          show ((filled.front? width).bind fun value =>
            (filled.drop? width).bind fun next => some (Except.ok value, next)) = _
          rw [filled.front?_eq, drop?_eq enough]
          rfl

end MachineMemory

/-- **Machine words suffice.** On memory of fewer than `2 ^ 61` bytes, starting a cursor
anywhere, taking a field of any width from a reachable one, and telling its buffered bits
and its position all come through in machine words, and give what they give exactly: no
shift is by 32 bits or more, nothing is taken from a smaller number, no sum or product
outgrows its word, and merging neither loses a pending bit nor lays it over another one. -/
theorem machine_words_suffice (machine : memory.size < 2 ^ 61) :
    (∀ offset, start? memory offset = some (start memory offset)) ∧
    ∀ cursor, Reachable memory cursor →
      cursor.bufferedBits? = some cursor.bufferedBits ∧
      cursor.bitPosition? = some cursor.bitPosition ∧
      ∀ width, cursor.take? width = some (cursor.take width) := by
  refine ⟨start?_eq machine, ?_⟩
  intro cursor reachable
  have settled := reachable.settled
  obtain ⟨buffered, place⟩ := settled.bitPosition?_eq machine
  exact ⟨buffered, place, settled.take?_eq machine⟩

/-- With nothing valid left, a field is filled by a unit of two bytes, all of which fit;
with two bits valid and four pending, one of six is filled without any. -/
theorem machine_words_suffice_six_bytes :
    let six : FieldWidth := ⟨6, by decide, by decide⟩
    let sixteen : FieldWidth := ⟨16, by decide, by decide⟩
    atSixBytes.memory.size < 2 ^ 61 ∧
    start? atSixBytes.memory 3 = some (.error (.outOfRange 3 4 6)) ∧
    (atSixBytes.after [32]).valid = 0 ∧
    ((atSixBytes.after [32]).take? sixteen).map (·.1) = some (.ok 0x2345) ∧
    ((atSixBytes.after [12, 30]).valid, (atSixBytes.after [12, 30]).pendingBits) = (2, 4) ∧
    (atSixBytes.after [12, 30]).bitPosition? = some 42 ∧
    ((atSixBytes.after [12, 30]).take? six).map (·.1) = some (.ok 0x05) := by
  intro six sixteen
  have machine : atSixBytes.memory.size < 2 ^ 61 := by decide
  obtain ⟨fresh, reached⟩ := machine_words_suffice machine
  obtain ⟨-, -, spent⟩ := reached _ (reachable_atSixBytes [32])
  obtain ⟨-, place, worn⟩ := reached _ (reachable_atSixBytes [12, 30])
  refine ⟨machine, fresh 3, by cbv, ?_, by cbv, ?_, ?_⟩
  · rw [spent]
    unfold sixteen
    cbv
  · rw [place]
    cbv
  · rw [worn]
    unfold six
    cbv

/-- The checks are not idle: a bit that was left in the accumulator stops a merge, and an
offset of `2 ^ 61` is too large to count its bits. -/
example :
    { atSixBytes with valid := 31, pending := 1, pendingBits := 1 }.merge? = none ∧
    { atSixBytes with offset := 2 ^ 61 }.bitPosition? = none := by
  decide

end BitCursor

end Bytecode
