import Bytecode.Proofs.ByteOrder
import Bytecode.Proofs.Memory.BitString
import Bytecode.Proofs.Memory.History

/-!
# Reading memory in words

What a read gives is told by the bytes, the offset and the width of the word as exact
numbers, and it is one of three things (`map_toNat_read_eq`): the sum of the bytes in
its window, each weighted by its place, or a failure that says which window of how much
memory was asked for, or that there is no memory.

* **Addresses** (`readAt_eq_read`): on a machine that adds 64-bit addresses with a
  check, no window wraps around, and reads give the same.
* **Histories** (`isAllocated_iff_of_after?`): there is no memory exactly as long as none
  was allocated, whatever else was done.
* **Overlapping windows** (`number?_eq_parts`, `number?_word_eq_bytes`): a word is there
  exactly if its halves are, and is made of them, and so down to its bytes.
-/

namespace Bytecode.Memory

variable {memory : Memory}

/-! ## One read -/

/-- The number that some bytes of memory spell, lowest byte first. -/
def spelled (memory : Memory) (offset width : Nat) : Nat :=
  ∑ index ∈ Finset.range width, (memory.bytes.getD (offset + index) 0).toNat * 256 ^ index

theorem ofLittleEndian_window {offset width : Nat} (inside : offset + width ≤ memory.size) :
    ofLittleEndian (memory.bytes.extract offset (offset + width)).toList =
      memory.spelled offset width := by
  have length : (memory.bytes.extract offset (offset + width)).toList.length = width := by
    rw [Array.length_toList, Array.size_extract]
    simp only [Memory.size] at inside
    omega
  rw [ofLittleEndian_eq_sum, length, spelled]
  apply Finset.sum_congr rfl
  intro index within
  have there : index < min (offset + width) memory.bytes.size - offset := by
    simp only [Memory.size] at inside
    have := Finset.mem_range.mp within
    omega
  rw [List.getD_eq_getElem?_getD, Array.getElem?_toList, Array.getElem?_extract,
    if_pos there, Array.getD_eq_getD_getElem?]

/-- The bytes of a word spell a number that the word can hold. -/
theorem toNat_ofNat_window (unit : WordSize) (offset : Nat) :
    (BitVec.ofNat unit.bits (ofLittleEndian
      (memory.bytes.extract offset (offset + unit.bytes)).toList)).toNat =
        ofLittleEndian (memory.bytes.extract offset (offset + unit.bytes)).toList := by
  have bound := ofLittleEndian_lt
    (memory.bytes.extract offset (offset + unit.bytes)).toList
  have length : (memory.bytes.extract offset (offset + unit.bytes)).toList.length ≤
      unit.bytes := by
    rw [Array.length_toList, Array.size_extract]
    omega
  rw [BitVec.toNat_ofNat, Nat.mod_eq_of_lt]
  calc ofLittleEndian (memory.bytes.extract offset (offset + unit.bytes)).toList
      < 256 ^ (memory.bytes.extract offset (offset + unit.bytes)).toList.length := bound
    _ ≤ 256 ^ unit.bytes := Nat.pow_le_pow_right (by decide) length
    _ = 2 ^ unit.bits := by rw [WordSize.bits, Nat.pow_mul]

theorem eq_unallocated (none : memory.isAllocated = false) : memory = unallocated := by
  rcases memory with ⟨_ | block⟩
  · rfl
  · simp [isAllocated] at none

/-- What a read gives, as exact numbers. -/
theorem map_toNat_read_eq (memory : Memory) (unit : WordSize) (offset : Nat) :
    (memory.read unit offset).map BitVec.toNat =
      if memory.isAllocated = false then
        .error .notAllocated
      else if offset + unit.bytes ≤ memory.size then
        .ok (memory.spelled offset unit.bytes)
      else
        .error (.outOfRange offset unit.bytes memory.size) := by
  rw [read, map_map]
  cases allocated : memory.isAllocated with
  | false =>
      rw [eq_unallocated allocated]
      rfl
  | true =>
      by_cases inside : offset + unit.bytes ≤ memory.size
      · rw [window_eq_ok_iff.mpr ⟨allocated, inside, rfl⟩, if_neg (by simp), if_pos inside,
          Except.map, toNat_ofNat_window, ofLittleEndian_window inside]
      · have past := (window_eq_error_iff allocated).mpr ⟨Nat.not_le.mp inside, rfl⟩
        rw [past, if_neg (by simp), if_neg inside]
        rfl

theorem read_eq_notAllocated_iff {unit : WordSize} {offset : Nat} :
    memory.read unit offset = .error .notAllocated ↔ memory.isAllocated = false := by
  have seen : (memory.read unit offset).map BitVec.toNat = .error .notAllocated ↔
      memory.read unit offset = .error .notAllocated := map_eq_error_iff
  rw [← seen, map_toNat_read_eq]
  split
  · simp [*]
  · split <;> simp [*]

/-! ## Addresses of 64 bits -/

/-- The end of a window, or `none` where the sum is too large for an address and wraps
around. -/
def windowEnd? (address : UInt64) (width : Nat) : Option UInt64 :=
  let last := address + UInt64.ofNat width
  if address ≤ last then some last else none

/-- The bytes of a block from one address to another, or `none` when they do not all lie
within the block. -/
def slice? (block : Bytes) (first last : UInt64) : Option Bytes :=
  if first ≤ last ∧ last.toNat ≤ block.size then
    some (block.extract first.toNat last.toNat)
  else
    none

/-- The word of the given size at an address, lowest byte first, as a machine reads it
that has 64 bits for an address. -/
def readAt (memory : Memory) (unit : WordSize) (address : UInt64) :
    Except MemoryError (BitVec unit.bits) :=
  match memory.block with
  | none => .error .notAllocated
  | some block =>
      match (windowEnd? address unit.bytes).bind (slice? block address) with
      | some bytes => .ok (BitVec.ofNat unit.bits (ofLittleEndian bytes.toList))
      | none => .error (.outOfRange address.toNat unit.bytes block.size)

theorem windowEnd?_eq_some_iff {address last : UInt64} (unit : WordSize) :
    windowEnd? address unit.bytes = some last ↔
      last.toNat = address.toNat + unit.bytes := by
  have width : unit.bytes < 2 ^ 64 := by cases unit <;> decide
  have sum : (address + UInt64.ofNat unit.bytes).toNat =
      (address.toNat + unit.bytes) % 2 ^ 64 := by
    rw [UInt64.toNat_add, UInt64.toNat_ofNat_of_lt' width]
  have low := address.toNat_lt
  have lastLow := last.toNat_lt
  simp only [windowEnd?, UInt64.le_iff_toNat_le, sum]
  by_cases fits : address.toNat + unit.bytes < 2 ^ 64
  · rw [Nat.mod_eq_of_lt fits] at sum ⊢
    rw [if_pos (Nat.le_add_right _ _), Option.some_inj, ← UInt64.toNat_inj, sum, eq_comm]
  · -- the sum comes out lower than the address
    have wrapped : ¬ address.toNat ≤ (address.toNat + unit.bytes) % 2 ^ 64 := by omega
    rw [if_neg wrapped]
    constructor
    · nofun
    · omega

/-- With the end computed that way, a window is cut out of a block exactly if it ends
within it. -/
theorem bind_slice?_eq {block : Bytes} (machine : block.size < 2 ^ 64) (unit : WordSize)
    (address : UInt64) :
    (windowEnd? address unit.bytes).bind (slice? block address) =
      if address.toNat + unit.bytes ≤ block.size then
        some (block.extract address.toNat (address.toNat + unit.bytes))
      else
        none := by
  by_cases inside : address.toNat + unit.bytes ≤ block.size
  · have last : (UInt64.ofNat (address.toNat + unit.bytes)).toNat =
        address.toNat + unit.bytes := UInt64.toNat_ofNat_of_lt' (Nat.lt_of_le_of_lt inside machine)
    have behind : address ≤ UInt64.ofNat (address.toNat + unit.bytes) := by
      rw [UInt64.le_iff_toNat_le, last]
      omega
    rw [(windowEnd?_eq_some_iff unit).mpr last, Option.bind_some, slice?, last,
      if_pos ⟨behind, inside⟩, if_pos inside]
  · rw [if_neg inside, Option.bind_eq_none_iff]
    intro last ends
    rw [slice?, (windowEnd?_eq_some_iff unit).mp ends, if_neg (fun within => inside within.2)]

/-- Reading at an address is reading at its number. -/
theorem readAt_eq_read (machine : memory.size < 2 ^ 64) (unit : WordSize)
    (address : UInt64) : memory.readAt unit address = memory.read unit address.toNat := by
  obtain ⟨_ | block⟩ := memory
  · rfl
  · have size : block.size < 2 ^ 64 := machine
    simp only [readAt, bind_slice?_eq size, read, window]
    by_cases inside : address.toNat + unit.bytes ≤ block.size
    · rw [if_pos inside, if_pos inside]
      rfl
    · rw [if_neg inside, if_neg inside]
      rfl

/-! ## Memory that was never allocated -/

theorem isAllocated_iff_of_step? {event : Event} {next : Memory}
    (applied : memory.step? event = some next) :
    next.isAllocated = true ↔
      memory.isAllocated = true ∨ ∃ size, event = .allocate size := by
  cases event with
  | allocate size =>
      obtain rfl := Option.some.inj applied
      simp
  | write start piece =>
      obtain ⟨changed, -, rfl⟩ := Option.map_eq_some_iff.mp applied
      simp
  | pass values =>
      obtain rfl := Option.some.inj applied
      simp

/-- Memory is allocated once it was given a size, and stays so. -/
theorem isAllocated_iff_of_after? {history : List Event} {start : Memory}
    (reached : start.after? history = some memory) :
    memory.isAllocated = true ↔
      start.isAllocated = true ∨ ∃ size, .allocate size ∈ history := by
  induction history generalizing start with
  | nil =>
      obtain rfl := Option.some.inj reached
      simp
  | cons event later ih =>
      obtain ⟨next, applied, rest⟩ := Option.bind_eq_some_iff.mp reached
      rw [ih rest, isAllocated_iff_of_step? applied, or_assoc]
      apply or_congr_right
      simp only [List.mem_cons, exists_or, eq_comm]

/-- Every state of memory is that after some events. -/
theorem exists_history (memory : Memory) :
    ∃ history, unallocated.after? history = some memory := by
  obtain ⟨_ | block⟩ := memory
  · exact ⟨[], rfl⟩
  · refine ⟨[.allocate block.size, .write 0 block], ?_⟩
    have blank : (unallocated.allocate block.size).bytes =
        #[] ++ Bytes.zeroed block.size := by
      rw [bytes_allocate]
      simp [Bytes.resize, unallocated, Memory.bytes]
    have laid := Bytes.overlay?_zeroed #[] (Nat.le_refl block.size)
    have written : (unallocated.allocate block.size).write? 0 block = some ⟨some block⟩ := by
      rw [write?, blank, show 0 = (#[] : Bytes).size from rfl, laid]
      simp [modify, allocate, Bytes.zeroed]
    simp [after?, step?, written]

/-! ## Windows that overlap -/

/-- The number that a read gives, if it gives one. -/
def number? (memory : Memory) (unit : WordSize) (offset : Nat) : Option Nat :=
  ((memory.read unit offset).map BitVec.toNat).toOption

theorem number?_eq (memory : Memory) (unit : WordSize) (offset : Nat) :
    memory.number? unit offset =
      if offset + unit.bytes ≤ memory.size then
        some (memory.spelled offset unit.bytes)
      else
        none := by
  rw [number?, map_toNat_read_eq]
  cases allocated : memory.isAllocated with
  | false =>
      -- there are no bytes, and every word has at least one
      have past : ¬ offset + unit.bytes ≤ memory.size := by
        have wide := unit.bytes_pos
        rw [eq_unallocated allocated, size_unallocated]
        omega
      rw [if_pos rfl, if_neg past]
      rfl
  | true =>
      rw [if_neg (by simp)]
      split
      · rfl
      · rfl

theorem spelled_add (memory : Memory) (offset low high : Nat) :
    memory.spelled offset (low + high) =
      memory.spelled offset low + 256 ^ low * memory.spelled (offset + low) high := by
  rw [spelled, Finset.sum_range_add, spelled, spelled, Finset.mul_sum]
  congr 1
  apply Finset.sum_congr rfl
  intro index _
  rw [← Nat.add_assoc, Nat.pow_add, Nat.mul_left_comm]

/-- A word is there exactly if both its halves are, and the one behind counts for
more. -/
theorem number?_eq_parts (unit part : WordSize)
    (twice : unit.bytes = part.bytes + part.bytes) (memory : Memory) (offset : Nat) :
    memory.number? unit offset = (do
      let low ← memory.number? part offset
      let high ← memory.number? part (offset + part.bytes)
      return low + 256 ^ part.bytes * high) := by
  rw [number?_eq, number?_eq, number?_eq, twice, spelled_add, ← Nat.add_assoc]
  by_cases inside : offset + part.bytes + part.bytes ≤ memory.size
  · have front : offset + part.bytes ≤ memory.size := by omega
    rw [if_pos inside, if_pos front, if_pos inside]
    rfl
  · rw [if_neg inside, if_neg inside]
    split
    · rfl
    · rfl

/-- So a word of four bytes is made of these. -/
theorem number?_word_eq_bytes (memory : Memory) (offset : Nat) :
    memory.number? .word offset = (do
      let byte0 ← memory.number? .byte offset
      let byte1 ← memory.number? .byte (offset + 1)
      let byte2 ← memory.number? .byte (offset + 2)
      let byte3 ← memory.number? .byte (offset + 3)
      return byte0 + 256 * byte1 + 256 ^ 2 * byte2 + 256 ^ 3 * byte3) := by
  have halves (start : Nat) : memory.number? .half start = (do
      let low ← memory.number? .byte start
      let high ← memory.number? .byte (start + 1)
      return low + 256 ^ 1 * high) :=
    number?_eq_parts .half .byte rfl memory start
  have weights (byte0 byte1 byte2 byte3 : Nat) :
      byte0 + 256 ^ 1 * byte1 + 256 ^ WordSize.half.bytes * (byte2 + 256 ^ 1 * byte3) =
        byte0 + 256 * byte1 + 256 ^ 2 * byte2 + 256 ^ 3 * byte3 := by
    simp only [WordSize.bytes]
    omega
  have word := number?_eq_parts .word .half rfl memory offset
  simp only [halves, bind_assoc, pure_bind, weights] at word
  exact word

/-! ## Reads -/

/-- **Reads are exact.** Every state of memory is that after some events, and reading
fails for want of memory, whatever the offset, exactly if none of them allocated any.
Otherwise a read gives the sum of the bytes in its window, each weighted by its place, if
the window ends within memory, and else says which window of how much memory was asked
for; a machine that adds 64-bit addresses finds the same. So a word can be read exactly
if its two halves and its four bytes can, and is made of them. A read gives a number or a
failure and no memory: it changes nothing. -/
theorem reads_are_exact (memory : Memory) :
    (∃ history, unallocated.after? history = some memory) ∧
    (∀ history, unallocated.after? history = some memory → ∀ unit offset,
      (memory.read unit offset = .error .notAllocated ↔
        ∀ size, .allocate size ∉ history) ∧
      ∀ size, .allocate size ∈ history →
        (memory.read unit offset).map BitVec.toNat =
          if offset + unit.bytes ≤ memory.size then
            .ok (∑ index ∈ Finset.range unit.bytes,
              (memory.bytes.getD (offset + index) 0).toNat * 256 ^ index)
          else
            .error (.outOfRange offset unit.bytes memory.size)) ∧
    (memory.size < 2 ^ 64 → ∀ unit address,
      memory.readAt unit address = memory.read unit address.toNat) ∧
    ∀ offset,
      (memory.number? .word offset = do
        let low ← memory.number? .half offset
        let high ← memory.number? .half (offset + 2)
        return low + 256 ^ 2 * high) ∧
      memory.number? .word offset = do
        let byte0 ← memory.number? .byte offset
        let byte1 ← memory.number? .byte (offset + 1)
        let byte2 ← memory.number? .byte (offset + 2)
        let byte3 ← memory.number? .byte (offset + 3)
        return byte0 + 256 * byte1 + 256 ^ 2 * byte2 + 256 ^ 3 * byte3 := by
  refine ⟨exists_history memory, ?_, ?_, ?_⟩
  · intro history reached unit offset
    have allocated := isAllocated_iff_of_after? reached
    constructor
    · rw [read_eq_notAllocated_iff, ← Bool.not_eq_true, allocated]
      simp [isAllocated, unallocated]
    · intro size given
      rw [map_toNat_read_eq, allocated.mpr (.inr ⟨size, given⟩), if_neg (by simp)]
      rfl
  · intro machine unit address
    exact readAt_eq_read machine unit address
  · intro offset
    exact ⟨number?_eq_parts .word .half rfl memory offset,
      number?_word_eq_bytes memory offset⟩

/-- Memory of five bytes. -/
def fiveBytes : Memory :=
  ⟨some #[0x78, 0x56, 0x34, 0x12, 0xFF]⟩

/-- A word up to the end, one past it, and half a word whose end is no address. -/
theorem reads_are_exact_fiveBytes :
    (fiveBytes.read .word 1).map BitVec.toNat = .ok 0xFF123456 ∧
    fiveBytes.number? .word 2 = none ∧
    (fiveBytes.readAt .half 0xFFFFFFFFFFFFFFFF).map BitVec.toNat =
      .error (.outOfRange 0xFFFFFFFFFFFFFFFF 2 5) := by
  obtain ⟨-, reads, machine, parts⟩ := reads_are_exact fiveBytes
  have reached : unallocated.after?
      [.allocate 5, .write 0 #[0x78, 0x56, 0x34, 0x12, 0xFF]] = some fiveBytes := by
    decide
  refine ⟨?_, ?_, ?_⟩
  · rw [(reads _ reached .word 1).2 5 (by simp)]
    decide
  · rw [(parts 2).2]
    decide
  · rw [machine (by decide), (reads _ reached .half _).2 5 (by simp)]
    decide

end Bytecode.Memory
