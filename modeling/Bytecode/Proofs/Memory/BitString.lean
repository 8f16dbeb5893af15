import Bytecode.Except
import Bytecode.Memory.Bits
import Bytecode.Proofs.ByteOrder

/-!
# Words and fields as pieces of the bit string

Reading memory in whole words and cutting fields out of its bit string look at
the same bits:

* **words** (`getLsbD_of_readBigEndian`): a word read highest byte first holds
  the bits of memory right before the end of its window;
* **fields** (`testBit_field`, `toBits_field`): the field at a position spells
  the bits from there on, and is below `2 ^ width`;
* **bytes** (`bits_eq_bitString`): a piece of the bit string of memory is cut
  from the bits of its bytes, one byte after the other.
-/

namespace Bytecode

/-! ## Numbers and their bits -/

/-- The lowest `width` bits of a number, most significant bit first. -/
def toBits (width value : Nat) : List Bool :=
  (List.range width).map fun index => value.testBit (width - 1 - index)

theorem ofBits_append_singleton (bits : List Bool) (bit : Bool) :
    ofBits (bits ++ [bit]) = 2 * ofBits bits + bit.toNat := by
  simp [ofBits]

theorem length_toBits (width value : Nat) : (toBits width value).length = width := by
  simp [toBits]

theorem getElem?_toBits {width index : Nat} (value : Nat) (within : index < width) :
    (toBits width value)[index]? = some (value.testBit (width - 1 - index)) := by
  simp [toBits, within]

/-- The bits of some bytes, one byte after the other. -/
def bitString (bytes : List UInt8) : List Bool :=
  bytes.flatMap fun byte => toBits 8 byte.toNat

/-- Bit `index` of some bytes lies in byte `index / 8`, counted down from its
highest bit. -/
theorem getElem?_bitString (bytes : List UInt8) (index : Nat) :
    (bitString bytes)[index]? =
      bytes[index / 8]?.map fun byte => byte.toBitVec.getMsbD (index % 8) := by
  induction bytes generalizing index with
  | nil => simp [bitString]
  | cons first rest ih =>
      have whole : bitString (first :: rest) = toBits 8 first.toNat ++ bitString rest := rfl
      have length := length_toBits 8 first.toNat
      rw [whole]
      by_cases here : index < 8
      · have inFirst : index / 8 = 0 := Nat.div_eq_of_lt here
        have place : index % 8 = index := Nat.mod_eq_of_lt here
        rw [List.getElem?_append_left (by omega), getElem?_toBits _ here, inFirst, place,
          List.getElem?_cons_zero, Option.map_some, BitVec.getMsbD_eq_getLsbD]
        simp only [here, decide_true, Bool.true_and]
        rfl
      · -- past the first byte the index moves down by eight bits, or one byte
        have inRest : index / 8 = (index - 8) / 8 + 1 := by omega
        have place : index % 8 = (index - 8) % 8 := by omega
        rw [List.getElem?_append_right (by omega), length, ih, inRest, place,
          List.getElem?_cons_succ]

namespace Memory

variable {memory : Memory}

/-! ## Pieces of the bit string -/

/-- A piece of the bit string of memory is cut from the bits of its bytes. -/
theorem bits_eq_bitString {start width : Nat} (inside : start + width ≤ memory.bitLength) :
    memory.bits start width =
      ((bitString memory.bytes.toList).drop start).take width := by
  apply List.ext_getElem?
  intro index
  by_cases within : index < width
  · have place : (start + index) / 8 < memory.bytes.size := by
      simp only [bitLength, Memory.size] at inside
      omega
    rw [List.getElem?_take_of_lt within, List.getElem?_drop, getElem?_bitString]
    simp [bits, bit, within, place]
  · rw [List.getElem?_take, if_neg within]
    simp [bits, within]

/-! ## Windows and words -/

/-- A window of allocated memory fails only by reaching past the end. -/
theorem window_eq_error_iff {offset width : Nat} {cause : MemoryError}
    (allocated : memory.isAllocated = true) :
    memory.window offset width = .error cause ↔
      memory.size < offset + width ∧ cause = .outOfRange offset width memory.size := by
  rcases memory with ⟨_ | block⟩
  · simp [isAllocated] at allocated
  · by_cases inside : offset + width ≤ block.size
    · have fits : ¬ block.size < offset + width := by omega
      simp [window, Memory.size, Memory.bytes, inside, fits]
    · have past : block.size < offset + width := by omega
      simp [window, Memory.size, Memory.bytes, inside, past, eq_comm]

/-- Swapping the bytes of a word that was read lowest byte first reads its bytes
highest byte first. -/
theorem swapBytes_ofLittleEndian {unit : WordSize} {bytes : List UInt8}
    (length : bytes.length = unit.bytes) :
    swapBytes (BitVec.ofNat unit.bits (ofLittleEndian bytes)) =
      BitVec.ofNat unit.bits (ofBigEndian bytes) := by
  have small : ofLittleEndian bytes < 2 ^ unit.bits := by
    rw [WordSize.bits, Nat.pow_mul, ← length]
    exact ofLittleEndian_lt bytes
  rw [swapBytes, BitVec.toNat_ofNat, Nat.mod_eq_of_lt small, ← length,
    toLittleEndian_ofLittleEndian]

/-- A word read highest byte first spells the bytes of its window in this order. -/
theorem readBigEndian_eq (memory : Memory) (unit : WordSize) (offset : Nat) :
    memory.readBigEndian unit offset = (memory.window offset unit.bytes).map fun bytes =>
      BitVec.ofNat unit.bits (ofBigEndian bytes.toList) := by
  rw [readBigEndian, read, map_map]
  cases piece : memory.window offset unit.bytes with
  | error cause => rfl
  | ok bytes =>
      obtain ⟨-, inside, rfl⟩ := window_eq_ok_iff.mp piece
      have length : (memory.bytes.extract offset (offset + unit.bytes)).toList.length =
          unit.bytes := by
        simp only [Memory.size] at inside
        simp
        omega
      exact congrArg Except.ok (swapBytes_ofLittleEndian length)

theorem readBigEndian_eq_ok_iff {unit : WordSize} {offset : Nat}
    {word : BitVec unit.bits} :
    memory.readBigEndian unit offset = .ok word ↔
      memory.isAllocated = true ∧ offset + unit.bytes ≤ memory.size ∧
        word = BitVec.ofNat unit.bits (ofBigEndian
          (memory.bytes.extract offset (offset + unit.bytes)).toList) := by
  rw [readBigEndian_eq, map_eq_ok_iff]
  constructor
  · rintro ⟨bytes, piece, rfl⟩
    obtain ⟨allocated, inside, rfl⟩ := window_eq_ok_iff.mp piece
    exact ⟨allocated, inside, rfl⟩
  · rintro ⟨allocated, inside, rfl⟩
    exact ⟨_, window_eq_ok_iff.mpr ⟨allocated, inside, rfl⟩, rfl⟩

theorem readBigEndian_eq_error_iff {unit : WordSize} {offset : Nat}
    {cause : MemoryError} (allocated : memory.isAllocated = true) :
    memory.readBigEndian unit offset = .error cause ↔
      memory.size < offset + unit.bytes ∧
        cause = .outOfRange offset unit.bytes memory.size := by
  rw [readBigEndian_eq, map_eq_error_iff, window_eq_error_iff allocated]

/-- Bit `index` of memory lies in byte `index / 8`, counted down from its
highest bit. -/
theorem bit_eq_getLsbD (memory : Memory) (index : Nat) :
    memory.bit index =
      (memory.bytes.getD (index / 8) 0).toBitVec.getLsbD (7 - index % 8) := by
  have inside : index % 8 < 8 := Nat.mod_lt _ (by decide)
  rw [bit, BitVec.getMsbD_eq_getLsbD]
  simp [inside]

/-- Turned around, a window counts its bytes down from its last one. -/
theorem getD_reverse_extract {block : Bytes} {start width index : Nat}
    (inside : start + width ≤ block.size) (within : index < width) :
    (block.extract start (start + width)).toList.reverse.getD index 0 =
      block.getD (start + (width - 1 - index)) 0 := by
  have length : (block.extract start (start + width)).toList.length = width := by
    simp
    omega
  rw [List.getD_eq_getElem?_getD, List.getElem?_reverse (by omega), length,
    Array.getElem?_toList, Array.getElem?_extract, if_pos (by omega),
    Array.getD_eq_getD_getElem?]

/-- A word read highest byte first ends with the last bit of its window, and
going up in it goes back in memory. -/
theorem getLsbD_of_readBigEndian {unit : WordSize} {offset : Nat}
    {word : BitVec unit.bits} (done : memory.readBigEndian unit offset = .ok word)
    (index : Nat) :
    word.getLsbD index =
      (decide (index < unit.bits) &&
        memory.bit (8 * (offset + unit.bytes) - 1 - index)) := by
  obtain ⟨-, inside, rfl⟩ := readBigEndian_eq_ok_iff.mp done
  rw [BitVec.getLsbD_ofNat, ofBigEndian, testBit_ofLittleEndian, bit_eq_getLsbD]
  by_cases within : index < unit.bits
  · have short : index / 8 < unit.bytes := by
      simp only [WordSize.bits] at within
      omega
    have byteAt : (8 * (offset + unit.bytes) - 1 - index) / 8 =
        offset + (unit.bytes - 1 - index / 8) := by omega
    have bitAt : 7 - (8 * (offset + unit.bytes) - 1 - index) % 8 = index % 8 := by
      omega
    rw [getD_reverse_extract inside short, byteAt, bitAt]
  · simp [within]

/-! ## Fields -/

theorem field_succ (memory : Memory) (start width : Nat) :
    memory.field start (width + 1) =
      2 * memory.field start width + (memory.bit (start + width)).toNat := by
  rw [field, ← bits_append, show memory.bits (start + width) 1 =
    [memory.bit (start + width)] from rfl, ofBits_append_singleton, field]

/-- Bit `index` of a field, counted from its lowest bit. -/
theorem testBit_field (memory : Memory) (start width index : Nat) :
    (memory.field start width).testBit index =
      (decide (index < width) && memory.bit (start + width - 1 - index)) := by
  -- a wider field is the narrower one, moved up, and one more bit below it
  induction width generalizing index with
  | zero => simp [field, bits, ofBits]
  | succ width ih =>
      rw [field_succ]
      have bound := (memory.bit (start + width)).toNat_lt
      cases index with
      | zero => cases last : memory.bit (start + width) <;> simp [last]
      | succ index =>
          have halved : (2 * memory.field start width +
              (memory.bit (start + width)).toNat) / 2 = memory.field start width := by
            omega
          have place : start + (width + 1) - 1 - (index + 1) =
              start + width - 1 - index := by omega
          rw [Nat.testBit_succ, halved, ih, place]
          simp

theorem field_lt (memory : Memory) (start width : Nat) :
    memory.field start width < 2 ^ width := by
  apply Nat.lt_pow_two_of_testBit
  intro index past
  rw [testBit_field]
  simp [Nat.not_lt.mpr past]

/-- The bits of a field are the bits of memory that it was cut from. -/
theorem toBits_field (memory : Memory) (start width : Nat) :
    toBits width (memory.field start width) = memory.bits start width := by
  apply List.ext_getElem
  · simp [length_toBits]
  · intro index inside _
    have within : index < width := by simpa [length_toBits] using inside
    have below : width - 1 - index < width := by omega
    have place : start + width - 1 - (width - 1 - index) = start + 1 * index := by omega
    simp only [toBits, bits, List.getElem_map, List.getElem_range, List.getElem_range',
      testBit_field, below, place, decide_true, Bool.true_and]

end Memory

end Bytecode
