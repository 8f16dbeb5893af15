import Bytecode.Bytes
import Bytecode.ByteOrder

/-!
# Machine memory

The memory of the machine is one contiguous block of bytes, sized by
`allocate`. Reads are bounds checked and never change it; a read of several
bytes takes the lowest byte first unless it says otherwise.

Memory that was never allocated differs from memory allocated with size zero:
reading the first fails with `notAllocated`, reading the second with
`outOfRange`.
-/

namespace Bytecode

/-- The sizes in which memory is read. -/
inductive WordSize where
  | byte
  | half
  | word
deriving DecidableEq, Repr

namespace WordSize

/-- How many bytes a word of this size takes. -/
def bytes : WordSize → Nat
  | byte => 1
  | half => 2
  | word => 4

def bits (size : WordSize) : Nat :=
  8 * size.bytes

theorem bytes_pos (size : WordSize) : 0 < size.bytes := by
  cases size <;> decide

theorem bits_pos (size : WordSize) : 0 < size.bits := by
  cases size <;> decide

end WordSize

/-- Why a read of memory fails. -/
inductive MemoryError where
  | notAllocated
  /-- Some of the `width` bytes at `offset` lie past the `size` bytes of
  memory. -/
  | outOfRange (offset width size : Nat)
deriving DecidableEq, Repr

def MemoryError.message : MemoryError → String
  | notAllocated => "Memory not allocated"
  | outOfRange offset width size =>
      s!"Offset {offset} out of range: reading {width} bytes from memory of {size} bytes"

/-- Machine memory: a block of bytes, or nothing before the first allocation. -/
structure Memory where
  block : Option Bytes
deriving DecidableEq

namespace Memory

def unallocated : Memory :=
  ⟨none⟩

/-- Whether memory was ever allocated, be it with size zero. -/
def isAllocated (memory : Memory) : Bool :=
  memory.block.isSome

/-- The bytes of memory; there are none before the first allocation. -/
def bytes (memory : Memory) : Bytes :=
  memory.block.getD #[]

def size (memory : Memory) : Nat :=
  memory.bytes.size

def isEmpty (memory : Memory) : Bool :=
  memory.size == 0

/-- Resizes memory to `size` bytes. Bytes that stay in range are kept and any new
tail is zero. -/
def allocate (memory : Memory) (size : Nat) : Memory :=
  ⟨some (memory.bytes.resize size)⟩

/-! ## Reading -/

/-- The `width` bytes at `offset`. -/
def window (memory : Memory) (offset width : Nat) : Except MemoryError Bytes :=
  match memory.block with
  | none => .error .notAllocated
  | some block =>
      if offset + width ≤ block.size then
        .ok (block.extract offset (offset + width))
      else
        .error (.outOfRange offset width block.size)

/-- The word of the given size at `offset`, lowest byte first. -/
def read (memory : Memory) (size : WordSize) (offset : Nat) :
    Except MemoryError (BitVec size.bits) :=
  (memory.window offset size.bytes).map fun bytes =>
    BitVec.ofNat size.bits (ofLittleEndian bytes.toList)

/-- The word with its bytes in the opposite order. -/
def swapBytes {size : WordSize} (word : BitVec size.bits) : BitVec size.bits :=
  BitVec.ofNat size.bits (ofBigEndian (toLittleEndian size.bytes word.toNat))

/-- The word of the given size at `offset`, highest byte first. -/
def readBigEndian (memory : Memory) (size : WordSize) (offset : Nat) :
    Except MemoryError (BitVec size.bits) :=
  (memory.read size offset).map swapBytes

/-! ## Writing -/

/-- Memory after `change` was applied to its block. Memory that was never
allocated has no block to change. -/
def modify (memory : Memory) (change : Bytes → Bytes) : Memory :=
  ⟨memory.block.map change⟩

/-- Lays `piece` over the bytes from `start` on, or gives `none` when it does not
fit. Writing nothing within the length of memory changes nothing. -/
def write? (memory : Memory) (start : Nat) (piece : Bytes) : Option Memory :=
  (memory.bytes.overlay? start piece).map fun changed =>
    memory.modify fun _ => changed

/-- Replaces every byte by what `value` gives for its index and the byte there
now. -/
def mapBytes (memory : Memory) (value : Nat → UInt8 → UInt8) : Memory :=
  memory.modify fun block => block.mapIdx value

/-! ## What each operation does to the block -/

@[simp] theorem size_unallocated : unallocated.size = 0 := rfl

@[simp] theorem isAllocated_allocate (memory : Memory) (size : Nat) :
    (memory.allocate size).isAllocated = true := rfl

@[simp] theorem bytes_allocate (memory : Memory) (size : Nat) :
    (memory.allocate size).bytes = memory.bytes.resize size := rfl

@[simp] theorem size_allocate (memory : Memory) (size : Nat) :
    (memory.allocate size).size = size := by
  simp [Memory.size]

@[simp] theorem isAllocated_modify (memory : Memory) (change : Bytes → Bytes) :
    (memory.modify change).isAllocated = memory.isAllocated := by
  simp [modify, isAllocated]

@[simp] theorem isAllocated_mapBytes (memory : Memory) (value : Nat → UInt8 → UInt8) :
    (memory.mapBytes value).isAllocated = memory.isAllocated :=
  isAllocated_modify memory _

@[simp] theorem bytes_mapBytes (memory : Memory) (value : Nat → UInt8 → UInt8) :
    (memory.mapBytes value).bytes = memory.bytes.mapIdx value := by
  rcases memory with ⟨_ | block⟩
  · rfl
  · rfl

/-- A piece that fits is laid over the bytes of memory. On memory that was never
allocated only the empty piece fits, and changes nothing. -/
theorem exists_write?_eq_some {memory : Memory} {start : Nat} {piece : Bytes}
    (fits : start + piece.size ≤ memory.size) :
    ∃ next, memory.write? start piece = some next ∧
      next.isAllocated = memory.isAllocated ∧
      memory.bytes.overlay? start piece = some next.bytes := by
  obtain ⟨changed, laid⟩ : ∃ changed, memory.bytes.overlay? start piece = some changed :=
    ⟨_, if_pos fits⟩
  refine ⟨memory.modify fun _ => changed, by rw [write?, laid]; rfl,
    isAllocated_modify memory _, ?_⟩
  have length := Bytes.size_of_overlay? laid
  rcases memory with ⟨_ | block⟩
  · have empty : changed = #[] := Array.size_eq_zero_iff.mp length
    rw [laid, empty]
    rfl
  · exact laid

/-- A window exists exactly when memory is allocated and the window ends within
it. -/
theorem window_eq_ok_iff {memory : Memory} {offset width : Nat} {bytes : Bytes} :
    memory.window offset width = .ok bytes ↔
      memory.isAllocated = true ∧ offset + width ≤ memory.size ∧
        bytes = memory.bytes.extract offset (offset + width) := by
  rcases memory with ⟨_ | block⟩
  · simp [window, isAllocated]
  · by_cases inside : offset + width ≤ block.size
    · simp [window, isAllocated, Memory.size, Memory.bytes, inside, eq_comm]
    · simp [window, isAllocated, Memory.size, Memory.bytes, inside]

end Memory

end Bytecode
