import Bytecode.Memory.Basic

/-!
# Memory as a bit string

Read most significant bit first, the bytes of memory spell one bit string: bit
`8 * i + j` of memory is bit `7 - j` of byte `i`. This is the plain account of
what a field of some width at some bit position holds, without any buffering.
-/

namespace Bytecode

/-- The number spelled by a bit string, most significant bit first. -/
def ofBits (bits : List Bool) : Nat :=
  bits.foldl (fun value bit => 2 * value + bit.toNat) 0

namespace Memory

def bitLength (memory : Memory) : Nat :=
  8 * memory.size

/-- Bit `index` of memory; past its end every bit is clear. -/
def bit (memory : Memory) (index : Nat) : Bool :=
  (memory.bytes.getD (index / 8) 0).toBitVec.getMsbD (index % 8)

/-- The `width` bits of memory from `start` on. -/
def bits (memory : Memory) (start width : Nat) : List Bool :=
  (List.range' start width).map memory.bit

/-- The number below `2 ^ width` that the `width` bits from `start` on spell. -/
def field (memory : Memory) (start width : Nat) : Nat :=
  ofBits (memory.bits start width)

@[simp] theorem length_bits (memory : Memory) (start width : Nat) :
    (memory.bits start width).length = width := by
  simp [bits]

/-- Adjacent pieces of the bit string join without gap or overlap. -/
theorem bits_append (memory : Memory) (start first second : Nat) :
    memory.bits start first ++ memory.bits (start + first) second =
      memory.bits start (first + second) := by
  simp [bits, ← List.map_append, List.range'_append_1]

end Memory

end Bytecode
