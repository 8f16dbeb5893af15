import Bytecode.ByteOrder
import Mathlib.Algebra.BigOperators.Ring.Finset
import Mathlib.Algebra.Ring.Nat

/-!
# Numbers and the bytes that spell them

A number spelled by some bytes is their sum, each weighted by its place. It is below
`256` to their number, what was written in `count` bytes reads back modulo
`256 ^ count`, and the bits of the number are those of its bytes.
-/

namespace Bytecode

/-- A number is the sum of the bytes that spell it, each weighted by its place. -/
theorem ofLittleEndian_eq_sum (bytes : List UInt8) :
    ofLittleEndian bytes =
      ∑ index ∈ Finset.range bytes.length, (bytes.getD index 0).toNat * 256 ^ index := by
  induction bytes with
  | nil => rfl
  | cons byte rest ih =>
      have shifted : ∀ index ∈ Finset.range rest.length,
          256 * ((rest.getD index 0).toNat * 256 ^ index) =
            ((byte :: rest).getD (index + 1) 0).toNat * 256 ^ (index + 1) := by
        intro index _
        rw [List.getD_cons_succ, Nat.pow_succ, Nat.mul_left_comm, Nat.mul_comm 256]
      rw [List.length_cons, Finset.sum_range_succ', ofLittleEndian, ih, Finset.mul_sum,
        Finset.sum_congr rfl shifted, Nat.add_comm]
      simp

theorem ofLittleEndian_lt (bytes : List UInt8) :
    ofLittleEndian bytes < 256 ^ bytes.length := by
  induction bytes with
  | nil => simp [ofLittleEndian]
  | cons byte rest ih =>
      have byteLt := byte.toNat_lt
      simp only [ofLittleEndian, List.length_cons, Nat.pow_succ]
      omega

/-- Reading back what was written gives the number modulo the room that it was
given. -/
theorem ofLittleEndian_toLittleEndian (count value : Nat) :
    ofLittleEndian (toLittleEndian count value) = value % 256 ^ count := by
  induction count generalizing value with
  | zero => simp [toLittleEndian, ofLittleEndian, Nat.mod_one]
  | succ count ih =>
      simp only [toLittleEndian, ofLittleEndian, ih, Nat.pow_succ]
      rw [Nat.mul_comm (256 ^ count) 256, Nat.mod_mul]
      simp

/-- Bit `index` of a number written lowest byte first lies in byte
`index / 8`. -/
theorem testBit_ofLittleEndian (bytes : List UInt8) (index : Nat) :
    (ofLittleEndian bytes).testBit index =
      (bytes.getD (index / 8) 0).toBitVec.getLsbD (index % 8) := by
  induction bytes generalizing index with
  | nil => simp [ofLittleEndian]
  | cons byte rest ih =>
      have byteLt : byte.toNat < 2 ^ 8 := byte.toNat_lt
      rw [ofLittleEndian, Nat.add_comm, show 256 = 2 ^ 8 from rfl,
        Nat.testBit_two_pow_mul_add _ byteLt]
      by_cases low : index < 8
      · rw [if_pos low, Nat.div_eq_of_lt low, Nat.mod_eq_of_lt low]
        rfl
      · have quotient : index / 8 = (index - 8) / 8 + 1 := by omega
        have remainder : (index - 8) % 8 = index % 8 := by omega
        rw [if_neg low, ih, quotient, List.getD_cons_succ, remainder]

end Bytecode
