/-!
# Bit fields

Instructions are packed bit by bit: an operation may take 3 bits, a register 4
and a constant 32. A field is 1 to 32 bits wide, and a field whose width is
known beforehand is kept in the narrowest of three word sizes.
-/

namespace Bytecode

/-- The width of a field in bits. -/
structure FieldWidth where
  bits : Nat
  one_le_bits : 1 ≤ bits
  bits_le : bits ≤ 32
deriving DecidableEq

/-- The field width of that many bits, if there is one. -/
def FieldWidth.ofNat? (bits : Nat) : Option FieldWidth :=
  if inRange : 1 ≤ bits ∧ bits ≤ 32 then
    some ⟨bits, inRange.1, inRange.2⟩
  else
    none

theorem FieldWidth.ofNat?_eq_some_iff {bits : Nat} {width : FieldWidth} :
    FieldWidth.ofNat? bits = some width ↔ width.bits = bits := by
  unfold FieldWidth.ofNat?
  constructor
  · intro found
    split at found
    · simp only [Option.some.injEq] at found
      simp [← found]
    · simp at found
  · rintro rfl
    simp [width.one_le_bits, width.bits_le]

theorem FieldWidth.ofNat?_eq_none_iff {bits : Nat} :
    FieldWidth.ofNat? bits = none ↔ bits = 0 ∨ 32 < bits := by
  unfold FieldWidth.ofNat?
  split <;> simp <;> omega

/-- The value of a field, in the narrowest word that holds its width. -/
inductive Field where
  | byte (value : BitVec 8)
  | half (value : BitVec 16)
  | word (value : BitVec 32)
deriving DecidableEq, Repr

namespace Field

/-- Keeps the value of a field of the given width in the narrowest word for that
width. -/
def narrow (width : FieldWidth) (value : BitVec 32) : Field :=
  if width.bits ≤ 8 then
    .byte (value.setWidth 8)
  else if width.bits ≤ 16 then
    .half (value.setWidth 16)
  else
    .word value

def toNat : Field → Nat
  | byte value => value.toNat
  | half value => value.toNat
  | word value => value.toNat

end Field

end Bytecode
