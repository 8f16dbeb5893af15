/-!
# Byte order

A number is written as bytes with its lowest byte first (little-endian) or its
highest byte first (big-endian). Writing in `count` bytes keeps the number
modulo `256 ^ count`, and reading what was written gives that number back.
-/

namespace Bytecode

/-- The number whose base-256 digits are `bytes`, lowest digit first. -/
def ofLittleEndian : List UInt8 → Nat
  | [] => 0
  | byte :: rest => byte.toNat + 256 * ofLittleEndian rest

/-- The `count` lowest base-256 digits of `value`, lowest digit first. -/
def toLittleEndian : (count value : Nat) → List UInt8
  | 0, _ => []
  | count + 1, value => UInt8.ofNat value :: toLittleEndian count (value / 256)

/-- The number whose base-256 digits are `bytes`, highest digit first. -/
def ofBigEndian (bytes : List UInt8) : Nat :=
  ofLittleEndian bytes.reverse

@[simp] theorem length_toLittleEndian (count value : Nat) :
    (toLittleEndian count value).length = count := by
  induction count generalizing value with
  | zero => rfl
  | succ count ih => simp [toLittleEndian, ih]

/-- Writing what was read gives the bytes back. -/
theorem toLittleEndian_ofLittleEndian (bytes : List UInt8) :
    toLittleEndian bytes.length (ofLittleEndian bytes) = bytes := by
  induction bytes with
  | nil => rfl
  | cons byte rest ih =>
      have byteLt := byte.toNat_lt
      have quotient : (byte.toNat + 256 * ofLittleEndian rest) / 256 =
          ofLittleEndian rest := by omega
      have digit : UInt8.ofNat (byte.toNat + 256 * ofLittleEndian rest) = byte := by
        apply UInt8.toNat_inj.mp
        simp
      simp only [List.length_cons, ofLittleEndian, toLittleEndian, quotient, digit, ih]

end Bytecode
