import Bytecode.Proofs.Executable.RoundTrip

/-!
# The length that a builder declares

A header has 32 bits for the length of the code and 32 for that of the data. A builder
takes parts of any length, and of a longer one it declares the low 32 bits
(`fileSize_header`). What it builds has the declared length, and passes the check of it,
exactly if both parts are shorter than `2 ^ 32` bytes
(`built_executable_passes_size_check_iff`): what is lost of one length is never made up
for by the other. Code of just `2 ^ 32` bytes is declared empty
(`size_check_refuses_two_pow_32`).
-/

namespace Bytecode.ExecutableBuilder

theorem size_toBytes (builder : ExecutableBuilder) :
    builder.toBytes.size = 20 + builder.code.size + builder.data.size := by
  have start : builder.header.toBytes.toArray.size = 20 := builder.header.toBytes.size_toArray
  rw [toBytes, Array.size_append, Array.size_append, start]

/-- Of the length of a part the header declares the low 32 bits. -/
theorem fileSize_header (builder : ExecutableBuilder) :
    builder.header.fileSize =
      20 + builder.code.size % 2 ^ 32 + builder.data.size % 2 ^ 32 := by
  show 20 + (UInt32.ofNat builder.code.size).toNat +
    (UInt32.ofNat builder.data.size).toNat = _
  rw [UInt32.toNat_ofNat', UInt32.toNat_ofNat']

/-- The declared length is the true one exactly if nothing of either part is lost. -/
theorem size_toBytes_eq_fileSize_iff (builder : ExecutableBuilder) :
    builder.toBytes.size = builder.header.fileSize ↔
      builder.code.size < 2 ^ 32 ∧ builder.data.size < 2 ^ 32 := by
  have code := Nat.mod_le builder.code.size (2 ^ 32)
  have data := Nat.mod_le builder.data.size (2 ^ 32)
  rw [size_toBytes, fileSize_header]
  constructor
  · intro same
    -- neither remainder exceeds its length, so both are equal to it
    have codeKept : builder.code.size % 2 ^ 32 = builder.code.size := by omega
    have dataKept : builder.data.size % 2 ^ 32 = builder.data.size := by omega
    exact ⟨(Nat.mod_eq_iff_lt (by decide)).mp codeKept,
      (Nat.mod_eq_iff_lt (by decide)).mp dataKept⟩
  · rintro ⟨codeFits, dataFits⟩
    rw [Nat.mod_eq_of_lt codeFits, Nat.mod_eq_of_lt dataFits]

/-- What was built is judged by its length alone, whatever its parts. -/
theorem exists_ofBytes_toBytes_eq (builder : ExecutableBuilder) :
    ∃ source, Executable.ofBytes builder.toBytes =
      if builder.toBytes.size = builder.header.fileSize then
        .ok { header := builder.header, source, fileSize := builder.toBytes.size, sections := [] }
      else
        .error (.invalidSize builder.header.fileSize builder.toBytes.size) := by
  obtain ⟨source, -, made⟩ := Executable.exists_ofBytes_eq builder.toBytes
  have start : builder.toBytes.extract 0 Header.byteCount = builder.header.toBytes.toArray :=
    builder.header.extract_start builder.code builder.data
  refine ⟨source, ?_⟩
  rw [made, start, Header.accept_toBytes rfl]
  split <;> rfl

/-- **A built executable passes the size check exactly if its parts are short.** The
header declares the lengths of code and data modulo `2 ^ 32`. So the executable has the
declared length, and is accepted with the header of its builder, exactly if both parts
are shorter than `2 ^ 32` bytes. Any other one is refused for its length. -/
theorem built_executable_passes_size_check_iff (builder : ExecutableBuilder) :
    let image := builder.toBytes
    let short := builder.code.size < 2 ^ 32 ∧ builder.data.size < 2 ^ 32
    let declared := 20 + builder.code.size % 2 ^ 32 + builder.data.size % 2 ^ 32
    image.size = 20 + builder.code.size + builder.data.size ∧
    builder.header.fileSize = declared ∧
    (image.size = builder.header.fileSize ↔ short) ∧
    ((∀ expected actual, Executable.ofBytes image ≠ .error (.invalidSize expected actual)) ↔
      short) ∧
    (Executable.ofBytes image).map Executable.summary =
      if short then
        .ok (builder.header, image.size)
      else
        .error (.invalidSize declared image.size) := by
  intro image short declared
  have kept : image.size = builder.header.fileSize ↔ short := size_toBytes_eq_fileSize_iff builder
  obtain ⟨source, judged⟩ := exists_ofBytes_toBytes_eq builder
  refine ⟨size_toBytes builder, fileSize_header builder, kept, ?_, ?_⟩
  · by_cases fits : short
    · simp [image, judged, if_pos (kept.mpr fits), fits]
    · simp [image, judged, if_neg (mt kept.mp fits), fits]
  · by_cases fits : short
    · rw [judged, if_pos (kept.mpr fits), if_pos fits]
      rfl
    · rw [judged, if_neg (mt kept.mp fits), if_neg fits, fileSize_header]
      rfl

/-- Code of `2 ^ 32` bytes is declared empty, so what is built from it is longer than
declared and refused. -/
theorem size_check_refuses_two_pow_32 :
    let builder := empty.withCode (Bytes.zeroed (2 ^ 32))
    builder.header.fileSize = 20 ∧ builder.toBytes.size = 2 ^ 32 + 20 ∧
      Executable.ofBytes builder.toBytes = .error (.invalidSize 20 (2 ^ 32 + 20)) := by
  intro builder
  have code : builder.code.size = 2 ^ 32 := Bytes.size_zeroed _
  have data : builder.data.size = 0 := rfl
  have declared : builder.header.fileSize = 20 := by
    rw [fileSize_header, code, data, Nat.mod_self, Nat.zero_mod]
  have length : builder.toBytes.size = 2 ^ 32 + 20 := by
    rw [size_toBytes, code, data, Nat.add_zero, Nat.add_comm]
  obtain ⟨source, judged⟩ := exists_ofBytes_toBytes_eq builder
  refine ⟨declared, length, ?_⟩
  rw [judged, declared, length, if_neg (by decide)]

end Bytecode.ExecutableBuilder
