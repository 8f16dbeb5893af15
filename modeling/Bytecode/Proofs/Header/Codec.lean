import Bytecode.Except
import Bytecode.Header.Basic
import Bytecode.Proofs.ByteOrder

/-!
# The packed header and its fields

Packing a header and taking it apart again are inverse to each other wherever
the signature is there (`parse_eq_ok_iff`). What an executable is accepted for
follows from that: its first bytes are the packed form of a header with the
signature, and its length is the one which that header declares
(`accept_eq_ok_iff`). What any other one is refused for is settled by the first
of three checks that fails (`accept_eq`).

Headers and their packed forms correspond one to one, with the signature or without
it; only those with the signature are read back (`packed_form_corresponds`).
-/

namespace Bytecode.Header

/-! ## Four bytes and their number -/

/-- The number in the four bytes of a block from `start` on, lowest byte first. -/
def numberAt (bytes : Bytes) (start : Nat) : Nat :=
  ofLittleEndian (bytes.extract start (start + 4)).toList

theorem numberAt_lt (bytes : Bytes) (start : Nat) : numberAt bytes start < 2 ^ 32 := by
  have few : (bytes.extract start (start + 4)).toList.length ≤ 4 := by
    rw [Array.length_toList, Array.size_extract]
    omega
  have bound := ofLittleEndian_lt (bytes.extract start (start + 4)).toList
  have room : 256 ^ (bytes.extract start (start + 4)).toList.length ≤ 2 ^ 32 :=
    Nat.pow_le_pow_right (by decide) few
  exact Nat.lt_of_lt_of_le bound room

theorem toNat_ofNat_numberAt (bytes : Bytes) (start : Nat) :
    (UInt32.ofNat (numberAt bytes start)).toNat = numberAt bytes start :=
  UInt32.toNat_ofNat_of_lt' (numberAt_lt bytes start)

theorem toList_extract_four {bytes : Vector UInt8 byteCount} (start : Nat) :
    (bytes.toArray.extract start (start + 4)).toList =
      (bytes.toList.drop start).take 4 := by
  rw [Array.toList_extract, List.extract_eq_take_drop, Nat.add_sub_cancel_left]
  rfl

/-- The number in four bytes, written again, gives the four bytes. -/
theorem toLittleEndian_sizeAt {bytes : Vector UInt8 byteCount} {start : Nat}
    (inside : start + 4 ≤ byteCount) :
    toLittleEndian 4 (sizeAt bytes start).toNat = (bytes.toList.drop start).take 4 := by
  have length : ((bytes.toList.drop start).take 4).length = 4 := by
    simp
    omega
  have exact32 : (sizeAt bytes start).toNat =
      ofLittleEndian ((bytes.toList.drop start).take 4) := by
    rw [← toList_extract_four]
    exact toNat_ofNat_numberAt bytes.toArray start
  have back := toLittleEndian_ofLittleEndian ((bytes.toList.drop start).take 4)
  rw [length] at back
  rw [exact32, back]

/-- Four bytes that were written for a number hold that number. -/
theorem sizeAt_of_take_drop {bytes : Vector UInt8 byteCount} {start : Nat}
    {size : UInt32}
    (written : (bytes.toList.drop start).take 4 = toLittleEndian 4 size.toNat) :
    sizeAt bytes start = size := by
  rw [sizeAt, toList_extract_four, written, ofLittleEndian_toLittleEndian]
  apply UInt32.toNat_inj.mp
  rw [UInt32.toNat_ofNat', Nat.mod_mod_of_dvd _ (by decide)]
  exact Nat.mod_eq_of_lt size.toNat_lt

/-! ## Fields of the packed form -/

theorem toList_toBytes (header : Header) :
    header.toBytes.toList = header.magic.toList ++
      toLittleEndian 4 header.codeSize.toNat ++ toLittleEndian 4 header.dataSize.toNat ++
        toLittleEndian 4 header.initialDataSize.toNat := rfl

theorem sizeAt_toBytes (header : Header) :
    sizeAt header.toBytes 8 = header.codeSize ∧
      sizeAt header.toBytes 12 = header.dataSize ∧
      sizeAt header.toBytes 16 = header.initialDataSize := by
  refine ⟨?_, ?_, ?_⟩
  · apply sizeAt_of_take_drop
    simp [toList_toBytes]
  · apply sizeAt_of_take_drop
    simp [toList_toBytes, List.drop_append, List.drop_of_length_le]
  · apply sizeAt_of_take_drop
    simp [toList_toBytes, List.drop_append, List.drop_of_length_le,
      List.take_of_length_le]

theorem extract_toBytes (header : Header) :
    header.toBytes.toArray.extract 0 8 = header.magic.toArray := by
  apply Array.toList_inj.mp
  rw [Array.toList_extract, List.extract_eq_take_drop]
  show header.toBytes.toList.take 8 = header.magic.toList
  simp [toList_toBytes]

/-! ## Taking apart and putting together -/

theorem checkSignature_eq_ok_iff {start : Bytes} :
    checkSignature start = .ok () ↔ start = signature.toArray := by
  unfold checkSignature
  split <;> simp [*]

/-- The fields of a header lie one after the other and leave nothing out. -/
theorem toList_eq_fields (bytes : Vector UInt8 byteCount) :
    bytes.toList.take 8 ++ (bytes.toList.drop 8).take 4 ++ (bytes.toList.drop 12).take 4 ++
      (bytes.toList.drop 16).take 4 = bytes.toList := by
  have length : (bytes.toList.drop 16).length = 4 := by simp [byteCount]
  have fourth : (bytes.toList.drop 16).take 4 = bytes.toList.drop 16 :=
    List.take_of_length_le (by omega)
  have third : (bytes.toList.drop 12).take 4 ++ bytes.toList.drop 16 =
      bytes.toList.drop 12 := by
    rw [show 16 = 12 + 4 from rfl, ← List.drop_drop, List.take_append_drop]
  have second : (bytes.toList.drop 8).take 4 ++ bytes.toList.drop 12 =
      bytes.toList.drop 8 := by
    rw [show 12 = 8 + 4 from rfl, ← List.drop_drop, List.take_append_drop]
  rw [fourth, List.append_assoc, third, List.append_assoc, second, List.take_append_drop]

/-- A header is read from 20 bytes exactly when it carries the signature and they
are its packed form. -/
theorem parse_eq_ok_iff {bytes : Vector UInt8 byteCount} {header : Header} :
    parse bytes = .ok header ↔ header.magic = signature ∧ bytes = header.toBytes := by
  constructor
  · intro parsed
    unfold parse at parsed
    obtain ⟨_, checked, read⟩ := bind_eq_ok_iff.mp parsed
    cases read
    refine ⟨Vector.toArray_inj.mp (checkSignature_eq_ok_iff.mp checked), ?_⟩
    apply Vector.toList_inj.mp
    rw [toList_toBytes, toLittleEndian_sizeAt (by decide),
      toLittleEndian_sizeAt (by decide), toLittleEndian_sizeAt (by decide)]
    show bytes.toList = (bytes.toArray.extract 0 8).toList ++ _ ++ _ ++ _
    rw [Array.toList_extract, List.extract_eq_take_drop]
    exact (toList_eq_fields bytes).symm
  · rintro ⟨signed, rfl⟩
    obtain ⟨codeSize, dataSize, initialDataSize⟩ := sizeAt_toBytes header
    have checked : checkSignature (header.toBytes.toArray.extract 0 8) = .ok () := by
      rw [checkSignature_eq_ok_iff, extract_toBytes, signed]
    have magic : ∀ whole, (⟨header.toBytes.toArray.extract 0 8, whole⟩ : Vector UInt8 8) =
        header.magic := fun _ => Vector.toArray_inj.mp (extract_toBytes header)
    simp only [parse, checked, bind, Except.bind, pure, Except.pure, codeSize, dataSize,
      initialDataSize, magic]

/-- A packed header with the signature is judged by the length alone. -/
theorem accept_toBytes {header : Header} (signed : header.magic = signature) (length : Nat) :
    accept length header.toBytes.toArray =
      if length = header.fileSize then
        .ok header
      else
        .error (.invalidSize header.fileSize length) := by
  have checked : checkSignature (header.toBytes.toArray.extract 0 8) = .ok () := by
    rw [checkSignature_eq_ok_iff, extract_toBytes, signed]
  have whole : header.toBytes.toArray.size = byteCount := header.toBytes.size_toArray
  have parsed : parse ⟨header.toBytes.toArray, whole⟩ = .ok header :=
    parse_eq_ok_iff.mpr ⟨signed, rfl⟩
  simp only [accept, checked, bind, Except.bind, whole, parsed, dite_true]
  rfl

/-- A header is accepted exactly when it carries the signature, the first bytes
are its packed form and the length is the one that it declares. -/
theorem accept_eq_ok_iff {length : Nat} {start : Bytes} {header : Header} :
    accept length start = .ok header ↔
      header.magic = signature ∧ start = header.toBytes.toArray ∧
        length = header.fileSize := by
  constructor
  · intro accepted
    unfold accept at accepted
    obtain ⟨_, -, complete⟩ := bind_eq_ok_iff.mp accepted
    split at complete
    · next whole =>
        obtain ⟨found, parsed, fits⟩ := bind_eq_ok_iff.mp complete
        split at fits
        · next declared =>
            cases fits
            obtain ⟨signed, packed⟩ := parse_eq_ok_iff.mp parsed
            exact ⟨signed, congrArg Vector.toArray packed, declared⟩
        · cases fits
    · cases complete
  · rintro ⟨signed, rfl, rfl⟩
    rw [accept_toBytes signed, if_pos rfl]

/-! ## Refusals -/

/-- The header with the signature and the sizes that a block spells at their
places. -/
def ofStart (bytes : Bytes) : Header :=
  .ofSizes (.ofNat (numberAt bytes 8)) (.ofNat (numberAt bytes 12))
    (.ofNat (numberAt bytes 16))

theorem fileSize_ofStart (bytes : Bytes) :
    (ofStart bytes).fileSize = 20 + numberAt bytes 8 + numberAt bytes 16 := by
  show 20 + (UInt32.ofNat _).toNat + (UInt32.ofNat _).toNat = _
  rw [toNat_ofNat_numberAt, toNat_ofNat_numberAt]

theorem parse_of_signed {bytes : Vector UInt8 byteCount}
    (signed : bytes.toArray.extract 0 8 = signature.toArray) :
    parse bytes = .ok (ofStart bytes.toArray) := by
  have checked := checkSignature_eq_ok_iff.mpr signed
  have magic : ∀ whole, (⟨bytes.toArray.extract 0 8, whole⟩ : Vector UInt8 8) = signature :=
    fun _ => Vector.toArray_inj.mp signed
  simp only [parse, checked, bind, Except.bind, magic]
  rfl

/-- The first check that fails decides: the signature, the completeness of the
header, the length. -/
theorem accept_eq (length : Nat) (start : Bytes) :
    accept length start =
      if start.extract 0 8 ≠ signature.toArray then
        .error (.invalidSignature
          (String.ofList (Text.ofUtf8Lossy (start.extract 0 8).toList)))
      else if start.size ≠ byteCount then
        .error (.invalidSize byteCount length)
      else if length ≠ (ofStart start).fileSize then
        .error (.invalidSize (ofStart start).fileSize length)
      else
        .ok (ofStart start) := by
  unfold accept
  by_cases signed : start.extract 0 8 = signature.toArray
  · rw [checkSignature_eq_ok_iff.mpr signed, if_neg (not_not_intro signed)]
    show (if whole : start.size = byteCount then _ else _) = _
    by_cases whole : start.size = byteCount
    · rw [dif_pos whole, if_neg (not_not_intro whole), parse_of_signed signed]
      show (if length = (ofStart start).fileSize then _ else _) = _
      by_cases fits : length = (ofStart start).fileSize
      · rw [if_pos fits, if_neg (not_not_intro fits)]
        rfl
      · rw [if_neg fits, if_pos fits]
        rfl
    · rw [dif_neg whole, if_pos whole]
      rfl
  · rw [if_pos signed, checkSignature, if_neg signed]
    rfl

/-- No check of a header is a fault of a source. -/
theorem accept_ne_io (length : Nat) (start : Bytes) (cause : IoFault) :
    accept length start ≠ .error (.io cause) := by
  rw [accept_eq]
  split
  · simp
  · split
    · simp
    · split <;> simp

/-! ## Headers and their packed forms -/

/-- The fields of a header are all in its packed form, whatever its magic. -/
theorem toBytes_injective {header other : Header} (same : header.toBytes = other.toBytes) :
    header = other := by
  obtain ⟨codeSize, dataSize, initialDataSize⟩ := sizeAt_toBytes header
  obtain ⟨otherCodeSize, otherDataSize, otherInitialDataSize⟩ := sizeAt_toBytes other
  have magic : header.magic = other.magic := by
    apply Vector.toArray_inj.mp
    rw [← extract_toBytes, ← extract_toBytes, same]
  rw [same] at codeSize dataSize initialDataSize
  rcases header with ⟨_, _, _, _⟩
  rcases other with ⟨_, _, _, _⟩
  simp only [mk.injEq]
  exact ⟨magic, codeSize.symm.trans otherCodeSize, dataSize.symm.trans otherDataSize,
    initialDataSize.symm.trans otherInitialDataSize⟩

/-- 20 bytes are read if the first eight are the signature, and refused for these eight
if not. -/
theorem parse_eq (bytes : Vector UInt8 byteCount) :
    parse bytes =
      if bytes.toArray.extract 0 8 = signature.toArray then
        .ok (ofStart bytes.toArray)
      else
        .error (.invalidSignature
          (String.ofList (Text.ofUtf8Lossy (bytes.toArray.extract 0 8).toList))) := by
  by_cases signed : bytes.toArray.extract 0 8 = signature.toArray
  · rw [if_pos signed, parse_of_signed signed]
  · rw [if_neg signed, parse, checkSignature, if_neg signed]
    rfl

/-- **A header corresponds to its packed form.** What was packed is read back if it
carries the signature, and is refused for its magic if not. 20 bytes are read exactly if
they start with the signature, and then as the header that packs into them. No two
headers have one packed form, whatever their magic. -/
theorem packed_form_corresponds (header other : Header) (bytes : Vector UInt8 byteCount) :
    parse header.toBytes =
      (if header.magic = signature then
        .ok header
      else
        .error (.invalidSignature
          (String.ofList (Text.ofUtf8Lossy header.magic.toList)))) ∧
    ((∃ found, parse bytes = .ok found) ↔ bytes.toList.take 8 = signature.toList) ∧
    (parse bytes = .ok header ↔ header.magic = signature ∧ header.toBytes = bytes) ∧
    (header.toBytes = other.toBytes ↔ header = other) := by
  refine ⟨?_, ?_, ?_, ?_⟩
  · by_cases signed : header.magic = signature
    · rw [if_pos signed]
      exact parse_eq_ok_iff.mpr ⟨signed, rfl⟩
    · have unsigned : ¬ header.magic.toArray = signature.toArray :=
        fun same => signed (Vector.toArray_inj.mp same)
      rw [if_neg signed, parse_eq, extract_toBytes, if_neg unsigned]
      rfl
  · have front : bytes.toArray.extract 0 8 = signature.toArray ↔
        bytes.toList.take 8 = signature.toList := by
      rw [← Array.toList_inj, Array.toList_extract, List.extract_eq_take_drop]
      rfl
    rw [parse_eq, ← front]
    by_cases signed : bytes.toArray.extract 0 8 = signature.toArray
    · simp [signed]
    · simp [signed]
  · rw [parse_eq_ok_iff, eq_comm (a := bytes)]
  · exact ⟨toBytes_injective, congrArg toBytes⟩

end Bytecode.Header
