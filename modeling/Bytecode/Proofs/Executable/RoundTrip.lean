import Bytecode.Executable.Builder
import Bytecode.Proofs.Executable.Loading

/-!
# Building and loading executables

The builder and the loader agree on what an executable is: the packed form of a
header with the signature, then as many bytes of code and of data as the header
declares.

* What was built from code and data of less than `2 ^ 32` bytes each loads back
  to just these (`built_executable_loads`).
* What is accepted is what a builder makes of the sections that it loads to
  (`accepted_executable_is_built`), so acceptance loses nothing.
-/

namespace Bytecode

/-! ## The parts of an executable -/

namespace Header

/-- The length of the code and of the data are the ones that the header
declares. -/
structure Declares (header : Header) (code data : Bytes) : Prop where
  code_size : code.size = header.codeSize.toNat
  data_size : data.size = header.initialDataSize.toNat

variable {header : Header} {code data : Bytes}

theorem Declares.hasData_iff (declares : header.Declares code data) :
    header.hasData = true ↔ data ≠ #[] := by
  rw [header.hasData_iff, ← declares.data_size, ne_eq, ne_eq, Array.size_eq_zero_iff]

/-- Whatever its parts, an executable starts with its packed header. -/
theorem extract_start (header : Header) (code data : Bytes) :
    (header.toBytes.toArray ++ code ++ data).extract 0 byteCount = header.toBytes.toArray := by
  have start : header.toBytes.toArray.size = 20 := header.toBytes.size_toArray
  have cut := Array.extract_eq_self_of_le (Nat.le_of_eq start)
  simp [start, byteCount, cut]

/-- The parts of an executable lie where its header says. -/
theorem Declares.parts (declares : header.Declares code data) :
    let image := header.toBytes.toArray ++ code ++ data
    image.size = header.fileSize ∧ image.extract 0 byteCount = header.toBytes.toArray ∧
      image.extract header.codeOffset header.dataOffset = code ∧
      image.extract header.dataOffset header.fileSize = data := by
  intro image
  have start : header.toBytes.toArray.size = 20 := header.toBytes.size_toArray
  have codeLength := declares.code_size
  have dataLength := declares.data_size
  have codeAt : header.codeOffset = 20 := rfl
  have dataAt : header.dataOffset = 20 + code.size := by rw [codeLength]; rfl
  have finish : header.fileSize = 20 + code.size + data.size := by
    rw [dataLength, ← dataAt]; rfl
  refine ⟨?_, header.extract_start code data, ?_, ?_⟩
  · simp only [image, Array.size_append, start, finish]
  · simp [image, start, codeAt, dataAt]
  · -- of header and code nothing is left past `dataOffset`
    have past : header.toBytes.toArray.extract (20 + code.size)
        (20 + code.size + data.size) = #[] :=
      Array.extract_eq_empty_of_le (by omega)
    have left : 20 + code.size + data.size - 20 - code.size = data.size := by omega
    simp [image, start, dataAt, finish, past, left]

/-- Cut where its header says, an executable falls into its parts. -/
theorem exists_parts {image : Bytes} (length : image.size = header.fileSize)
    (starts : image.extract 0 byteCount = header.toBytes.toArray) :
    ∃ code data, header.Declares code data ∧
      image = header.toBytes.toArray ++ code ++ data := by
  have dataAt : header.dataOffset = byteCount + header.codeSize.toNat := rfl
  have finish : header.fileSize = header.dataOffset + header.initialDataSize.toNat := rfl
  refine ⟨image.extract byteCount header.dataOffset,
    image.extract header.dataOffset header.fileSize, ⟨?_, ?_⟩, ?_⟩
  · rw [Array.size_extract]
    omega
  · rw [Array.size_extract]
    omega
  · have wide : byteCount ≤ header.dataOffset := Nat.le_add_right _ _
    have long : header.dataOffset ≤ header.fileSize := Nat.le_add_right _ _
    rw [← starts, Array.extract_append_extract, Nat.zero_min, Nat.max_eq_right wide,
      Array.extract_append_extract, Nat.zero_min, Nat.max_eq_right long, ← length,
      Array.extract_size]

/-- From an executable the header marks out its code and, if there is any, its
data. -/
theorem Declares.sectionsIn_eq (declares : header.Declares code data) :
    header.sectionsIn (header.toBytes.toArray ++ code ++ data) =
      ⟨.code, code⟩ :: if data = #[] then [] else [⟨.data, data⟩] := by
  obtain ⟨-, -, codePart, dataPart⟩ := declares.parts
  rw [sectionsIn, codePart, dataPart]
  by_cases empty : data = #[]
  · have none : header.hasData = false := by
      simpa [empty] using declares.hasData_iff
    simp [none, empty]
  · have some : header.hasData = true := declares.hasData_iff.mpr empty
    simp [some, empty]

end Header

/-- A header with the signature, the code and the data that it declares make an
executable, which loads to them. -/
theorem Header.Declares.exists_load {header : Header} {code data : Bytes}
    (declares : header.Declares code data) (signed : header.magic = Header.signature) :
    ∃ executable loaded,
      Executable.ofBytes (header.toBytes.toArray ++ code ++ data) = .ok executable ∧
      executable.header = header ∧
      executable.fileSize = 20 + code.size + data.size ∧
      executable.load = (.ok (), loaded) ∧
      loaded.header = header ∧
      loaded.sections = ⟨.code, code⟩ :: if data = #[] then [] else [⟨.data, data⟩] := by
  obtain ⟨length, starts, -, -⟩ := declares.parts
  obtain ⟨executable, made, rfl⟩ := Executable.exists_ofBytes_eq_ok signed starts length
  obtain ⟨delivers, unloaded, size, -, -, -⟩ := Executable.of_ofBytes made
  obtain ⟨source, loads⟩ :=
    Executable.load_of_delivers delivers unloaded (Nat.le_of_eq length.symm)
  refine ⟨executable, _, made, rfl, ?_, loads, rfl, ?_⟩
  · rw [size, length, Header.fileSize, Header.dataOffset, ← declares.code_size,
      ← declares.data_size]
    rfl
  · exact declares.sectionsIn_eq

/-- The section of each kind, where the sections are code and any data. -/
theorem Executable.section?_of_sections {σ : Type} {executable : Executable σ}
    {code data : Bytes}
    (sections : executable.sections =
      ⟨.code, code⟩ :: if data = #[] then [] else [⟨.data, data⟩]) :
    executable.section? .code = some ⟨.code, code⟩ ∧
      executable.section? .data = if data = #[] then none else some ⟨.data, data⟩ := by
  unfold section?
  rw [sections]
  constructor
  · rfl
  · split <;> rfl

namespace ExecutableBuilder

/-! ## Settings -/

/-- A setting of a builder. -/
inductive Setting where
  | code (bytes : Bytes)
  | data (bytes : Bytes)
  | dataSize (size : UInt32)

/-- The builder with a setting made. -/
def set (builder : ExecutableBuilder) : Setting → ExecutableBuilder
  | .code bytes => builder.withCode bytes
  | .data bytes => builder.withData bytes
  | .dataSize size => builder.withDataSize size

/-- The builder with settings made one after the other on an empty one. -/
def ofSettings (settings : List Setting) : ExecutableBuilder :=
  settings.foldl set empty

/-- The code that a setting gives. -/
def Setting.code? : Setting → Option Bytes
  | .code bytes => some bytes
  | _ => none

def Setting.data? : Setting → Option Bytes
  | .data bytes => some bytes
  | _ => none

def Setting.dataSize? : Setting → Option UInt32
  | .dataSize size => some size
  | _ => none

/-- What the last of some settings that gives it gives. -/
def lastGiven {α : Type} (given : Setting → Option α) (settings : List Setting) :
    Option α :=
  settings.reverse.findSome? given

/-- Each part of a builder is the one given last. -/
theorem foldl_set (builder : ExecutableBuilder) (settings : List Setting) :
    settings.foldl set builder =
      { code := (lastGiven Setting.code? settings).getD builder.code
        data := (lastGiven Setting.data? settings).getD builder.data
        dataSize := (lastGiven Setting.dataSize? settings).or builder.dataSize } := by
  induction settings generalizing builder with
  | nil => rfl
  | cons setting rest ih =>
      rw [List.foldl_cons, ih]
      cases setting <;> simp [lastGiven, List.reverse_cons, List.findSome?_append,
        set, withCode, withData, withDataSize, Setting.code?, Setting.data?,
        Setting.dataSize?]

/-! ## Round trips -/

theorem declares_header {builder : ExecutableBuilder}
    (codeFits : builder.code.size < 2 ^ 32) (dataFits : builder.data.size < 2 ^ 32) :
    builder.header.Declares builder.code builder.data := by
  constructor
  · show builder.code.size = (UInt32.ofNat builder.code.size).toNat
    exact (UInt32.toNat_ofNat_of_lt' codeFits).symm
  · show builder.data.size = (UInt32.ofNat builder.data.size).toNat
    exact (UInt32.toNat_ofNat_of_lt' dataFits).symm

/-- A header with the signature is the one that a builder derives from the parts
that it declares and its size of the data segment. -/
theorem header_of_declares {builder : ExecutableBuilder} {declared : Header}
    (declares : declared.Declares builder.code builder.data)
    (signed : declared.magic = Header.signature)
    (given : builder.dataSize = some declared.dataSize) :
    builder.header = declared := by
  have codeSize : UInt32.ofNat builder.code.size = declared.codeSize := by
    rw [declares.code_size, UInt32.ofNat_toNat]
  have dataSize : UInt32.ofNat builder.data.size = declared.initialDataSize := by
    rw [declares.data_size, UInt32.ofNat_toNat]
  simp only [header, codeSize, dataSize, given, Option.getD_some, Header.ofSizes, ← signed]

/-- **Built executables load back.** Whatever the order and repetition of the
settings, an executable built from code and data of less than `2 ^ 32` bytes each
is accepted with the header of its builder, and it loads to a section of the code
given last and, unless it is empty, one of the data given last. -/
theorem built_executable_loads (settings : List Setting) :
    let code := (lastGiven Setting.code? settings).getD #[]
    let data := (lastGiven Setting.data? settings).getD #[]
    let builder := ofSettings settings
    code.size < 2 ^ 32 → data.size < 2 ^ 32 →
      builder.header.magic = Header.signature ∧
      builder.header.codeSize.toNat = code.size ∧
      builder.header.initialDataSize.toNat = data.size ∧
      builder.header.dataSize.toNat =
        ((lastGiven Setting.dataSize? settings).map UInt32.toNat).getD data.size ∧
      ∃ executable loaded, Executable.ofBytes builder.toBytes = .ok executable ∧
        executable.header = builder.header ∧
        executable.fileSize = 20 + code.size + data.size ∧
        executable.load = (.ok (), loaded) ∧ loaded.header = builder.header ∧
        loaded.sections =
          if data = #[] then [⟨.code, code⟩] else [⟨.code, code⟩, ⟨.data, data⟩] := by
  intro code data builder codeFits dataFits
  have built : builder = ⟨code, data, lastGiven Setting.dataSize? settings⟩ := by
    show settings.foldl set empty = _
    rw [foldl_set]
    simp [empty, code, data]
  have declares : builder.header.Declares code data := by
    have whole := @declares_header builder
    rw [built] at whole ⊢
    exact whole codeFits dataFits
  refine ⟨rfl, declares.code_size.symm, declares.data_size.symm, ?_, ?_⟩
  · rw [declares.data_size, built]
    show ((lastGiven Setting.dataSize? settings).getD (UInt32.ofNat data.size)).toNat = _
    cases lastGiven Setting.dataSize? settings <;> rfl
  · obtain ⟨executable, loaded, made, header, size, loads, kept, sections⟩ :=
      declares.exists_load rfl
    have image : builder.toBytes = builder.header.toBytes.toArray ++ code ++ data := by
      rw [built]
      rfl
    refine ⟨executable, loaded, by rw [image, made], header, size, loads, kept, ?_⟩
    rw [sections]
    split <;> rfl

/-- Code given twice, data, and a size of the data segment below that of the
data. -/
theorem built_executable_loads_small_dataSize :
    ∃ executable loaded,
      Executable.ofBytes (ofSettings [.code #[1], .dataSize 1, .data #[0xBE, 0xEF, 0],
        .code #[0xDE, 0xAD]]).toBytes = .ok executable ∧
      executable.header = .ofSizes 2 1 3 ∧ executable.fileSize = 25 ∧
      executable.load = (.ok (), loaded) ∧
      loaded.sections = [⟨.code, #[0xDE, 0xAD]⟩, ⟨.data, #[0xBE, 0xEF, 0]⟩] := by
  obtain ⟨-, -, -, -, executable, loaded, made, header, size, loads, -, sections⟩ :=
    built_executable_loads [.code #[1], .dataSize 1, .data #[0xBE, 0xEF, 0],
      .code #[0xDE, 0xAD]] (by decide) (by decide)
  exact ⟨executable, loaded, made, header, size, loads, sections⟩

/-- **Accepted executables are built ones.** Bytes that are accepted load, and
they are the header followed by the sections: nothing is lost between them. A
builder that is given the sections and the size of the data segment derives the
same header and the same bytes. -/
theorem accepted_executable_is_built {bytes : Bytes} {executable : Executable ByteSource}
    (accepted : Executable.ofBytes bytes = .ok executable) :
    ∃ loaded code, executable.load = (.ok (), loaded) ∧
      loaded.header = executable.header ∧
      loaded.header.toBytes.toList ++
        loaded.sections.flatMap (fun part => part.bytes.toList) = bytes.toList ∧
      ((loaded.section? .data).isSome = true ↔ loaded.header.initialDataSize ≠ 0) ∧
      loaded.section? .code = some ⟨.code, code⟩ ∧
      let data := ((loaded.section? .data).map Section.bytes).getD #[]
      let builder := ((empty.withCode code).withData data).withDataSize
        loaded.header.dataSize
      builder.header = loaded.header ∧ builder.toBytes = bytes := by
  obtain ⟨-, -, -, signed, starts, length⟩ := Executable.of_ofBytes accepted
  obtain ⟨code, data, declares, image⟩ := Header.exists_parts length starts
  obtain ⟨found, loaded, made, -, -, loads, kept, sections⟩ :=
    declares.exists_load signed
  -- the executable that its parts make is the one that was accepted
  rw [← image, accepted, Except.ok.injEq] at made
  subst made
  obtain ⟨codeSection, dataSection⟩ := Executable.section?_of_sections sections
  have given : ((loaded.section? .data).map Section.bytes).getD #[] = data := by
    rw [dataSection]
    split
    · next empty => exact empty.symm
    · rfl
  have derived : header ⟨code, data, some executable.header.dataSize⟩ =
      executable.header := header_of_declares declares signed rfl
  refine ⟨loaded, code, loads, kept, ?_, ?_, codeSection, ?_⟩
  · have packed : executable.header.toBytes.toList =
        executable.header.toBytes.toArray.toList := rfl
    rw [kept, sections, image, packed]
    by_cases empty : data = #[]
    · simp [empty]
    · simp [empty]
  · have some := declares.hasData_iff
    rw [Header.hasData, bne_iff_ne] at some
    rw [dataSection, kept, some]
    by_cases empty : data = #[]
    · simp [empty]
    · simp [empty]
  · rw [given, kept]
    exact ⟨derived, by rw [image, ← derived]; rfl⟩

/-- An executable of two bytes of code and no data, for a data segment of seven
bytes. -/
def twoByteImage : Bytes :=
  #[0x45, 0x53, 0x45, 0x54, 0x2D, 0x56, 0x4D, 0x32, 2, 0, 0, 0, 7, 0, 0, 0, 0, 0, 0, 0,
    0xDE, 0xAD]

theorem accepted_executable_is_built_twoByteImage :
    ∃ executable loaded code, Executable.ofBytes twoByteImage = .ok executable ∧
      executable.load = (.ok (), loaded) ∧ loaded.header = .ofSizes 2 7 0 ∧
      loaded.section? .code = some ⟨.code, code⟩ ∧ loaded.section? .data = none ∧
      (((empty.withCode code).withData #[]).withDataSize 7).toBytes = twoByteImage := by
  have accepted : Executable.ofBytes twoByteImage =
      .ok ⟨.ofSizes 2 7 0, ⟨.reliable twoByteImage, 20⟩, 22, []⟩ := by cbv
  obtain ⟨loaded, code, loads, kept, -, some, codeSection, -, image⟩ :=
    accepted_executable_is_built accepted
  have none : loaded.section? .data = none := by
    rw [kept] at some
    simpa [Header.ofSizes] using some
  rw [none, kept] at image
  exact ⟨_, loaded, code, accepted, loads, kept, codeSection, none, image⟩

end ExecutableBuilder

end Bytecode
