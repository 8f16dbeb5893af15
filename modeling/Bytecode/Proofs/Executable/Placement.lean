import Bytecode.Executable.Placement
import Bytecode.Proofs.BitCursor.Run
import Bytecode.Proofs.Executable.RoundTrip

/-!
# From built executables to decoded fields

The parts of a builder come back as the contents of memory: an executable is
built, loaded and placed, and the bits of code, data and the zeros behind them
are what a cursor hands out (`placed_executable_decodes`). Fields may lie across
the ends of code and data, which memory does not know of.
-/

namespace Bytecode

/-- With its data right behind its code, an executable that fits is placed, and memory
goes on with zeros to the end of the data segment. -/
theorem Executable.exists_place? {σ : Type} {executable : Executable σ} {code data : Bytes}
    {room : Nat} (codeSection : executable.section? .code = some ⟨.code, code⟩)
    (dataSection : executable.section? .data =
      if data = #[] then none else some ⟨.data, data⟩)
    (fits : data.size ≤ room) :
    ∃ memory, executable.place? ⟨code.size + room, 0, code.size⟩ = some memory ∧
      memory.isAllocated = true ∧
      memory.bytes.toList = code.toList ++ data.toList ++
        List.replicate (room - data.size) 0 := by
  have fresh : Bytes.resize #[] (code.size + room) = .zeroed (code.size + room) := by
    simp [Bytes.resize]
  have codeLaid : (Bytes.zeroed (code.size + room)).overlay? 0 code =
      some (code ++ .zeroed room) := by
    simpa using Bytes.overlay?_zeroed #[] (Nat.le_add_right code.size room)
  have codePlaced : (Memory.unallocated.allocate (code.size + room)).write? 0 code =
      some ⟨some (code ++ .zeroed room)⟩ := by
    show ((Bytes.resize #[] (code.size + room)).overlay? 0 code).map _ = _
    rw [fresh, codeLaid]
    rfl
  have dataLaid : (code ++ Bytes.zeroed room).overlay? code.size data =
      some (code ++ data ++ .zeroed (room - data.size)) := Bytes.overlay?_zeroed code fits
  refine ⟨⟨some (code ++ data ++ .zeroed (room - data.size))⟩, ?_, rfl, ?_⟩
  · simp only [place?, codeSection, dataSection, Option.bind_eq_bind, Option.bind_some,
      codePlaced]
    by_cases empty : data = #[]
    · simp [empty]
    · rw [if_neg empty]
      show ((code ++ Bytes.zeroed room).overlay? code.size data).map _ = _
      rw [dataLaid]
      rfl
  · simp [Memory.bytes, Bytes.zeroed]

namespace ExecutableBuilder

/-- **What was built is what is decoded.** An executable built from code, data and
a size of the data segment that the data fits is accepted, loads, and is placed
in memory of the length of the code plus that size: the code section at the start
and any data section right behind it. Memory then holds the code, the data and
zeros. Started at any byte that three more follow, a cursor returns fields of any
valid widths that memory has all bits of, and together they are the bits of code,
data and zeros from that byte on. -/
theorem placed_executable_decodes {code data : Bytes} {dataSize : UInt32}
    (codeFits : code.size < 2 ^ 32) (dataFits : data.size ≤ dataSize.toNat) :
    let builder := ((empty.withCode code).withData data).withDataSize dataSize
    let size := code.size + dataSize.toNat
    let contents := code.toList ++ data.toList ++
      List.replicate (dataSize.toNat - data.size) 0
    ∃ executable loaded memory,
      Executable.ofBytes builder.toBytes = .ok executable ∧
      executable.load = (.ok (), loaded) ∧
      loaded.section? .code = some ⟨.code, code⟩ ∧
      loaded.section? .data = (if data = #[] then none else some ⟨.data, data⟩) ∧
      loaded.header.placement = ⟨size, 0, code.size⟩ ∧
      loaded.place? loaded.header.placement = some memory ∧
      memory.bytes.toList = contents ∧
      ∀ start widths, start + 4 ≤ size →
        (∀ width ∈ widths, 1 ≤ width ∧ width ≤ 32) →
        widths.sum ≤ 8 * (size - start) →
        ∃ cursor, BitCursor.start memory start = .ok cursor ∧
          (∀ request ∈ cursor.requests widths,
            ∃ value, request.answer = .ok value ∧ value.toNat < 2 ^ request.width) ∧
          (cursor.requests widths).map BitCursor.Request.width = widths ∧
          (cursor.requests widths).flatMap BitCursor.Request.bits =
            ((bitString contents).drop (8 * start)).take widths.sum := by
  intro builder size contents
  have declares : builder.header.Declares code data :=
    declares_header codeFits (Nat.lt_of_le_of_lt dataFits dataSize.toNat_lt)
  obtain ⟨executable, loaded, made, -, -, loads, kept, sections⟩ := declares.exists_load rfl
  have placement : loaded.header.placement = ⟨size, 0, code.size⟩ := by
    rw [kept, Header.placement, ← declares.code_size]
    rfl
  obtain ⟨codeSection, dataSection⟩ := Executable.section?_of_sections sections
  obtain ⟨memory, placed, allocated, bytes⟩ :=
    Executable.exists_place? codeSection dataSection dataFits
  have length : memory.size = size := by
    rw [Memory.size, ← Array.length_toList, bytes]
    simp only [size, List.length_append, Array.length_toList, List.length_replicate]
    omega
  rw [← placement] at placed
  refine ⟨executable, loaded, memory, made, loads, codeSection, dataSection, placement,
    placed, bytes, ?_⟩
  intro start widths inside valid available
  rw [← length] at inside available
  obtain ⟨cursor, started, answered, bits⟩ :=
    BitCursor.exists_start_requests allocated inside valid available
  rw [bytes] at bits
  exact ⟨cursor, started, answered, cursor.map_width_requests widths, bits⟩

/-- The second field reaches from the code into the data, and the last one from the
data into the zeros behind it. -/
theorem placed_executable_decodes_straddling :
    let code : Bytes := #[0xA5, 0x3C, 0x12, 0x34]
    let data : Bytes := #[0xEE, 0xFF]
    let widths := [12, 20, 5, 32]
    code.size < 2 ^ 32 ∧ data.size ≤ (8 : UInt32).toNat ∧
    ∃ executable loaded memory cursor,
      Executable.ofBytes
        (((empty.withCode code).withData data).withDataSize 8).toBytes = .ok executable ∧
      executable.load = (.ok (), loaded) ∧
      loaded.place? loaded.header.placement = some memory ∧
      memory.bytes = #[0xA5, 0x3C, 0x12, 0x34, 0xEE, 0xFF, 0, 0, 0, 0, 0, 0] ∧
      BitCursor.start memory 1 = .ok cursor ∧
      (cursor.requests widths).flatMap BitCursor.Request.bits =
        toBits 12 0x3C1 ++ toBits 20 0x234EE ++ toBits 5 0x1F ++ toBits 32 0xE0000000 := by
  intro code data widths
  obtain ⟨executable, loaded, memory, made, loads, -, -, -, placed, bytes, decodes⟩ :=
    @placed_executable_decodes code data 8 (by decide) (by decide)
  obtain ⟨cursor, started, -, -, bits⟩ :=
    decodes 1 widths (by decide) (by decide) (by decide)
  refine ⟨by decide, by decide, executable, loaded, memory, cursor, made, loads, placed,
    Array.toList_inj.mp bytes, started, bits.trans ?_⟩
  decide +kernel

end ExecutableBuilder

end Bytecode
