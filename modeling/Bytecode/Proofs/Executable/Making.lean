import Bytecode.Executable.Basic
import Bytecode.Proofs.Header.Codec
import Bytecode.Proofs.Stream.Reading

/-!
# Making executables

Two things decide what is made of a source: the length that it reports and the
first 20 bytes of its content. The three checks of the header see nothing else,
and all other faults of a source show before the first of them.

* **classification** (`ofBytes_classified`): every string of bytes is refused
  for its signature, for being cut within the header or for its length, in this
  order, or else makes an executable with the header that it spells;
* **independence** (`ofSource_depends_on_length_and_start`): how a source
  delivers its content, where it was positioned and what lies behind the header
  do not show.
-/

namespace Bytecode

/-- Nothing keeps a reader from the first 20 bytes of the content, or from finding
that there are fewer. -/
structure Medium.Opens (medium : Medium) : Prop where
  steady : medium.chunk ≠ some 0
  seeks_end : medium.seekEndFails = false
  seeks_start : 0 ∉ medium.seekFaults
  sound : ¬ medium.FaultsWithin 0 Header.byteCount

theorem Medium.opens_reliable (content : Bytes) : (reliable content).Opens where
  steady := (delivers_reliable content).steady
  seeks_end := rfl
  seeks_start := List.not_mem_nil
  sound := not_faultsWithin_of_sound rfl

namespace Executable

/-! ## Reading the start of a source -/

/-- Of any source that makes progress, the length and the first 20 bytes are
read, unless it cannot be positioned or its fault lies within these bytes. -/
theorem run_readStart_eq {source : ByteSource} (steady : source.medium.chunk ≠ some 0) :
    ∃ rest, source.medium.Spends rest.medium ∧
      readStart.run source =
        if source.medium.seekEndFails then
          .error .seekEnd rest
        else if 0 ∈ source.medium.seekFaults then
          .error .seekStart rest
        else if source.medium.FaultsWithin 0 Header.byteCount then
          .error .read rest
        else
          .ok (source.medium.length, source.medium.content.extract 0 Header.byteCount)
            rest := by
  cases ending : source.medium.seekEndFails with
  | true =>
      refine ⟨source, rfl, ?_⟩
      have ended : Source.seekEnd.run source = .error .seekEnd source := by
        show ByteSource.seekEnd source = _
        rw [ByteSource.seekEnd, if_pos ending]
      simp [readStart, ended]
  | false =>
      have ended : Source.seekEnd.run source =
          .ok source.medium.length ⟨source.medium, source.medium.length⟩ := by
        show ByteSource.seekEnd source = _
        rw [ByteSource.seekEnd, if_neg (by simp [ending])]
      have rewound := ByteSource.run_seekTo_eq ⟨source.medium, source.medium.length⟩ 0
      by_cases refused : 0 ∈ source.medium.seekFaults
      · refine ⟨⟨source.medium, source.medium.length⟩, rfl, ?_⟩
        rw [if_pos refused] at rewound
        simp [readStart, ended, rewound, refused]
      · rw [if_neg refused] at rewound
        obtain ⟨rest, spends, done⟩ :=
          @ByteSource.run_readUpTo_eq ⟨source.medium, 0⟩ steady Header.byteCount
        refine ⟨rest, spends, ?_⟩
        simp only [readStart, EStateM.run_bind, ended, rewound, done, refused, Nat.zero_add,
          if_false]
        by_cases faulty : source.medium.FaultsWithin 0 Header.byteCount
        · simp [faulty]
        · simp [faulty]

/-- A fault while the start of a source is read ends the making. -/
theorem ofSource_of_error {σ : Type} [Source σ] {source rest : σ} {fault : IoFault}
    (failed : readStart.run source = .error fault rest) :
    ofSource source = .error (.io fault) := by
  unfold ofSource
  rw [failed]

theorem ofSource_of_ok {σ : Type} [Source σ] {source rest : σ} {length : Nat} {start : Bytes}
    (done : readStart.run source = .ok (length, start) rest) :
    ofSource source = (Header.accept length start).map fun header =>
      { header, source := rest, fileSize := length, sections := [] } := by
  unfold ofSource
  rw [done]
  show (Header.accept length start >>= _) = _
  cases Header.accept length start <;> rfl

/-- What is made of a source is what the checks of the header make of its length
and its first 20 bytes. -/
theorem exists_ofSource_eq {source : ByteSource} (steady : source.medium.chunk ≠ some 0) :
    ∃ rest, source.medium.Spends rest.medium ∧
      ofSource source =
        if source.medium.seekEndFails then
          .error (.io .seekEnd)
        else if 0 ∈ source.medium.seekFaults then
          .error (.io .seekStart)
        else if source.medium.FaultsWithin 0 Header.byteCount then
          .error (.io .read)
        else
          (Header.accept source.medium.length
            (source.medium.content.extract 0 Header.byteCount)).map fun header =>
              { header, source := rest, fileSize := source.medium.length, sections := [] } := by
  obtain ⟨rest, spends, done⟩ := run_readStart_eq steady
  refine ⟨rest, spends, ?_⟩
  by_cases ending : source.medium.seekEndFails
  · rw [if_pos ending] at done ⊢
    exact ofSource_of_error done
  · rw [if_neg ending] at done ⊢
    by_cases refused : 0 ∈ source.medium.seekFaults
    · rw [if_pos refused] at done ⊢
      exact ofSource_of_error done
    · rw [if_neg refused] at done ⊢
      by_cases faulty : source.medium.FaultsWithin 0 Header.byteCount
      · rw [if_pos faulty] at done ⊢
        exact ofSource_of_error done
      · rw [if_neg faulty] at done ⊢
        exact ofSource_of_ok done

theorem exists_ofSource_eq_of_opens {source : ByteSource} (opens : source.medium.Opens) :
    ∃ rest, source.medium.Spends rest.medium ∧
      ofSource source =
        (Header.accept source.medium.length
          (source.medium.content.extract 0 Header.byteCount)).map fun header =>
            { header, source := rest, fileSize := source.medium.length, sections := [] } := by
  obtain ⟨rest, spends, made⟩ := exists_ofSource_eq opens.steady
  have ending : ¬ source.medium.seekEndFails = true := by simp [opens.seeks_end]
  rw [if_neg ending, if_neg opens.seeks_start, if_neg opens.sound] at made
  exact ⟨rest, spends, made⟩

/-! ## Making from bytes -/

/-- What is made from bytes depends on their number and the first 20 of them. -/
theorem exists_ofBytes_eq (bytes : Bytes) :
    ∃ source, source.medium.Delivers bytes ∧
      ofBytes bytes = (Header.accept bytes.size (bytes.extract 0 Header.byteCount)).map
        fun header => { header, source, fileSize := bytes.size, sections := [] } := by
  obtain ⟨source, spends, made⟩ :=
    @exists_ofSource_eq_of_opens (.ofBytes bytes) (Medium.opens_reliable bytes)
  exact ⟨source, (Medium.delivers_reliable bytes).of_spends spends, made⟩

/-- Bytes that start with the packed form of a header with the signature and are
as long as it declares make an executable. -/
theorem exists_ofBytes_eq_ok {bytes : Bytes} {header : Header}
    (signed : header.magic = Header.signature)
    (starts : bytes.extract 0 Header.byteCount = header.toBytes.toArray)
    (length : bytes.size = header.fileSize) :
    ∃ executable, ofBytes bytes = .ok executable ∧ executable.header = header := by
  obtain ⟨source, -, made⟩ := exists_ofBytes_eq bytes
  rw [Header.accept_eq_ok_iff.mpr ⟨signed, starts, length⟩] at made
  exact ⟨_, made, rfl⟩

/-- An executable made from bytes has their length, is not loaded, and its header
passed the check of them. -/
theorem of_ofBytes {bytes : Bytes} {executable : Executable ByteSource}
    (made : ofBytes bytes = .ok executable) :
    executable.source.medium.Delivers bytes ∧ executable.sections = [] ∧
      executable.fileSize = bytes.size ∧
      executable.header.magic = Header.signature ∧
      bytes.extract 0 Header.byteCount = executable.header.toBytes.toArray ∧
      bytes.size = executable.header.fileSize := by
  obtain ⟨source, delivers, whole⟩ := exists_ofBytes_eq bytes
  rw [made] at whole
  obtain ⟨header, accepted, rfl⟩ := map_eq_ok_iff.mp whole.symm
  obtain ⟨signed, starts, length⟩ := Header.accept_eq_ok_iff.mp accepted
  exact ⟨delivers, rfl, rfl, signed, starts, length⟩

/-! ## Classification -/

/-- A piece of a block depends on the bytes at its places alone. -/
theorem extract_eq_of_agree {first second : Bytes} {start stop : Nat}
    (agree : ∀ index, start ≤ index → index < stop → first[index]? = second[index]?) :
    first.extract start stop = second.extract start stop := by
  have piece : ∀ (block : Bytes) (index : Nat), (block.extract start stop)[index]? =
      if index < stop - start then block[start + index]? else none := by
    intro block index
    rw [Array.getElem?_extract]
    grind
  apply Array.ext_getElem?
  intro index
  rw [piece, piece]
  split
  · exact agree _ (by omega) (by omega)
  · rfl

/-- The sizes that a block spells lie within its first 20 bytes. -/
theorem ofStart_extract (bytes : Bytes) :
    Header.ofStart (bytes.extract 0 Header.byteCount) = Header.ofStart bytes := by
  simp [Header.ofStart, Header.numberAt, Header.byteCount, Array.extract_extract]

/-- The checks of the header, in terms of all bytes. -/
theorem map_ofBytes_eq (bytes : Bytes) :
    (ofBytes bytes).map (fun made => (made.header, made.fileSize, made.isLoaded)) =
      if bytes.size < 8 ∨ bytes.extract 0 8 ≠ Header.signature.toArray then
        .error (.invalidSignature
          (String.ofList (Text.ofUtf8Lossy (bytes.extract 0 8).toList)))
      else if bytes.size < 20 then
        .error (.invalidSize 20 bytes.size)
      else if bytes.size ≠ (Header.ofStart bytes).fileSize then
        .error (.invalidSize (Header.ofStart bytes).fileSize bytes.size)
      else
        .ok (Header.ofStart bytes, bytes.size, false) := by
  obtain ⟨source, -, made⟩ := exists_ofBytes_eq bytes
  have signature : (bytes.extract 0 Header.byteCount).extract 0 8 = bytes.extract 0 8 := by
    rw [Array.extract_extract]
    rfl
  have unsigned : bytes.size < 8 ∨ bytes.extract 0 8 ≠ Header.signature.toArray ↔
      bytes.extract 0 8 ≠ Header.signature.toArray := by
    refine ⟨?_, .inr⟩
    rintro (short | unsigned) signed
    · have length := congrArg Array.size signed
      rw [Array.size_extract, Vector.size_toArray] at length
      omega
    · exact unsigned signed
  have incomplete : (bytes.extract 0 Header.byteCount).size ≠ Header.byteCount ↔
      bytes.size < 20 := by
    rw [Array.size_extract, show Header.byteCount = 20 from rfl]
    omega
  rw [made, Header.accept_eq, signature, ofStart_extract]
  simp only [unsigned, incomplete]
  split
  · rfl
  · split
    · rfl
    · split <;> rfl

/-- **Every string of bytes is classified.** It is refused if it does not start with
the signature, then if it ends within the header, then if its length is not the
declared one, which is an exact sum. Any other one makes an executable with the
header that it spells, with nothing loaded. The size of the data segment, in bytes
12 to 15, has no part in this. -/
theorem ofBytes_classified (bytes : Bytes) :
    let declared := 20 + Header.numberAt bytes 8 + Header.numberAt bytes 16
    (ofBytes bytes).map (fun made => (made.header, made.fileSize, made.isLoaded)) =
      (if bytes.size < 8 ∨ bytes.extract 0 8 ≠ Header.signature.toArray then
        .error (.invalidSignature
          (String.ofList (Text.ofUtf8Lossy (bytes.extract 0 8).toList)))
      else if bytes.size < 20 then
        .error (.invalidSize 20 bytes.size)
      else if bytes.size ≠ declared then
        .error (.invalidSize declared bytes.size)
      else
        .ok (Header.ofStart bytes, bytes.size, false)) ∧
    ∀ other : Bytes, other.size = bytes.size →
      (∀ index, index < 12 ∨ 16 ≤ index → other[index]? = bytes[index]?) →
        (ofBytes other).map (fun _ => ()) = (ofBytes bytes).map (fun _ => ()) := by
  intro declared
  have sum : (Header.ofStart bytes).fileSize = declared := Header.fileSize_ofStart bytes
  refine ⟨by rw [← sum]; exact map_ofBytes_eq bytes, ?_⟩
  intro other length agree
  -- the checks look at three pieces, none of which reaches into bytes 12 to 15
  have signature : other.extract 0 8 = bytes.extract 0 8 :=
    extract_eq_of_agree fun index _ before => agree index (by omega)
  have code : other.extract 8 12 = bytes.extract 8 12 :=
    extract_eq_of_agree fun index _ before => agree index (by omega)
  have data : other.extract 16 20 = bytes.extract 16 20 :=
    extract_eq_of_agree fun index behind _ => agree index (by omega)
  have same : (Header.ofStart other).fileSize = (Header.ofStart bytes).fileSize := by
    rw [Header.fileSize_ofStart, Header.fileSize_ofStart, Header.numberAt, code,
      Header.numberAt, data]
    rfl
  have verdict : ∀ block, (ofBytes block).map (fun _ => ()) =
      ((ofBytes block).map fun made => (made.header, made.fileSize, made.isLoaded)).map
        fun _ => () := fun block => by rw [map_map]
  rw [verdict, verdict, map_ofBytes_eq, map_ofBytes_eq, length, signature, same]
  split
  · rfl
  · split
    · rfl
    · split <;> rfl

/-- The start of an executable that declares the largest sizes there are. -/
def widestStart : Bytes :=
  #[0x45, 0x53, 0x45, 0x54, 0x2D, 0x56, 0x4D, 0x32, 0xFF, 0xFF, 0xFF, 0xFF, 0, 0, 0, 0,
    0xFF, 0xFF, 0xFF, 0xFF]

/-- The declared length does not wrap around, and a size of the data segment does
not change it. -/
theorem ofBytes_classified_widestStart :
    ofBytes widestStart = .error (.invalidSize (2 ^ 33 + 18) 20) ∧
      (ofBytes (widestStart.set! 13 7)).map (fun _ => ()) =
        .error (.invalidSize (2 ^ 33 + 18) 20) := by
  obtain ⟨verdict, blind⟩ := ofBytes_classified widestStart
  have refused : ofBytes widestStart = .error (.invalidSize (2 ^ 33 + 18) 20) := by
    apply map_eq_error_iff.mp
    rw [verdict]
    cbv
  refine ⟨refused, ?_⟩
  have same := blind (widestStart.set! 13 7) (by decide) (by
    intro index outside
    rw [Array.set!_eq_setIfInBounds, Array.getElem?_setIfInBounds_ne (by omega)])
  rw [same, refused]
  rfl

/-! ## Independence of the way of delivery -/

/-- The header and the length that an executable was made with. -/
def summary {σ : Type} (executable : Executable σ) : Header × Nat :=
  (executable.header, executable.fileSize)

theorem map_summary_of_opens {source : ByteSource} (opens : source.medium.Opens) :
    (ofSource source).map summary =
      (Header.accept source.medium.length (source.medium.content.extract 0 20)).map
        fun header => (header, source.medium.length) := by
  obtain ⟨rest, -, made⟩ := exists_ofSource_eq_of_opens opens
  rw [made, map_map]
  rfl

/-- **What is made of a source depends on its length and its first 20 bytes.** A
source that cannot be positioned is refused for that, and one that has its fault
before byte 20 and not behind its content is refused for the fault. Any other one
is judged by its length and its first 20 bytes alone, so two that agree on these
have the same outcome, and it is that of plain bytes if the length is true. -/
theorem ofSource_depends_on_length_and_start (source : ByteSource)
    (steady : source.medium.chunk ≠ some 0) :
    let medium := source.medium
    let judged := (Header.accept medium.length (medium.content.extract 0 20)).map
      fun header => (header, medium.length)
    (ofSource source).map summary =
      (if medium.seekEndFails then
        .error (.io .seekEnd)
      else if 0 ∈ medium.seekFaults then
        .error (.io .seekStart)
      else if ∃ fault ∈ medium.faultAt, fault < 20 ∧ fault ≤ medium.content.size then
        .error (.io .read)
      else
        judged) ∧
    (∀ cause, judged ≠ .error (.io cause)) ∧
    (medium.Opens →
      (∀ other : ByteSource, other.medium.Opens →
        other.medium.length = medium.length →
        other.medium.content.extract 0 20 = medium.content.extract 0 20 →
          (ofSource other).map summary = (ofSource source).map summary) ∧
      (medium.length = medium.content.size →
        (ofBytes medium.content).map summary = (ofSource source).map summary)) := by
  intro medium judged
  refine ⟨?_, ?_, ?_⟩
  · obtain ⟨rest, -, made⟩ := exists_ofSource_eq steady
    have faulty : medium.FaultsWithin 0 Header.byteCount ↔
        ∃ fault ∈ medium.faultAt, fault < 20 ∧ fault ≤ medium.content.size := by
      simp [Medium.FaultsWithin, Header.byteCount]
    rw [made]
    simp only [← faulty]
    split
    · rfl
    · split
      · rfl
      · split
        · rfl
        · exact map_map
  · intro cause failed
    exact Header.accept_ne_io _ _ _ (map_eq_error_iff.mp failed)
  · intro opens
    have alike : ∀ other : ByteSource, other.medium.Opens →
        other.medium.length = medium.length →
        other.medium.content.extract 0 20 = medium.content.extract 0 20 →
          (ofSource other).map summary = (ofSource source).map summary := by
      intro other opensToo length start
      rw [map_summary_of_opens opensToo, length, start, map_summary_of_opens opens]
    refine ⟨alike, ?_⟩
    intro length
    exact alike (.ofBytes medium.content) (Medium.opens_reliable _) length.symm rfl

/-- A medium with the start of an executable of two bytes of code, which it
delivers in pieces and with interruptions. It cannot be read behind this start,
and it is longer than it says. -/
def fitfulMedium : Medium :=
  { content := #[0x45, 0x53, 0x45, 0x54, 0x2D, 0x56, 0x4D, 0x32, 2, 0, 0, 0, 7, 0, 0, 0,
      0, 0, 0, 0, 1, 2, 3, 4]
    statedLength := some 22
    chunk := some 3
    faultAt := some 20
    interruptions := [19, 0, 5, 5]
    seekFaults := [20] }

/-- A source on this medium, positioned within the header. -/
def fitful : ByteSource :=
  ⟨fitfulMedium, 11⟩

theorem ofSource_depends_on_length_and_start_fitfulMedium :
    let faulty : ByteSource :=
      ⟨{ fitfulMedium with faultAt := some 19, statedLength := none }, 11⟩
    (ofSource fitful).map summary = .ok (.ofSizes 2 7 0, 22) ∧
      (ofSource faulty).map summary = .error (.io .read) ∧
      (ofSource (ByteSource.ofBytes (fitfulMedium.content.extract 0 22))).map summary =
        (ofSource fitful).map summary := by
  intro faulty
  have opens : fitfulMedium.Opens := ⟨by decide, rfl, by decide, by decide⟩
  obtain ⟨sound, -, alike⟩ := ofSource_depends_on_length_and_start fitful (by decide)
  obtain ⟨failed, -, -⟩ := ofSource_depends_on_length_and_start faulty (by decide)
  refine ⟨?_, ?_, ?_⟩
  · rw [sound]
    cbv
  · rw [failed]
    cbv
  · exact (alike opens).1 (.ofBytes (fitfulMedium.content.extract 0 22))
      (Medium.opens_reliable _) rfl (by decide)

end Executable

end Bytecode
