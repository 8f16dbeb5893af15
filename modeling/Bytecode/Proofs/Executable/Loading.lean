import Bytecode.Proofs.Executable.Making

/-!
# Loading executables

A load reads one range of its source or two, each after a positioning of its own. Where
the source reads from a medium, what comes of it is decided by the header and the medium
alone: either the sections that the header marks out in the content
(`Header.sectionsIn`), or the first fault that one of the ranges meets
(`Header.loadFault?`), whatever the pieces and interruptions that the bytes come in
(`exists_load_eq`).

* **outcome** (`load_reads_declared_ranges`): the ranges come down to one, from the end
  of the header to the end of the data. A load succeeds exactly if it can be positioned
  at both of them and this range holds no fault and lies within the content, where an
  empty range asks for nothing.
* **delivery** (`load_of_delivers`): the check that an executable has passed when it was
  made (`of_ofBytes`) is what loading it from a sound medium needs.
-/

namespace Bytecode

/-- The sections that a header marks out in some content: code, and data if some is
declared. -/
def Header.sectionsIn (header : Header) (content : Bytes) : List Section :=
  ⟨.code, content.extract header.codeOffset header.dataOffset⟩ ::
    if header.hasData then
      [⟨.data, content.extract header.dataOffset header.fileSize⟩]
    else
      []

theorem Header.hasData_iff (header : Header) :
    header.hasData = true ↔ header.initialDataSize.toNat ≠ 0 := by
  rw [hasData, bne_iff_ne, ne_eq, ne_eq, ← UInt32.toNat_inj]
  rfl

/-! ## The faults that a load meets -/

/-- The first fault that a reader of a range meets, if any: it is positioned at the
start of the range, and then has to have all of it. -/
def Medium.rangeFault? (medium : Medium) (start length : Nat) : Option IoFault :=
  if start ∈ medium.seekFaults then some .seekStart else medium.readFault? start length

theorem Medium.rangeFault?_eq_none_iff {medium : Medium} {start length : Nat} :
    medium.rangeFault? start length = none ↔
      start ∉ medium.seekFaults ∧ (length = 0 ∨ start + length ≤ medium.content.size ∧
        ∀ fault ∈ medium.faultAt, start + length ≤ fault) := by
  rw [← readFault?_eq_none_iff, rangeFault?]
  by_cases refused : start ∈ medium.seekFaults
  · simp [refused]
  · simp [refused]

theorem Medium.Spends.rangeFault?_eq {medium rest : Medium} (spends : medium.Spends rest)
    (start length : Nat) : rest.rangeFault? start length = medium.rangeFault? start length := by
  unfold Spends at spends
  rw [spends]
  rfl

/-- The first fault that a load meets, if any: that of the code, or else that of the
data if some are declared. -/
def Header.loadFault? (header : Header) (medium : Medium) : Option IoFault :=
  (medium.rangeFault? header.codeOffset header.codeSize.toNat).or
    (if header.hasData then
      medium.rangeFault? header.dataOffset header.initialDataSize.toNat
    else
      none)

/-- A load meets no fault where code and data can be read as one range, and the medium
can be positioned at the start of either. -/
theorem Header.loadFault?_eq_none_iff {header : Header} {medium : Medium} :
    header.loadFault? medium = none ↔
      header.codeOffset ∉ medium.seekFaults ∧
      (header.initialDataSize.toNat = 0 ∨ header.dataOffset ∉ medium.seekFaults) ∧
      (header.codeSize.toNat + header.initialDataSize.toNat = 0 ∨
        header.fileSize ≤ medium.content.size ∧
          ∀ fault ∈ medium.faultAt, header.fileSize ≤ fault) := by
  have dataAt : header.dataOffset = header.codeOffset + header.codeSize.toNat := rfl
  have finish : header.fileSize = header.dataOffset + header.initialDataSize.toNat := rfl
  rw [loadFault?, Option.or_eq_none_iff, Medium.rangeFault?_eq_none_iff, ← dataAt]
  by_cases none : header.initialDataSize.toNat = 0
  · have absent : ¬ header.hasData = true := by simpa [hasData_iff] using none
    rw [if_neg absent, finish, none]
    simp
  · have present : header.hasData = true := header.hasData_iff.mpr none
    rw [if_pos present, Medium.rangeFault?_eq_none_iff, ← finish]
    simp only [none, false_or, Nat.add_eq_zero_iff, and_false]
    constructor
    · rintro ⟨⟨codeSeek, -⟩, dataSeek, enough, ahead⟩
      exact ⟨codeSeek, dataSeek, enough, ahead⟩
    · rintro ⟨codeSeek, dataSeek, enough, ahead⟩
      -- the code ends before the data does
      refine ⟨⟨codeSeek, .inr ⟨by omega, ?_⟩⟩, dataSeek, enough, ahead⟩
      intro fault given
      have := ahead fault given
      omega

namespace Executable

/-! ## Reading sections -/

section Reading

variable {σ : Type} [Source σ]

/-- As many bytes are read as the blank section has. -/
theorem readSection_eq (kind : SectionKind) (start size : Nat) :
    (readSection kind start size : Reading σ Section) = (do
      Source.seekTo start
      let bytes ← Source.readExact size
      return ⟨kind, bytes⟩) := by
  simp only [readSection, Section.size_zeroed]
  rfl

theorem load_of_loaded {executable : Executable σ} (loaded : executable.isLoaded = true) :
    executable.load = (.ok (), executable) := by
  rw [load, if_pos loaded]

theorem load_of_unloaded {executable : Executable σ} (unloaded : executable.sections = []) :
    executable.load =
      match (readSections executable.header).run executable.source with
      | .ok sections source => (.ok (), { executable with source, sections })
      | .error fault source => (.error (.io fault), { executable with source }) := by
  rw [load]
  exact if_neg (by simp [isLoaded, unloaded])

end Reading

/-- A section is read as the content holds it, unless a fault is met. -/
theorem exists_readSection_eq {source : ByteSource} (steady : source.medium.chunk ≠ some 0)
    (kind : SectionKind) (start size : Nat) :
    ∃ rest, source.medium.Spends rest.medium ∧
      (readSection kind start size).run source =
        match source.medium.rangeFault? start size with
        | some fault => .error fault rest
        | none => .ok ⟨kind, source.medium.content.extract start (start + size)⟩ rest := by
  rw [readSection_eq, EStateM.run_bind, ByteSource.run_seekTo_eq, Medium.rangeFault?]
  by_cases refused : start ∈ source.medium.seekFaults
  · refine ⟨source, rfl, ?_⟩
    rw [if_pos refused, if_pos refused]
  · obtain ⟨rest, spends, done⟩ :=
      @ByteSource.run_readExact_eq ⟨source.medium, start⟩ steady size
    refine ⟨rest, spends, ?_⟩
    rw [if_neg refused, if_neg refused]
    simp only [EStateM.run_bind, done]
    cases source.medium.readFault? start size <;> rfl

/-- The sections are read as the header marks them out, unless a fault is met. -/
theorem exists_readSections_eq {source : ByteSource}
    (steady : source.medium.chunk ≠ some 0) (header : Header) :
    ∃ rest, source.medium.Spends rest.medium ∧
      (readSections header).run source =
        match header.loadFault? source.medium with
        | some fault => .error fault rest
        | none => .ok (header.sectionsIn source.medium.content) rest := by
  obtain ⟨middle, spends, codeRead⟩ :=
    exists_readSection_eq steady .code header.codeOffset header.codeSize.toNat
  rw [readSections, EStateM.run_bind, codeRead, Header.loadFault?]
  cases codeFault : source.medium.rangeFault? header.codeOffset header.codeSize.toNat with
  | some fault => exact ⟨middle, spends, rfl⟩
  | none =>
      cases has : header.hasData with
      | false =>
          refine ⟨middle, spends, ?_⟩
          simp [Header.sectionsIn, has, Header.dataOffset]
      | true =>
          -- the data is read from the same content, in spite of the reads before
          have steadyStill : middle.medium.chunk ≠ some 0 := by
            rw [spends.chunk_eq]
            exact steady
          obtain ⟨rest, more, dataRead⟩ := exists_readSection_eq steadyStill .data
            header.dataOffset header.initialDataSize.toNat
          rw [spends.rangeFault?_eq, spends.content_eq] at dataRead
          refine ⟨rest, spends.trans more, ?_⟩
          simp only [if_true, EStateM.run_bind, dataRead, Option.none_or]
          cases source.medium.rangeFault? header.dataOffset header.initialDataSize.toNat with
          | some fault => rfl
          | none => simp [Header.sectionsIn, has, Header.dataOffset, Header.fileSize]

/-! ## Loading -/

/-- What a load does is told by the header and the medium. -/
theorem exists_load_eq {executable : Executable ByteSource}
    (unloaded : executable.sections = [])
    (steady : executable.source.medium.chunk ≠ some 0) :
    ∃ source, executable.load =
      match executable.header.loadFault? executable.source.medium with
      | some fault => (.error (.io fault), { executable with source })
      | none => (.ok (),
          { executable with
            source
            sections := executable.header.sectionsIn executable.source.medium.content }) := by
  obtain ⟨rest, -, done⟩ := exists_readSections_eq steady executable.header
  refine ⟨rest, ?_⟩
  rw [load_of_unloaded unloaded, done]
  cases executable.header.loadFault? executable.source.medium <;> rfl

/-- Loading from a source that delivers and is long enough takes the ranges that
the header marks out. -/
theorem load_of_delivers {executable : Executable ByteSource} {content : Bytes}
    (delivers : executable.source.medium.Delivers content)
    (unloaded : executable.sections = [])
    (inside : executable.header.fileSize ≤ content.size) :
    ∃ source, executable.load = (.ok (),
      { executable with source, sections := executable.header.sectionsIn content }) := by
  have sound : executable.header.loadFault? executable.source.medium = none := by
    rw [Header.loadFault?_eq_none_iff, delivers.seekable, delivers.sound,
      delivers.content_eq]
    simp [inside]
  obtain ⟨source, loads⟩ := exists_load_eq unloaded delivers.steady
  rw [sound, delivers.content_eq] at loads
  exact ⟨source, loads⟩

/-- **A load reads the ranges that the header declares.** It succeeds exactly if the
medium can be positioned at the start of the code and, if data is declared, of the data,
and unless both are empty the content reaches to their end and no fault lies before it.
Then the sections are these ranges of the content that the medium has now, and else
nothing is recorded and the failure is one of the source. Where the source was
positioned, what length it states and how it delivers do not show. -/
theorem load_reads_declared_ranges {executable : Executable ByteSource}
    (unloaded : executable.isLoaded = false)
    (steady : executable.source.medium.chunk ≠ some 0) :
    let medium := executable.source.medium
    let code := executable.header.codeSize.toNat
    let data := executable.header.initialDataSize.toNat
    let stop := 20 + code + data
    let readable := 20 ∉ medium.seekFaults ∧ (data = 0 ∨ 20 + code ∉ medium.seekFaults) ∧
      (code + data = 0 ∨ stop ≤ medium.content.size ∧ ∀ fault ∈ medium.faultAt, stop ≤ fault)
    (executable.load.1 = .ok () ↔ readable) ∧
    (readable → executable.load.2.sections =
      ⟨.code, medium.content.extract 20 (20 + code)⟩ ::
        if data = 0 then [] else [⟨.data, medium.content.extract (20 + code) stop⟩]) ∧
    (¬ readable → executable.load.2.sections = [] ∧
      ∃ fault, executable.header.loadFault? medium = some fault ∧
        executable.load.1 = .error (.io fault)) := by
  intro medium code data stop readable
  have nothing : executable.sections = [] := executable.isLoaded_eq_false_iff.mp unloaded
  have sound : executable.header.loadFault? medium = none ↔ readable :=
    Header.loadFault?_eq_none_iff
  obtain ⟨source, loads⟩ := exists_load_eq nothing steady
  cases met : executable.header.loadFault? medium with
  | some fault =>
      rw [met] at loads sound
      have unreadable : ¬ readable := by simp [← sound]
      rw [loads]
      refine ⟨by simp [unreadable], fun holds => absurd holds unreadable, fun _ => ?_⟩
      exact ⟨nothing, fault, rfl, rfl⟩
  | none =>
      rw [met] at loads sound
      have holds : readable := sound.mp rfl
      have some_iff := executable.header.hasData_iff
      rw [loads]
      refine ⟨by simp [holds], fun _ => ?_, fun fails => absurd holds fails⟩
      show executable.header.sectionsIn medium.content = _
      rw [Header.sectionsIn]
      by_cases none : data = 0
      · have absent : ¬ executable.header.hasData = true := by
          rw [some_iff]
          exact not_not_intro none
        rw [if_neg absent, if_pos none]
        rfl
      · rw [if_pos (some_iff.mpr none), if_neg none]
        rfl

/-- An executable of two bytes of code and one of data, not loaded. The medium was
exchanged for one that delivers single bytes, fails right behind the data and cannot
be positioned within the code. -/
def onTheBrink : Executable ByteSource :=
  { header := .ofSizes 2 7 1
    source :=
      { medium :=
          { content := Bytes.zeroed 20 ++ #[0xDE, 0xAD, 5, 6, 7]
            statedLength := some 3
            chunk := some 1
            faultAt := some 23
            interruptions := [22, 20, 20]
            seekFaults := [0, 21] }
        position := 99 }
    fileSize := 23
    sections := [] }

/-- It loads, but would not with the fault one byte earlier, nor if the medium could
not be positioned behind the code. -/
theorem load_reads_declared_ranges_onTheBrink :
    onTheBrink.load.1 = .ok () ∧
    onTheBrink.load.2.sections = [⟨.code, #[0xDE, 0xAD]⟩, ⟨.data, #[5]⟩] ∧
    (onTheBrink.replaceMedium { onTheBrink.source.medium with faultAt := some 22 }).load.1 =
      .error (.io .read) ∧
    (onTheBrink.replaceMedium { onTheBrink.source.medium with seekFaults := [22] }).load.1 =
      .error (.io .seekStart) := by
  obtain ⟨succeeds, shown, -⟩ := @load_reads_declared_ranges onTheBrink rfl (by decide)
  obtain ⟨-, -, early⟩ := @load_reads_declared_ranges
    (onTheBrink.replaceMedium { onTheBrink.source.medium with faultAt := some 22 })
      rfl (by decide)
  obtain ⟨-, -, stuck⟩ := @load_reads_declared_ranges
    (onTheBrink.replaceMedium { onTheBrink.source.medium with seekFaults := [22] })
      rfl (by decide)
  refine ⟨succeeds.mpr (by decide), ?_, ?_, ?_⟩
  · rw [shown (by decide)]
    decide
  · obtain ⟨-, fault, first, failed⟩ := early (by decide)
    have read : fault = .read := Option.some.inj (first.symm.trans (by cbv))
    rw [failed, read]
  · obtain ⟨-, fault, first, failed⟩ := stuck (by decide)
    have seek : fault = .seekStart := Option.some.inj (first.symm.trans (by cbv))
    rw [failed, seek]

end Executable

end Bytecode
