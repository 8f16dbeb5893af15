import Bytecode.FileTree
import Bytecode.Header.Basic
import Bytecode.Section.Basic
import Bytecode.Stream.Medium

/-!
# Executables

An executable is checked as soon as it is made from its source, and its sections
are read later, when it is loaded. So the header is there to look at before the
bytes behind it are.

A load that fails leaves the executable as it was, but for its source, and can be
tried again. An executable is loaded when it has sections, and there is always one
of code, be it empty. Once loaded, it has no more use for its source: loading again
does nothing.
-/

namespace Bytecode

/-- An executable on a source of some kind, with a header that fits the length of
that source. -/
structure Executable (σ : Type) where
  header : Header
  source : σ
  /-- The length that the source had when the executable was made. -/
  fileSize : Nat
  /-- What was read when the executable was loaded. -/
  sections : List Section
deriving DecidableEq

namespace Executable

variable {σ : Type}

/-! ## Making an executable -/

section Making

variable [Source σ]

/-- Reads the length of a source and its first bytes, as many as a header
takes. -/
def readStart : Reading σ (Nat × Bytes) := do
  let length ← Source.seekEnd
  Source.seekTo 0
  let start ← Source.readUpTo Header.byteCount
  return (length, start)

/-- Makes an executable from any source. Faults of the source come before any
check of its bytes. -/
def ofSource (source : σ) : Except LoadError (Executable σ) :=
  match readStart.run source with
  | .error fault _ => .error (.io fault)
  | .ok (length, start) source => do
      let header ← Header.accept length start
      return { header, source, fileSize := length, sections := [] }

end Making

def ofBytes (bytes : Bytes) : Except LoadError (Executable ByteSource) :=
  ofSource (.ofBytes bytes)

/-- Makes an executable from the file at a path. A directory can be opened like a
file, but there is nothing to read. -/
def ofFile (files : FileTree) (path : String) : Except LoadError (Executable ByteSource) :=
  match files.find path with
  | .error fault => .error (.notFound path fault)
  | .ok (.directory _) => .error (.io .isDirectory)
  | .ok (.file content) => ofBytes content

/-! ## Sections -/

def isLoaded (executable : Executable σ) : Bool :=
  !executable.sections.isEmpty

theorem isLoaded_iff (executable : Executable σ) :
    executable.isLoaded = true ↔ executable.sections ≠ [] := by
  simp [isLoaded]

theorem isLoaded_eq_false_iff (executable : Executable σ) :
    executable.isLoaded = false ↔ executable.sections = [] := by
  simp [isLoaded]

def section? (executable : Executable σ) (kind : SectionKind) : Option Section :=
  Section.first? kind executable.sections

/-! ## Loading -/

section Loading

variable [Source σ]

/-- Reads a section from a range of the source. -/
def readSection (kind : SectionKind) (start size : Nat) : Reading σ Section := do
  let blank := Section.zeroed kind size
  Source.seekTo start
  let bytes ← Source.readExact blank.size
  return { blank with bytes }

/-- Reads the code and, when the header declares some, the data. -/
def readSections (header : Header) : Reading σ (List Section) := do
  let code ← readSection .code header.codeOffset header.codeSize.toNat
  if header.hasData then
    let data ← readSection .data header.dataOffset header.initialDataSize.toNat
    return [code, data]
  else
    return [code]

/-- Loads the sections, unless they were loaded before. Nothing is recorded unless
all of them could be read. -/
def load (executable : Executable σ) : Except LoadError Unit × Executable σ :=
  if executable.isLoaded then
    (.ok (), executable)
  else
    match (readSections executable.header).run executable.source with
    | .ok sections source => (.ok (), { executable with source, sections })
    | .error fault source => (.error (.io fault), { executable with source })

/-- The executable with the calls that were made to its source so far. -/
def recorded (executable : Executable σ) (calls : List Source.Call) :
    Executable (Recorded σ) :=
  { executable with source := ⟨executable.source, calls⟩ }

/-- The calls that a load makes to the source. -/
def loadCalls (executable : Executable σ) : List Source.Call :=
  (executable.recorded []).load.2.source.calls

end Loading

/-- Puts another medium in place of the one that the source reads from. The
position stays. -/
def replaceMedium (executable : Executable ByteSource) (medium : Medium) :
    Executable ByteSource :=
  { executable with source.medium := medium }

/-! ## Edits -/

/-- How a section is edited. -/
inductive Edit where
  /-- One byte is set. -/
  | set (index : Nat) (value : UInt8)
  /-- Every byte is replaced by what `value` gives for its index and the byte there
  now. -/
  | update (value : Nat → UInt8 → UInt8)
  /-- Another section is put in place of it. -/
  | replace (change : Section → Section)

/-- Why an edit of a loaded section fails. -/
inductive EditError where
  | noSection
  | indexOutOfRange
deriving DecidableEq, Repr

/-- The section after an edit. -/
def Edit.run (part : Section) : Edit → Except EditError Section
  | set index value =>
      match part.set? index value with
      | some changed => .ok changed
      | none => .error .indexOutOfRange
  | update value => .ok (part.mapBytes value)
  | replace change => .ok (change part)

/-- Edits the section of a kind. -/
def edit (executable : Executable σ) (kind : SectionKind) (edit : Edit) :
    Except EditError (Executable σ) :=
  match executable.section? kind with
  | none => .error .noSection
  | some part => do
      let changed ← edit.run part
      return { executable with
        sections := Section.modifyFirst kind (fun _ => changed) executable.sections }

end Executable

end Bytecode
