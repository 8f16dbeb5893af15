import Bytecode.Bytes

/-!
# Sections

A section is a block of bytes out of an executable, tagged with what it is for.
Editing the bytes of a section keeps its kind and its length.

The sections of an executable are a list. The section of a kind is the first one
of that kind, and it is the one that is edited.
-/

namespace Bytecode

/-- What the bytes of a section are for. -/
inductive SectionKind where
  /-- The instructions. -/
  | code
  /-- The bytes that the data segment starts with. -/
  | data
deriving DecidableEq, Repr

def SectionKind.name : SectionKind → String
  | code => "Code"
  | data => "Data"

/-- The kind of section of that name; upper and lower case differ. -/
def SectionKind.ofName? (name : String) : Option SectionKind :=
  if name = "Code" then some .code else if name = "Data" then some .data else none

/-- A tagged block of bytes. -/
structure Section where
  kind : SectionKind
  bytes : Bytes
deriving DecidableEq

namespace Section

/-- A section of zeros, to be read into. -/
def zeroed (kind : SectionKind) (size : Nat) : Section :=
  ⟨kind, .zeroed size⟩

def size (part : Section) : Nat :=
  part.bytes.size

def isEmpty (part : Section) : Bool :=
  part.size == 0

/-- The section with one byte replaced, or `none` when the index is out of
range. -/
def set? (part : Section) (index : Nat) (value : UInt8) : Option Section :=
  (part.bytes.set? index value).map fun bytes => { part with bytes }

/-- The section with every byte replaced by what `value` gives for its index and
the byte there now. -/
def mapBytes (part : Section) (value : Nat → UInt8 → UInt8) : Section :=
  { part with bytes := part.bytes.mapIdx value }

@[simp] theorem size_zeroed (kind : SectionKind) (size : Nat) :
    (zeroed kind size).size = size :=
  Bytes.size_zeroed size

theorem kind_of_set? {part changed : Section} {index : Nat} {value : UInt8}
    (done : part.set? index value = some changed) : changed.kind = part.kind := by
  obtain ⟨bytes, -, rfl⟩ := Option.map_eq_some_iff.mp done
  rfl

theorem size_of_set? {part changed : Section} {index : Nat} {value : UInt8}
    (done : part.set? index value = some changed) : changed.size = part.size := by
  obtain ⟨bytes, replaced, rfl⟩ := Option.map_eq_some_iff.mp done
  exact Bytes.size_of_set? replaced

@[simp] theorem kind_mapBytes (part : Section) (value : Nat → UInt8 → UInt8) :
    (part.mapBytes value).kind = part.kind := rfl

@[simp] theorem size_mapBytes (part : Section) (value : Nat → UInt8 → UInt8) :
    (part.mapBytes value).size = part.size := by
  simp [mapBytes, Section.size]

/-! ## Lists of sections -/

/-- The first section of a kind. -/
def first? (kind : SectionKind) (parts : List Section) : Option Section :=
  parts.find? fun part => part.kind = kind

/-- The list with the first section of a kind changed, if there is one. -/
def modifyFirst (kind : SectionKind) (change : Section → Section) :
    List Section → List Section
  | [] => []
  | part :: rest =>
      if part.kind = kind then change part :: rest
      else part :: modifyFirst kind change rest

@[simp] theorem length_modifyFirst (kind : SectionKind) (change : Section → Section)
    (parts : List Section) : (modifyFirst kind change parts).length = parts.length := by
  induction parts with
  | nil => rfl
  | cons part rest ih =>
      rw [modifyFirst]
      split
      · rfl
      · rw [List.length_cons, ih, List.length_cons]

theorem first?_cons (kind : SectionKind) (part : Section) (rest : List Section) :
    first? kind (part :: rest) = if part.kind = kind then some part else first? kind rest := by
  by_cases here : part.kind = kind <;> simp [first?, here]

/-- What is put in place of the first section of a kind is told by that section
alone. -/
theorem modifyFirst_congr {kind : SectionKind} {change other : Section → Section}
    {parts : List Section} (same : ∀ part ∈ first? kind parts, change part = other part) :
    modifyFirst kind change parts = modifyFirst kind other parts := by
  induction parts with
  | nil => rfl
  | cons part rest ih =>
      rw [first?_cons] at same
      rw [modifyFirst, modifyFirst]
      by_cases here : part.kind = kind
      · rw [if_pos here] at same
        rw [if_pos here, if_pos here, same part rfl]
      · rw [if_neg here] at same
        rw [if_neg here, if_neg here, ih same]

/-- What a change keeps of a section, it keeps of all sections. -/
theorem map_modifyFirst {α : Type} {kind : SectionKind} {change : Section → Section}
    {shown : Section → α} (keeps : ∀ part, shown (change part) = shown part)
    (parts : List Section) : (modifyFirst kind change parts).map shown = parts.map shown := by
  induction parts with
  | nil => rfl
  | cons part rest ih =>
      rw [modifyFirst]
      split
      · rw [List.map_cons, List.map_cons, keeps]
      · rw [List.map_cons, List.map_cons, ih]

/-- Where the change leaves the first section of the kind as it is, all of them stay. -/
theorem modifyFirst_eq_self {kind : SectionKind} {change : Section → Section}
    {parts : List Section} (unchanged : ∀ part ∈ first? kind parts, change part = part) :
    modifyFirst kind change parts = parts := by
  have same : modifyFirst kind change parts = modifyFirst kind id parts :=
    modifyFirst_congr unchanged
  have kept : (modifyFirst kind id parts).map id = parts.map id :=
    map_modifyFirst (fun _ => rfl) parts
  rw [same, ← List.map_id (modifyFirst kind id parts), kept, List.map_id]

/-- A change that keeps the kind leaves the sections of the other kinds as they
are. -/
theorem first?_modifyFirst_of_ne {kind other : SectionKind} {change : Section → Section}
    (keeps : ∀ part, (change part).kind = part.kind) (different : other ≠ kind)
    (parts : List Section) :
    first? other (modifyFirst kind change parts) = first? other parts := by
  induction parts with
  | nil => rfl
  | cons part rest ih =>
      rw [modifyFirst]
      split
      · next here =>
          have passed : part.kind ≠ other := here ▸ different.symm
          rw [first?_cons, keeps, if_neg passed, first?_cons, if_neg passed]
      · rw [first?_cons, first?_cons, ih]

theorem isSome_first?_iff {kind : SectionKind} {parts : List Section} :
    (first? kind parts).isSome = true ↔ kind ∈ parts.map Section.kind := by
  simp [first?]

/-- Where no kind comes twice, the section that is found is the only one of its kind. -/
theorem filter_eq_of_first?_eq_some {kind : SectionKind} {part : Section}
    {parts : List Section} (distinct : (parts.map Section.kind).Nodup)
    (found : first? kind parts = some part) :
    parts.filter (fun other => other.kind = kind) = [part] := by
  induction parts with
  | nil => simp [first?] at found
  | cons first rest ih =>
      obtain ⟨fresh, distinct⟩ := List.nodup_cons.mp distinct
      rw [first?_cons] at found
      by_cases here : first.kind = kind
      · rw [if_pos here] at found
        obtain rfl := Option.some.inj found
        have none : rest.filter (fun other => other.kind = kind) = [] := by
          rw [List.filter_eq_nil_iff]
          intro other member same
          have again : other.kind = first.kind := (of_decide_eq_true same).trans here.symm
          exact fresh (again ▸ List.mem_map_of_mem member)
        rw [List.filter_cons_of_pos (by simpa using here), none]
      · rw [if_neg here] at found
        rw [List.filter_cons_of_neg (by simpa using here), ih distinct found]

end Section

end Bytecode
