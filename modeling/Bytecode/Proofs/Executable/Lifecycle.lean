import Bytecode.Proofs.Executable.Loading
import Mathlib

/-!
# What an executable keeps

After it was made from a source of any kind, an executable is loaded, its sections are
edited, and other sources are put in place of its own, in any order and any number of
times. `step_cases` says all that one of these events can do: change the source, record
sections as the header declares them, or change the first section of a kind.

The list of sections is all that tells whether an executable is loaded, and it is
searched for the section of a kind. What keeps it in form is that a load records sections
of the declared kinds and lengths (`outlines_of_readSections`), that it does so only
where there are none, and that an edit in place changes neither kind nor length
(`Edit.InPlace`). From these follows what every run keeps (`Sound.after`), and from the
form of the list what is found in it (`made_executable_keeps_its_form`).
-/

namespace Bytecode

/-- The kind and the length of a section. -/
def Section.outline (part : Section) : SectionKind × Nat :=
  (part.kind, part.size)

/-- The sections that a header declares: code and, exactly if initial data is declared,
data behind it. -/
def Header.layout (header : Header) : List (SectionKind × Nat) :=
  (.code, header.codeSize.toNat) ::
    if header.initialDataSize = 0 then [] else [(.data, header.initialDataSize.toNat)]

theorem Header.layout_eq (header : Header) :
    header.layout = (.code, header.codeSize.toNat) ::
      if header.hasData then [(.data, header.initialDataSize.toNat)] else [] := by
  by_cases none : header.initialDataSize = 0 <;> simp [layout, hasData, none]

namespace Executable

variable {σ : Type} {executable : Executable σ}

/-! ## Soundness -/

/-- The header carries the signature and tells the length, and the sections are none or
those that it declares. -/
structure Sound (executable : Executable σ) : Prop where
  signed : executable.header.magic = Header.signature
  fileSize_eq : executable.fileSize = executable.header.fileSize
  outlines : executable.sections = [] ∨
    executable.sections.map Section.outline = executable.header.layout

/-- The kinds of the sections are told by the header. -/
theorem Sound.kinds_cases (sound : executable.Sound) :
    executable.sections = [] ∨ executable.sections.map Section.kind =
      .code :: if executable.header.initialDataSize = 0 then [] else [.data] := by
  refine sound.outlines.imp_right fun outlines => ?_
  have kinds := congrArg (List.map Prod.fst) outlines
  rw [List.map_map] at kinds
  refine Eq.trans kinds ?_
  rw [Header.layout]
  split <;> rfl

/-- There is a section of a kind exactly when the executable is loaded and its header
declares one. -/
theorem Sound.isSome_section?_iff (sound : executable.Sound) (kind : SectionKind) :
    (executable.section? kind).isSome = true ↔ executable.isLoaded = true ∧
      (kind = .code ∨ executable.header.initialDataSize ≠ 0) := by
  rw [section?, Section.isSome_first?_iff, isLoaded_iff]
  rcases sound.kinds_cases with none | kinds
  · simp [none]
  · have some : executable.sections ≠ [] := by
      intro none
      simp [none] at kinds
    rw [kinds]
    by_cases noData : executable.header.initialDataSize = 0 <;>
      cases kind <;> simp [noData, some]

/-- The section that is found for a kind is the only one of its kind. -/
theorem Sound.filter_sections_eq (sound : executable.Sound) {kind : SectionKind}
    {part : Section} (found : executable.section? kind = some part) :
    executable.sections.filter (fun other => other.kind = kind) = [part] := by
  have distinct : (executable.sections.map Section.kind).Nodup := by
    rcases sound.kinds_cases with none | kinds
    · simp [none]
    · rw [kinds]
      split <;> decide
  exact Section.filter_eq_of_first?_eq_some distinct found

/-! ## Events -/

/-- What can happen to an executable after it was made. -/
inductive Event (σ : Type)
  | load
  | edit (kind : SectionKind) (edit : Edit)
  | exchange (source : σ)

/-- The section after an edit. One that misses its bytes changes nothing. -/
def Edit.apply (edit : Edit) (part : Section) : Section :=
  match edit.run part with
  | .ok changed => changed
  | .error _ => part

/-- The edit changes bytes of a section, and neither its kind nor its length. -/
def Edit.InPlace (edit : Edit) : Prop :=
  ∀ part, (edit.apply part).outline = part.outline

theorem Edit.inPlace_set (index : Nat) (value : UInt8) : (set index value).InPlace := by
  intro part
  rw [apply, run]
  cases written : part.set? index value with
  | none => rfl
  | some changed =>
      exact Prod.ext (Section.kind_of_set? written) (Section.size_of_set? written)

theorem Edit.inPlace_update (value : Nat → UInt8 → UInt8) : (update value).InPlace :=
  fun part => Prod.ext (part.kind_mapBytes value) (part.size_mapBytes value)

variable [Source σ]

/-- The executable after an event. A load that fails may have moved the source, and an
edit that is refused changes nothing. -/
def step (executable : Executable σ) : Event σ → Executable σ
  | .load => executable.load.2
  | .edit kind edit =>
      match executable.edit kind edit with
      | .ok edited => edited
      | .error _ => executable
  | .exchange source => { executable with source }

/-- The executable after some events, the first of them first. -/
def after (executable : Executable σ) (events : List (Event σ)) : Executable σ :=
  events.foldl step executable

/-! ## One load -/

theorem outline_of_readSection {kind : SectionKind} {start size : Nat} {source rest : σ}
    {part : Section} (done : (readSection kind start size).run source = .ok part rest) :
    part.outline = (kind, size) := by
  rw [readSection_eq] at done
  obtain ⟨_, moved, -, reading⟩ := Source.exists_of_run_bind_eq_ok done
  obtain ⟨bytes, last, read, returned⟩ := Source.exists_of_run_bind_eq_ok reading
  obtain ⟨rfl, -⟩ := EStateM.Result.ok.inj returned
  exact Prod.ext rfl (Source.size_of_readExact read)

/-- Whatever the source, the sections that are read are those that the header
declares. -/
theorem outlines_of_readSections {header : Header} {source rest : σ}
    {sections : List Section} (done : (readSections header).run source = .ok sections rest) :
    sections.map Section.outline = header.layout := by
  obtain ⟨code, middle, codeRead, behind⟩ := Source.exists_of_run_bind_eq_ok done
  rw [Header.layout_eq, ← outline_of_readSection codeRead]
  cases has : header.hasData with
  | false =>
      rw [has] at behind
      obtain ⟨rfl, -⟩ := EStateM.Result.ok.inj behind
      rfl
  | true =>
      rw [has] at behind
      obtain ⟨data, last, dataRead, returned⟩ := Source.exists_of_run_bind_eq_ok behind
      obtain ⟨rfl, -⟩ := EStateM.Result.ok.inj returned
      rw [if_pos rfl, ← outline_of_readSection dataRead]
      rfl

/-- A load does nothing, changes the source alone, or records sections that the header
declares where there were none. -/
theorem load_cases (executable : Executable σ) :
    (∃ source, executable.load.2 = { executable with source }) ∨
      executable.sections = [] ∧ ∃ source sections,
        sections.map Section.outline = executable.header.layout ∧
        executable.load.2 = { executable with source, sections } := by
  cases loaded : executable.isLoaded with
  | true => exact .inl ⟨executable.source, by rw [load_of_loaded loaded]⟩
  | false =>
      have unloaded := executable.isLoaded_eq_false_iff.mp loaded
      rw [load_of_unloaded unloaded]
      cases reading : (readSections executable.header).run executable.source with
      | error fault rest => exact .inl ⟨rest, rfl⟩
      | ok sections rest =>
          exact .inr ⟨unloaded, rest, sections, outlines_of_readSections reading, rfl⟩

/-! ## One edit -/

/-- An edit is made to the first section of its kind, and to no other. -/
theorem step_edit (executable : Executable σ) (kind : SectionKind) (edit : Edit) :
    executable.step (.edit kind edit) =
      { executable with
        sections := Section.modifyFirst kind edit.apply executable.sections } := by
  rw [step, Executable.edit, section?]
  cases found : Section.first? kind executable.sections with
  | none => rw [Section.modifyFirst_eq_self (by simp [found])]
  | some part =>
      have first : ∀ other ∈ Section.first? kind executable.sections, part = other := by
        simp [found]
      cases edited : edit.run part with
      | error refusal =>
          have unchanged : ∀ other ∈ Section.first? kind executable.sections,
              edit.apply other = other := by
            intro other member
            rw [← first other member, Edit.apply, edited]
          rw [Section.modifyFirst_eq_self unchanged]
          simp only [edited]
          rfl
      | ok changed =>
          have same : ∀ other ∈ Section.first? kind executable.sections,
              changed = edit.apply other := by
            intro other member
            rw [← first other member, Edit.apply, edited]
          rw [← Section.modifyFirst_congr same]
          simp only [edited]
          rfl

/-- An edit in place leaves the other section as it is. -/
theorem section?_step_edit_of_ne {kind other : SectionKind} {edit : Edit}
    (inPlace : edit.InPlace) (different : other ≠ kind) :
    (executable.step (.edit kind edit)).section? other = executable.section? other := by
  rw [step_edit]
  exact Section.first?_modifyFirst_of_ne
    (fun part => congrArg Prod.fst (inPlace part)) different executable.sections

/-! ## One event -/

/-- All that an event can do. -/
theorem step_cases (executable : Executable σ) (event : Event σ) :
    (∃ source, executable.step event = { executable with source }) ∨
      (executable.sections = [] ∧ ∃ source sections,
        sections.map Section.outline = executable.header.layout ∧
        executable.step event = { executable with source, sections }) ∨
      ∃ kind edit, event = .edit kind edit ∧ executable.step event =
        { executable with
          sections := Section.modifyFirst kind edit.apply executable.sections } := by
  cases event with
  | load =>
      rcases executable.load_cases with unchanged | recorded
      · exact .inl unchanged
      · exact .inr (.inl recorded)
  | edit kind edit => exact .inr (.inr ⟨kind, edit, rfl, executable.step_edit kind edit⟩)
  | exchange source => exact .inl ⟨source, rfl⟩

/-- An event keeps the header, the length and that the executable is loaded. -/
theorem step_keeps (executable : Executable σ) (event : Event σ) :
    (executable.step event).header = executable.header ∧
      (executable.step event).fileSize = executable.fileSize ∧
      (executable.isLoaded = true → (executable.step event).isLoaded = true) := by
  rcases executable.step_cases event with
    ⟨source, moved⟩ | ⟨unloaded, source, sections, -, recorded⟩ | ⟨kind, edit, -, edited⟩
  · rw [moved]
    exact ⟨rfl, rfl, id⟩
  · rw [recorded]
    refine ⟨rfl, rfl, fun loaded => ?_⟩
    exact absurd unloaded (executable.isLoaded_iff.mp loaded)
  · rw [edited]
    refine ⟨rfl, rfl, fun loaded => ?_⟩
    -- the list is as long as before, so it is not empty
    have some : executable.sections.length ≠ 0 := by
      simpa using executable.isLoaded_iff.mp loaded
    rw [isLoaded_iff, ne_eq, ← List.length_eq_zero_iff, Section.length_modifyFirst]
    exact some

/-! ## What keeps it sound -/

theorem sound_of_ofSource {source : σ} (made : ofSource source = .ok executable) :
    executable.Sound := by
  cases start : readStart.run source with
  | error fault rest => simp [ofSource_of_error start] at made
  | ok found rest =>
      rw [ofSource_of_ok start] at made
      obtain ⟨header, accepted, rfl⟩ := map_eq_ok_iff.mp made
      obtain ⟨signed, -, length⟩ := Header.accept_eq_ok_iff.mp accepted
      exact ⟨signed, length, .inl rfl⟩

/-- Events whose edits are in place keep an executable sound. -/
theorem Sound.step (sound : executable.Sound) {event : Event σ}
    (inPlace : ∀ kind edit, event = .edit kind edit → edit.InPlace) :
    (executable.step event).Sound := by
  rcases executable.step_cases event with
    ⟨source, moved⟩ | ⟨-, source, sections, outlines, recorded⟩ | ⟨kind, edit, given, edited⟩
  · rw [moved]
    exact ⟨sound.signed, sound.fileSize_eq, sound.outlines⟩
  · rw [recorded]
    exact ⟨sound.signed, sound.fileSize_eq, .inr outlines⟩
  · rw [edited]
    refine ⟨sound.signed, sound.fileSize_eq, ?_⟩
    rcases sound.outlines with none | outlines
    · exact .inl (by rw [none, Section.modifyFirst])
    · exact .inr ((Section.map_modifyFirst (inPlace kind edit given) _).trans outlines)

/-! ## Runs -/

theorem Sound.after (sound : executable.Sound) {events : List (Event σ)}
    (inPlace : ∀ kind edit, .edit kind edit ∈ events → edit.InPlace) :
    (executable.after events).Sound := by
  induction events generalizing executable with
  | nil => exact sound
  | cons event rest ih =>
      have first : (executable.step event).Sound := sound.step fun kind edit given =>
        inPlace kind edit (given ▸ List.mem_cons_self)
      exact ih first fun kind edit member => inPlace kind edit (List.mem_cons_of_mem _ member)

theorem after_keeps (executable : Executable σ) (events : List (Event σ)) :
    (executable.after events).header = executable.header ∧
      (executable.after events).fileSize = executable.fileSize ∧
      (executable.isLoaded = true → (executable.after events).isLoaded = true) := by
  induction events generalizing executable with
  | nil => exact ⟨rfl, rfl, id⟩
  | cons event rest ih =>
      obtain ⟨header, fileSize, loaded⟩ := executable.step_keeps event
      obtain ⟨restHeader, restFileSize, restLoaded⟩ := ih (executable.step event)
      exact ⟨restHeader.trans header, restFileSize.trans fileSize, restLoaded ∘ loaded⟩

/-! ## What stays of an executable -/

/-- **An executable keeps the form that its header tells**, whatever source it is made
of and whatever is done to it, as long as its sections are edited in place. The header
and the length stay, and the length is the declared one. The sections are none or those
that the header declares, with the declared lengths, each the only one of its kind. The
executable is loaded exactly if it has sections, and stays so. An edit leaves the other
section as it is. -/
theorem made_executable_keeps_its_form {source : σ} {made : Executable σ}
    (making : ofSource source = .ok made) (events : List (Event σ))
    (inPlace : ∀ kind edit, .edit kind edit ∈ events → edit.InPlace) :
    let reached := made.after events
    let header := reached.header
    (header = made.header ∧ reached.fileSize = made.fileSize ∧
      header.magic = Header.signature ∧
      reached.fileSize = 20 + header.codeSize.toNat + header.initialDataSize.toNat) ∧
    (reached.sections = [] ∨ reached.sections.map Section.outline = header.layout) ∧
    (reached.isLoaded = true ↔ reached.sections ≠ []) ∧
    (∀ later, reached.isLoaded = true → (reached.after later).isLoaded = true) ∧
    (∀ kind, ((reached.section? kind).isSome = true ↔
        reached.isLoaded = true ∧ (kind = .code ∨ header.initialDataSize ≠ 0)) ∧
      ∀ part, reached.section? kind = some part →
        reached.sections.filter (fun other => other.kind = kind) = [part]) ∧
    ∀ kind edit other, edit.InPlace → other ≠ kind →
      (reached.step (.edit kind edit)).section? other = reached.section? other := by
  intro reached header
  have sound : reached.Sound := (sound_of_ofSource making).after inPlace
  obtain ⟨sameHeader, sameFileSize, -⟩ := made.after_keeps events
  refine ⟨⟨sameHeader, sameFileSize, sound.signed, sound.fileSize_eq⟩,
    sound.outlines, reached.isLoaded_iff, ?_, ?_, ?_⟩
  · intro later
    exact (reached.after_keeps later).2.2
  · intro kind
    exact ⟨sound.isSome_section?_iff kind, fun part found => sound.filter_sections_eq found⟩
  · intro kind edit other inPlace different
    exact section?_step_edit_of_ne inPlace different

/-- An executable of no code and two bytes of data, not loaded, on a medium that cannot
be read behind the first of them. -/
def codeless : Executable ByteSource :=
  { header := .ofSizes 0 5 2
    source :=
      { medium :=
          { content := #[0x45, 0x53, 0x45, 0x54, 0x2D, 0x56, 0x4D, 0x32, 0, 0, 0, 0, 5, 0, 0,
              0, 2, 0, 0, 0, 5, 6]
            faultAt := some 21 }
        position := 20 }
    fileSize := 22
    sections := [] }

/-- A load fails, an edit finds no section, the source is replaced by a sound one, and
after a load that succeeds one byte of the data is set, another one missed, and each of
them raised by its index. -/
def codelessEvents : List (Event ByteSource) :=
  [.load, .edit .data (.set 0 1), .exchange (.ofBytes codeless.source.medium.content),
    .load, .edit .data (.set 1 7), .edit .data (.set 2 7),
    .edit .data (.update fun index byte => byte + .ofNat index),
    .edit .code (.update fun _ _ => 1), .load]

theorem made_executable_keeps_its_form_codeless :
    ofSource { codeless.source with position := 3 } = .ok codeless ∧
      codeless.load.1 = .error (.io .read) ∧
      (∀ kind edit, .edit kind edit ∈ codelessEvents → edit.InPlace) ∧
      let reached := codeless.after codelessEvents
      reached.header = codeless.header ∧ reached.fileSize = 22 ∧
        reached.sections = [⟨.code, #[]⟩, ⟨.data, #[5, 8]⟩] ∧ reached.isLoaded = true ∧
        (reached.step (.edit .code (.set 0 1))).section? .data = some ⟨.data, #[5, 8]⟩ := by
  have making : ofSource { codeless.source with position := 3 } = .ok codeless := by cbv
  have shown : (codeless.after codelessEvents).sections =
      [⟨.code, #[]⟩, ⟨.data, #[5, 8]⟩] := by cbv
  have inPlace : ∀ kind edit, .edit kind edit ∈ codelessEvents → edit.InPlace := by
    simp only [codelessEvents, List.mem_cons, Event.edit.injEq, reduceCtorEq, false_or,
      List.not_mem_nil, or_false]
    rintro kind edit (⟨-, rfl⟩ | ⟨-, rfl⟩ | ⟨-, rfl⟩ | ⟨-, rfl⟩ | ⟨-, rfl⟩)
    all_goals first | exact Edit.inPlace_set _ _ | exact Edit.inPlace_update _
  obtain ⟨⟨header, -, -, fileSize⟩, -, loaded, -, -, untouched⟩ :=
    made_executable_keeps_its_form making codelessEvents inPlace
  refine ⟨making, by cbv, inPlace, header, ?_, shown, ?_, ?_⟩
  · rw [fileSize, header]
    decide
  · rw [loaded, shown]
    simp
  · rw [untouched .code (.set 0 1) .data (Edit.inPlace_set 0 1) (by decide), section?, shown]
    rfl

end Executable

end Bytecode
