import Bytecode.Proofs.Executable.Lifecycle

/-!
# Loading again after a success

An executable that is loaded has no more use for its source. Loading it again succeeds
and does nothing (`load_of_loaded`), and makes no call to the source
(`loadCalls_of_loaded`). So of everything that happens to it later only the edits show in
its sections, and only the sources put in place show in its source
(`sections_after_of_loaded`, `source_after_of_loaded`).

Whether something is loaded is told by the list of sections, and a load that succeeds
leaves at least a section of code there, be it empty (`isLoaded_of_load`): so this holds
as well where nothing was read. No edit empties the list, not even one that puts another
section in place of one.

The calls of a load are those that a source records which is otherwise the same. That
recording them changes nothing else about the load is `load_recorded`.
-/

namespace Bytecode.Executable

variable {σ : Type}

/-! ## What events ask for -/

/-- The sections after an edit of the first one of a kind. -/
def editSections (sections : List Section) (request : SectionKind × Edit) : List Section :=
  Section.modifyFirst request.1 request.2.apply sections

namespace Event

/-- The edit that is asked for, with the kind of section. -/
def edit? : Event σ → Option (SectionKind × Edit)
  | .edit kind change => some (kind, change)
  | _ => none

/-- The source that is put in place of another one. -/
def source? : Event σ → Option σ
  | .exchange source => some source
  | _ => none

end Event

/-- What is left of some values after others were put in place of one another. -/
theorem foldl_replace (value : σ) (values : List σ) :
    values.foldl (fun _ next => next) value = values.getLastD value := by
  induction values generalizing value with
  | nil => rfl
  | cons next rest ih => rw [List.foldl_cons, ih, List.getLastD_cons]

variable [Source σ] {executable : Executable σ}

/-! ## The calls of a load -/

theorem mirrors_readSection (kind : SectionKind) (start size : Nat) :
    Recorded.Mirrors (readSection kind start size : Reading (Recorded σ) Section)
      (readSection kind start size) := by
  rw [readSection_eq, readSection_eq]
  exact (Recorded.mirrors_seekTo start).bind fun _ =>
    (Recorded.mirrors_readExact size).bind fun bytes => .pure _

theorem mirrors_readSections (header : Header) :
    Recorded.Mirrors (readSections header : Reading (Recorded σ) (List Section))
      (readSections header) := by
  refine (mirrors_readSection .code _ _).bind fun code => ?_
  split
  · exact (mirrors_readSection .data _ _).bind fun data => .pure [code, data]
  · exact .pure [code]

/-- To load what is loaded takes no call. -/
theorem loadCalls_of_loaded (loaded : executable.isLoaded = true) :
    executable.loadCalls = [] := by
  have loadedToo : (executable.recorded []).isLoaded = true := loaded
  rw [loadCalls, load_of_loaded loadedToo]
  rfl

/-- On a source that records its calls a load ends as on the source itself, and the calls
of the load are added to the record. -/
theorem load_recorded (executable : Executable σ) (calls : List Source.Call) :
    (executable.recorded calls).load =
      (executable.load.1, executable.load.2.recorded (calls ++ executable.loadCalls)) := by
  cases loaded : executable.isLoaded with
  | true =>
      have loadedToo : (executable.recorded calls).isLoaded = true := loaded
      rw [load_of_loaded loadedToo, load_of_loaded loaded, loadCalls_of_loaded loaded,
        List.append_nil]
  | false =>
      have unloaded := executable.isLoaded_eq_false_iff.mp loaded
      obtain ⟨more, mirrors⟩ := mirrors_readSections executable.header executable.source
      have runs (before : List Source.Call) : (executable.recorded before).load =
          (executable.load.1, executable.load.2.recorded (before ++ more)) := by
        have unloadedToo : (executable.recorded before).sections = [] := unloaded
        have run : (readSections (executable.recorded before).header).run
            (executable.recorded before).source = _ := mirrors before
        rw [load_of_unloaded unloaded, load_of_unloaded unloadedToo, run]
        cases (readSections executable.header).run executable.source <;> rfl
      have made : executable.loadCalls = more := by
        rw [loadCalls, runs]
        rfl
      rw [runs, made]

/-! ## One event -/

/-- A load that succeeds leaves the executable loaded. -/
theorem isLoaded_of_load {next : Executable σ} (done : executable.load = (.ok (), next)) :
    next.isLoaded = true := by
  cases loaded : executable.isLoaded with
  | true =>
      rw [load_of_loaded loaded] at done
      obtain rfl := (Prod.mk.inj done).2
      exact loaded
  | false =>
      rw [load_of_unloaded (executable.isLoaded_eq_false_iff.mp loaded)] at done
      cases reading : (readSections executable.header).run executable.source with
      | error fault rest => simp [reading] at done
      | ok sections rest =>
          simp only [reading] at done
          obtain rfl := (Prod.mk.inj done).2
          have outlines := outlines_of_readSections reading
          rw [isLoaded_iff]
          rintro rfl
          simp [Header.layout] at outlines

/-- The sections after an event, if the executable is loaded. -/
theorem sections_step_of_loaded (loaded : executable.isLoaded = true) (event : Event σ) :
    (executable.step event).sections =
      event.edit?.toList.foldl editSections executable.sections := by
  cases event with
  | load =>
      rw [step, load_of_loaded loaded]
      rfl
  | edit kind edit =>
      rw [step_edit]
      rfl
  | exchange source => rfl

/-- The source after an event, if the executable is loaded. -/
theorem source_step_of_loaded (loaded : executable.isLoaded = true) (event : Event σ) :
    (executable.step event).source =
      event.source?.toList.foldl (fun _ next => next) executable.source := by
  cases event with
  | load =>
      rw [step, load_of_loaded loaded]
      rfl
  | edit kind edit =>
      rw [step_edit]
      rfl
  | exchange source => rfl

/-! ## Runs -/

/-- What shows of a loaded executable, where after one event it is told by what the event
asks for, is told after all of them by all that they ask for. -/
theorem shown_after_of_loaded {α β : Type} {show? : Event σ → Option β} {act : α → β → α}
    {shown : Executable σ → α}
    (one : ∀ {executable : Executable σ}, executable.isLoaded = true → ∀ event,
      shown (executable.step event) = (show? event).toList.foldl act (shown executable))
    (loaded : executable.isLoaded = true) (events : List (Event σ)) :
    shown (executable.after events) =
      (events.filterMap show?).foldl act (shown executable) := by
  induction events generalizing executable with
  | nil => rfl
  | cons event rest ih =>
      have stillLoaded := (executable.step_keeps event).2.2 loaded
      have later : shown (executable.after (event :: rest)) = _ := ih stillLoaded
      rw [later, one loaded event, List.filterMap_cons]
      cases show? event <;> rfl

/-- After all that happens to a loaded executable its sections show the edits, in their
order, and nothing else. -/
theorem sections_after_of_loaded (loaded : executable.isLoaded = true)
    (events : List (Event σ)) :
    (executable.after events).sections =
      (events.filterMap Event.edit?).foldl editSections executable.sections :=
  shown_after_of_loaded sections_step_of_loaded loaded events

/-- Its source is the one that was put in place last, as it was then. -/
theorem source_after_of_loaded (loaded : executable.isLoaded = true)
    (events : List (Event σ)) :
    (executable.after events).source =
      (events.filterMap Event.source?).getLastD executable.source := by
  rw [shown_after_of_loaded source_step_of_loaded loaded events, foldl_replace]

/-- **A loaded executable has no more use for its source.** Whatever happens after a
load that has succeeded, at every point the executable is loaded, its sections are those
of that load with the edits made since, in their order and each to the first section of
its kind, and its source is the one put in place last, untouched. To load it then
succeeds, makes no call to its source and changes nothing, be it this source or any
other. -/
theorem loaded_executable_is_inert {loaded : Executable σ}
    (done : executable.load = (.ok (), loaded)) (events : List (Event σ)) :
    let reached := loaded.after events
    reached.isLoaded = true ∧
    reached.sections =
      (events.filterMap Event.edit?).foldl editSections loaded.sections ∧
    reached.source = (events.filterMap Event.source?).getLastD loaded.source ∧
    ∀ source : σ, let moved : Executable σ := { reached with source }
      moved.load = (.ok (), moved) ∧ moved.loadCalls = [] := by
  intro reached
  have isLoaded := isLoaded_of_load done
  have stillLoaded : reached.isLoaded = true := (loaded.after_keeps events).2.2 isLoaded
  refine ⟨stillLoaded, sections_after_of_loaded isLoaded events,
    source_after_of_loaded isLoaded events, ?_⟩
  intro source moved
  have movedLoaded : moved.isLoaded = true := stillLoaded
  exact ⟨load_of_loaded movedLoaded, loadCalls_of_loaded movedLoaded⟩

/-- A source without content that can be neither positioned nor read. -/
def broken : ByteSource :=
  ⟨{ content := #[], faultAt := some 0, seekEndFails := true, seekFaults := [20, 22] }, 7⟩

/-- An executable of no code and no data, not loaded. -/
def hollow : Executable ByteSource :=
  { header := .ofSizes 0 0 0
    source := ⟨.reliable (Header.ofSizes 0 0 0).toBytes.toArray, 20⟩
    fileSize := 20
    sections := [] }

/-- The source breaks after the load. The hollow executable is loaded all the same,
though nothing was read of it, and an edit misses its empty code until another section is
put in its place. The other executable is told apart from it by the calls of its load. It
shows four of five edits, since the last one misses its byte of data. -/
theorem loaded_executable_is_inert_hollow :
    let edits := [.edit .code (.set 0 1), .load, .edit .code (.replace fun _ => ⟨.code, #[7]⟩),
      .edit .code (.update fun _ byte => byte + 1)]
    let more := [.edit .data (.set 0 9), .load, .edit .data (.set 1 9)]
    let empty := hollow.load.2.after (.exchange broken :: .load :: edits)
    let full := onTheBrink.load.2.after (.exchange broken :: edits ++ more)
    (hollow.load.1 = .ok () ∧ hollow.loadCalls = [.seekTo 20] ∧
      empty.sections = [⟨.code, #[8]⟩] ∧ empty.source = broken ∧
      empty.load = (.ok (), empty) ∧ empty.loadCalls = []) ∧
    onTheBrink.load.1 = .ok () ∧ onTheBrink.loadCalls =
        [.seekTo 20, .read 2, .read 2, .read 2, .read 1, .seekTo 22, .read 1, .read 1] ∧
      full.sections = [⟨.code, #[8]⟩, ⟨.data, #[9]⟩] ∧ full.source = broken ∧
      full.load = (.ok (), full) ∧ full.loadCalls = [] := by
  intro edits more empty full
  have first : hollow.load.1 = .ok () := by cbv
  have second : onTheBrink.load.1 = .ok () := by cbv
  obtain ⟨-, sections, source, inert⟩ := loaded_executable_is_inert
    (Prod.ext first rfl : hollow.load = (.ok (), hollow.load.2))
    (.exchange broken :: .load :: edits)
  obtain ⟨-, moreSections, moreSource, moreInert⟩ := loaded_executable_is_inert
    (Prod.ext second rfl : onTheBrink.load = (.ok (), onTheBrink.load.2))
    (.exchange broken :: edits ++ more)
  refine ⟨⟨first, by cbv, sections.trans ?_, source, inert empty.source⟩,
    second, by cbv, moreSections.trans ?_, moreSource, moreInert full.source⟩
  · cbv
  · cbv

end Bytecode.Executable
