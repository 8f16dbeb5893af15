import Bytecode.Memory.Basic
import Mathlib.Data.List.Induction

/-!
# What memory remembers

The contents of memory are told by its history. Each byte is the one that was written
there last since memory last ended at or before it, and zero where nothing was
written since. So growing keeps bytes, shrinking discards them for good, and a byte
that was cut off does not come back when memory grows again
(`memory_reflects_history`).
-/

namespace Bytecode.Memory

/-- What can be done to memory. -/
inductive Event
  | allocate (size : Nat)
  /-- Lays `piece` over the bytes from `start` on. -/
  | write (start : Nat) (piece : Bytes)
  /-- Goes through all bytes and replaces those for which a value is given. -/
  | pass (values : Nat → Option UInt8)

namespace Event

/-- The size that memory is given. -/
def allocates? : Event → Option Nat
  | allocate size => some size
  | _ => none

/-- The value that is written to a byte. -/
def writes? : Event → Nat → Option UInt8
  | allocate _, _ => none
  | write start piece, index => if start ≤ index then piece[index - start]? else none
  | pass values, index => values index

/-- Whether memory ends at or before a byte afterwards. -/
def cuts : Event → Nat → Bool
  | allocate size, index => size ≤ index
  | _, _ => false

/-- Every byte that is written lies within memory of this size. -/
def Fits (size : Nat) : Event → Prop
  | allocate _ => True
  | write start piece => start + piece.size ≤ size
  | pass values => ∀ index, size ≤ index → values index = none

end Event

/-- Memory after an event, or `none` when a piece does not fit. -/
def step? (memory : Memory) : Event → Option Memory
  | .allocate size => some (memory.allocate size)
  | .write start piece => memory.write? start piece
  | .pass values => some (memory.mapBytes fun index byte => (values index).getD byte)

/-- Memory after some events, the first of them first. -/
def after? (memory : Memory) (history : List Event) : Option Memory :=
  history.foldlM step? memory

/-! ## What a history tells -/

/-- The size that memory was given last. -/
def lastSize (history : List Event) : Nat :=
  (history.reverse.findSome? Event.allocates?).getD 0

/-- The value that was written to a byte last, since memory last ended at or before
it. -/
def lastWritten (history : List Event) (index : Nat) : Option UInt8 :=
  (history.reverse.takeWhile fun event => !event.cuts index).findSome? (·.writes? index)

/-- Whatever is written lies within memory as it is then. -/
def InRange (history : List Event) : Prop :=
  ∀ before event later, history = before ++ event :: later → event.Fits (lastSize before)

theorem lastSize_snoc (history : List Event) (event : Event) :
    lastSize (history ++ [event]) = event.allocates?.getD (lastSize history) := by
  cases event <;> simp [lastSize, List.findSome?_cons, Event.allocates?]

theorem lastWritten_snoc (history : List Event) (event : Event) (index : Nat) :
    lastWritten (history ++ [event]) index =
      if event.cuts index then none
      else (event.writes? index).or (lastWritten history index) := by
  unfold lastWritten
  rw [List.reverse_append, List.reverse_singleton, List.singleton_append,
    List.takeWhile_cons]
  cases cut : event.cuts index with
  | true => simp
  | false =>
      simp only [Bool.not_false, if_true, Bool.false_eq_true, if_false,
        List.findSome?_cons]
      cases event.writes? index <;> rfl

theorem inRange_nil : InRange [] := by
  intro before event later split
  simp at split

theorem inRange_snoc_iff {history : List Event} {event : Event} :
    InRange (history ++ [event]) ↔ InRange history ∧ event.Fits (lastSize history) := by
  constructor
  · intro inRange
    refine ⟨?_, inRange history event [] rfl⟩
    intro before earlier later split
    apply inRange before earlier (later ++ [event])
    rw [split, List.append_assoc, List.cons_append]
  · rintro ⟨inRange, fits⟩ before found later split
    rcases List.eq_nil_or_concat later with rfl | ⟨rest, last, rfl⟩
    · obtain ⟨rfl, same⟩ := List.append_inj' split rfl
      obtain rfl := List.singleton_inj.mp same
      exact fits
    · apply inRange before found rest
      rw [List.concat_eq_append, ← List.cons_append, ← List.append_assoc] at split
      exact (List.append_inj' split rfl).1

/-! ## Memory and its history -/

/-- Memory is what its history tells. Past its end the history tells of no byte that
was written and not cut off. -/
structure Reflects (history : List Event) (memory : Memory) : Prop where
  isAllocated_iff : memory.isAllocated = true ↔ ∃ size, .allocate size ∈ history
  size_eq : memory.size = lastSize history
  getD_eq : ∀ index, memory.bytes.getD index 0 = (lastWritten history index).getD 0

theorem reflects_unallocated : Reflects [] unallocated where
  isAllocated_iff := by simp [isAllocated, unallocated]
  size_eq := rfl
  getD_eq _ := rfl

/-- One event. -/
theorem Reflects.step {history : List Event} {memory : Memory} {event : Event}
    (reflects : Reflects history memory) (fits : event.Fits memory.size) :
    ∃ next, memory.step? event = some next ∧ Reflects (history ++ [event]) next := by
  cases event with
  | allocate size =>
      refine ⟨memory.allocate size, rfl, ?_, ?_, ?_⟩
      · simp
      · rw [lastSize_snoc, size_allocate]
        rfl
      · intro index
        rw [lastWritten_snoc, bytes_allocate, Array.getD_eq_getD_getElem?]
        by_cases kept : index < size
        · have whole : (Event.allocate size).cuts index = false := by
            simpa [Event.cuts] using kept
          rw [Bytes.getElem?_resize _ kept, whole]
          exact reflects.getD_eq index
        · have cut : (Event.allocate size).cuts index = true := by
            simpa [Event.cuts] using kept
          rw [Array.getElem?_eq_none (by simpa using kept), cut]
          rfl
  | write start piece =>
      obtain ⟨next, written, allocated, laid⟩ := exists_write?_eq_some fits
      refine ⟨next, written, ?_, ?_, ?_⟩
      · rw [allocated, reflects.isAllocated_iff]
        simp
      · rw [lastSize_snoc, Memory.size, Bytes.size_of_overlay? laid]
        exact reflects.size_eq
      · intro index
        have before := reflects.getD_eq index
        rw [Array.getD_eq_getD_getElem?] at before ⊢
        rw [lastWritten_snoc, Bytes.getElem?_of_overlay? laid]
        by_cases behind : start ≤ index
        · simp only [Event.cuts, Event.writes?, behind, if_true]
          cases piece[index - start]? with
          | none => exact before
          | some value => rfl
        · simp only [Event.cuts, Event.writes?, behind, if_false]
          exact before
  | pass values =>
      refine ⟨_, rfl, ?_, ?_, ?_⟩
      · rw [isAllocated_mapBytes, reflects.isAllocated_iff]
        simp
      · rw [lastSize_snoc, Memory.size, bytes_mapBytes, Array.size_mapIdx]
        exact reflects.size_eq
      · intro index
        have before := reflects.getD_eq index
        rw [Array.getD_eq_getD_getElem?] at before ⊢
        rw [lastWritten_snoc, bytes_mapBytes, Array.getElem?_mapIdx]
        simp only [Event.cuts, Event.writes?]
        cases given : values index with
        | none => simpa using before
        | some value =>
            -- the byte is there, since the pass writes to no other
            have inside : index < memory.bytes.size := by
              apply Decidable.byContradiction
              intro past
              have none := fits index (Nat.not_lt.mp past)
              simp [given] at none
            simp [inside]

/-- All events. -/
theorem exists_reflects {history : List Event} (inRange : InRange history) :
    ∃ memory, unallocated.after? history = some memory ∧ Reflects history memory := by
  -- on the last event, since what a byte holds is told from there back
  induction history using List.reverseRecOn with
  | nil => exact ⟨unallocated, rfl, reflects_unallocated⟩
  | append_singleton history event ih =>
      obtain ⟨earlier, fits⟩ := inRange_snoc_iff.mp inRange
      obtain ⟨memory, done, reflects⟩ := ih earlier
      rw [← reflects.size_eq] at fits
      obtain ⟨next, applied, reflects⟩ := reflects.step fits
      refine ⟨next, ?_, reflects⟩
      rw [after?, List.foldlM_append, show history.foldlM Memory.step? unallocated =
        some memory from done]
      simp [applied]

/-- **Memory reflects its history.** Allocations and writes within the length of
memory always succeed. Memory is allocated once it was given a size, be it zero, and
its length is the one given last. Each byte of it is the one written there last since
the last allocation that ended memory at or before it, or zero if none was. -/
theorem memory_reflects_history {history : List Event} (inRange : InRange history) :
    ∃ memory, unallocated.after? history = some memory ∧
      (memory.isAllocated = true ↔ ∃ size, .allocate size ∈ history) ∧
      memory.size = lastSize history ∧
      ∀ index, index < memory.size →
        memory.bytes[index]? = some ((lastWritten history index).getD 0) := by
  obtain ⟨memory, done, reflects⟩ := exists_reflects inRange
  refine ⟨memory, done, reflects.isAllocated_iff, reflects.size_eq, ?_⟩
  intro index inside
  have there : index < memory.bytes.size := inside
  rw [← reflects.getD_eq index, Array.getD_eq_getD_getElem?,
    Array.getElem?_eq_getElem there, Option.getD_some]

/-- Four bytes are written, memory is cut to two of them, one of these is replaced, and
memory grows back. -/
def cutAndRegrown : List Event :=
  [.allocate 4, .write 0 #[1, 2, 3, 4], .allocate 2,
    .pass fun index => if index = 1 then some 9 else none, .allocate 4]

theorem memory_reflects_history_cutAndRegrown :
    ∃ memory, unallocated.after? cutAndRegrown = some memory ∧ memory.size = 4 ∧
      memory.bytes[0]? = some 1 ∧ memory.bytes[1]? = some 9 ∧
      memory.bytes[2]? = some 0 ∧ memory.bytes[3]? = some 0 := by
  have within : InRange cutAndRegrown := by
    show InRange ((((([] ++ [_]) ++ [_]) ++ [_]) ++ [_]) ++ [_])
    simp only [inRange_snoc_iff]
    refine ⟨⟨⟨⟨⟨inRange_nil, trivial⟩, ?_⟩, trivial⟩, ?_⟩, trivial⟩
    · show 0 + 4 ≤ 4
      decide
    · intro index past
      change 2 ≤ index at past
      exact if_neg (by omega)
  obtain ⟨memory, done, -, size, bytes⟩ := memory_reflects_history within
  have four : memory.size = 4 := size
  refine ⟨memory, done, four, ?_, ?_, ?_, ?_⟩
  · rw [bytes 0 (by omega)]; rfl
  · rw [bytes 1 (by omega)]; rfl
  · rw [bytes 2 (by omega)]; rfl
  · rw [bytes 3 (by omega)]; rfl

end Bytecode.Memory
