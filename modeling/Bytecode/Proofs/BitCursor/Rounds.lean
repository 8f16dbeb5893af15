import Bytecode.Proofs.BitCursor.Fetching

/-!
# How many rounds filling takes

Filling the accumulator for a field goes in rounds: as long as the field is short, another
round fetches a unit if nothing is pending and merges what is. `Fills` is this loop as it
stands, as a relation, and nothing in it says that the loop comes to an end. It does:

* **progress** (`valid_of_advance`): a round that succeeds makes at least one bit valid, and
  never more than 32 of them;
* **fetches** (`fetches_iff`): a round fetches exactly if nothing is pending;
* **rounds** (`Fills.length_lt`, `Fills.length_le`): a round that leaves the field short
  leaves nothing pending, and if it fetched, that was a unit of 16 bits. So from nothing
  pending on, each round but the last one makes 16 bits valid, and two are enough for the
  widest field. What was pending before takes one round more, which fetches nothing.

None of this asks for a reachable cursor. Only that the first round merges all that an
earlier extraction left pending does (`Settled.advance_of_pending`).
-/

namespace Bytecode.BitCursor

variable {memory : Memory} {position width : Nat} {cursor : BitCursor}
  {rounds : List BitCursor} {result : Except MemoryError Unit × BitCursor}

/-- Filling to `width` bits, as the loop that it is: from `cursor` on, rounds are started
at these cursors, one after the other, and then the loop ends with this result. -/
inductive Fills (width : Nat) :
    BitCursor → List BitCursor → Except MemoryError Unit × BitCursor → Prop
  | enough {cursor : BitCursor} :
      width ≤ cursor.valid → Fills width cursor [] (.ok (), cursor)
  | failed {cursor : BitCursor} {cause : MemoryError} :
      cursor.valid < width → cursor.advance width = .error cause →
      Fills width cursor [cursor] (.error cause, cursor)
  | again {cursor next : BitCursor} {rounds : List BitCursor}
      {result : Except MemoryError Unit × BitCursor} :
      cursor.valid < width → cursor.advance width = .ok next →
      Fills width next rounds result → Fills width cursor (cursor :: rounds) result

/-- The round that starts at this cursor asks memory for a unit, as can be told from
outside: it fails or moves the offset. -/
def fetches (width : Nat) (cursor : BitCursor) : Bool :=
  match cursor.advance width with
  | .error _ => true
  | .ok next => next.offset ≠ cursor.offset

/-! ## The loop -/

/-- `advance` is a function, so the loop runs in one way only. -/
theorem Fills.unique {others : List BitCursor} {other : Except MemoryError Unit × BitCursor}
    (one : Fills width cursor rounds result) (two : Fills width cursor others other) :
    others = rounds ∧ other = result := by
  induction one generalizing others other with
  | enough covered =>
      cases two with
      | enough _ => exact ⟨rfl, rfl⟩
      | failed short _ => omega
      | again short _ _ => omega
  | failed short failure =>
      cases two with
      | enough covered => omega
      | failed _ same =>
          rw [failure, Except.error.injEq] at same
          exact ⟨rfl, by rw [same]⟩
      | again _ done _ => simp [failure] at done
  | again short done _ ih =>
      cases two with
      | enough covered => omega
      | failed _ failure => simp [done] at failure
      | again _ same rest =>
          rw [done, Except.ok.injEq] at same
          subst same
          obtain ⟨rfl, rfl⟩ := ih rest
          exact ⟨rfl, rfl⟩

/-- The loop ends, with what `topUp` gives. -/
theorem exists_fills (cursor : BitCursor) (width : FieldWidth) :
    ∃ rounds, Fills width.bits cursor rounds (cursor.topUp width) := by
  fun_induction topUp cursor width with
  | case1 cursor short cause failure => exact ⟨_, .failed short failure⟩
  | case2 cursor short next done closer ih =>
      obtain ⟨rounds, rest⟩ := ih
      exact ⟨_, .again short done rest⟩
  | case3 cursor covered => exact ⟨_, .enough (Nat.not_lt.mp covered)⟩

/-- Each round starts with the field short. -/
theorem Fills.short_of_mem {round : BitCursor} (fills : Fills width cursor rounds result)
    (made : round ∈ rounds) : round.valid < width := by
  induction fills with
  | enough _ => simp at made
  | failed short _ =>
      rw [List.mem_singleton.mp made]
      exact short
  | again short _ _ ih =>
      rcases List.mem_cons.mp made with rfl | later
      · exact short
      · exact ih later

/-- The first round starts where the loop does. -/
theorem Fills.head?_eq (fills : Fills width cursor rounds result)
    (short : cursor.valid < width) : rounds.head? = some cursor := by
  cases fills with
  | enough covered => omega
  | failed _ _ => rfl
  | again _ _ _ => rfl

/-! ## One round -/

/-- A round fetches exactly if nothing is pending. -/
theorem fetches_iff (width : Nat) (cursor : BitCursor) :
    cursor.fetches width = true ↔ cursor.pendingBits = 0 := by
  unfold fetches
  by_cases empty : cursor.pendingBits = 0
  · rw [advance_of_pendingBits_eq_zero empty]
    cases fetched : cursor.fetch (unitFor (width - cursor.valid)) with
    | error cause => simp [Except.map, empty]
    | ok ready =>
        obtain ⟨moved, -, -⟩ := of_fetch fetched
        have some := (unitFor (width - cursor.valid)).bytes_pos
        have elsewhere : ready.offset ≠ cursor.offset := by omega
        simp [Except.map, empty, elsewhere]
  · rw [advance_of_pendingBits_ne_zero empty]
    simp [empty]

/-- Between two extractions, a round that finds bits pending makes all of them valid. -/
theorem Settled.advance_of_pending (settled : Settled memory position cursor)
    (waiting : cursor.pendingBits ≠ 0) (width : Nat) :
    ∃ next, cursor.advance width = .ok next ∧ next.pendingBits = 0 ∧
      next.valid = cursor.valid + cursor.pendingBits := by
  have spent := settled.pendingBits_merge
  have same := bufferedBits_merge cursor
  rw [bufferedBits, bufferedBits, spent, Nat.add_zero] at same
  exact ⟨_, advance_of_pendingBits_ne_zero waiting width, spent, same⟩

/-! ## All rounds -/

/-- With nothing pending, each round but the last one makes 16 bits valid. So there are no
more rounds than units of 16 bits that it takes to cover the deficit. -/
theorem Fills.length_lt (fills : Fills width cursor rounds result) (small : width ≤ 32)
    (empty : cursor.valid < width → cursor.pendingBits = 0) :
    16 * rounds.length < width - cursor.valid + 16 := by
  -- along the rounds: those that leave the field short leave nothing pending again
  induction fills with
  | enough _ => simp
  | failed short _ =>
      rw [List.length_singleton]
      omega
  | @again cursor next rounds result short done rest ih =>
      rw [List.length_cons]
      by_cases stillShort : next.valid < width
      · obtain ⟨spent, kept⟩ := of_advance_short small stillShort done
        have few := ih fun _ => spent
        have none := empty short
        have grown : next.valid = cursor.valid + 16 := by
          rcases kept with ⟨waiting, -⟩ | ⟨-, -, grown⟩
          · exact absurd none waiting
          · exact grown
        omega
      · -- the loop ends here
        have few := ih fun short => absurd short stillShort
        omega

/-- Filling takes at most three rounds, of which at most two fetch. -/
theorem Fills.length_le (fills : Fills width cursor rounds result) (small : width ≤ 32) :
    rounds.length ≤ 3 ∧ rounds.countP (fetches width) ≤ 2 := by
  by_cases empty : cursor.pendingBits = 0
  · have few := fills.length_lt small fun _ => empty
    have some : rounds.countP (fetches width) ≤ rounds.length := List.countP_le_length
    omega
  · cases fills with
    | enough _ => simp
    | failed short failure => simp [advance_of_pendingBits_ne_zero empty] at failure
    | @again _ next later _ short done rest =>
        -- the first round fetches nothing, and the later ones start with nothing pending
        have few := rest.length_lt small fun stillShort =>
          (of_advance_short small stillShort done).1
        have grown := (valid_of_advance (Nat.lt_of_lt_of_le short small) done).1
        have some : later.countP (fetches width) ≤ later.length := List.countP_le_length
        have quiet : ¬ cursor.fetches width = true := mt (cursor.fetches_iff width).mp empty
        rw [List.length_cons, List.countP_cons_of_neg quiet]
        omega

/-- **Filling ends within three rounds.** The loop that fills the accumulator for a field
runs in one way only, and it ends, with what `topUp` gives. It makes at most three rounds,
the one that fails included, and at most two of them fetch. Each round that succeeds makes
at least one bit valid and at most 32 altogether. A round fetches only if nothing is
pending, and else it only merges. All bits that were left pending before are valid after
the first round. -/
theorem filling_ends_within_three_rounds (reachable : Reachable memory cursor)
    (width : FieldWidth) :
    ∃ rounds : List BitCursor,
      (∀ made result, Fills width.bits cursor made result ↔
        made = rounds ∧ result = cursor.topUp width) ∧
      rounds.length ≤ 3 ∧
      rounds.countP (fetches width.bits) ≤ 2 ∧
      (∀ round ∈ rounds,
        (∀ next, round.advance width.bits = .ok next →
          round.valid < next.valid ∧ next.valid ≤ 32) ∧
        (round.fetches width.bits = true → round.pendingBits = 0) ∧
        round.advance width.bits =
          if round.fetches width.bits = true then
            (round.fetch (unitFor (width.bits - round.valid))).map merge
          else .ok round.merge) ∧
      (cursor.valid < width.bits →
        rounds.head? = some cursor ∧
        (cursor.pendingBits ≠ 0 →
          ∃ next, cursor.advance width.bits = .ok next ∧ next.pendingBits = 0 ∧
            next.valid = cursor.valid + cursor.pendingBits)) := by
  obtain ⟨rounds, fills⟩ := cursor.exists_fills width
  obtain ⟨few, fewFetch⟩ := fills.length_le width.bits_le
  refine ⟨rounds, ?_, few, fewFetch, ?_, ?_⟩
  · intro made result
    constructor
    · intro other
      exact fills.unique other
    · rintro ⟨rfl, rfl⟩
      exact fills
  · intro round made
    have roomy := Nat.lt_of_lt_of_le (fills.short_of_mem made) width.bits_le
    have asks := round.fetches_iff width.bits
    refine ⟨fun next done => valid_of_advance roomy done, asks.mp, ?_⟩
    split
    · next fetching => exact advance_of_pendingBits_eq_zero (asks.mp fetching) _
    · next quiet => exact advance_of_pendingBits_ne_zero (mt asks.mpr quiet) _
  · intro short
    exact ⟨fills.head?_eq short, fun waiting =>
      reachable.settled.advance_of_pending waiting width.bits⟩

/-- A cursor on ten bytes, of which 12 and 30 bits are taken. Of the 48 bits that it has
fetched for them two are valid and four are pending. -/
def onTenBytes : BitCursor :=
  { memory := ⟨some #[0xAB, 0xCD, 0xEF, 0x01, 0x23, 0x45, 0x67, 0x89, 0xAB, 0xCD]⟩
    offset := 6
    accumulator := 0
    valid := 2
    pending := 5
    pendingBits := 4 }

/-- Both bounds are met when that cursor is asked for 32 bits: after a round that merges
the pending bits, two more fetch two bytes each. -/
theorem filling_ends_within_three_rounds_ten_bytes :
    let second := { onTenBytes with
      accumulator := 0x14000000, valid := 6, pending := 0, pendingBits := 0 }
    let third := { second with offset := 8, accumulator := 0x159E2400, valid := 22 }
    let filled := { third with
      offset := 10, accumulator := 0x159E26AF, valid := 32, pending := 13, pendingBits := 6 }
    Reachable onTenBytes.memory onTenBytes ∧
    onTenBytes.topUp ⟨32, by decide, by decide⟩ = (.ok (), filled) ∧
    Fills 32 onTenBytes [onTenBytes, second, third] (.ok (), filled) ∧
    [onTenBytes, second, third].countP (fetches 32) = 2 ∧
    ∃ next, onTenBytes.advance 32 = .ok next ∧ next.pendingBits = 0 ∧ next.valid = 2 + 4 := by
  intro second third filled
  let fresh : BitCursor :=
    { onTenBytes with
      offset := 4, accumulator := 0xABCDEF01, valid := 32, pending := 0, pendingBits := 0 }
  have started : start onTenBytes.memory 0 = .ok fresh := by cbv
  have taken : fresh.after [12, 30] = onTenBytes := by cbv
  have reachable := (Reachable.start started).after [12, 30]
  rw [taken] at reachable
  have run : Fills 32 onTenBytes [onTenBytes, second, third] (.ok (), filled) :=
    .again (by decide) (by decide) (.again (by decide) (by decide)
      (.again (by decide) (by decide) (.enough (by decide))))
  obtain ⟨rounds, once, -, -, -, first⟩ :=
    filling_ends_within_three_rounds reachable ⟨32, by decide, by decide⟩
  obtain ⟨-, same⟩ := (once _ _).mp run
  obtain ⟨-, carried⟩ := first (by decide)
  exact ⟨reachable, same.symm, run, by decide, carried (by decide)⟩

end Bytecode.BitCursor
