import Bytecode.Proofs.Stream.Source

/-!
# Reading from a medium

A medium may deliver in pieces, interrupt reads and fail from some byte on. What
a reader gets is decided by two things alone, the content and the fault:

* it fails if the fault lies before the bytes that it wants and no later than
  the end of the content, where it would have learnt that there are no more
  (`Medium.FaultsWithin`);
* if not, it gets what the content holds in the range that it wants.

`gather_eq` says so for every medium that makes progress. All that changes about
the medium is that some interruptions are used up (`Medium.Spends`). A reader that
has no use for fewer bytes than it asked for also fails where the content ends
before them, and what it fails for is told by `Medium.readFault?`.
-/

namespace Bytecode

/-- The medium after some of its interruptions were used up. -/
def Medium.Spends (medium rest : Medium) : Prop :=
  rest = { medium with interruptions := rest.interruptions }

namespace Medium.Spends

variable {medium rest : Medium} (spends : medium.Spends rest)

include spends

theorem content_eq : rest.content = medium.content := by
  unfold Spends at spends
  rw [spends]

theorem chunk_eq : rest.chunk = medium.chunk := by
  unfold Spends at spends
  rw [spends]

theorem faultAt_eq : rest.faultAt = medium.faultAt := by
  unfold Spends at spends
  rw [spends]

theorem seekFaults_eq : rest.seekFaults = medium.seekFaults := by
  unfold Spends at spends
  rw [spends]

theorem trans {last : Medium} (more : rest.Spends last) : medium.Spends last := by
  unfold Spends at spends more ⊢
  rw [more, spends]

end Medium.Spends

theorem Medium.isFaulty_iff {medium : Medium} {position : Nat} :
    medium.isFaulty position = true ↔ ∃ fault ∈ medium.faultAt, fault ≤ position := by
  unfold isFaulty
  cases medium.faultAt <;> simp

/-! ## One delivery -/

/-- The nearest of some barriers that all lie ahead lies ahead. -/
theorem lt_foldl_min {barriers : List Nat} {position stop : Nat} (behind : position < stop)
    (ahead : ∀ barrier ∈ barriers, position < barrier) :
    position < barriers.foldl min stop ∧ barriers.foldl min stop ≤ stop ∧
      ∀ barrier ∈ barriers, barriers.foldl min stop ≤ barrier := by
  induction barriers generalizing stop with
  | nil => exact ⟨behind, Nat.le_refl _, by simp⟩
  | cons barrier rest ih =>
      simp only [List.mem_cons, forall_eq_or_imp] at ahead ⊢
      have nearest : position < min stop barrier := by
        have := ahead.1
        omega
      obtain ⟨past, within, least⟩ := ih nearest ahead.2
      rw [List.foldl_cons]
      exact ⟨past, by omega, by omega, least⟩

/-- Where nothing is wrong, one delivery is a piece of the content that starts at
the position and is cut off somewhere behind it, at the fault at the latest. -/
theorem Medium.exists_delivery_eq {medium : Medium} {position wanted : Nat}
    (steady : medium.chunk ≠ some 0) (sound : medium.isFaulty position = false)
    (positive : 0 < wanted) :
    ∃ stop, position < stop ∧ stop ≤ position + wanted ∧
      (∀ fault ∈ medium.faultAt, stop ≤ fault) ∧
      medium.delivery position wanted = medium.content.extract position stop := by
  have ahead : ∀ barrier ∈ medium.barriers position, position < barrier := by
    intro barrier member
    simp only [barriers, List.mem_append, List.mem_map, Option.mem_toList,
      List.mem_filter, decide_eq_true_eq] at member
    rcases member with (⟨chunk, given, rfl⟩ | fault) | ⟨-, behind⟩
    · have nonzero : chunk ≠ 0 := by
        rintro rfl
        exact steady given
      omega
    · simpa [isFaulty, fault] using sound
    · exact behind
  obtain ⟨behind, within, least⟩ :=
    lt_foldl_min (Nat.lt_add_of_pos_right positive) ahead
  refine ⟨_, behind, within, ?_, rfl⟩
  intro fault given
  have barrier : fault ∈ medium.barriers position := by
    simp [barriers, Option.mem_def.mp given]
  exact least fault barrier

/-- A range is what a first delivery gave and what is left after it. -/
theorem extract_append_rest {block : Bytes} {start stop finish : Nat}
    (ordered : start ≤ stop) (within : stop ≤ finish) :
    block.extract start stop ++
        block.extract (start + (block.extract start stop).size) finish =
      block.extract start finish := by
  by_cases inside : stop ≤ block.size
  · have joint : start + (block.extract start stop).size = stop := by
      simp
      omega
    rw [joint, Array.extract_append_extract, Nat.min_eq_left ordered,
      Nat.max_eq_right within]
  · -- the block ends before `stop`, so nothing is left
    have clipped : block.extract start stop = block.extract start finish := by
      rw [Array.extract_eq_extract_right]
      omega
    have ended : block.extract (start + (block.extract start stop).size) finish = #[] := by
      apply Array.extract_eq_empty_of_le
      rw [Array.size_extract]
      omega
    rw [ended, Array.append_empty, clipped]

/-! ## Whole reads -/

/-- A reader that wants `count` bytes from `position` on meets the fault of the
medium before it has them all and before it finds that the content has ended. -/
def Medium.FaultsWithin (medium : Medium) (position count : Nat) : Prop :=
  0 < count ∧ ∃ fault ∈ medium.faultAt,
    fault < position + count ∧ fault ≤ max position medium.content.size

instance (medium : Medium) (position count : Nat) :
    Decidable (medium.FaultsWithin position count) :=
  inferInstanceAs (Decidable (_ ∧ _))

theorem Medium.not_faultsWithin_of_sound {medium : Medium} {position count : Nat}
    (sound : medium.faultAt = none) : ¬ medium.FaultsWithin position count := by
  simp [FaultsWithin, sound]

/-- What a reader fails for that has to have `count` bytes from `position` on: the
fault of the medium, or else the end of the content. -/
def Medium.readFault? (medium : Medium) (position count : Nat) : Option IoFault :=
  if medium.FaultsWithin position count then
    some .read
  else if 0 < count ∧ medium.content.size < position + count then
    some .endOfSource
  else
    none

/-- Such a reader succeeds if it needs no bytes, or the content has them all and
the fault does not lie before the last of them. -/
theorem Medium.readFault?_eq_none_iff {medium : Medium} {position count : Nat} :
    medium.readFault? position count = none ↔
      count = 0 ∨ position + count ≤ medium.content.size ∧
        ∀ fault ∈ medium.faultAt, position + count ≤ fault := by
  unfold readFault?
  constructor
  · intro sound
    split at sound
    · simp at sound
    · next healthy =>
        split at sound
        · simp at sound
        · next enough =>
            rcases Nat.eq_zero_or_pos count with none | some
            · exact .inl none
            · refine .inr ⟨by omega, ?_⟩
              intro fault given
              -- the content has the bytes, so a fault before their end would be met
              exact Nat.not_lt.mp fun before =>
                healthy ⟨some, fault, given, before, by omega⟩
  · rintro (none | ⟨enough, ahead⟩)
    · rw [if_neg (by simp [FaultsWithin, none]), if_neg (by omega)]
    · have unmet : ¬ medium.FaultsWithin position count := by
        rintro ⟨-, fault, given, before, -⟩
        have := ahead fault given
        omega
      rw [if_neg unmet, if_neg (by omega)]

/-- A delivery that ends no later than the fault leaves it to the reads after it
to meet the fault. -/
theorem Medium.faultsWithin_skip_iff {medium : Medium} {position count got : Nat}
    (positive : 0 < got) (within : got ≤ count)
    (inside : position + got ≤ medium.content.size)
    (ahead : ∀ fault ∈ medium.faultAt, position + got ≤ fault) :
    medium.FaultsWithin (position + got) (count - got) ↔
      medium.FaultsWithin position count := by
  have target : position + got + (count - got) = position + count := by omega
  have ended : max (position + got) medium.content.size = max position medium.content.size := by
    omega
  unfold FaultsWithin
  rw [target, ended]
  constructor
  · rintro ⟨-, fault⟩
    exact ⟨by omega, fault⟩
  · rintro ⟨-, fault, given, before, reached⟩
    have := ahead fault given
    exact ⟨by omega, fault, given, before, reached⟩

namespace ByteSource

open Source

/-! ## One call -/

section Call

variable {wanted : Nat} {source next : ByteSource}

theorem of_read_interrupted (answer : Source.read wanted source = (.interrupted, next)) :
    next = source.resume := by
  change ByteSource.read wanted source = _ at answer
  unfold ByteSource.read at answer
  split at answer
  · exact (Prod.mk.inj answer).2.symm
  · split at answer <;> simp at answer

/-- A call fails at the fault of the medium or behind it, and leaves the source as it
is. -/
theorem of_read_failed {fault : IoFault}
    (answer : Source.read wanted source = (.failed fault, next)) :
    source.medium.isFaulty source.position = true ∧ fault = .read ∧ next = source := by
  change ByteSource.read wanted source = _ at answer
  unfold ByteSource.read at answer
  split at answer
  · simp at answer
  · split at answer
    · next faulty =>
        obtain ⟨failed, rfl⟩ := Prod.mk.inj answer
        exact ⟨faulty, (Delivery.failed.inj failed).symm, rfl⟩
    · simp at answer

/-- A call that delivers something does so before the fault, and moves the source past
it. -/
theorem of_read_bytes {piece : Bytes}
    (answer : Source.read wanted source = (.bytes piece, next)) :
    source.medium.isFaulty source.position = false ∧
      piece = source.medium.delivery source.position wanted ∧
      next = source.skip piece.size := by
  change ByteSource.read wanted source = _ at answer
  unfold ByteSource.read at answer
  split at answer
  · simp at answer
  · split at answer
    · simp at answer
    · next healthy =>
        obtain ⟨delivered, rfl⟩ := Prod.mk.inj answer
        obtain rfl := Delivery.bytes.inj delivered
        exact ⟨by simpa using healthy, rfl, rfl⟩

end Call

/-! ## All calls of a read -/

/-- **What a read gives** is what the content holds in the range that was asked
for, whatever the pieces and interruptions it comes in, unless the fault of the
medium lies within that range. -/
theorem gather_eq {source : ByteSource} {missing : Nat} {got : Bytes}
    (steady : source.medium.chunk ≠ some 0) :
    ∃ rest, source.medium.Spends rest.medium ∧
      gather missing got source =
        if source.medium.FaultsWithin source.position missing then
          .error .read rest
        else
          .ok (got ++ source.medium.content.extract source.position
            (source.position + missing)) rest := by
  fun_induction gather missing got source with
  | case1 got source =>
      have none : source.medium.content.extract source.position (source.position + 0) =
          #[] := Array.extract_eq_empty_of_le (by omega)
      refine ⟨source, rfl, ?_⟩
      rw [if_neg (by simp [Medium.FaultsWithin]), none, Array.append_empty]
  | case2 missing got source wanted next answer shorter ih =>
      obtain rfl := of_read_interrupted answer
      obtain ⟨rest, spends, done⟩ := ih steady
      exact ⟨rest, spends, done⟩
  | case3 missing got source wanted fault next answer =>
      obtain ⟨faulty, rfl, same⟩ := of_read_failed answer
      obtain ⟨fault, given, behind⟩ := Medium.isFaulty_iff.mp faulty
      have met : source.medium.FaultsWithin source.position missing :=
        ⟨by omega, fault, given, by omega, by omega⟩
      exact ⟨source, rfl, by rw [if_pos met, same]⟩
  | case4 missing got source wanted piece next answer empty =>
      -- a delivery of nothing shows that the content ends here
      obtain ⟨healthy, delivery, rfl⟩ := of_read_bytes answer
      obtain ⟨stop, behind, -, -, delivered⟩ := source.medium.exists_delivery_eq steady
        healthy (Nat.pos_of_ne_zero wanted)
      have ended : source.medium.content.size ≤ source.position := by
        rw [delivery, delivered, Array.size_extract] at empty
        omega
      have unmet : ¬ source.medium.FaultsWithin source.position missing := by
        rintro ⟨-, fault, given, -, reached⟩
        have behind : fault ≤ source.position := by omega
        have faulty := Medium.isFaulty_iff.mpr ⟨fault, given, behind⟩
        simp [healthy] at faulty
      have none : source.medium.content.extract source.position
          (source.position + missing) = #[] := Array.extract_eq_empty_of_le (by omega)
      exact ⟨source.skip piece.size, rfl, by rw [if_neg unmet, none, Array.append_empty]⟩
  | case5 missing got source wanted piece next answer some ih =>
      obtain ⟨healthy, delivery, rfl⟩ := of_read_bytes answer
      obtain ⟨stop, behind, within, ahead, delivered⟩ :=
        source.medium.exists_delivery_eq steady healthy (Nat.pos_of_ne_zero wanted)
      rw [← delivery] at delivered
      have least : piece.size ≤ missing := size_le answer
      have length : piece.size = min stop source.medium.content.size - source.position := by
        rw [delivered, Array.size_extract]
      have nonempty : 0 < piece.size := Nat.pos_of_ne_zero some
      have inside : source.position + piece.size ≤ source.medium.content.size := by omega
      have before : ∀ fault ∈ source.medium.faultAt, source.position + piece.size ≤ fault := by
        intro fault given
        have := ahead fault given
        omega
      have same := Medium.faultsWithin_skip_iff nonempty least inside before
      obtain ⟨rest, spends, done⟩ := ih steady
      refine ⟨rest, spends, ?_⟩
      -- what was delivered and what is read after it make up the range
      have finish : source.position + piece.size + (missing - piece.size) =
          source.position + missing := by omega
      have joined := @extract_append_rest source.medium.content _ _ _
        (Nat.le_of_lt behind) within
      rw [← delivered] at joined
      rw [done]
      simp only [skip, same, finish]
      rw [← joined, Array.append_assoc]

theorem run_seekTo_eq (source : ByteSource) (target : Nat) :
    (Source.seekTo target).run source =
      if target ∈ source.medium.seekFaults then
        .error .seekStart source
      else
        .ok () { source with position := target } := rfl

theorem run_readUpTo_eq {source : ByteSource} (steady : source.medium.chunk ≠ some 0)
    (limit : Nat) :
    ∃ rest, source.medium.Spends rest.medium ∧
      (readUpTo limit).run source =
        if source.medium.FaultsWithin source.position limit then
          .error .read rest
        else
          .ok (source.medium.content.extract source.position (source.position + limit))
            rest := by
  obtain ⟨rest, spends, done⟩ := @gather_eq source limit #[] steady
  rw [Array.empty_append] at done
  exact ⟨rest, spends, done⟩

/-- Reading so many bytes and no fewer gives the range of the content, unless one of
the two faults keeps it from that. -/
theorem run_readExact_eq {source : ByteSource} (steady : source.medium.chunk ≠ some 0)
    (count : Nat) :
    ∃ rest, source.medium.Spends rest.medium ∧
      (readExact count).run source =
        match source.medium.readFault? source.position count with
        | some fault => .error fault rest
        | none => .ok (source.medium.content.extract source.position
            (source.position + count)) rest := by
  obtain ⟨rest, spends, done⟩ := run_readUpTo_eq steady count
  refine ⟨rest, spends, ?_⟩
  rw [readExact, EStateM.run_bind, done, Medium.readFault?]
  by_cases faulty : source.medium.FaultsWithin source.position count
  · rw [if_pos faulty, if_pos faulty]
  · have short : (source.medium.content.extract source.position
        (source.position + count)).size < count ↔
          0 < count ∧ source.medium.content.size < source.position + count := by
      rw [Array.size_extract]
      omega
    rw [if_neg faulty, if_neg faulty]
    by_cases ended : 0 < count ∧ source.medium.content.size < source.position + count
    · simp only [short, ended]
      rfl
    · simp only [short, ended]
      rfl

end ByteSource

/-! ## Media that deliver all of their content -/

/-- The medium delivers the bytes of `content` wherever it is positioned, though
it may do so in pieces and with interruptions. -/
structure Medium.Delivers (medium : Medium) (content : Bytes) : Prop where
  content_eq : medium.content = content
  steady : medium.chunk ≠ some 0
  sound : medium.faultAt = none
  seekable : medium.seekFaults = []

theorem Medium.delivers_reliable (content : Bytes) :
    (Medium.reliable content).Delivers content :=
  ⟨rfl, by simp [reliable], rfl, rfl⟩

theorem Medium.Delivers.of_spends {medium rest : Medium} {content : Bytes}
    (delivers : medium.Delivers content) (spends : medium.Spends rest) :
    rest.Delivers content where
  content_eq := spends.content_eq.trans delivers.content_eq
  steady := by
    rw [spends.chunk_eq]
    exact delivers.steady
  sound := spends.faultAt_eq.trans delivers.sound
  seekable := spends.seekFaults_eq.trans delivers.seekable

end Bytecode
