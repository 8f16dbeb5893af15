import Bytecode.Stream.Sink

/-!
# Writing to a sink

A sink that fills up takes as many bytes at a time as it likes, but at least one,
until it has taken a certain number of them, and refuses all bytes from then on. It
may never come to that, and how it refuses is up to the sink. An `Account` tells what
the sinks of some kind were given, and `Account.Holds` says that they behave so.

What comes of writing is then decided by the room that is left: the sink has taken the
bytes in their order as far as the room reaches, and the writing succeeds exactly if
that is all of them (`Account.Ends`). One block ends so (`Account.Holds.ends_writeAll`),
and blocks that are written one after the other end like their concatenation
(`Account.Ends.bind`).
-/

namespace Bytecode.Sink

variable {σ : Type}

/-- The sink that an operation leaves. -/
def left {α : Type} : EStateM.Result IoFault σ α → σ
  | .ok _ sink => sink
  | .error _ sink => sink

/-- Why a writer gives up after an offer, if it does: the sink has failed, or it has
taken nothing. -/
def refusal? : EStateM.Result IoFault σ Nat → Option IoFault
  | .error fault _ => some fault
  | .ok count _ => if count = 0 then some .noProgress else none

theorem refusal?_eq_some_iff {answer : EStateM.Result IoFault σ Nat} {fault : IoFault} :
    refusal? answer = some fault ↔
      answer = .error fault (left answer) ∨
        answer = .ok 0 (left answer) ∧ fault = .noProgress := by
  cases answer with
  | error found sink => simp [refusal?, left]
  | ok count sink => simp [refusal?, left, eq_comm]

/-! ## Sinks that fill up -/

/-- What some sinks of a kind were given so far. -/
structure Account (σ : Type) where
  /-- The sinks that are accounted for. -/
  Covers : σ → Prop
  /-- The number of bytes after which they are full, if they ever are. -/
  limit : Option Nat
  taken : σ → Bytes
  flushes : σ → Nat

namespace Account

variable (account : Account σ)

/-- How many of `count` bytes there is room for. -/
def roomFor (sink : σ) (count : Nat) : Nat :=
  (account.limit.map fun limit => min count (limit - (account.taken sink).size)).getD count

/-- From one sink to the other some bytes were taken, and nothing else was done. -/
structure Takes (sink : σ) (bytes : Bytes) (next : σ) : Prop where
  covers : account.Covers next
  taken_eq : account.taken next = account.taken sink ++ bytes
  flushes_eq : account.flushes next = account.flushes sink

/-- The sinks fill up. While there is room, some of the bytes that are offered are
taken; when there is none left, they are refused. A flush takes nothing. -/
structure Holds [Sink σ] : Prop where
  takes : ∀ {sink bytes}, account.Covers sink → 0 < account.roomFor sink bytes.size →
    ∃ count next, offer bytes sink = .ok count next ∧ 0 < count ∧
      count ≤ account.roomFor sink bytes.size ∧
      account.Takes sink (bytes.extract 0 count) next
  refuses : ∀ {sink bytes}, account.Covers sink → 0 < bytes.size →
    account.roomFor sink bytes.size = 0 →
      (refusal? (offer bytes sink)).isSome = true ∧
        account.Takes sink #[] (left (offer bytes sink))
  flushes : ∀ {sink}, account.Covers sink →
    account.taken (left (flush sink)) = account.taken sink ∧
      account.flushes (left (flush sink)) = account.flushes sink + 1

/-- How the writing of some bytes ends. Either there is room for all of them, or the
sink is filled up and then refuses some others. -/
inductive Ends [Sink σ] (sink : σ) (bytes : Bytes) : EStateM.Result IoFault σ Unit → Prop
  | done {last : σ} : account.roomFor sink bytes.size = bytes.size →
      account.Takes sink bytes last → Ends sink bytes (.ok () last)
  | refused {full : σ} {rest : Bytes} {fault : IoFault} :
      account.roomFor sink bytes.size < bytes.size →
      account.Takes sink (bytes.extract 0 (account.roomFor sink bytes.size)) full →
      0 < rest.size → refusal? (offer rest full) = some fault →
      account.Takes full #[] (left (offer rest full)) →
      Ends sink bytes (.error fault (left (offer rest full)))

variable {account} {sink next : σ} {first second : Bytes}

/-! ## Room -/

theorem roomFor_le (sink : σ) (count : Nat) : account.roomFor sink count ≤ count := by
  unfold roomFor
  cases account.limit with
  | none => exact Nat.le_refl count
  | some limit => exact Nat.min_le_left _ _

/-- Bytes that fit with more of them fit without. -/
theorem le_roomFor_of_le {count more : Nat} (within : count ≤ account.roomFor sink more) :
    count ≤ account.roomFor sink count := by
  unfold roomFor at within ⊢
  cases given : account.limit with
  | none => exact Nat.le_refl count
  | some limit =>
      simp only [given, Option.map_some, Option.getD_some] at within ⊢
      omega

/-- What was taken is gone from the room. -/
theorem Takes.roomFor_add (takes : account.Takes sink first next)
    (fits : first.size ≤ account.roomFor sink first.size) (count : Nat) :
    account.roomFor sink (first.size + count) =
      first.size + account.roomFor next count := by
  unfold roomFor at fits ⊢
  rw [takes.taken_eq, Array.size_append]
  cases given : account.limit with
  | none => rfl
  | some limit =>
      simp only [given, Option.map_some, Option.getD_some] at fits ⊢
      omega

/-- Where some bytes do not fit, more of them find no more room. -/
theorem roomFor_add_of_lt {count : Nat} (short : account.roomFor sink count < count)
    (more : Nat) : account.roomFor sink (count + more) = account.roomFor sink count := by
  unfold roomFor at short ⊢
  cases given : account.limit with
  | none => simp [given] at short
  | some limit =>
      simp only [given, Option.map_some, Option.getD_some] at short ⊢
      omega

theorem Takes.trans {last : σ} (takes : account.Takes sink first next)
    (more : account.Takes next second last) :
    account.Takes sink (first ++ second) last where
  covers := more.covers
  taken_eq := by rw [more.taken_eq, takes.taken_eq, Array.append_assoc]
  flushes_eq := more.flushes_eq.trans takes.flushes_eq

/-! ## Pieces and blocks -/

variable [Sink σ]

/-- After bytes that were taken the writing goes on as if it had begun with them. -/
theorem Ends.prepend {result : EStateM.Result IoFault σ Unit}
    (takes : account.Takes sink first next)
    (fits : first.size ≤ account.roomFor sink first.size)
    (ends : account.Ends next second result) : account.Ends sink (first ++ second) result := by
  have room := takes.roomFor_add fits second.size
  rw [← Array.size_append] at room
  cases ends with
  | done enough took =>
      refine .done ?_ (takes.trans took)
      rw [room, enough, Array.size_append]
  | refused short filled offered refused kept =>
      refine .refused ?_ ?_ offered refused kept
      · rw [room, Array.size_append]
        omega
      · have front : (first ++ second).extract 0
            (first.size + account.roomFor next second.size) =
              first ++ second.extract 0 (account.roomFor next second.size) := by
          rw [Array.extract_append, Array.extract_eq_self_of_le (by omega)]
          simp
        rw [room, front]
        exact takes.trans filled

/-- A sink that was filled up before the end of some bytes is filled up before the end
of more. -/
theorem Ends.append {last : σ} {fault : IoFault}
    (ends : account.Ends sink first (.error fault last)) (second : Bytes) :
    account.Ends sink (first ++ second) (.error fault last) := by
  cases ends with
  | refused short filled offered refused kept =>
      have room := roomFor_add_of_lt short second.size
      rw [← Array.size_append] at room
      have front : (first ++ second).extract 0 (account.roomFor sink first.size) =
          first.extract 0 (account.roomFor sink first.size) := by
        have none : account.roomFor sink first.size - first.size = 0 := by omega
        simp [Array.extract_append, none]
      refine .refused ?_ ?_ offered refused kept
      · rw [room, Array.size_append]
        omega
      · rw [room, front]
        exact filled

/-- Bytes that are written after others end with them like all of them at once. -/
theorem Ends.bind {write : Writing σ Unit} {more : Unit → Writing σ Unit}
    (ends : account.Ends sink first (write.run sink))
    (goesOn : ∀ {next}, account.Takes sink first next →
      account.Ends next second ((more ()).run next)) :
    account.Ends sink (first ++ second) ((write >>= more).run sink) := by
  rw [EStateM.run_bind]
  cases written : write.run sink with
  | ok value next =>
      rw [written] at ends
      cases ends with
      | done enough takes => exact (goesOn takes).prepend takes (Nat.le_of_eq enough.symm)
  | error fault last =>
      rw [written] at ends
      exact ends.append second

/-- A refused offer of all that is left of a block ends the writing of it. -/
theorem Holds.ends_of_refusal (holds : account.Holds) {block : Bytes} {start : Nat}
    {answer : EStateM.Result IoFault σ Nat} {fault : IoFault}
    (covered : account.Covers sink) (inside : ¬ block.size ≤ start)
    (asked : offer (block.extract start) sink = answer)
    (refused : refusal? answer = some fault) :
    account.Ends sink (block.extract start) (.error fault (left answer)) := by
  subst asked
  have offered : 0 < (block.extract start).size := by
    rw [Array.size_extract]
    omega
  have full : account.roomFor sink (block.extract start).size = 0 := by
    apply Nat.eq_zero_of_not_pos
    intro room
    obtain ⟨count, next, answer, positive, -, -⟩ := holds.takes covered room
    simp [answer, refusal?, Nat.ne_of_gt positive] at refused
  have kept := (holds.refuses covered offered full).2
  refine .refused ?_ ?_ offered refused kept
  · omega
  · rw [full]
    exact ⟨covered, by simp, rfl⟩

/-- Writing a block from some index on ends like the writing of what lies there. -/
theorem Holds.ends_writeFrom (holds : account.Holds) {block : Bytes} {start : Nat}
    (covered : account.Covers sink) :
    account.Ends sink (block.extract start) (writeFrom block start sink) := by
  -- along the offers: after each the rest of the block is written to the next sink
  fun_induction writeFrom block start sink with
  | case1 start sink past =>
      have nothing : block.extract start = #[] := Array.extract_eq_empty_of_le (by omega)
      have room : account.roomFor sink 0 = 0 := Nat.le_zero.mp (roomFor_le sink 0)
      rw [nothing]
      exact .done room ⟨covered, (Array.append_empty).symm, rfl⟩
  | case2 start sink inside fault next answer =>
      exact holds.ends_of_refusal covered inside answer rfl
  | case3 start sink inside next answer =>
      exact holds.ends_of_refusal covered inside answer rfl
  | case4 start sink inside count next answer positive ih =>
      have length : (block.extract start).size = block.size - start := by
        rw [Array.size_extract, Nat.min_self]
      have room : 0 < account.roomFor sink (block.extract start).size := by
        apply Nat.pos_of_ne_zero
        intro full
        have refused := (holds.refuses covered (by omega) full).1
        simp [answer, refusal?, positive] at refused
      obtain ⟨_, _, same, -, within, takes⟩ := holds.takes covered room
      obtain ⟨rfl, rfl⟩ := EStateM.Result.ok.inj (answer.symm.trans same)
      -- the block from `start` on is the piece that was taken and the rest behind it
      have inBlock : start + count ≤ block.size := by
        have bound : account.roomFor sink (block.extract start).size ≤
            (block.extract start).size := roomFor_le sink _
        omega
      have piece : (block.extract start).extract 0 count =
          block.extract start (start + count) := by
        rw [Array.extract_extract]
        simp [inBlock]
      have pieceLength : (block.extract start (start + count)).size = count := by
        rw [Array.size_extract]
        omega
      have split : block.extract start (start + count) ++ block.extract (start + count) =
          block.extract start := by
        simp [inBlock]
      rw [piece] at takes
      rw [← split]
      refine Ends.prepend takes ?_ (ih takes.covers)
      rw [pieceLength]
      exact le_roomFor_of_le within

theorem Holds.ends_writeAll (holds : account.Holds) (block : Bytes)
    (covered : account.Covers sink) :
    account.Ends sink block ((writeAll block).run sink) := by
  have ends : account.Ends sink (block.extract 0) ((writeAll block).run sink) :=
    holds.ends_writeFrom covered
  rwa [Array.extract_size] at ends

end Account

end Bytecode.Sink

/-! ## Sinks that keep their bytes -/

namespace Bytecode.ByteSink

open Sink.Account

/-- Sinks with this limit, unless they take no bytes at all. -/
def account (limit : Option Nat) : Sink.Account ByteSink where
  Covers sink := sink.limit = limit ∧ sink.chunk ≠ some 0
  limit
  taken := taken
  flushes := flushes

variable {limit : Option Nat} {sink : ByteSink}

theorem isFull_iff (covered : (account limit).Covers sink) {count : Nat}
    (offered : 0 < count) : sink.isFull = true ↔ (account limit).roomFor sink count = 0 := by
  rcases covered with ⟨rfl, -⟩
  cases given : sink.limit with
  | none => simp [isFull, account, roomFor, given, Nat.ne_of_gt offered]
  | some limit =>
      simp only [isFull, account, roomFor, given, Option.any_some, decide_eq_true_eq,
        Option.map_some, Option.getD_some]
      omega

theorem capacity_eq (covered : (account limit).Covers sink) (count : Nat) :
    sink.capacity count =
      min ((account limit).roomFor sink count) (sink.chunk.getD count) := by
  rcases covered with ⟨rfl, -⟩
  cases given : sink.limit with
  | none => simp [capacity, account, roomFor, given]
  | some limit => simp [capacity, account, roomFor, given]

/-- A sink that is not full takes some bytes, and no more than it has room for. -/
theorem capacity_bounds (covered : (account limit).Covers sink) {count : Nat}
    (room : 0 < (account limit).roomFor sink count) :
    0 < sink.capacity count ∧ sink.capacity count ≤ (account limit).roomFor sink count := by
  have within : (account limit).roomFor sink count ≤ count := roomFor_le sink count
  rw [capacity_eq covered]
  refine ⟨?_, Nat.min_le_left _ _⟩
  cases given : sink.chunk with
  | none =>
      rw [Option.getD_none]
      omega
  | some chunk =>
      have steady : chunk ≠ 0 := by
        rintro rfl
        exact covered.2 given
      rw [Option.getD_some]
      omega

/-- Sinks that keep their bytes fill up, whatever they take at a time and however they
refuse. -/
theorem account_holds (limit : Option Nat) : (account limit).Holds where
  takes := by
    intro sink bytes covered room
    obtain ⟨positive, within⟩ := capacity_bounds covered room
    have notFull : ¬ sink.isFull = true := by
      have offered : 0 < bytes.size := Nat.lt_of_lt_of_le room (roomFor_le sink bytes.size)
      rw [isFull_iff covered offered]
      exact Nat.ne_of_gt room
    refine ⟨_, _, if_neg notFull, positive, within, covered, rfl, rfl⟩
  refuses := by
    intro sink bytes covered offered full
    have isFull : sink.isFull = true := (isFull_iff covered offered).mpr full
    cases how : sink.whenFull with
    | fails =>
        have refused : Sink.offer bytes sink = .error .write sink := by
          simp [Sink.offer, offer, isFull, how]
        rw [refused]
        exact ⟨rfl, covered, (Array.append_empty).symm, rfl⟩
    | takesNothing =>
        have refused : Sink.offer bytes sink = .ok 0 sink := by
          simp [Sink.offer, offer, isFull, how]
        rw [refused]
        exact ⟨rfl, covered, (Array.append_empty).symm, rfl⟩
  flushes := by
    intro sink covered
    cases how : sink.flushFails with
    | false =>
        have done : Sink.flush sink = .ok () { sink with flushes := sink.flushes + 1 } := by
          simp [Sink.flush, flush, how]
        rw [done]
        exact ⟨rfl, rfl⟩
    | true =>
        have failed :
            Sink.flush sink = .error .flush { sink with flushes := sink.flushes + 1 } := by
          simp [Sink.flush, flush, how]
        rw [failed]
        exact ⟨rfl, rfl⟩

end Bytecode.ByteSink
