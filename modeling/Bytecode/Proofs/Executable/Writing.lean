import Bytecode.Executable.Builder
import Bytecode.Proofs.Stream.Writing

/-!
# Writing executables

A builder writes its executable to a sink in three blocks, and to a sink that fills up
this comes to writing the bytes of the executable at once (`ends_parts`). So what the
sink has taken in the end is a prefix of them, as long as there is room. If that is all
of them, the sink is flushed, and how that ends is how the writing ends; if not, the
writing fails and nothing is flushed (`written_executable_is_prefix`).
-/

namespace Bytecode.ExecutableBuilder

open Sink (Account)

variable {σ : Type} [Sink σ]

/-- Writes the blocks of the executable, without the flush that follows. -/
def writeParts (builder : ExecutableBuilder) : Writing σ Unit := do
  Sink.writeAll builder.header.toBytes.toArray
  Sink.writeAll builder.code
  Sink.writeAll builder.data

theorem write_eq (builder : ExecutableBuilder) :
    (builder.write : Writing σ Unit) = (do
      builder.writeParts
      Sink.flush) := by
  simp [write, writeParts]

/-- An empty block is written without a call to the sink. -/
theorem writeAll_empty : (Sink.writeAll #[] : Writing σ Unit) = pure () := by
  funext sink
  rw [Sink.writeAll, Sink.writeFrom]
  rfl

theorem write_of_codeless {builder : ExecutableBuilder} (codeless : builder.code = #[]) :
    (builder.write : Writing σ Unit) = (do
      Sink.writeAll builder.header.toBytes.toArray
      Sink.writeAll builder.data
      Sink.flush) := by
  simp [write, codeless, writeAll_empty]

theorem write_of_dataless {builder : ExecutableBuilder} (dataless : builder.data = #[]) :
    (builder.write : Writing σ Unit) = (do
      Sink.writeAll builder.header.toBytes.toArray
      Sink.writeAll builder.code
      Sink.flush) := by
  simp [write, dataless, writeAll_empty]

/-- The blocks are written as if they were one. -/
theorem ends_parts {account : Account σ} {sink : σ} (holds : account.Holds)
    (covered : account.Covers sink) (builder : ExecutableBuilder) :
    account.Ends sink builder.toBytes (builder.writeParts.run sink) := by
  rw [toBytes, Array.append_assoc]
  refine (holds.ends_writeAll _ covered).bind fun header => ?_
  refine (holds.ends_writeAll _ header.covers).bind fun code => ?_
  exact holds.ends_writeAll _ code.covers

/-- Either there is room for the whole executable and the sink is flushed, or the sink
is filled up and refuses what it is offered next. -/
theorem write_cases {account : Account σ} {sink : σ} (holds : account.Holds)
    (covered : account.Covers sink) (builder : ExecutableBuilder) :
    (account.roomFor sink builder.toBytes.size = builder.toBytes.size ∧
      ∃ full, account.Takes sink builder.toBytes full ∧
        builder.write.run sink = Sink.flush.run full) ∨
    (account.roomFor sink builder.toBytes.size < builder.toBytes.size ∧
      ∃ full rest fault,
        account.Takes sink
          (builder.toBytes.extract 0 (account.roomFor sink builder.toBytes.size)) full ∧
        0 < rest.size ∧ Sink.refusal? (Sink.offer rest full) = some fault ∧
        account.Takes full #[] (Sink.left (Sink.offer rest full)) ∧
        builder.write.run sink = .error fault (Sink.left (Sink.offer rest full))) := by
  have ends := ends_parts holds covered builder
  rw [write_eq, EStateM.run_bind]
  cases written : builder.writeParts.run sink with
  | ok value full =>
      rw [written] at ends
      cases ends with
      | done enough takes => exact .inl ⟨enough, full, takes, rfl⟩
  | error fault last =>
      rw [written] at ends
      cases ends with
      | refused short filled offered refused kept =>
          exact .inr ⟨short, _, _, fault, filled, offered, refused, kept, rfl⟩

/-- **What was written is a prefix of the executable.** A sink that fills up has in the
end taken the bytes of the executable as far as there was room for them, in whatever
pieces. If that is not all of them, the sink was never flushed, and the writing fails
for the refusal of the full sink, which is a failure of its own or that it takes
nothing. If it is, the sink was flushed once, after the last byte, and the writing ends
as the flush does. Empty code or data are passed over without a call to the sink. -/
theorem written_executable_is_prefix {account : Account σ} {sink : σ}
    (holds : account.Holds) (covered : account.Covers sink) (builder : ExecutableBuilder) :
    let image := builder.toBytes
    let room := account.roomFor sink image.size
    let last := Sink.left (builder.write.run sink)
    account.taken last = account.taken sink ++ image.extract 0 room ∧
    (room < image.size →
      account.flushes last = account.flushes sink ∧
      ∃ full rest fault, account.taken full = account.taken last ∧ 0 < rest.size ∧
        (Sink.offer rest full = .error fault last ∨
          Sink.offer rest full = .ok 0 last ∧
            fault.message = "failed to write whole buffer") ∧
        builder.write.run sink = .error fault last) ∧
    (room = image.size →
      account.flushes last = account.flushes sink + 1 ∧
      ∃ full, account.taken full = account.taken last ∧
        account.flushes full = account.flushes sink ∧
        builder.write.run sink = Sink.flush.run full) ∧
    (builder.code = #[] → (builder.write : Writing σ Unit) = (do
      Sink.writeAll builder.header.toBytes.toArray
      Sink.writeAll builder.data
      Sink.flush)) ∧
    (builder.data = #[] → (builder.write : Writing σ Unit) = (do
      Sink.writeAll builder.header.toBytes.toArray
      Sink.writeAll builder.code
      Sink.flush)) := by
  intro image room last
  rcases write_cases holds covered builder with
    ⟨enough, full, takes, written⟩ |
      ⟨short, full, rest, fault, filled, offered, refused, kept, written⟩
  · obtain ⟨taken, flushes⟩ := holds.flushes takes.covers
    have atEnd : last = Sink.left (Sink.flush full) := congrArg Sink.left written
    have same : account.taken last = account.taken full := by rw [atEnd, taken]
    have whole : image.extract 0 room = image := by
      rw [show room = image.size from enough, Array.extract_size]
    refine ⟨?_, fun short => absurd enough (Nat.ne_of_lt short), fun _ => ?_,
      write_of_codeless, write_of_dataless⟩
    · rw [same, takes.taken_eq, whole]
    · refine ⟨?_, full, same.symm, takes.flushes_eq, written⟩
      rw [atEnd, flushes, takes.flushes_eq]
  · have atEnd : last = Sink.left (Sink.offer rest full) := congrArg Sink.left written
    have same : account.taken last = account.taken full := by
      rw [atEnd, kept.taken_eq, Array.append_empty]
    refine ⟨?_, fun _ => ?_, fun enough => absurd enough (Nat.ne_of_lt short),
      write_of_codeless, write_of_dataless⟩
    · rw [same, filled.taken_eq]
    · refine ⟨?_, full, rest, fault, same.symm, offered, ?_, atEnd ▸ written⟩
      · rw [atEnd, kept.flushes_eq, filled.flushes_eq]
      · rw [atEnd]
        rcases Sink.refusal?_eq_some_iff.mp refused with own | ⟨none, rfl⟩
        · exact .inl own
        · exact .inr ⟨none, rfl⟩

/-- An executable of two bytes of code and no data, 22 bytes long. -/
def dataless : ExecutableBuilder :=
  (empty.withCode #[0xDE, 0xAD]).withDataSize 16

/-- A sink that is full right at the end of the code is flushed, and here the flush
fails. One that is full a byte earlier takes nothing more, and is not flushed. -/
theorem written_executable_is_prefix_dataless :
    let roomy : ByteSink := { limit := some 22, chunk := some 3, flushFails := true }
    let tight : ByteSink := { limit := some 21, chunk := some 4, whenFull := .takesNothing }
    let flushed := Sink.left (dataless.write.run roomy)
    let stuck := Sink.left (dataless.write.run tight)
    (dataless.write.run roomy = .error .flush flushed ∧
      flushed.taken = dataless.toBytes ∧ flushed.flushes = 1) ∧
    dataless.write.run tight = .error .noProgress stuck ∧
      stuck.taken = dataless.toBytes.extract 0 21 ∧ stuck.flushes = 0 := by
  intro roomy tight flushed stuck
  have length : dataless.toBytes.size = 22 := by decide
  have all : (ByteSink.account (some 22)).roomFor roomy dataless.toBytes.size = 22 := by
    rw [length]
    rfl
  have most : (ByteSink.account (some 21)).roomFor tight dataless.toBytes.size = 21 := by
    rw [length]
    rfl
  have fills : (ByteSink.account (some 22)).Covers roomy := ⟨rfl, by decide⟩
  have fillsEarlier : (ByteSink.account (some 21)).Covers tight := ⟨rfl, by decide⟩
  obtain ⟨taken, -, whole, -, -⟩ :=
    written_executable_is_prefix (ByteSink.account_holds _) fills dataless
  obtain ⟨front, short, -, -, -⟩ :=
    written_executable_is_prefix (ByteSink.account_holds _) fillsEarlier dataless
  refine ⟨⟨?_, ?_, ?_⟩, ?_, ?_, ?_⟩
  · show dataless.write.run roomy = .error .flush (Sink.left (dataless.write.run roomy))
    cbv
  · rw [all, ← length, Array.extract_size] at taken
    exact taken.trans (Array.empty_append)
  · exact (whole (all.trans length.symm)).1
  · show dataless.write.run tight = .error .noProgress (Sink.left (dataless.write.run tight))
    cbv
  · rw [most] at front
    exact front.trans (Array.empty_append)
  · exact (short (by omega)).1

end Bytecode.ExecutableBuilder
