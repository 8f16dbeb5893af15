import Bytecode.Proofs.Executable.Loading
import Mathlib

/-!
# Loading again after a failure

A load that fails leaves the source where the failure has found it, and that is all it
does (`of_load_error`): the sections that were read before are given up. This is so
whatever the source is and wherever it fails, be it in the second positioning with the
code, of any length, already read.

The next load positions the source before it reads. So it goes by the header and by what
the source holds and does from then on, and not by where it stands
(`load_eq_of_alike`). Over any number of failed loads, with other sources put in place
between them at will, this gives `failed_loads_leave_no_trace`.
-/

namespace Bytecode.Executable

variable {σ : Type} [Source σ]

/-! ## One load -/

/-- A load that fails finds nothing loaded and changes nothing but the source. -/
theorem of_load_error {executable next : Executable σ} {cause : LoadError}
    (failed : executable.load = (.error cause, next)) :
    executable.sections = [] ∧ ∃ source, next = { executable with source } := by
  cases loaded : executable.isLoaded with
  | true => simp [load_of_loaded loaded] at failed
  | false =>
      have unloaded := executable.isLoaded_eq_false_iff.mp loaded
      rw [load_of_unloaded unloaded] at failed
      split at failed
      · simp at failed
      · next fault source reading =>
          exact ⟨unloaded, source, (Prod.mk.inj failed).2.symm⟩

/-- Reading the sections starts with positioning, and does not tell sources apart that
only stand at different positions. -/
theorem outcome_readSections_of_alike {first second : σ} (alike : Source.Alike first second)
    (header : Header) :
    Source.outcome ((readSections header).run first) =
      Source.outcome ((readSections header).run second) := by
  have code :
      Source.outcome ((readSection .code header.codeOffset
        header.codeSize.toNat).run first) =
      Source.outcome ((readSection .code header.codeOffset
        header.codeSize.toNat).run second) := by
    rw [readSection_eq]
    exact alike.outcome_bind _ _
  rw [readSections, Source.outcome_bind, Source.outcome_bind, code]

/-- A load goes by the header and by what the source holds and does. -/
theorem load_eq_of_alike {first second : Executable σ} (unloaded : first.sections = [])
    (unloadedToo : second.sections = []) (header : first.header = second.header)
    (alike : Source.Alike first.source second.source) :
    first.load.1 = second.load.1 ∧ first.load.2.sections = second.load.2.sections ∧
      (first.load.1 = .ok () → first.load.2.source = second.load.2.source) := by
  have same := outcome_readSections_of_alike alike first.header
  rw [load_of_unloaded unloaded, load_of_unloaded unloadedToo, ← header]
  cases once : (readSections first.header).run first.source with
  | ok sections rest =>
      cases again : (readSections first.header).run second.source with
      | ok others restToo =>
          rw [once, again] at same
          obtain ⟨rfl, rfl⟩ := Prod.mk.inj (Except.ok.inj same)
          exact ⟨rfl, rfl, fun _ => rfl⟩
      | error fault restToo => simp [once, again, Source.outcome] at same
  | error fault rest =>
      cases again : (readSections first.header).run second.source with
      | ok others restToo => simp [once, again, Source.outcome] at same
      | error cause restToo =>
          rw [once, again] at same
          obtain rfl := Except.error.inj same
          exact ⟨rfl, unloaded.trans unloadedToo.symm, nofun⟩

/-! ## Failed loads one after the other -/

/-- The executables that come of one by loads that fail and by other sources that are put
in place. -/
inductive FailsTo (executable : Executable σ) : Executable σ → Prop
  | untried : FailsTo executable executable
  | load {reached next : Executable σ} {cause : LoadError} :
      FailsTo executable reached → reached.load = (.error cause, next) →
        FailsTo executable next
  | exchange {reached : Executable σ} (source : σ) :
      FailsTo executable reached → FailsTo executable { reached with source }

/-- Whatever fails, only the source changes. -/
theorem FailsTo.exists_source_eq {executable reached : Executable σ}
    (history : FailsTo executable reached) :
    ∃ source, reached = { executable with source } := by
  induction history with
  | untried => exact ⟨executable.source, rfl⟩
  | load history failed ih =>
      obtain ⟨_, rfl⟩ := ih
      obtain ⟨-, source, rfl⟩ := of_load_error failed
      exact ⟨source, rfl⟩
  | exchange source history ih =>
      obtain ⟨_, rfl⟩ := ih
      exact ⟨source, rfl⟩

/-- **Failed loads leave no trace.** An executable on a source of any kind that is not
loaded keeps its header and its length through any number of failed loads, with other
sources put in place of its own or not, and it shows no section, even if the code could
be read. The load after them ends as it does for any other executable with this header
that is not loaded and whose source holds and does the same, wherever the two sources are
positioned: with the same result and the same sections, and with the same source left if
it succeeds. -/
theorem failed_loads_leave_no_trace {executable reached : Executable σ}
    (unloaded : executable.isLoaded = false) (history : FailsTo executable reached) :
    (reached.header = executable.header ∧ reached.fileSize = executable.fileSize ∧
      reached.sections = [] ∧ reached.isLoaded = false ∧
      ∀ kind, reached.section? kind = none) ∧
    ∀ fresh : Executable σ, fresh.isLoaded = false → fresh.header = executable.header →
      Source.Alike reached.source fresh.source →
        reached.load.1 = fresh.load.1 ∧
        reached.load.2.sections = fresh.load.2.sections ∧
        (reached.load.1 = .ok () → reached.load.2.source = fresh.load.2.source) := by
  have nothing := executable.isLoaded_eq_false_iff.mp unloaded
  obtain ⟨source, rfl⟩ := history.exists_source_eq
  refine ⟨⟨rfl, rfl, nothing, unloaded, ?_⟩, ?_⟩
  · intro kind
    show Section.first? kind executable.sections = none
    rw [nothing]
    rfl
  · intro fresh unloadedToo header alike
    have nothingToo := fresh.isLoaded_eq_false_iff.mp unloadedToo
    exact load_eq_of_alike nothing nothingToo header.symm alike

/-- The bytes of an executable of two bytes of code and one of data. -/
def threeByteImage : Bytes :=
  (Header.ofSizes 2 7 1).toBytes.toArray ++ #[0xDE, 0xAD, 5]

/-- What goes wrong in three loads. The first one cannot be positioned behind the code,
which it has read in pieces and with an interruption. The second one finds that the
content now ends within the code. The third one gets at the code of the content that is
back again, and fails as it reads the data. -/
def threeFailures : List Turn :=
  [.sound, .short 1, .interrupted, .sound, .failed (.other "device lost"),
    .exchanged (threeByteImage.extract 0 21), .sound, .sound,
    .exchanged threeByteImage, .sound, .sound, .interrupted, .failed .read]

/-- This executable, not loaded, with these failures ahead of it and a short delivery
behind them. -/
def stumbling : Executable ScriptedSource :=
  { header := .ofSizes 2 7 1
    source := ⟨threeByteImage, 20, threeFailures ++ [.sound, .short 1]⟩
    fileSize := 23
    sections := [] }

/-- An executable of no code and one byte of data, not loaded. Its source can be moved
to the code, which is read by that, and then not to the data at the same place. -/
def stumblingCodeless : Executable ScriptedSource :=
  { header := .ofSizes 0 7 1
    source :=
      ⟨(Header.ofSizes 0 7 1).toBytes.toArray ++ #[5], 20, [.sound, .failed .seekStart]⟩
    fileSize := 21
    sections := [] }

/-- The source as it was before three sound calls, positioned at the end of its
content. -/
def beforeMaking (source : ScriptedSource) : ScriptedSource :=
  ⟨source.content, source.content.size, [.sound, .sound, .sound] ++ source.script⟩

/-- After its failures either executable loads as if for the first time. -/
theorem failed_loads_leave_no_trace_unreadable :
    (ofSource (beforeMaking stumbling.source) = .ok stumbling ∧
      stumbling.load.1 = .error (.io (.other "device lost")) ∧
      stumbling.load.2.load.1 = .error (.io .endOfSource) ∧
      stumbling.load.2.load.2.load.1 = .error (.io .read) ∧
      let reached := stumbling.load.2.load.2.load.2
      reached.source.position = 22 ∧ reached.sections = [] ∧ reached.load.1 = .ok () ∧
        reached.load.2.sections = [⟨.code, #[0xDE, 0xAD]⟩, ⟨.data, #[5]⟩]) ∧
    ofSource (beforeMaking stumblingCodeless.source) = .ok stumblingCodeless ∧
      stumblingCodeless.load.1 = .error (.io .seekStart) ∧
      let reached := stumblingCodeless.load.2
      reached.isLoaded = false ∧ reached.load.1 = .ok () ∧
        reached.load.2.sections = [⟨.code, #[]⟩, ⟨.data, #[5]⟩] := by
  have first : stumbling.load.1 = .error (.io (.other "device lost")) := by cbv
  have second : stumbling.load.2.load.1 = .error (.io .endOfSource) := by cbv
  have third : stumbling.load.2.load.2.load.1 = .error (.io .read) := by cbv
  have once : stumblingCodeless.load.1 = .error (.io .seekStart) := by cbv
  have history : FailsTo stumbling stumbling.load.2.load.2.load.2 :=
    ((FailsTo.untried.load (Prod.ext first rfl)).load (Prod.ext second rfl)).load
      (Prod.ext third rfl)
  have historyToo : FailsTo stumblingCodeless stumblingCodeless.load.2 :=
    FailsTo.untried.load (Prod.ext once rfl)
  obtain ⟨⟨-, -, nothing, -, -⟩, again⟩ := failed_loads_leave_no_trace rfl history
  obtain ⟨⟨-, -, -, unloaded, -⟩, againToo⟩ := failed_loads_leave_no_trace rfl historyToo
  -- both are compared with executables that were never loaded, positioned elsewhere
  obtain ⟨result, sections, -⟩ := again
    { stumbling with source := ⟨threeByteImage, 0, [.sound, .short 1]⟩ } rfl rfl
      (ScriptedSource.alike_of_script_eq (by cbv) (by cbv))
  obtain ⟨resultToo, sectionsToo, -⟩ := againToo
    { stumblingCodeless with
      source := ⟨(Header.ofSizes 0 7 1).toBytes.toArray ++ #[5], 9, []⟩ } rfl rfl
      (ScriptedSource.alike_of_script_eq (by cbv) (by cbv))
  refine ⟨⟨by cbv, first, second, third, by cbv, nothing, result.trans ?_,
    sections.trans ?_⟩, by cbv, once, unloaded, resultToo.trans ?_, sectionsToo.trans ?_⟩
  · cbv
  · cbv
  · cbv
  · cbv

end Bytecode.Executable
