import Bytecode.Stream.Medium
import Bytecode.Stream.Script

/-!
# Reading from any source

What holds of reading whatever the source does:

* **length** (`size_of_readExact`): what was read exactly is as long as was asked for;
* **position** (`Source.Alike`): two sources may stand at different positions and be the
  same otherwise, so that moving them to a position gives one and the same source. What
  starts with such a move comes out the same for both (`Alike.outcome_bind`);
* **record** (`Recorded.Mirrors`): recording the calls that are made to a source changes
  neither what is read nor the source that is left.
-/

namespace Bytecode

namespace Source

variable {σ α β : Type}

/-! ## One reading after the other -/

theorem exists_of_run_bind_eq_ok {action : Reading σ α} {next : α → Reading σ β}
    {source rest : σ} {value : β} (done : (action >>= next).run source = .ok value rest) :
    ∃ found middle, action.run source = .ok found middle ∧
      (next found).run middle = .ok value rest := by
  rw [EStateM.run_bind] at done
  cases first : action.run source with
  | error fault middle => simp [first] at done
  | ok found middle => exact ⟨found, middle, rfl, by simpa [first] using done⟩

/-! ## One call -/

section Gathering

variable [Source σ] {missing : Nat} {got : Bytes} {source next : σ}

theorem gather_of_interrupted (wanted : missing ≠ 0)
    (answer : read missing source = (.interrupted, next)) :
    gather missing got source = gather missing got next := by
  rw [gather, if_neg wanted]
  split <;> simp_all

theorem gather_of_failed {fault : IoFault} (wanted : missing ≠ 0)
    (answer : read missing source = (.failed fault, next)) :
    gather missing got source = .error fault next := by
  rw [gather, if_neg wanted]
  split <;> simp_all

theorem gather_of_bytes {piece : Bytes} (wanted : missing ≠ 0)
    (answer : read missing source = (.bytes piece, next)) :
    gather missing got source =
      if piece.size = 0 then .ok got next
      else gather (missing - piece.size) (got ++ piece) next := by
  rw [gather, if_neg wanted]
  split <;> simp_all

/-! ## How much is read -/

/-- No more is read than was asked for. -/
theorem size_le_of_gather {rest : σ} {bytes : Bytes}
    (done : gather missing got source = .ok bytes rest) :
    bytes.size ≤ got.size + missing := by
  fun_induction gather missing got source with
  | case1 got source =>
      obtain ⟨rfl, -⟩ := EStateM.Result.ok.inj done
      exact Nat.le_add_right _ _
  | case2 missing got source wanted next answer shorter ih => exact ih done
  | case3 missing got source wanted fault next answer => simp at done
  | case4 missing got source wanted piece next answer empty =>
      obtain ⟨rfl, -⟩ := EStateM.Result.ok.inj done
      exact Nat.le_add_right _ _
  | case5 missing got source wanted piece next answer some ih =>
      have least := size_le answer
      have bound := ih done
      rw [Array.size_append] at bound
      omega

/-- What was read exactly has the length that was asked for. -/
theorem size_of_readExact {rest : σ} {count : Nat} {bytes : Bytes}
    (done : (readExact count).run source = .ok bytes rest) : bytes.size = count := by
  obtain ⟨found, middle, read, checked⟩ := exists_of_run_bind_eq_ok done
  have bound : found.size ≤ Array.size #[] + count := size_le_of_gather read
  rw [Array.size_empty, Nat.zero_add] at bound
  split at checked
  · cases checked
  · next enough =>
      obtain ⟨rfl, -⟩ := EStateM.Result.ok.inj checked
      omega

end Gathering

/-! ## Sources at different positions -/

/-- What a reading ends with; of a source that a failure leaves behind nothing is
told. -/
def outcome : EStateM.Result IoFault σ α → Except IoFault (α × σ)
  | .ok value source => .ok (value, source)
  | .error fault _ => .error fault

theorem outcome_bind (action : Reading σ α) (next : α → Reading σ β) (source : σ) :
    outcome ((action >>= next).run source) =
      outcome (action.run source) >>= fun (value, rest) => outcome ((next value).run rest) := by
  rw [EStateM.run_bind]
  cases action.run source <;> rfl

/-- The sources hold the same and go on to behave the same, though they may be
positioned differently: moved to a position they are one source, or both fail. -/
def Alike [Source σ] (first second : σ) : Prop :=
  ∀ target, outcome (seekTo target first) = outcome (seekTo target second)

/-- A reading that starts by positioning the source does not tell them apart. -/
theorem Alike.outcome_bind [Source σ] {first second : σ} (alike : Alike first second)
    (target : Nat) (next : Unit → Reading σ α) :
    outcome ((seekTo target >>= next).run first) =
      outcome ((seekTo target >>= next).run second) := by
  have same : outcome ((seekTo target).run first) = outcome ((seekTo target).run second) :=
    alike target
  rw [Source.outcome_bind, Source.outcome_bind, same]

end Source

theorem ByteSource.alike_of_medium_eq {first second : ByteSource}
    (medium : first.medium = second.medium) : Source.Alike first second := by
  intro target
  show Source.outcome (seekTo target first) = Source.outcome (seekTo target second)
  rw [seekTo, seekTo, medium]
  split <;> rfl

theorem ScriptedSource.alike_of_script_eq {first second : ScriptedSource}
    (content : first.content = second.content) (script : first.script = second.script) :
    Source.Alike first second := by
  intro target
  show Source.outcome (seekTo target first) = Source.outcome (seekTo target second)
  rcases first with ⟨kept, position, turns⟩
  rcases second with ⟨keptToo, positionToo, turnsToo⟩
  obtain rfl : kept = keptToo := content
  obtain rfl : turns = turnsToo := script
  rcases turns with _ | ⟨turn, turns⟩
  · rfl
  · cases turn <;> rfl

/-! ## Recorded sources -/

namespace Recorded

open Source

variable {σ α β : Type}

/-- The result of a reading, with the calls of its source known. -/
def withCalls (calls : List Call) :
    EStateM.Result IoFault σ α → EStateM.Result IoFault (Recorded σ) α
  | .ok value source => .ok value ⟨source, calls⟩
  | .error fault source => .error fault ⟨source, calls⟩

/-- The first reading does to a recorded source what the second one does to the source
itself, and adds some calls to the record. -/
def Mirrors (recorded : Reading (Recorded σ) α) (plain : Reading σ α) : Prop :=
  ∀ source, ∃ more, ∀ calls,
    recorded.run ⟨source, calls⟩ = withCalls (calls ++ more) (plain.run source)

theorem Mirrors.pure (value : α) :
    Mirrors (pure value : Reading (Recorded σ) α) (pure value) := by
  intro source
  refine ⟨[], fun calls => ?_⟩
  rw [List.append_nil]
  rfl

theorem Mirrors.throw (fault : IoFault) :
    Mirrors (throw fault : Reading (Recorded σ) α) (throw fault) := by
  intro source
  refine ⟨[], fun calls => ?_⟩
  rw [List.append_nil]
  rfl

/-- One after the other, two readings add their calls one after the other. -/
theorem Mirrors.bind {recorded : Reading (Recorded σ) α} {plain : Reading σ α}
    {next : α → Reading (Recorded σ) β} {nextPlain : α → Reading σ β}
    (first : Mirrors recorded plain) (second : ∀ value, Mirrors (next value) (nextPlain value)) :
    Mirrors (recorded >>= next) (plain >>= nextPlain) := by
  intro source
  obtain ⟨calls, runs⟩ := first source
  cases ended : plain.run source with
  | error fault rest =>
      refine ⟨calls, fun before => ?_⟩
      rw [EStateM.run_bind, EStateM.run_bind, runs, ended]
      rfl
  | ok value rest =>
      obtain ⟨more, runsOn⟩ := second value rest
      refine ⟨calls ++ more, fun before => ?_⟩
      rw [EStateM.run_bind, EStateM.run_bind, runs, ended, ← List.append_assoc]
      exact runsOn _

variable [Source σ]

theorem mirrors_seekTo (target : Nat) :
    Mirrors (seekTo target : Reading (Recorded σ) Unit) (seekTo target) := by
  intro source
  refine ⟨[.seekTo target], fun calls => ?_⟩
  show result calls _ (seekTo target source) = withCalls _ (seekTo target source)
  cases seekTo target source <;> rfl

/-- A recorded source answers a call as the source itself does. -/
theorem read_eq {wanted : Nat} {source next : σ} {delivery : Delivery}
    (answer : read wanted source = (delivery, next)) (calls : List Call) :
    read wanted (⟨source, calls⟩ : Recorded σ) =
      (delivery, ⟨next, calls ++ [.read wanted]⟩) := by
  show ((read wanted source).1, record calls (.read wanted) (read wanted source).2) = _
  rw [answer]
  rfl

/-- By the calls that the loop makes to the source itself: the recorded one answers each
of them alike. -/
theorem mirrors_gather (missing : Nat) (got : Bytes) :
    Mirrors (gather missing got : Reading (Recorded σ) Bytes) (gather missing got) := by
  intro source
  show ∃ more, ∀ calls, gather missing got (⟨source, calls⟩ : Recorded σ) =
    withCalls (calls ++ more) (gather missing got source)
  fun_induction gather missing got source with
  | case1 got source =>
      refine ⟨[], fun calls => ?_⟩
      rw [gather, if_pos rfl, List.append_nil]
      rfl
  | case2 missing got source wanted next answer shorter ih =>
      obtain ⟨more, runs⟩ := ih
      refine ⟨.read missing :: more, fun calls => ?_⟩
      rw [gather_of_interrupted wanted (read_eq answer calls), runs, List.append_assoc,
        List.singleton_append]
  | case3 missing got source wanted fault next answer =>
      exact ⟨[.read missing], fun calls => gather_of_failed wanted (read_eq answer calls)⟩
  | case4 missing got source wanted piece next answer empty =>
      refine ⟨[.read missing], fun calls => ?_⟩
      rw [gather_of_bytes wanted (read_eq answer calls), if_pos empty]
      rfl
  | case5 missing got source wanted piece next answer some ih =>
      obtain ⟨more, runs⟩ := ih
      refine ⟨.read missing :: more, fun calls => ?_⟩
      rw [gather_of_bytes wanted (read_eq answer calls), if_neg some, runs,
        List.append_assoc, List.singleton_append]

theorem mirrors_readExact (count : Nat) :
    Mirrors (readExact count : Reading (Recorded σ) Bytes) (readExact count) := by
  refine (mirrors_gather count #[]).bind fun bytes => ?_
  split
  · exact (Mirrors.throw _).bind fun _ => .pure bytes
  · exact Mirrors.pure bytes

end Recorded

end Bytecode
