/-!
# Answers and failures

What an operation answers follows from what the operations that it is made of
answer: one that came through has come through in every part.
-/

namespace Bytecode

variable {ε δ α β γ : Type} {answer : Except ε α}

theorem map_map {first : α → β} {second : β → γ} :
    (answer.map first).map second = answer.map fun value => second (first value) := by
  cases answer <;> rfl

theorem map_eq_ok_iff {image : α → β} {value : β} :
    answer.map image = .ok value ↔ ∃ found, answer = .ok found ∧ image found = value := by
  cases answer <;> simp [Except.map]

theorem map_eq_error_iff {image : α → β} {cause : ε} :
    answer.map image = .error cause ↔ answer = .error cause := by
  cases answer <;> simp [Except.map]

theorem mapError_eq_ok_iff {image : ε → δ} {value : α} :
    answer.mapError image = .ok value ↔ answer = .ok value := by
  cases answer with
  | ok found =>
      change Except.ok found = .ok value ↔ _
      simp
  | error found => exact ⟨nofun, nofun⟩

theorem mapError_eq_error_iff {image : ε → δ} {cause : δ} :
    answer.mapError image = .error cause ↔
      ∃ found, answer = .error found ∧ image found = cause := by
  cases answer with
  | ok found => exact ⟨nofun, nofun⟩
  | error found =>
      change Except.error (image found) = .error cause ↔ _
      simp

theorem bind_eq_ok_iff {next : α → Except ε β} {value : β} :
    answer >>= next = .ok value ↔ ∃ found, answer = .ok found ∧ next found = .ok value := by
  cases answer <;> simp [bind, Except.bind]

end Bytecode
