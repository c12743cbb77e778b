/-!
# Computations that may fail

What is known about the parts of a computation that succeeds.
-/

namespace EventCorrelation

variable {ε α β : Type}

/-- Both parts of a computation that succeeds have succeeded. -/
theorem exists_of_bind {first : Except ε α} {next : α → Except ε β} {result : β}
    (bound : first >>= next = .ok result) : ∃ value, first = .ok value ∧ next value = .ok result := by
  cases first with
  | error fault => cases bound
  | ok value => exact ⟨value, rfl, bound⟩

theorem exists_of_map {change : α → β} {outcome : Except ε α} {result : β}
    (mapped : outcome.map change = .ok result) :
    ∃ value, outcome = .ok value ∧ change value = result := by
  cases outcome with
  | error fault => cases mapped
  | ok other => cases mapped; exact ⟨other, rfl, rfl⟩

/-- What succeeds has no error to rename. -/
theorem mapError_ok {ε' : Type} (rename : ε → ε') (result : α) :
    (Except.ok result).mapError rename = .ok result :=
  rfl

end EventCorrelation
