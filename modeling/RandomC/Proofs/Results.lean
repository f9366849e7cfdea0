import Mathlib.Data.Option.Basic

/-!
# Results

Whether a result is a value or a failure, and what the value is, told from what has been computed from the
result.
-/

namespace RandomC

section

variable {ε ε' α β : Type} {result : Except ε α}

theorem exists_of_isOk (isOk : result.isOk = true) : ∃ made, result = .ok made := by
  cases result with
  | ok made => exact ⟨made, rfl⟩
  | error _ => cases isOk

theorem eq_ok_of_isOk {result : Except ε Unit} (isOk : result.isOk = true) : result = .ok () := by
  obtain ⟨⟨⟩, same⟩ := exists_of_isOk isOk
  exact same

theorem exists_of_not_isOk (failed : result.isOk = false) : ∃ failure, result = .error failure := by
  cases result with
  | ok _ => cases failed
  | error failure => exact ⟨failure, rfl⟩

/-- Where something has been computed from the value of a result, there is a value. -/
theorem exists_of_toOption_map {part : α → β} {value : β} (computed : result.toOption.map part = some value) :
    ∃ made, result = .ok made ∧ part made = value := by
  cases result with
  | ok made => exact ⟨made, rfl, Option.some.inj computed⟩
  | error _ => cases computed

theorem eq_ok_of_toOption {value : α} (computed : result.toOption = some value) : result = .ok value := by
  cases result with
  | ok made => exact congrArg Except.ok (Option.some.inj computed)
  | error _ => cases computed

theorem exists_of_toOption_any {holds : α → Bool} (computed : result.toOption.any holds = true) :
    ∃ made, result = .ok made ∧ holds made = true := by
  cases result with
  | ok made => exact ⟨made, rfl, computed⟩
  | error _ => cases computed

variable {change : ε → ε'}

theorem mapError_eq_ok {value : α} : result.mapError change = .ok value ↔ result = .ok value := by
  cases result <;> simp [Except.mapError]

theorem mapError_eq_error {error : ε'} :
    result.mapError change = .error error ↔ ∃ before, result = .error before ∧ change before = error := by
  cases result <;> simp [Except.mapError]

end

end RandomC
