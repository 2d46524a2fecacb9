/-
**Steps that can fail.**

A step takes a state and returns a value or fails, and it leaves a state behind in both cases: which
one a failed step leaves is not decided by its type.

* `leftBehind`: the state that a step leaves;
* `bind_eq_ok_iff`, `bind_eq_error_iff`, `pure_eq_ok_iff`: how steps in turn return and fail.
-/

namespace TypeLattice

variable {ε σ α β : Type}

/-- The state that a step leaves behind, whether it returns or fails. -/
def leftBehind : EStateM.Result ε σ α → σ
  | .ok _ after => after
  | .error _ stopped => stopped

/-- A step followed by another returns exactly when both do. -/
theorem bind_eq_ok_iff {step : EStateM ε σ α} {next : α → EStateM ε σ β} {before after : σ} {result : β} :
    (step >>= next) before = .ok result after ↔
      ∃ value middle, step before = .ok value middle ∧ next value middle = .ok result after := by
  show EStateM.bind step next before = _ ↔ _
  unfold EStateM.bind
  cases step before with
  | ok value middle =>
      constructor
      · exact fun returned => ⟨value, middle, rfl, returned⟩
      · rintro ⟨_, _, same, returned⟩
        cases same
        exact returned
  | error fault stopped => simp

/-- A step followed by another fails exactly when one of the two does. -/
theorem bind_eq_error_iff {step : EStateM ε σ α} {next : α → EStateM ε σ β} {before stopped : σ}
    {fault : ε} : (step >>= next) before = .error fault stopped ↔
      step before = .error fault stopped ∨
        ∃ value middle, step before = .ok value middle ∧ next value middle = .error fault stopped := by
  show EStateM.bind step next before = _ ↔ _
  unfold EStateM.bind
  cases step before with
  | ok value middle =>
      constructor
      · exact fun failed => .inr ⟨value, middle, rfl, failed⟩
      · rintro (impossible | ⟨_, _, same, failed⟩)
        · cases impossible
        · cases same
          exact failed
  | error fault' stopped' => simp

/-- To return a value changes nothing. -/
theorem pure_eq_ok_iff {value result : α} {before after : σ} :
    (pure value : EStateM ε σ α) before = .ok result after ↔ value = result ∧ before = after := by
  show EStateM.Result.ok value before = _ ↔ _
  rw [EStateM.Result.ok.injEq]

end TypeLattice
