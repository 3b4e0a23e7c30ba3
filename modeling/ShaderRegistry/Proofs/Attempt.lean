/-! # Steps that may fail

A row of steps succeeds exactly when each step does.
-/

namespace ShaderRegistry

variable {Error Failure Value Result : Type}

theorem bind_eq_ok_iff {attempt : Except Error Value} {next : Value → Except Error Result}
    {result : Result} :
    attempt >>= next = .ok result ↔ ∃ value, attempt = .ok value ∧ next value = .ok result := by
  cases attempt with
  | error error => simp [bind, Except.bind]
  | ok value => simp [bind, Except.bind]

theorem mapError_eq_ok_iff {attempt : Except Error Value} {convert : Error → Failure}
    {value : Value} : attempt.mapError convert = .ok value ↔ attempt = .ok value := by
  cases attempt with
  | error error => exact iff_of_false nofun nofun
  | ok found =>
      constructor
      · intro hok
        cases hok
        rfl
      · intro hok
        cases hok
        rfl

end ShaderRegistry
