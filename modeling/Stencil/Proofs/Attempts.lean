/-!
# Attempts in a row

What two attempts come to, one after the other, when each may fail.
-/

namespace Stencil

variable {ε α β : Type} {x : Except ε α} {f : α → Except ε β}

/-- Two steps succeed if the first does, and the second does on its result. -/
theorem bind_eq_ok {b : β} : x >>= f = .ok b ↔ ∃ a, x = .ok a ∧ f a = .ok b := by
  cases x <;> simp [bind, Except.bind]

/-- Two steps fail if the first does, or the second does on its result. -/
theorem bind_eq_error {e : ε} :
    x >>= f = .error e ↔ x = .error e ∨ ∃ a, x = .ok a ∧ f a = .error e := by
  cases x <;> simp [bind, Except.bind]

end Stencil
