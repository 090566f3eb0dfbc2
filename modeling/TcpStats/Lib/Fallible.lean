import Mathlib.Tactic.SplitIfs

/-!
# Computations that may fail

What follows when a computation has succeeded: each of its steps has succeeded (`bind_eq_ok`,
`map_eq_ok`), and each of its tests was passed (`ite_error_eq_ok`).
-/

namespace Fallible

variable {ε α β : Type}

theorem bind_eq_ok {x : Except ε α} {f : α → Except ε β} {b : β} :
    (x >>= f) = .ok b ↔ ∃ a, x = .ok a ∧ f a = .ok b := by
  rcases x with e | a
  · simp [bind, Except.bind]
  · simp [bind, Except.bind]

theorem map_eq_ok {x : Except ε α} {f : α → β} {b : β} :
    x.map f = .ok b ↔ ∃ a, x = .ok a ∧ f a = b := by
  rcases x with e | a
  · simp [Except.map]
  · simp [Except.map]

/-- A test that fails with an error, passed. -/
theorem ite_error_eq_ok {p : Prop} [Decidable p] {e : ε} {x : Except ε α} {a : α} :
    (if p then .error e else x) = .ok a ↔ ¬ p ∧ x = .ok a := by
  split_ifs with h
  · simp [h]
  · simp [h]

/-- The same with the error in the other branch. -/
theorem ite_else_error_eq_ok {p : Prop} [Decidable p] {e : ε} {x : Except ε α} {a : α} :
    (if p then x else .error e) = .ok a ↔ p ∧ x = .ok a := by
  split_ifs with h
  · simp [h]
  · simp [h]

/-- A test with a result, whichever branch gave it. -/
theorem ite_eq_cases {p : Prop} [Decidable p] {x y a : α} (h : (if p then x else y) = a) :
    p ∧ x = a ∨ ¬ p ∧ y = a := by
  by_cases hp : p
  · exact .inl ⟨hp, (if_pos hp).symm.trans h⟩
  · exact .inr ⟨hp, (if_neg hp).symm.trans h⟩

/-- A computation that is found to succeed. -/
theorem exists_ok_of_isOk {x : Except ε α} (h : x.isOk = true) : ∃ a, x = .ok a := by
  rcases x with e | a
  · cases h
  · exact ⟨a, rfl⟩

end Fallible
