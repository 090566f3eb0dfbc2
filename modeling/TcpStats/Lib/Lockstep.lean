import Mathlib.Init

/-!
# Two computations side by side

`Alike q r x y`: both computations give results that `r` relates, or both fail with errors that `q`
relates. The rules follow the way the computations are put together: a test that both make
(`Alike.ite`), a step and what is done with its result (`Alike.bind`). Two computations that are
alike cannot be told apart by what a caller sees of them (`Alike.mapError_eq`).
-/

namespace Lockstep

universe u v

variable {ε ε' : Type*} {α β : Type u} {α' β' : Type v}

/-- The computations end in the same way, with related results or related errors. -/
inductive Alike (q : ε → ε' → Prop) (r : α → α' → Prop) : Except ε α → Except ε' α' → Prop where
  | ok {a : α} {a' : α'} : r a a' → Alike q r (.ok a) (.ok a')
  | error {e : ε} {e' : ε'} : q e e' → Alike q r (.error e) (.error e')

namespace Alike

variable {q : ε → ε' → Prop} {r : α → α' → Prop}

/-- A computation beside itself. -/
theorem refl {q : ε → ε → Prop} {r : α → α → Prop} (hq : ∀ e, q e e) (hr : ∀ a, r a a) (x : Except ε α) :
    Alike q r x x := by
  rcases x with e | a
  · exact .error (hq e)
  · exact .ok (hr a)

/-- Both make the same test. -/
theorem ite {p p' : Prop} [Decidable p] [Decidable p'] {x y : Except ε α} {x' y' : Except ε' α'}
    (hp : p ↔ p')
    (hx : Alike q r x x') (hy : Alike q r y y') : Alike q r (if p then x else y) (if p' then x' else y') := by
  by_cases h : p
  · rw [if_pos h, if_pos (hp.mp h)]
    exact hx
  · rw [if_neg h, if_neg fun h' => h (hp.mpr h')]
    exact hy

/-- Both go on with their results. -/
theorem bind {s : β → β' → Prop} {x : Except ε α} {x' : Except ε' α'} {f : α → Except ε β}
    {f' : α' → Except ε' β'}
    (hx : Alike q r x x') (hf : ∀ a a', r a a' → Alike q s (f a) (f' a')) : Alike q s (x >>= f) (x' >>= f') := by
  cases hx with
  | ok h => exact hf _ _ h
  | error h => exact .error h

/-- Both go on with the same result. -/
theorem bind_eq {γ : Type u} {s : β → γ → Prop} {x : Except ε α} {x' : Except ε' α} {f : α → Except ε β}
    {f' : α → Except ε' γ}
    (hx : Alike q Eq x x') (hf : ∀ a, Alike q s (f a) (f' a)) : Alike q s (x >>= f) (x' >>= f') := by
  refine hx.bind ?_
  rintro a _ rfl
  exact hf a

/-- The result of one is a function of that of the other. -/
theorem bind_map {g : α' → α} {s : β → β' → Prop} {x : Except ε α} {x' : Except ε' α'} {f : α → Except ε β}
    {f' : α' → Except ε' β'} (hx : Alike q (fun a a' => a = g a') x x') (hf : ∀ a', Alike q s (f (g a')) (f' a')) :
    Alike q s (x >>= f) (x' >>= f') := by
  refine hx.bind ?_
  rintro _ a' rfl
  exact hf a'

/-- A caller who sees of an error only what both errors share sees no difference. -/
theorem mapError_eq {κ : Type*} {code : ε → κ} {code' : ε' → κ} {x : Except ε α} {y : Except ε' α}
    (h : Alike (fun e e' => code e = code' e') Eq x y) : x.mapError code = y.mapError code' := by
  cases h with
  | ok h => exact congrArg Except.ok h
  | error h => exact congrArg Except.error h

end Alike

end Lockstep
