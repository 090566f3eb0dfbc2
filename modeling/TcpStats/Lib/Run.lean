import Mathlib.Data.List.Basic

/-!
# Runs of a labelled transition system

A run is a list of labels that leads from one state to another. `Run.inv` is the
induction over a run packaged once: what holds at the start and is kept by every step
holds at the end. `restrict` keeps the steps that meet a condition on the state before
them and the label, so that "in every run whose steps all meet `C`" is a run of
`restrict step C`.
-/

namespace Transition

variable {σ ℓ : Type*}

/-- `Run step s ls t`: the labels `ls`, taken in order, lead from `s` to `t`. -/
inductive Run (step : σ → ℓ → σ → Prop) : σ → List ℓ → σ → Prop where
  /-- The empty run. -/
  | nil (s : σ) : Run step s [] s
  /-- One more step at the end. -/
  | snoc {s t u : σ} {ls : List ℓ} {l : ℓ} : Run step s ls t → step t l u → Run step s (ls ++ [l]) u

variable {step : σ → ℓ → σ → Prop}

theorem Run.single {s t : σ} {l : ℓ} (h : step s l t) : Run step s [l] t := .snoc (.nil s) h

theorem Run.trans {s t u : σ} {ls ms : List ℓ} (h : Run step s ls t) (h' : Run step t ms u) :
    Run step s (ls ++ ms) u := by
  induction h' with
  | nil => simpa using h
  | snoc _ hs ih => rw [← List.append_assoc]; exact .snoc ih hs

/-- A run of one relation is one of another that allows its steps. -/
theorem Run.mono {step' : σ → ℓ → σ → Prop} {s t : σ} {ls : List ℓ} (h : Run step s ls t)
    (hstep : ∀ s l t, step s l t → step' s l t) : Run step' s ls t := by
  induction h with
  | nil => exact .nil s
  | snoc _ hs ih => exact .snoc ih (hstep _ _ _ hs)

theorem Run.cons {s t u : σ} {l : ℓ} {ls : List ℓ} (h : step s l t) (h' : Run step t ls u) :
    Run step s (l :: ls) u := (Run.single h).trans h'

/-- The induction over a run, with what the run has done so far in view. -/
theorem Run.inv_trace {I : List ℓ → σ → Prop} {s t : σ} {ls : List ℓ} (h : Run step s ls t)
    (init : I [] s) (keep : ∀ ms u l v, I ms u → step u l v → I (ms ++ [l]) v) : I ls t := by
  induction h with
  | nil => exact init
  | snoc _ hs ih => exact keep _ _ _ _ ih hs

/-- What holds at the start and is kept by every step holds at the end. -/
theorem Run.inv {I : σ → Prop} {s t : σ} {ls : List ℓ} (h : Run step s ls t) (init : I s)
    (keep : ∀ u l v, I u → step u l v → I v) : I t :=
  h.inv_trace (I := fun _ => I) init fun _ u l v => keep u l v

/-- What holds at the start of a run and not at its end is lost at one of its steps. -/
theorem Run.exists_step {P : σ → Prop} {s t : σ} {ls : List ℓ} (h : Run step s ls t) (hs : P s)
    (ht : ¬ P t) :
    ∃ ms l u v, ms ++ [l] <+: ls ∧ Run step s ms u ∧ step u l v ∧ P u ∧ ¬ P v := by
  induction h with
  | nil => exact absurd hs ht
  | @snoc u v ls l run hstep ih =>
    by_cases hu : P u
    · exact ⟨ls, l, u, v, List.prefix_refl _, run, hstep, hu, ht⟩
    · obtain ⟨ms, m, x, y, hpre, hrest⟩ := ih hu
      exact ⟨ms, m, x, y, hpre.trans (List.prefix_append ls [l]), hrest⟩

/-- The steps taken from a state, under a label, that meet `C`. -/
def restrict (step : σ → ℓ → σ → Prop) (C : σ → ℓ → Prop) : σ → ℓ → σ → Prop :=
  fun s l t => step s l t ∧ C s l

/-! ### Runs computed -/

/-- The labels taken in order by a step function, as long as it answers. -/
def replay (f : σ → ℓ → Option σ) (ls : List ℓ) (s : σ) : Option σ := ls.foldlM f s

/-- What a step function that only takes steps arrives at is reached by a run. -/
theorem replay_run {f : σ → ℓ → Option σ} (hf : ∀ s l t, f s l = some t → step s l t) {ls : List ℓ}
    {s t : σ} (h : replay f ls s = some t) : Run step s ls t := by
  induction ls generalizing s with
  | nil =>
    obtain rfl := Option.some.inj h
    exact .nil s
  | cons l ls ih =>
    obtain ⟨u, hstep, h⟩ := Option.bind_eq_some_iff.mp h
    exact .cons (hf s l u hstep) (ih h)

end Transition
