import Mathlib.Data.Nat.Notation
import Mathlib.Logic.Basic

/-!
# A gate that counts before it looks

Callers that want in add one to a shared counter, look at what it was, and go in if that
is below the limit; a caller that is turned away takes its one back later, as one that
leaves does. So the counter counts both those inside and those who have been turned away
and have not undone it yet, as far as a machine word can (`Counted`). While they are fewer
than a word can count, no more than the limit are inside (`Exact`), and a caller is turned
away unduly just if it comes when those turned away make up the difference
(`Counted.turned_away_iff`).
-/

/-- A counter, and whom it counts. -/
@[ext]
structure Gate where
  counter : ℕ
  /-- Those who are in and have not left. -/
  inside : ℕ
  /-- Those who were turned away and have not undone their addition. -/
  refused : ℕ

namespace Gate

/-- A step of a caller, at a gate with a counter modulo `M` and the limit `L`. -/
inductive Step (M L : ℕ) (g : Gate) : Gate → Prop where
  /-- The addition of a caller that is let in. -/
  | letIn : g.counter < L → Step M L g ⟨(g.counter + 1) % M, g.inside + 1, g.refused⟩
  /-- The addition of one that is turned away. -/
  | refuse : L ≤ g.counter → Step M L g ⟨(g.counter + 1) % M, g.inside, g.refused + 1⟩
  /-- Somebody inside leaves. -/
  | leave (n : ℕ) : g.inside = n + 1 → Step M L g ⟨(M - 1 + g.counter) % M, n, g.refused⟩
  /-- Somebody who was turned away undoes its addition. -/
  | undo (n : ℕ) : g.refused = n + 1 → Step M L g ⟨(M - 1 + g.counter) % M, g.inside, n⟩

/-- Whom the counter counts. -/
def total (g : Gate) : ℕ := g.inside + g.refused

/-- The counter counts them, as far as it goes. -/
def Counted (M : ℕ) (g : Gate) : Prop := g.counter = g.total % M

/-- The counter is exact, and there are no more inside than the limit. -/
structure Exact (L : ℕ) (g : Gate) : Prop where
  counter : g.counter = g.total
  inside : g.inside ≤ L

variable {M L : ℕ} {g g' : Gate}

/-! ### Steps by their numbers -/

theorem Step.enter (hcounter : g'.counter = (g.counter + 1) % M)
    (hinside : g'.inside = g.inside + (decide (g.counter < L)).toNat)
    (hrefused : g'.refused = g.refused + (decide (L ≤ g.counter)).toNat) : Step M L g g' := by
  obtain ⟨counter, inside, refused⟩ := g'
  dsimp only at hcounter hinside hrefused
  by_cases hlt : g.counter < L
  · have hle : ¬ L ≤ g.counter := Nat.not_le.mpr hlt
    simp only [hlt, hle, decide_true, decide_false] at hinside hrefused
    obtain rfl := hcounter
    obtain rfl := hinside
    obtain rfl := hrefused
    exact .letIn hlt
  · have hle : L ≤ g.counter := Nat.not_lt.mp hlt
    simp only [hlt, hle, decide_true, decide_false] at hinside hrefused
    obtain rfl := hcounter
    obtain rfl := hinside
    obtain rfl := hrefused
    exact .refuse hle

theorem Step.exit (hcounter : g'.counter = (M - 1 + g.counter) % M) (hinside : g'.inside + 1 = g.inside)
    (hrefused : g'.refused = g.refused) : Step M L g g' := by
  obtain ⟨counter, inside, refused⟩ := g'
  dsimp only at hcounter hrefused
  obtain rfl := hcounter
  obtain rfl := hrefused
  exact .leave inside hinside.symm

theorem Step.undone (hcounter : g'.counter = (M - 1 + g.counter) % M) (hinside : g'.inside = g.inside)
    (hrefused : g'.refused + 1 = g.refused) : Step M L g g' := by
  obtain ⟨counter, inside, refused⟩ := g'
  dsimp only at hcounter hinside
  obtain rfl := hcounter
  obtain rfl := hinside
  exact .undo refused hrefused.symm

/-! ### What the counter is worth -/

/-- Taking one back, where there was one. -/
theorem pred_mod (hM : 0 < M) (n : ℕ) : (M - 1 + (n + 1) % M) % M = n % M := by
  rw [Nat.add_mod_mod, show M - 1 + (n + 1) = n + M by omega, Nat.add_mod_right]

theorem Counted.step (h : g.Counted M) (hM : 0 < M) (hstep : Step M L g g') : g'.Counted M := by
  unfold Counted total at h ⊢
  cases hstep with
  | letIn _ =>
    dsimp only
    rw [h, Nat.mod_add_mod]
    congr 1
    omega
  | refuse _ =>
    dsimp only
    rw [h, Nat.mod_add_mod]
    congr 1
  | leave n hn =>
    dsimp only
    rw [h, hn, show n + 1 + g.refused = n + g.refused + 1 by omega, pred_mod hM]
  | undo n hn =>
    dsimp only
    rw [h, hn, show g.inside + (n + 1) = g.inside + n + 1 by omega, pred_mod hM]

/-- A step to where there are fewer than the counter can count. -/
theorem Exact.step (h : g.Exact L) (hM : g'.total < M) (hstep : Step M L g g') : g'.Exact L := by
  obtain ⟨hcounter, hinside⟩ := h
  unfold total at hcounter hM
  cases hstep with
  | letIn hlt =>
    dsimp only at hM
    refine ⟨?_, ?_⟩
    · show (g.counter + 1) % M = g.inside + 1 + g.refused
      rw [Nat.mod_eq_of_lt (by omega)]
      omega
    · show g.inside + 1 ≤ L
      omega
  | refuse _ =>
    dsimp only at hM
    refine ⟨?_, hinside⟩
    show (g.counter + 1) % M = g.inside + (g.refused + 1)
    rw [Nat.mod_eq_of_lt (by omega)]
    omega
  | leave n hn =>
    dsimp only at hM
    refine ⟨?_, ?_⟩
    · show (M - 1 + g.counter) % M = n + g.refused
      rw [show M - 1 + g.counter = n + g.refused + M by omega, Nat.add_mod_right, Nat.mod_eq_of_lt hM]
    · show n ≤ L
      omega
  | undo n hn =>
    dsimp only at hM
    refine ⟨?_, hinside⟩
    show (M - 1 + g.counter) % M = g.inside + n
    rw [show M - 1 + g.counter = g.inside + n + M by omega, Nat.add_mod_right, Nat.mod_eq_of_lt hM]

/-- From one exact state to the next the counter moves by one, and does not go round. -/
theorem Exact.counter_step (h : g.Exact L) (h' : g'.Exact L) (hstep : Step M L g g') :
    g'.counter = g.counter + 1 ∨ g.counter = g'.counter + 1 := by
  have hcounter := h.counter
  have hcounter' := h'.counter
  unfold total at hcounter hcounter'
  cases hstep with
  | letIn _ =>
    dsimp only at hcounter' ⊢
    omega
  | refuse _ =>
    dsimp only at hcounter' ⊢
    omega
  | leave n hn =>
    dsimp only at hcounter' ⊢
    omega
  | undo n hn =>
    dsimp only at hcounter' ⊢
    omega

/-- There is room inside, and yet a caller that comes now is turned away: those who have been turned
away before make up the difference. -/
def Crowded (M L : ℕ) (g : Gate) : Prop := g.inside < L ∧ L ≤ g.total % M

/-- A caller that comes now is turned away only if it is full inside, exactly if the gate is not
crowded. -/
theorem Counted.turned_away_iff (h : g.Counted M) : (L ≤ g.counter → L ≤ g.inside) ↔ ¬ g.Crowded M L := by
  unfold Crowded
  rw [← h]
  omega

end Gate
