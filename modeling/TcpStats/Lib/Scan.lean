import Mathlib.Data.List.Infix

/-!
# Loops over a list that may be left early

`scan body xs s` runs `body` over the items of `xs` in order, threading a state, until
the list ends or the body asks to stop: the shape of a C loop over an iterator whose
body says `continue`, `break` or `goto`. An early exit carries a value (which exit it
was).

`scan_rule` is the invariant rule: an invariant that relates the items consumed so far
to the state, kept by every iteration that goes on, holds when the list ends; and what
an iteration that stops establishes holds at the early exit. `scan_sim` is the rule for two
loops side by side.
-/

namespace Scan

variable {α σ ε : Type*}

/-- What an iteration asks for. -/
inductive Ctl (ε : Type*) where
  /-- Go on with the next item. -/
  | next
  /-- Leave the loop. -/
  | stop (e : ε)
  deriving DecidableEq

/-- The loop: the exit taken, if the list did not just end, and the final state. -/
def scan (body : α → σ → Ctl ε × σ) : List α → σ → Option ε × σ
  | [], s => (none, s)
  | x :: xs, s =>
    match body x s with
    | (.next, s') => scan body xs s'
    | (.stop e, s') => (some e, s')

variable {body : α → σ → Ctl ε × σ}

@[simp] theorem scan_nil (s : σ) : scan body [] s = (none, s) := rfl

theorem scan_cons_next {x : α} {xs : List α} {s s' : σ} (h : body x s = (.next, s')) :
    scan body (x :: xs) s = scan body xs s' := by
  simp [scan, h]

theorem scan_cons_stop {x : α} {xs : List α} {s s' : σ} {e : ε} (h : body x s = (.stop e, s')) :
    scan body (x :: xs) s = (some e, s') := by
  simp [scan, h]

/-- What a loop establishes: `I` of the whole list if it ran to the end, `Q` of the items
up to and including the one it stopped at if it did not. -/
def Ends (I : List α → σ → Prop) (Q : List α → ε → σ → Prop) (xs : List α) : Option ε × σ → Prop
  | (none, s) => I xs s
  | (some e, s) => ∃ pre suf, xs = pre ++ suf ∧ Q pre e s

/-- The invariant rule, from any point of the list. -/
theorem scan_rule_from {I : List α → σ → Prop} {Q : List α → ε → σ → Prop}
    (next : ∀ pre x s s', I pre s → body x s = (.next, s') → I (pre ++ [x]) s')
    (stop : ∀ pre x s s' e, I pre s → body x s = (.stop e, s') → Q (pre ++ [x]) e s')
    (pre xs : List α) (s : σ) (h : I pre s) : Ends I Q (pre ++ xs) (scan body xs s) := by
  induction xs generalizing pre s with
  | nil => simpa [Ends] using h
  | cons x xs ih =>
    rcases hb : body x s with ⟨c, s'⟩
    cases c with
    | next =>
      rw [scan_cons_next hb]
      have := ih (pre ++ [x]) s' (next pre x s s' h hb)
      simpa using this
    | stop e =>
      rw [scan_cons_stop hb]
      exact ⟨pre ++ [x], xs, by simp, stop pre x s s' e h hb⟩

/-- The invariant rule. -/
theorem scan_rule {I : List α → σ → Prop} {Q : List α → ε → σ → Prop}
    (next : ∀ pre x s s', I pre s → body x s = (.next, s') → I (pre ++ [x]) s')
    (stop : ∀ pre x s s' e, I pre s → body x s = (.stop e, s') → Q (pre ++ [x]) e s')
    (xs : List α) (s : σ) (h : I [] s) : Ends I Q xs (scan body xs s) := by
  simpa using scan_rule_from next stop [] xs s h

/-- A property every iteration keeps, whether it goes on or stops, holds at the end. -/
theorem scan_inv {P : σ → Prop} (keep : ∀ x s, P s → P (body x s).2) (xs : List α) (s : σ)
    (h : P s) : P (scan body xs s).2 := by
  induction xs generalizing s with
  | nil => exact h
  | cons x xs ih =>
    have hx := keep x s h
    rcases hb : body x s with ⟨c, s'⟩
    rw [hb] at hx
    cases c with
    | next => rw [scan_cons_next hb]; exact ih s' hx
    | stop e => rw [scan_cons_stop hb]; exact hx

/-- Two loops over one list whose iterations ask for the same and keep their states related
are left in the same way, with related states. -/
theorem scan_sim {τ : Type*} {body' : α → τ → Ctl ε × τ} {R : σ → τ → Prop}
    (step : ∀ x s t, R s t → (body x s).1 = (body' x t).1 ∧ R (body x s).2 (body' x t).2) (xs : List α)
    (s : σ) (t : τ) (h : R s t) :
    (scan body xs s).1 = (scan body' xs t).1 ∧ R (scan body xs s).2 (scan body' xs t).2 := by
  induction xs generalizing s t with
  | nil => exact ⟨rfl, h⟩
  | cons x xs ih =>
    obtain ⟨hctl, hstate⟩ := step x s t h
    rcases hb : body x s with ⟨c, s'⟩
    rcases hb' : body' x t with ⟨c', t'⟩
    rw [hb, hb'] at hctl hstate
    obtain rfl : c = c' := hctl
    cases c with
    | next =>
      rw [scan_cons_next hb, scan_cons_next hb']
      exact ih s' t' hstate
    | stop e =>
      rw [scan_cons_stop hb, scan_cons_stop hb']
      exact ⟨rfl, hstate⟩

end Scan
