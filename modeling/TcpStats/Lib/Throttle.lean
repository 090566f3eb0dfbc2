import Mathlib.Algebra.Order.Group.Defs
import Mathlib.Algebra.Order.Group.Basic
import Mathlib.Data.List.Chain

/-!
# Throttles

A throttle remembers when it last let something through, and turns away what comes too soon behind that. What
it turns away it forgets. So what it lets through is spaced, one by one (`isChain_pass`), and over any number of
them (`spaced_of_isChain`), however much it turns away in between.
-/

namespace Throttle

variable {τ : Type*}

/-- What a throttle lets through of a list of arrivals, with the last that it let through before. -/
def pass (soon : τ → τ → Bool) : Option τ → List τ → List τ
  | _, [] => []
  | last, t :: ts => if last.any (soon · t) then pass soon last ts else t :: pass soon (some t) ts

variable {soon : τ → τ → Bool}

theorem pass_cons_soon {last t : τ} {ts : List τ} (h : soon last t = true) :
    pass soon (some last) (t :: ts) = pass soon (some last) ts := by
  rw [pass, if_pos (by simpa using h)]

theorem pass_cons_late {last : Option τ} {t : τ} {ts : List τ} (h : ∀ l ∈ last, soon l t = false) :
    pass soon last (t :: ts) = t :: pass soon (some t) ts := by
  rw [pass, if_neg]
  cases last with
  | none => simp
  | some l => simpa using h l rfl

/-- None comes too soon behind the one before. -/
theorem isChain_pass (last : Option τ) (ts : List τ) :
    (last.toList ++ pass soon last ts).IsChain fun a b => soon a b = false := by
  induction ts generalizing last with
  | nil => cases last <;> simp [pass]
  | cons t ts ih =>
    rw [pass]
    split
    case isTrue => exact ih last
    case isFalse hlate =>
      have hrest := ih (some t)
      cases last with
      | none => exact hrest
      | some l => exact List.isChain_cons_cons.mpr ⟨by simpa using hlate, hrest⟩

/-- The next arrival is compared with the last that was let through. -/
theorem pass_snoc (last : Option τ) (ts : List τ) (t : τ) :
    pass soon last (ts ++ [t]) = pass soon last ts ++
      if ((last.toList ++ pass soon last ts).getLast?).any (soon · t) then [] else [t] := by
  induction ts generalizing last with
  | nil =>
    cases last with
    | none => simp [pass]
    | some l => simp [pass]
  | cons u us ih =>
    rw [List.cons_append, pass, pass]
    split
    case isTrue => exact ih last
    case isFalse =>
      have hlast : (last.toList ++ u :: pass soon (some u) us).getLast? =
          ((some u).toList ++ pass soon (some u) us).getLast? := by
        cases last with
        | none => rfl
        | some l => exact List.getLast?_cons_cons
      rw [ih, hlast, List.cons_append]

theorem pass_sublist (last : Option τ) (ts : List τ) : (pass soon last ts).Sublist ts := by
  induction ts generalizing last with
  | nil => exact .slnil
  | cons t ts ih =>
    rw [pass]
    split
    case isTrue => exact (ih last).cons t
    case isFalse => exact (ih (some t)).cons_cons t

/-- Steps of at least `d` each. -/
theorem spaced_of_isChain {α : Type*} [AddCommGroup α] [PartialOrder α] [IsOrderedAddMonoid α] {d : α} {l : List α}
    (h : l.IsChain fun a b => d ≤ b - a) {i n : ℕ} (hlt : i + n < l.length) :
    n • d ≤ l[i + n] - l[i] := by
  induction n with
  | zero => simp
  | succ n ih =>
    have hstep := List.isChain_iff_getElem.mp h (i + n) (by omega)
    calc (n + 1) • d = n • d + d := succ_nsmul d n
      _ ≤ (l[i + n] - l[i]) + (l[i + n + 1] - l[i + n]) := add_le_add (ih (by omega)) hstep
      _ = l[i + (n + 1)] - l[i] := by rw [add_comm, sub_add_sub_cancel]; rfl

end Throttle
