import Mathlib.Data.Nat.Notation
import Mathlib.Logic.Relation

/-!
# Loops with a condition

A `while` loop whose body may fail. `run` takes it with fuel; `Ends` says without fuel how it
ends, which is unique (`Ends.unique`) and what `run` finds with enough fuel (`ends_iff`). A
loop whose body decreases a measure ends (`exists_ends`). `Reaches` is where the iterations
lead: the loop ends with what some iteration reached ends it with (`Ends.last`), and from any state
that is reached it ends as it does from the start (`Reaches.ends_iff`).
-/

namespace While

variable {σ ε : Type*}

/-- What an iteration leads to. -/
inductive Next (σ : Type*) where
  /-- The next iteration. -/
  | go (s : σ)
  /-- The end of the loop. -/
  | exit (s : σ)

/-- The loop, for as many iterations as there is fuel. -/
def run (iter : σ → Except ε (Next σ)) : ℕ → σ → Option (Except ε σ)
  | 0, _ => none
  | fuel + 1, s =>
    match iter s with
    | .error e => some (.error e)
    | .ok (.exit t) => some (.ok t)
    | .ok (.go t) => run iter fuel t

/-- `Ends iter s r`: from `s` the loop ends with `r`. -/
inductive Ends (iter : σ → Except ε (Next σ)) : σ → Except ε σ → Prop where
  /-- The iteration fails. -/
  | fail {s : σ} {e : ε} : iter s = .error e → Ends iter s (.error e)
  /-- The iteration is the last. -/
  | exit {s t : σ} : iter s = .ok (.exit t) → Ends iter s (.ok t)
  /-- The iteration goes on. -/
  | go {s t : σ} {r : Except ε σ} : iter s = .ok (.go t) → Ends iter t r → Ends iter s r

/-- `Reaches iter s t`: iterations that go on lead from `s` to `t`. -/
def Reaches (iter : σ → Except ε (Next σ)) : σ → σ → Prop :=
  Relation.ReflTransGen fun s t => iter s = .ok (.go t)

variable {iter : σ → Except ε (Next σ)}

theorem run_fail {s : σ} {e : ε} (h : iter s = .error e) (fuel : ℕ) :
    run iter (fuel + 1) s = some (.error e) := by
  simp [run, h]

theorem run_exit {s t : σ} (h : iter s = .ok (.exit t)) (fuel : ℕ) :
    run iter (fuel + 1) s = some (.ok t) := by
  simp [run, h]

theorem run_go {s t : σ} (h : iter s = .ok (.go t)) (fuel : ℕ) :
    run iter (fuel + 1) s = run iter fuel t := by
  simp [run, h]

/-- What a run finds is how the loop ends. -/
theorem ends_of_run {fuel : ℕ} {s : σ} {r : Except ε σ} (h : run iter fuel s = some r) : Ends iter s r := by
  induction fuel generalizing s with
  | zero => simp [run] at h
  | succ fuel ih =>
    rcases hi : iter s with e | t | t
    · rw [run_fail hi] at h
      obtain rfl := Option.some.inj h
      exact .fail hi
    · rw [run_go hi] at h
      exact .go hi (ih h)
    · rw [run_exit hi] at h
      obtain rfl := Option.some.inj h
      exact .exit hi

theorem ends_iff {s : σ} {r : Except ε σ} : Ends iter s r ↔ ∃ fuel, run iter fuel s = some r := by
  constructor
  · intro h
    induction h with
    | fail h => exact ⟨1, run_fail h 0⟩
    | exit h => exact ⟨1, run_exit h 0⟩
    | go h _ ih =>
      obtain ⟨fuel, hrun⟩ := ih
      exact ⟨fuel + 1, (run_go h fuel).trans hrun⟩
  · rintro ⟨fuel, h⟩
    exact ends_of_run h

theorem ends_go_iff {s t : σ} (h : iter s = .ok (.go t)) {r : Except ε σ} :
    Ends iter s r ↔ Ends iter t r := by
  constructor
  · intro hs
    cases hs with
    | fail h' => simp [h] at h'
    | exit h' => simp [h] at h'
    | go h' ht =>
      rw [h, Except.ok.injEq, Next.go.injEq] at h'
      rwa [h']
  · exact .go h

/-- A loop ends in one way. -/
theorem Ends.unique {s : σ} {r r' : Except ε σ} (h : Ends iter s r) (h' : Ends iter s r') : r = r' := by
  induction h with
  | fail h =>
    cases h' with
    | fail h' => simpa [h] using h'
    | exit h' => simp [h] at h'
    | go h' => simp [h] at h'
  | exit h =>
    cases h' with
    | fail h' => simp [h] at h'
    | exit h' => simpa [h] using h'
    | go h' => simp [h] at h'
  | go h _ ih => exact ih ((ends_go_iff h).mp h')

/-- From a state that is reached the loop ends as it does from the start. -/
theorem Reaches.ends_iff {s t : σ} (h : Reaches iter s t) {r : Except ε σ} :
    Ends iter s r ↔ Ends iter t r := by
  induction h with
  | refl => rfl
  | tail _ hstep ih => exact ih.trans (ends_go_iff hstep)

/-- What holds at the start and is kept by every iteration that goes on holds of what is reached. -/
theorem Reaches.inv {I : σ → Prop} {s t : σ} (h : Reaches iter s t) (init : I s)
    (keep : ∀ u v, I u → iter u = .ok (.go v) → I v) : I t := by
  induction h with
  | refl => exact init
  | tail _ hstep ih => exact keep _ _ ih hstep

/-- The iteration that ends the loop. -/
theorem Ends.last {s : σ} {r : Except ε σ} (h : Ends iter s r) :
    ∃ t, Reaches iter s t ∧ ((∃ e, iter t = .error e ∧ r = .error e) ∨ ∃ u, iter t = .ok (.exit u) ∧ r = .ok u) := by
  induction h with
  | fail h => exact ⟨_, .refl, .inl ⟨_, h, rfl⟩⟩
  | exit h => exact ⟨_, .refl, .inr ⟨_, h, rfl⟩⟩
  | go h _ ih =>
    obtain ⟨t, hreach, hlast⟩ := ih
    exact ⟨t, hreach.head h, hlast⟩

/-- A loop whose iterations decrease a measure ends. -/
theorem exists_ends (μ : σ → ℕ) (h : ∀ s t, iter s = .ok (.go t) → μ t < μ s) (s : σ) :
    ∃ r, Ends iter s r := by
  induction hn : μ s using Nat.strongRecOn generalizing s with
  | ind n ih =>
    rcases hi : iter s with e | t | t
    · exact ⟨_, .fail hi⟩
    · obtain ⟨r, hr⟩ := ih (μ t) (hn ▸ h s t hi) t rfl
      exact ⟨r, .go hi hr⟩
    · exact ⟨_, .exit hi⟩

end While
