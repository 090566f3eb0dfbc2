import Mathlib.Data.List.Induction

/-!
# Machines that answer

A deterministic machine takes an input, answers and moves to another state. `answers`
is what it says to a sequence of inputs, `final` where they leave it.
`answers_congr` is the two-run rule: two machines whose states stay related, and whose
answers agree from related states, give the same answers. `final_inv` is the induction over
a run: an invariant that may speak of the inputs so far.
-/

namespace Machine

variable {ι ο σ τ : Type*}

/-- The answers to a sequence of inputs. -/
def answers (f : ι → σ → ο × σ) : List ι → σ → List ο
  | [], _ => []
  | i :: is, s => (f i s).1 :: answers f is (f i s).2

/-- The two-run rule. -/
theorem answers_congr {f : ι → σ → ο × σ} {g : ι → τ → ο × τ} (R : σ → τ → Prop) {is : List ι}
    (step : ∀ i ∈ is, ∀ s t, R s t → (f i s).1 = (g i t).1 ∧ R (f i s).2 (g i t).2)
    {s : σ} {t : τ} (h : R s t) : answers f is s = answers g is t := by
  induction is generalizing s t with
  | nil => rfl
  | cons i is ih =>
    obtain ⟨hout, hnext⟩ := step i (List.mem_cons_self ..) s t h
    rw [answers, answers, hout, ih (fun j hj => step j (List.mem_cons_of_mem _ hj)) hnext]

/-- A machine that always says the same from where it is. -/
theorem answers_const {f : ι → σ → ο × σ} {I : σ → Prop} {o : ο} {is : List ι}
    (step : ∀ i ∈ is, ∀ s, I s → (f i s).1 = o ∧ I (f i s).2) {s : σ} (h : I s) :
    answers f is s = List.replicate is.length o := by
  induction is generalizing s with
  | nil => rfl
  | cons i is ih =>
    obtain ⟨hout, hnext⟩ := step i (List.mem_cons_self ..) s h
    rw [answers, hout, ih (fun j hj => step j (List.mem_cons_of_mem _ hj)) hnext]
    rfl

@[simp] theorem length_answers (f : ι → σ → ο × σ) (is : List ι) (s : σ) : (answers f is s).length = is.length := by
  induction is generalizing s with
  | nil => rfl
  | cons i is ih => rw [answers, List.length_cons, ih, List.length_cons]

/-! ### Where a run ends -/

/-- The state after a sequence of inputs. -/
def final (f : ι → σ → ο × σ) (is : List ι) (s : σ) : σ := is.foldl (fun s i => (f i s).2) s

theorem final_snoc (f : ι → σ → ο × σ) (is : List ι) (i : ι) (s : σ) :
    final f (is ++ [i]) s = (f i (final f is s)).2 := by
  simp [final]

theorem answers_snoc (f : ι → σ → ο × σ) (is : List ι) (i : ι) (s : σ) :
    answers f (is ++ [i]) s = answers f is s ++ [(f i (final f is s)).1] := by
  induction is generalizing s with
  | nil => rfl
  | cons j is ih => exact congrArg _ (ih (f j s).2)

/-- An answer is that to its input, from where the inputs before leave the machine. -/
theorem getElem?_answers (f : ι → σ → ο × σ) (is : List ι) (s : σ) (n : ℕ) :
    (answers f is s)[n]? = is[n]?.map fun i => (f i (final f (is.take n) s)).1 := by
  induction is generalizing s n with
  | nil => rfl
  | cons i is ih =>
    cases n with
    | zero => rfl
    | succ n => exact ih (f i s).2 n

/-- What holds at the start and is kept by every input holds at the end. -/
theorem final_inv {f : ι → σ → ο × σ} {I : List ι → σ → Prop} {s : σ} (init : I [] s)
    (keep : ∀ is i, I is (final f is s) → I (is ++ [i]) (f i (final f is s)).2) (is : List ι) :
    I is (final f is s) := by
  induction is using List.reverseRecOn with
  | nil => exact init
  | append_singleton is i ih => rw [final_snoc]; exact keep is i ih

/-! ### Machines side by side -/

section

variable {κ γ : Type*} [DecidableEq κ]

/-- Machines that share a part of their state: an input goes to one of them. -/
def shared (f : ι → σ × γ → ο × (σ × γ)) (i : κ × ι) (s : (κ → σ) × γ) : ο × ((κ → σ) × γ) :=
  let r := f i.2 (s.1 i.1, s.2)
  (r.1, Function.update s.1 i.1 r.2.1, r.2.2)

/-- The answers of one of them. -/
def answersOf (f : ι → σ × γ → ο × (σ × γ)) (k : κ) (is : List (κ × ι)) (s : (κ → σ) × γ) : List ο :=
  ((is.zip (answers (shared f) is s)).filter fun p => p.1.1 = k).map Prod.snd

/-- When neither the answers nor the machines' own states depend on the shared part beyond what is related by `R`, and
every input keeps the shared part related to what it was, each machine answers as if it were alone. -/
theorem answersOf_eq {f : ι → σ × γ → ο × (σ × γ)} {R : γ → γ → Prop} (equiv : Equivalence R)
    (same : ∀ i s g g', R g g' → (f i (s, g)).1 = (f i (s, g')).1 ∧ (f i (s, g)).2.1 = (f i (s, g')).2.1)
    (keeps : ∀ i s g, R g (f i (s, g)).2.2) (k : κ) (is : List (κ × ι)) (s : (κ → σ) × γ) :
    answersOf f k is s = answers f ((is.filter fun i => i.1 = k).map Prod.snd) (s.1 k, s.2) := by
  have hrun : ∀ (is : List (κ × ι)) (s : (κ → σ) × γ) (g : γ), R s.2 g →
      answersOf f k is s = answers f ((is.filter fun i => i.1 = k).map Prod.snd) (s.1 k, g) := by
    intro is
    induction is with
    | nil => intro s g _; rfl
    | cons i is ih =>
      intro s g hg
      obtain ⟨k', i⟩ := i
      have hnext := equiv.trans (equiv.symm (keeps i (s.1 k') s.2)) hg
      by_cases hk : k' = k
      · subst hk
        obtain ⟨hout, hstate⟩ := same i (s.1 k') s.2 g hg
        have := ih (shared f (k', i) s).2 (f i (s.1 k', g)).2.2 (equiv.trans hnext (keeps i (s.1 k') g))
        simp only [answersOf, answers, List.zip_cons_cons, decide_true, List.filter_cons_of_pos, List.map_cons] at this ⊢
        rw [this]
        simp only [shared, Function.update_self, hout, hstate]
      · have := ih (shared f (k', i) s).2 g hnext
        simp only [answersOf, answers, List.zip_cons_cons, hk, decide_false, Bool.false_eq_true, not_false_eq_true,
          List.filter_cons_of_neg] at this ⊢
        rw [this]
        simp only [shared, Function.update_of_ne (Ne.symm hk)]
  exact hrun is s s.2 (equiv.refl _)

end

end Machine
