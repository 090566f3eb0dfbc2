import Mathlib.Data.List.Nodup
import Mathlib.Data.Nat.Notation

/-!
# Resources taken one after another

A trace of acquisitions, uses and releases. `Sessions rs t`: the trace consists of one session
for each resource of `rs` in turn, its acquisition, uses of it, and its release. A trace of
sessions of different resources is balanced (`Sessions.allBalanced`): whatever is acquired is
released once, and nothing is used before its acquisition or after its release.
-/

namespace Resource

variable {ρ : Type*}

/-- What is done to a resource. -/
inductive Op (ρ : Type*) where
  | acquire (r : ρ)
  | use (r : ρ)
  | release (r : ρ)
  deriving DecidableEq

/-- The resource. -/
def Op.on : Op ρ → ρ
  | acquire r => r
  | use r => r
  | release r => r

/-- The place of an operation among those on its resource. -/
def Op.rank : Op ρ → ℕ
  | acquire _ => 0
  | use _ => 1
  | release _ => 2

/-- Operations on one resource are in their order. -/
def Op.Before (o o' : Op ρ) : Prop := o.on = o'.on → o.rank ≤ o'.rank

variable [DecidableEq ρ]

/-- What is held after an operation. -/
def Op.hold (held : List ρ) : Op ρ → List ρ
  | acquire r => r :: held
  | use _ => held
  | release r => held.erase r

/-- What is held after a trace. -/
def heldAfter (t : List (Op ρ)) : List ρ := t.foldl Op.hold []

/-- Whatever is acquired is released exactly once, nothing is held at the end, and a resource is
used only between its acquisition and its release. -/
structure Balanced (t : List (Op ρ)) : Prop where
  once : ∀ r, t.count (.acquire r) ≤ 1
  released : ∀ r, t.count (.release r) = t.count (.acquire r)
  used : ∀ r, .use r ∈ t → .acquire r ∈ t
  order : t.Pairwise Op.Before
  held : heldAfter t = []

/-- One session for each resource. -/
inductive Sessions : List ρ → List (Op ρ) → Prop where
  | nil : Sessions [] []
  /-- Another session at the end. -/
  | snoc {rs : List ρ} {t uses : List (Op ρ)} {r : ρ} : Sessions rs t → (∀ o ∈ uses, o = .use r) →
      Sessions (rs ++ [r]) (t ++ .acquire r :: (uses ++ [.release r]))

namespace Sessions

variable {rs : List ρ} {t : List (Op ρ)}

theorem count_uses {uses : List (Op ρ)} {r : ρ} (h : ∀ o ∈ uses, o = .use r) {o : Op ρ} (ho : o ≠ .use r) :
    uses.count o = 0 := by
  rw [List.count_eq_zero]
  intro hmem
  exact ho (h o hmem)

/-- A resource is acquired, and released, as often as it has a session. -/
theorem count_eq (h : Sessions rs t) {mk : ρ → Op ρ} (hmk : mk = .acquire ∨ mk = .release) (r : ρ) :
    t.count (mk r) = rs.count r := by
  induction h with
  | nil => rfl
  | @snoc rs t uses s _ huses ih =>
    have hnone : uses.count (mk r) = 0 := by
      apply count_uses huses
      rcases hmk with rfl | rfl <;> simp
    rw [List.count_append, List.count_append, ih, List.count_cons, List.count_append, hnone]
    rcases hmk with rfl | rfl <;> by_cases heq : s = r <;> simp [heq]

omit [DecidableEq ρ] in
/-- Every operation is on a resource that has its session. -/
theorem on_mem (h : Sessions rs t) : ∀ o ∈ t, o.on ∈ rs := by
  induction h with
  | nil => simp
  | @snoc rs t uses s _ huses ih =>
    intro o ho
    simp only [List.mem_append, List.mem_cons, List.not_mem_nil, or_false] at ho ⊢
    rcases ho with ho | rfl | ho | rfl
    · exact .inl (ih o ho)
    · exact .inr rfl
    · exact .inr (by rw [huses o ho, Op.on])
    · exact .inr rfl

/-- A session leaves what is held as it was. -/
theorem hold_session {uses : List (Op ρ)} {r : ρ} (h : ∀ o ∈ uses, o = .use r) (held : List ρ) :
    (.acquire r :: (uses ++ [.release r])).foldl Op.hold held = held := by
  have huses : ∀ held : List ρ, uses.foldl Op.hold held = held := by
    intro held
    induction uses with
    | nil => rfl
    | cons o uses ih =>
      rw [List.foldl_cons, h o (List.mem_cons_self ..)]
      exact ih fun o' ho' => h o' (List.mem_cons_of_mem _ ho')
  rw [List.foldl_cons, List.foldl_append, huses]
  simp [Op.hold]

theorem heldAfter_eq (h : Sessions rs t) : heldAfter t = [] := by
  induction h with
  | nil => rfl
  | snoc _ huses ih => rw [heldAfter, List.foldl_append, ← heldAfter, ih, hold_session huses]

omit [DecidableEq ρ] in
/-- The operations of a session are in their order. -/
theorem order_session {uses : List (Op ρ)} {r : ρ} (h : ∀ o ∈ uses, o = .use r) :
    (.acquire r :: (uses ++ [.release r])).Pairwise Op.Before := by
  refine List.pairwise_cons.mpr ⟨fun o _ _ => Nat.zero_le _, ?_⟩
  refine List.pairwise_append.mpr ⟨?_, List.pairwise_singleton _ _, ?_⟩
  · refine List.pairwise_of_forall_mem_list fun o ho o' ho' _ => ?_
    exact Nat.le_of_eq (congrArg Op.rank ((h o ho).trans (h o' ho').symm))
  · intro o ho o' ho' _
    rw [h o ho, List.mem_singleton.mp ho']
    exact Nat.le_succ 1

omit [DecidableEq ρ] in
theorem order (h : Sessions rs t) (hnodup : rs.Nodup) : t.Pairwise Op.Before := by
  induction h with
  | nil => exact List.Pairwise.nil
  | @snoc rs t uses s hs huses ih =>
    obtain ⟨hrs, -, hnew⟩ := List.nodup_append.mp hnodup
    refine List.pairwise_append.mpr ⟨ih hrs, order_session huses, ?_⟩
    -- The resources of the sessions before are other ones.
    intro o ho o' ho' heq
    have hon : o'.on = s := by
      simp only [List.mem_cons, List.mem_append, List.not_mem_nil, or_false] at ho'
      rcases ho' with rfl | ho' | rfl
      · rfl
      · rw [huses o' ho', Op.on]
      · rfl
    exact absurd (heq.trans hon) (hnew _ (hs.on_mem o ho) s (List.mem_singleton_self s))

theorem allBalanced (h : Sessions rs t) (hnodup : rs.Nodup) : Balanced t where
  once r := by
    rw [h.count_eq (.inl rfl)]
    exact List.nodup_iff_count_le_one.mp hnodup r
  released r := by rw [h.count_eq (.inr rfl), h.count_eq (.inl rfl)]
  used r hr := by
    have hmem : r ∈ rs := h.on_mem _ hr
    rwa [← List.count_pos_iff, h.count_eq (.inl rfl), List.count_pos_iff]
  order := h.order hnodup
  held := h.heldAfter_eq

end Sessions

end Resource
