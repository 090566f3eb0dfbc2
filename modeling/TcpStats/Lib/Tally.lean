import Mathlib.Algebra.BigOperators.Group.List.Basic
import Mathlib.Data.List.Induction
import Mathlib.Data.List.Sort

/-!
# Tallies

A map with its keys in order, in which a list is added up item by item. The order of the items plays no part
(`tally_perm`): the keys are those that occur (`mem_keys_tally`), under each is the sum over its items (`get_tally`),
and all the sums together are the sum over the list (`sum_tally`).
-/

/-- A map as the list of its entries, in the order of the keys. -/
@[ext]
structure Tally (K V : Type*) [LT K] where
  entries : List (K × V)
  ordered : entries.Pairwise fun a b => a.1 < b.1

namespace Tally

variable {K V α : Type*} [LinearOrder K] [AddCommMonoid V]

/-! ### Maps -/

/-- An entry is added to, or put in its place with 0 in it first. -/
def addTo (k : K) (v : V) : List (K × V) → List (K × V)
  | [] => [(k, 0 + v)]
  | e :: es =>
    if k < e.1 then (k, 0 + v) :: e :: es
    else if k = e.1 then (e.1, e.2 + v) :: es
    else e :: addTo k v es

theorem fst_of_mem_addTo {k : K} {v : V} {e : K × V} {es : List (K × V)} (h : e ∈ addTo k v es) :
    e.1 = k ∨ ∃ e' ∈ es, e'.1 = e.1 := by
  induction es with
  | nil =>
    obtain rfl := List.mem_singleton.mp h
    exact .inl rfl
  | cons head es ih =>
    unfold addTo at h
    split_ifs at h with hlt heq
    · rcases List.mem_cons.mp h with rfl | hmem
      · exact .inl rfl
      · exact .inr ⟨e, hmem, rfl⟩
    · rcases List.mem_cons.mp h with rfl | hmem
      · exact .inl heq.symm
      · exact .inr ⟨e, .tail _ hmem, rfl⟩
    · rcases List.mem_cons.mp h with rfl | hmem
      · exact .inr ⟨e, .head _, rfl⟩
      · rcases ih hmem with hk | ⟨e', he', hfst⟩
        · exact .inl hk
        · exact .inr ⟨e', .tail _ he', hfst⟩

theorem ordered_addTo (k : K) (v : V) {es : List (K × V)} (h : es.Pairwise fun a b => a.1 < b.1) :
    (addTo k v es).Pairwise fun a b => a.1 < b.1 := by
  induction es with
  | nil => exact List.pairwise_singleton _ _
  | cons head es ih =>
    obtain ⟨hhead, htail⟩ := List.pairwise_cons.mp h
    unfold addTo
    split_ifs with hlt heq
    · refine List.pairwise_cons.mpr ⟨fun e he => ?_, h⟩
      rcases List.mem_cons.mp he with rfl | hmem
      · exact hlt
      · exact hlt.trans (hhead e hmem)
    · exact List.pairwise_cons.mpr ⟨hhead, htail⟩
    · refine List.pairwise_cons.mpr ⟨fun e he => ?_, ih htail⟩
      rcases fst_of_mem_addTo he with hk | ⟨e', he', hfst⟩
      · rw [hk]
        exact lt_of_le_of_ne (not_lt.mp hlt) (Ne.symm heq)
      · rw [← hfst]
        exact hhead e' he'

/-- The map without entries. -/
def empty : Tally K V := ⟨[], .nil⟩

/-- `*map.entry(k).or_insert(0) += v`. -/
def add (t : Tally K V) (k : K) (v : V) : Tally K V := ⟨addTo k v t.entries, ordered_addTo k v t.ordered⟩

def keys (t : Tally K V) : List K := t.entries.map Prod.fst

/-- The value under a key in a list of entries, 0 if there is none. -/
def valueAt (k : K) : List (K × V) → V
  | [] => 0
  | e :: es => if e.1 = k then e.2 else valueAt k es

/-- The value under a key. -/
def get (t : Tally K V) (k : K) : V := valueAt k t.entries

@[simp] theorem get_empty (k : K) : (empty : Tally K V).get k = 0 := rfl

theorem valueAt_eq_zero {k : K} {es : List (K × V)} (h : ∀ e ∈ es, e.1 ≠ k) : valueAt k es = 0 := by
  induction es with
  | nil => rfl
  | cons head es ih =>
    rw [valueAt, if_neg (h head (.head _))]
    exact ih fun e he => h e (.tail _ he)

/-- Only the value under the key changes, by as much as is added. -/
theorem get_add (t : Tally K V) (k k' : K) (v : V) : (t.add k v).get k' = t.get k' + if k = k' then v else 0 := by
  suffices h : ∀ es : List (K × V), es.Pairwise (fun a b => a.1 < b.1) →
      valueAt k' (addTo k v es) = valueAt k' es + if k = k' then v else 0 from h t.entries t.ordered
  intro es hes
  induction es with
  | nil => simp [addTo, valueAt]
  | cons head es ih =>
    obtain ⟨hhead, htail⟩ := List.pairwise_cons.mp hes
    rw [addTo]
    rcases lt_trichotomy k head.1 with hlt | heq | hgt
    · -- a new entry, before all others
      have hnone : k = k' → valueAt k' (head :: es) = 0 := fun hk => valueAt_eq_zero fun e he => by
        rcases List.mem_cons.mp he with rfl | hmem
        · exact fun h => (hlt.trans_eq h).ne hk
        · exact fun h => ((hlt.trans (hhead e hmem)).trans_eq h).ne hk
      rw [if_pos hlt, valueAt]
      split_ifs with hk
      · rw [hnone hk]
      · rw [add_zero]
    · rw [if_neg heq.not_lt, if_pos heq, valueAt, valueAt, heq]
      split_ifs
      · rfl
      · rw [add_zero]
    · rw [if_neg hgt.not_gt, if_neg hgt.ne', valueAt, valueAt, ih htail]
      by_cases hk : head.1 = k'
      · rw [if_pos hk, if_pos hk, if_neg fun h => hgt.ne (hk.trans h.symm), add_zero]
      · rw [if_neg hk, if_neg hk]

theorem mem_keys_add (t : Tally K V) (k k' : K) (v : V) : k' ∈ (t.add k v).keys ↔ k' = k ∨ k' ∈ t.keys := by
  suffices h : ∀ es : List (K × V), k' ∈ (addTo k v es).map Prod.fst ↔ k' = k ∨ k' ∈ es.map Prod.fst from h t.entries
  intro es
  induction es with
  | nil => simp [addTo]
  | cons head es ih =>
    unfold addTo
    split_ifs with hlt heq
    · simp
    · simp [heq]
    · rw [List.map_cons, List.mem_cons, ih, List.map_cons, List.mem_cons]
      tauto

/-- The entries are the keys with what is under them. -/
theorem mem_entries_iff (t : Tally K V) {k : K} {v : V} : (k, v) ∈ t.entries ↔ k ∈ t.keys ∧ v = t.get k := by
  suffices h : ∀ es : List (K × V), es.Pairwise (fun a b => a.1 < b.1) →
      ((k, v) ∈ es ↔ k ∈ es.map Prod.fst ∧ v = valueAt k es) from h t.entries t.ordered
  intro es hes
  induction es with
  | nil => simp
  | cons head es ih =>
    obtain ⟨hhead, htail⟩ := List.pairwise_cons.mp hes
    rw [List.mem_cons, ih htail, List.map_cons, List.mem_cons, valueAt]
    by_cases hk : head.1 = k
    · have hnone : k ∉ es.map Prod.fst := fun hmem => by
        obtain ⟨e, he, hfst⟩ := List.mem_map.mp hmem
        exact (hhead e he).ne (hk.trans hfst.symm)
      rw [if_pos hk]
      refine ⟨?_, fun ⟨_, hv⟩ => .inl (Prod.ext hk.symm hv)⟩
      rintro (rfl | ⟨hmem, -⟩)
      · exact ⟨.inl rfl, rfl⟩
      · exact absurd hmem hnone
    · rw [if_neg hk]
      constructor
      · rintro (rfl | ⟨hmem, hv⟩)
        · exact absurd rfl hk
        · exact ⟨.inr hmem, hv⟩
      · rintro ⟨rfl | hmem, hv⟩
        · exact absurd rfl hk
        · exact .inr ⟨hmem, hv⟩

/-- Two maps with the same keys and the same under each are the same. -/
theorem ext_get {t u : Tally K V} (hkeys : ∀ k, k ∈ t.keys ↔ k ∈ u.keys) (hget : ∀ k, t.get k = u.get k) : t = u := by
  have hmem : ∀ e, e ∈ t.entries ↔ e ∈ u.entries := fun (k, v) => by
    rw [mem_entries_iff, mem_entries_iff, hkeys, hget]
  have hperm : t.entries.Perm u.entries :=
    (List.perm_ext_iff_of_nodup (t.ordered.imp fun h heq => h.ne (congrArg Prod.fst heq))
      (u.ordered.imp fun h heq => h.ne (congrArg Prod.fst heq))).mpr hmem
  exact Tally.ext (hperm.eq_of_pairwise (fun a b _ _ hab hba => absurd hab (lt_asymm hba)) t.ordered u.ordered)

/-- The sum of all values. -/
def sum (t : Tally K V) : V := (t.entries.map Prod.snd).sum

theorem sum_add (t : Tally K V) (k : K) (v : V) : (t.add k v).sum = t.sum + v := by
  suffices h : ∀ es : List (K × V), ((addTo k v es).map Prod.snd).sum = (es.map Prod.snd).sum + v from h t.entries
  intro es
  induction es with
  | nil => simp [addTo]
  | cons head es ih =>
    unfold addTo
    split_ifs with hlt heq
    · rw [List.map_cons, List.sum_cons, zero_add, add_comm]
    · rw [List.map_cons, List.sum_cons, List.map_cons, List.sum_cons, add_right_comm]
    · rw [List.map_cons, List.sum_cons, ih, List.map_cons, List.sum_cons, add_assoc]

/-! ### Words as keys -/

instance : LinearOrder UInt8 where
  le_refl := UInt8.le_refl
  le_trans _ _ _ := UInt8.le_trans
  le_antisymm _ _ := UInt8.le_antisymm
  le_total := UInt8.le_total
  lt_iff_le_not_ge _ _ := Std.lt_iff_le_and_not_ge
  toDecidableLE := inferInstance

instance : LinearOrder UInt16 where
  le_refl := UInt16.le_refl
  le_trans _ _ _ := UInt16.le_trans
  le_antisymm _ _ := UInt16.le_antisymm
  le_total := UInt16.le_total
  lt_iff_le_not_ge _ _ := Std.lt_iff_le_and_not_ge
  toDecidableLE := inferInstance

instance : LinearOrder Int32 where
  le_refl := Int32.le_refl
  le_trans _ _ _ := Int32.le_trans
  le_antisymm _ _ := Int32.le_antisymm
  le_total := Int32.le_total
  lt_iff_le_not_ge _ _ := Std.lt_iff_le_and_not_ge
  toDecidableLE := inferInstance

/-! ### Adding up a list -/

/-- A list, added up by the keys of its items. -/
def tally (key : α → K) (weight : α → V) (l : List α) : Tally K V := l.foldl (fun t x => t.add (key x) (weight x)) empty

variable (key : α → K) (weight : α → V)

theorem tally_snoc (l : List α) (x : α) : tally key weight (l ++ [x]) = (tally key weight l).add (key x) (weight x) := by
  rw [tally, List.foldl_append]
  rfl

/-- The keys are those that occur. -/
theorem mem_keys_tally {l : List α} {k : K} : k ∈ (tally key weight l).keys ↔ ∃ x ∈ l, key x = k := by
  induction l using List.reverseRecOn with
  | nil => simp [tally, keys, empty]
  | append_singleton l x ih =>
    rw [tally_snoc, mem_keys_add, ih, eq_comm]
    simp only [List.mem_append, List.mem_singleton, or_and_right, exists_or, exists_eq_left]
    exact or_comm

/-- Under a key is the sum over its items. -/
theorem get_tally (l : List α) {k : K} {ofKey : α → Bool} (h : ∀ x, ofKey x = true ↔ key x = k) :
    (tally key weight l).get k = ((l.filter ofKey).map weight).sum := by
  induction l using List.reverseRecOn with
  | nil => rfl
  | append_singleton l x ih =>
    rw [tally_snoc, get_add, ih, List.filter_append, List.map_append, List.sum_append, List.filter_singleton]
    by_cases hk : key x = k
    · simp [(h x).mpr hk, hk]
    · simp [mt (h x).mp hk, hk]

/-- All the sums together are the sum over the list. -/
theorem sum_tally (l : List α) : (tally key weight l).sum = (l.map weight).sum := by
  induction l using List.reverseRecOn with
  | nil => rfl
  | append_singleton l x ih =>
    rw [tally_snoc, sum_add, ih, List.map_append, List.sum_append, List.map_singleton, List.sum_singleton]

/-- The order of the items plays no part. -/
theorem tally_perm {l l' : List α} (h : l.Perm l') : tally key weight l = tally key weight l' := by
  refine ext_get (fun k => ?_) fun k => ?_
  · rw [mem_keys_tally, mem_keys_tally]
    simp only [h.mem_iff]
  · rw [get_tally key weight l fun x => decide_eq_true_iff, get_tally key weight l' fun x => decide_eq_true_iff]
    exact ((h.filter _).map weight).sum_eq

/-! ### Counting -/

/-- Adding up one number, by what its multiples are. -/
theorem sum_const {one : V} (multiple : ℕ → V) (hzero : multiple 0 = 0)
    (hsucc : ∀ n, multiple (n + 1) = multiple n + one) (l : List α) :
    (l.map fun _ => one).sum = multiple l.length := by
  induction l with
  | nil => exact hzero.symm
  | cons x l ih => rw [List.map_cons, List.sum_cons, ih, List.length_cons, hsucc, add_comm]

/-- Under a key is how often it occurs. -/
theorem get_count {one : V} (multiple : ℕ → V) (hzero : multiple 0 = 0)
    (hsucc : ∀ n, multiple (n + 1) = multiple n + one) (l : List α) {k : K} {ofKey : α → Bool}
    (h : ∀ x, ofKey x = true ↔ key x = k) : (tally key (fun _ => one) l).get k = multiple (l.countP ofKey) := by
  rw [get_tally key _ l h, sum_const multiple hzero hsucc, List.countP_eq_length_filter]

end Tally
