import Mathlib.Algebra.Group.Action.Defs
import Mathlib.Algebra.Order.BigOperators.Group.List
import Mathlib.Algebra.Order.Ring.Nat
import TcpStats.Lib.CString

/-!
# Numbers and lists as text

How long a number is in decimal and what it begins with, and lists of items with a separator between them: cut at the
separator they are the items again (`fields_joined`).
-/

namespace CString

/-! ### Decimal numbers -/

theorem decimal_ne_nil (n : ℕ) : decimal n ≠ [] := by
  by_cases hn : n < 10
  · rw [decimal_of_lt hn]
    exact List.cons_ne_nil _ _
  · have hsnoc := decimal_snoc (show 0 < n / 10 by omega) (Nat.mod_lt n (by decide))
    rw [Nat.div_add_mod'] at hsnoc
    rw [hsnoc]
    exact List.append_ne_nil_of_right_ne_nil _ (List.cons_ne_nil _ _)

/-- A number has as many digits as it is large. -/
theorem length_decimal_le {n k : ℕ} (hk : 0 < k) (h : n < 10 ^ k) : (decimal n).length ≤ k := by
  induction k generalizing n with
  | zero => cases hk
  | succ k ih =>
    by_cases hn : n < 10
    · rw [decimal_of_lt hn, List.length_singleton]
      exact hk
    · have hsnoc := decimal_snoc (show 0 < n / 10 by omega) (Nat.mod_lt n (by decide))
      rw [Nat.div_add_mod'] at hsnoc
      have hpos : 0 < k := by
        rcases Nat.eq_zero_or_pos k with rfl | hpos
        · exact absurd h (by simpa using hn)
        · exact hpos
      have := ih hpos (show n / 10 < 10 ^ k by rw [Nat.pow_succ] at h; omega)
      rw [hsnoc, List.length_append, List.length_singleton]
      omega

/-- A number but 0 has no leading zero. -/
theorem head?_decimal {n : ℕ} (h : 0 < n) : (decimal n).head? ≠ some (chr '0') := by
  induction n using Nat.strong_induction_on with
  | _ n ih =>
    by_cases hn : n < 10
    · have hall : ∀ d < 10, 0 < d → [chr '0' + d.toUInt8].head? ≠ some (chr '0') := by decide
      rw [decimal_of_lt hn]
      exact hall n hn h
    · have hpos : 0 < n / 10 := by omega
      have hsnoc := decimal_snoc hpos (Nat.mod_lt n (by decide))
      rw [Nat.div_add_mod'] at hsnoc
      have hrest := ih (n / 10) (by omega) hpos
      obtain ⟨c, cs, hcons⟩ := List.exists_cons_of_ne_nil (decimal_ne_nil (n / 10))
      rw [hcons] at hsnoc hrest
      rwa [hsnoc, List.cons_append, List.head?_cons]

/-- What a number is written with. -/
theorem mem_decimal {n : ℕ} {c : UInt8} (h : c ∈ decimal n) : chr '0' ≤ c ∧ c ≤ chr '9' := by
  have hall : ∀ d < 10, chr '0' ≤ chr '0' + d.toUInt8 ∧ chr '0' + d.toUInt8 ≤ chr '9' := by decide
  induction n using Nat.strong_induction_on with
  | _ n ih =>
    by_cases hn : n < 10
    · rw [decimal_of_lt hn, List.mem_singleton] at h
      rw [h]
      exact hall n hn
    · have hmod := Nat.mod_lt n (by decide : 0 < 10)
      have hsnoc := decimal_snoc (show 0 < n / 10 by omega) hmod
      rw [Nat.div_add_mod'] at hsnoc
      rw [hsnoc, List.mem_append, List.mem_singleton] at h
      rcases h with hmem | rfl
      · exact ih (n / 10) (by omega) hmem
      · exact hall (n % 10) hmod

/-! ### Literals -/

/-- A literal is its characters. -/
theorem cstr_ofList (l : List Char) : cstr (String.ofList l) = l.map chr := by rw [cstr, String.toList_ofList]

theorem forall_cstr {p : UInt8 → Prop} [DecidablePred p] {l : List Char} (h : l.all (fun c => decide (p (chr c))) = true) :
    ∀ c ∈ cstr (String.ofList l), p c := by
  rw [cstr_ofList]
  exact List.forall_mem_map.mpr fun c hc => of_decide_eq_true (List.all_eq_true.mp h c hc)

/-! ### Lists of items -/

/-- The items with a separator between them. -/
def joined (delim : UInt8) (items : List CStr) : CStr := List.intercalate [delim] items

theorem joined_cons_cons (delim : UInt8) (item item' : CStr) (items : List CStr) :
    joined delim (item :: item' :: items) = item ++ delim :: joined delim (item' :: items) := by
  rw [joined, List.intercalate_cons_cons, List.append_assoc]
  rfl

/-- What separates them does not occur in them. -/
theorem fields_joined {delim : UInt8} {items : List CStr} (hne : ∀ item ∈ items, item ≠ [])
    (hdelim : ∀ item ∈ items, delim ∉ item) : fields (· == delim) (joined delim items) = items := by
  have hone : ∀ item ∈ items, fields (· == delim) item = [item] := by
    intro item hitem
    rw [fields, List.splitOnP_eq_singleton]
    · simp [hne item hitem]
    · intro c hc
      rw [beq_eq_false_iff_ne]
      rintro rfl
      exact hdelim item hitem hc
  induction items with
  | nil => rfl
  | cons item items ih =>
    rcases items with _ | ⟨item', items⟩
    · rw [joined, List.intercalate_singleton]
      exact hone item List.mem_cons_self
    · have hcut : ∀ t, fields (· == delim) (item ++ delim :: t) = fields (· == delim) item ++ fields (· == delim) t :=
        fun t => fields_append (by simp) item t
      rw [joined_cons_cons, hcut, hone item List.mem_cons_self, List.singleton_append,
        ih (fun i hi => hne i (List.mem_cons_of_mem _ hi)) (fun i hi => hdelim i (List.mem_cons_of_mem _ hi))
          (fun i hi => hone i (List.mem_cons_of_mem _ hi))]

theorem mem_joined {delim c : UInt8} {items : List CStr} (h : c ∈ joined delim items) :
    c = delim ∨ ∃ item ∈ items, c ∈ item := by
  induction items with
  | nil => cases h
  | cons item items ih =>
    rcases items with _ | ⟨item', items⟩
    · rw [joined, List.intercalate_singleton] at h
      exact .inr ⟨item, List.mem_cons_self, h⟩
    · rw [joined_cons_cons, List.mem_append, List.mem_cons] at h
      rcases h with h | rfl | h
      · exact .inr ⟨item, List.mem_cons_self, h⟩
      · exact .inl rfl
      · rcases ih h with h | ⟨i, hi, hc⟩
        · exact .inl h
        · exact .inr ⟨i, List.mem_cons_of_mem _ hi, hc⟩

theorem joined_ne_nil {delim : UInt8} {items : List CStr} (h : items ≠ []) (hne : ∀ item ∈ items, item ≠ []) :
    joined delim items ≠ [] := by
  obtain ⟨item, items, rfl⟩ := List.exists_cons_of_ne_nil h
  have hitem := hne item List.mem_cons_self
  rcases items with _ | ⟨item', items⟩
  · rwa [joined, List.intercalate_singleton]
  · rw [joined_cons_cons]
    exact List.append_ne_nil_of_left_ne_nil hitem _

/-- Each item and one separator less than there are items. -/
theorem length_joined_le (delim : UInt8) (items : List CStr) :
    (joined delim items).length ≤ (items.map fun item => item.length + 1).sum - 1 := by
  induction items with
  | nil => exact Nat.le_refl 0
  | cons item items ih =>
    rcases items with _ | ⟨item', items⟩
    · rw [joined, List.intercalate_singleton]
      simp
    · rw [joined_cons_cons, List.length_append, List.length_cons, List.map_cons, List.sum_cons]
      rw [List.map_cons, List.sum_cons] at ih ⊢
      omega

/-- Some of the items take no more than all of them. -/
theorem length_joined_le_of_sublist (delim : UInt8) {items all : List CStr} (h : items.Sublist all) :
    (joined delim items).length ≤ (all.map fun item => item.length + 1).sum - 1 := by
  have hsum := (h.map fun item => item.length + 1).sum_le_sum fun _ _ => Nat.zero_le _
  have hjoined := length_joined_le delim items
  omega

/-- Items that are short take no more than there are of them. -/
theorem length_joined_le_of_forall (delim : UInt8) {items : List CStr} {n : ℕ} (h : ∀ item ∈ items, item.length ≤ n) :
    (joined delim items).length ≤ items.length * (n + 1) - 1 := by
  have hshort : ∀ k ∈ items.map fun item => item.length + 1, k ≤ n + 1 := by
    intro k hk
    obtain ⟨item, hitem, rfl⟩ := List.mem_map.mp hk
    exact Nat.succ_le_succ (h item hitem)
  have hsum := List.sum_le_card_nsmul _ _ hshort
  rw [List.length_map, smul_eq_mul] at hsum
  have hjoined := length_joined_le delim items
  omega

end CString
