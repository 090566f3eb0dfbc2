import Mathlib.Algebra.Order.Archimedean.Basic
import Mathlib.Data.Int.Log
import Mathlib.Data.Rat.Floor
import Mathlib.Tactic.FieldSimp
import Mathlib.Tactic.Positivity

/-!
# Binary floating point

Arithmetic on numbers that are not negative and have 53 significant bits, as rational numbers. Each
operation is the exact one, rounded to the nearest number, ties to even. The exponent is not
bounded: the results are those of a `binary64` as long as they are zero or in its normal range.
-/

namespace Binary64

/-- The nearest integer, and the even one of two that are equally near. -/
def roundEven (q : ℚ) : ℤ :=
  if q - ⌊q⌋ < 1 / 2 then ⌊q⌋ else if 1 / 2 < q - ⌊q⌋ then ⌊q⌋ + 1 else ⌊q⌋ + ⌊q⌋ % 2

/-- The value of the last of the 53 bits of a number. -/
def ulp (q : ℚ) : ℚ := 2 ^ (Int.log 2 q - 52)

/-- The nearest number of 53 bits. -/
def round (q : ℚ) : ℚ := roundEven (q / ulp q) * ulp q

def add (p q : ℚ) : ℚ := round (p + q)
def mul (p q : ℚ) : ℚ := round (p * q)
def div (p q : ℚ) : ℚ := round (p / q)

/-- A word as a number. -/
def ofWord (n : UInt64) : ℚ := round n.toNat

/-- A number as a word: what follows the point is cut off, and a number beyond the last word becomes
the last word. -/
def toWord (q : ℚ) : UInt64 := .ofNat (min ⌊q⌋.toNat (2 ^ 64 - 1))

theorem ulp_pos (q : ℚ) : 0 < ulp q := zpow_pos (by norm_num) _

theorem floor_le_roundEven (q : ℚ) : ⌊q⌋ ≤ roundEven q := by
  have := Int.emod_nonneg ⌊q⌋ (by decide : (2 : ℤ) ≠ 0)
  unfold roundEven
  split_ifs <;> omega

/-- A number is at least one of its last places. -/
theorem ulp_le {q : ℚ} (h : 0 < q) : ulp q ≤ q := by
  have hlog : (2 : ℚ) ^ Int.log 2 q ≤ q := by exact_mod_cast Int.zpow_log_le_self (by decide) h
  refine le_trans ?_ hlog
  exact zpow_le_zpow_right₀ (by norm_num) (by omega)

/-- What is positive is not rounded to zero. -/
theorem round_pos {q : ℚ} (h : 0 < q) : 0 < round q := by
  have hone : (1 : ℚ) ≤ q / ulp q := (one_le_div (ulp_pos q)).mpr (ulp_le h)
  have hfloor : (1 : ℤ) ≤ ⌊q / ulp q⌋ := Int.le_floor.mpr (by exact_mod_cast hone)
  have hround : (0 : ℚ) < roundEven (q / ulp q) := by
    exact_mod_cast lt_of_lt_of_le (by decide) (hfloor.trans (floor_le_roundEven _))
  exact mul_pos hround (ulp_pos q)

theorem round_nonneg {q : ℚ} (h : 0 ≤ q) : 0 ≤ round q := by
  rcases h.eq_or_lt with rfl | hpos
  · simp [round, roundEven]
  · exact (round_pos hpos).le

theorem add_positive {p q : ℚ} (hp : 0 ≤ p) (hq : 0 < q) : 0 < add p q := round_pos (by linarith)

theorem mul_positive {p q : ℚ} (hp : 0 < p) (hq : 0 < q) : 0 < mul p q := round_pos (mul_pos hp hq)

theorem div_positive {p q : ℚ} (hp : 0 < p) (hq : 0 < q) : 0 < div p q := round_pos (div_pos hp hq)

theorem ofWord_nonneg (n : UInt64) : 0 ≤ ofWord n := round_nonneg (Nat.cast_nonneg _)

theorem ofWord_pos {n : UInt64} (h : 0 < n.toNat) : 0 < ofWord n := round_pos (by exact_mod_cast h)

/-- A positive number, rounded up, is at least one as a word. -/
theorem toWord_ceil_pos {q : ℚ} (h : 0 < q) : 0 < (toWord ⌈q⌉).toNat := by
  have hceil : 0 < ⌈q⌉ := Int.ceil_pos.mpr h
  rw [toWord, Int.floor_intCast, UInt64.toNat_ofNat_of_lt' (by have : UInt64.size = 2 ^ 64 := rfl; omega)]
  omega

/-! ### How far a result is off -/

/-- The relative error of an operation. -/
def eps : ℚ := 1 / 2 ^ 53

theorem roundEven_le (q : ℚ) : roundEven q ≤ q + 1 / 2 := by
  have hfloor := Int.floor_le q
  have htie : ((⌊q⌋ % 2 : ℤ) : ℚ) ≤ 1 := by exact_mod_cast (show ⌊q⌋ % 2 ≤ 1 by omega)
  unfold roundEven
  split_ifs with hdown hup
  · linarith
  · push_cast
    linarith
  · push_cast
    linarith

theorem le_roundEven (q : ℚ) : q - 1 / 2 ≤ roundEven q := by
  have hfloor := Int.lt_floor_add_one q
  have htie : (0 : ℚ) ≤ ((⌊q⌋ % 2 : ℤ) : ℚ) := by exact_mod_cast (show 0 ≤ ⌊q⌋ % 2 by omega)
  unfold roundEven
  split_ifs with hdown hup
  · linarith
  · push_cast
    linarith
  · push_cast
    linarith

/-- Half of the last place is a small part of a number. -/
theorem half_ulp_le {q : ℚ} (h : 0 < q) : ulp q / 2 ≤ q * eps := by
  have hlog : (2 : ℚ) ^ Int.log 2 q ≤ q := by exact_mod_cast Int.zpow_log_le_self (by decide) h
  have hulp : ulp q = 2 ^ Int.log 2 q / 2 ^ 52 := by
    rw [ulp, zpow_sub₀ (by norm_num)]
    norm_num
  rw [hulp, eps]
  linarith

theorem round_le {q : ℚ} (h : 0 ≤ q) : round q ≤ q * (1 + eps) := by
  rcases h.eq_or_lt with rfl | hpos
  · simp [round, roundEven]
  · have hulp := ulp_pos q
    have hhalf := half_ulp_le hpos
    calc round q ≤ (q / ulp q + 1 / 2) * ulp q := mul_le_mul_of_nonneg_right (roundEven_le _) hulp.le
      _ = q + ulp q / 2 := by field_simp
      _ ≤ q * (1 + eps) := by linarith

theorem le_round {q : ℚ} (h : 0 ≤ q) : q * (1 - eps) ≤ round q := by
  rcases h.eq_or_lt with rfl | hpos
  · simp [round, roundEven]
  · have hulp := ulp_pos q
    have hhalf := half_ulp_le hpos
    calc q * (1 - eps) ≤ q - ulp q / 2 := by linarith
      _ = (q / ulp q - 1 / 2) * ulp q := by field_simp
      _ ≤ round q := mul_le_mul_of_nonneg_right (le_roundEven _) hulp.le

/-- A number that some roundings on the way have not taken far from the exact result. -/
structure Near (k : ℕ) (q x : ℚ) : Prop where
  nonneg : 0 ≤ q
  low : q * (1 - eps) ^ k ≤ x
  high : x ≤ q * (1 + eps) ^ k

theorem eps_pos : 0 < eps := by norm_num [eps]

theorem eps_lt_one : eps < 1 := by norm_num [eps]

namespace Near

variable {k l : ℕ} {p q x y : ℚ}

theorem self (h : 0 ≤ q) : Near 0 q q := ⟨h, by simp, by simp⟩

theorem result_nonneg (h : Near k q x) : 0 ≤ x :=
  (mul_nonneg h.nonneg (pow_nonneg (sub_nonneg.mpr eps_lt_one.le) k)).trans h.low

/-- One rounding more. -/
theorem round (h : Near k q x) : Near (k + 1) q (round x) where
  nonneg := h.nonneg
  low := by
    calc q * (1 - eps) ^ (k + 1) = q * (1 - eps) ^ k * (1 - eps) := by rw [pow_succ, mul_assoc]
      _ ≤ x * (1 - eps) := mul_le_mul_of_nonneg_right h.low (sub_nonneg.mpr eps_lt_one.le)
      _ ≤ Binary64.round x := le_round h.result_nonneg
  high := by
    calc Binary64.round x ≤ x * (1 + eps) := round_le h.result_nonneg
      _ ≤ q * (1 + eps) ^ k * (1 + eps) := mul_le_mul_of_nonneg_right h.high (by linarith [eps_pos])
      _ = q * (1 + eps) ^ (k + 1) := by rw [pow_succ, mul_assoc]

theorem mono (h : Near k q x) (hkl : k ≤ l) : Near l q x where
  nonneg := h.nonneg
  low := by
    refine le_trans (mul_le_mul_of_nonneg_left ?_ h.nonneg) h.low
    exact pow_le_pow_of_le_one (sub_nonneg.mpr eps_lt_one.le) (by linarith [eps_pos]) hkl
  high := by
    refine h.high.trans (mul_le_mul_of_nonneg_left ?_ h.nonneg)
    exact pow_le_pow_right₀ (by linarith [eps_pos]) hkl

theorem add (hp : Near k p x) (hq : Near k q y) : Near k (p + q) (x + y) where
  nonneg := add_nonneg hp.nonneg hq.nonneg
  low := (add_mul p q _).le.trans (add_le_add hp.low hq.low)
  high := (add_le_add hp.high hq.high).trans (add_mul p q _).ge

/-- Divided by an exact number. -/
theorem div {c : ℚ} (hq : Near k q x) (hc : 0 < c) : Near k (q / c) (x / c) where
  nonneg := div_nonneg hq.nonneg hc.le
  low := by
    rw [div_mul_eq_mul_div]
    exact div_le_div_of_nonneg_right hq.low hc.le
  high := by
    rw [div_mul_eq_mul_div]
    exact div_le_div_of_nonneg_right hq.high hc.le

end Near

end Binary64
