import Mathlib.Data.List.TakeWhile
import Mathlib.Data.Nat.Notation
import Mathlib.Logic.Basic

/-!
# C strings

Strings as C keeps them: bytes up to a terminating NUL. A `CStr` is the bytes before
the terminator; a `CharBuf n` is the content of a `char[n]` that holds a terminated
string, so that it has room for the terminator and does not contain one.

`strsep` over a set of delimiters is core Lean's `List.splitOnP`; what is added here
is the piece that callers keep, the non-empty ones (`fields`), and what becomes of a
string cut at its first delimiter (`before`, `after`).
-/

namespace CString

/-- The bytes of a C string, without the terminating NUL. -/
abbrev CStr := List UInt8

/-- The byte of a character literal. -/
def chr (c : Char) : UInt8 := c.toNat.toUInt8

/-- The bytes of a literal. -/
def cstr (s : String) : CStr := s.toList.map chr

/-- The string that begins at the start of a char array: everything before the first NUL. -/
def ofArray (a : List UInt8) : CStr := a.takeWhile (· ≠ 0)

theorem ofArray_zero_notMem (a : List UInt8) : (0 : UInt8) ∉ ofArray a := by
  intro h
  simpa using List.mem_takeWhile_imp h

theorem ofArray_of_notMem {a : List UInt8} (h : (0 : UInt8) ∉ a) : ofArray a = a := by
  refine List.takeWhile_eq_self_iff.mpr fun x hx => ?_
  simpa using fun hx0 : x = 0 => h (hx0 ▸ hx)

/-- A string followed by its terminator and anything else. -/
theorem ofArray_append_zero {a : List UInt8} (h : (0 : UInt8) ∉ a) (rest : List UInt8) :
    ofArray (a ++ 0 :: rest) = a := by
  unfold ofArray
  rw [List.takeWhile_append_of_pos fun x hx => by simpa using fun hx0 : x = 0 => h (hx0 ▸ hx)]
  simp

/-- `strnlen(s, n)`. -/
def strnlen (s : CStr) (n : ℕ) : ℕ := min s.length n

/-- ASCII lower case: `A` to `Z` get bit `0x20`, everything else stays. -/
def toLower (c : UInt8) : UInt8 := if c ≥ chr 'A' ∧ c ≤ chr 'Z' then c ||| 0x20 else c

/-- A whole string in lower case. -/
def lower (s : CStr) : CStr := s.map toLower

/-- A number in decimal, as `%d` prints it. -/
def decimal (n : ℕ) : CStr := (Nat.toDigits 10 n).map chr

theorem decimal_of_lt {d : ℕ} (hd : d < 10) : decimal d = [chr '0' + d.toUInt8] := by
  rw [decimal, Nat.toDigits_of_lt_base hd, List.map_singleton]
  revert d
  decide

/-- The last digit comes after those of the rest. -/
theorem decimal_snoc {n d : ℕ} (hn : 0 < n) (hd : d < 10) :
    decimal (n * 10 + d) = decimal n ++ [chr '0' + d.toUInt8] := by
  rw [← decimal_of_lt hd, decimal, decimal, decimal, Nat.mul_comm,
    ← Nat.toDigits_append_toDigits (by decide) hn hd, List.map_append]

/-- A number can be read off its digits. -/
theorem foldl_decimal (n : ℕ) : (decimal n).foldl (fun val c => val * 10 + (c - chr '0').toNat) 0 = n := by
  have hdigit : ∀ d < 10, ((chr '0' + d.toUInt8) - chr '0').toNat = d := by decide
  induction n using Nat.strong_induction_on with
  | _ n ih =>
    by_cases hn : n < 10
    · rw [decimal_of_lt hn]
      simpa using hdigit n hn
    · have hmod : n % 10 < 10 := Nat.mod_lt n (by decide)
      have hsplit : n = n / 10 * 10 + n % 10 := (Nat.div_add_mod' n 10).symm
      have hsnoc := decimal_snoc (show 0 < n / 10 by omega) hmod
      rw [← hsplit] at hsnoc
      rw [hsnoc, List.foldl_append, ih (n / 10) (by omega), List.foldl_cons, List.foldl_nil, hdigit _ hmod]
      exact hsplit.symm

theorem decimal_inj {m n : ℕ} (h : decimal m = decimal n) : m = n := by
  rw [← foldl_decimal m, h, foldl_decimal]

/-- A number in hexadecimal, as `%x` prints it. -/
def hex (n : ℕ) : CStr := (Nat.toDigits 16 n).map chr

/-! ### Cutting a string at a delimiter -/

/-- What stands before the first `c`: all of the string when there is none. -/
def before (c : UInt8) : CStr → CStr
  | [] => []
  | x :: xs => if x = c then [] else x :: before c xs

/-- What follows the first `c`, as `strchr(s, c) + 1` finds it. -/
def after (c : UInt8) : CStr → Option CStr
  | [] => none
  | x :: xs => if x = c then some xs else after c xs

/-- A string with a delimiter is the part before it, the delimiter, and the part after it. -/
theorem before_append_after {c : UInt8} {s t : CStr} (h : after c s = some t) :
    s = before c s ++ c :: t := by
  induction s with
  | nil => simp [after] at h
  | cons x xs ih =>
    by_cases hx : x = c
    · simp only [after, if_pos hx, Option.some.injEq] at h
      simp [before, hx, h]
    · simp only [after, if_neg hx] at h
      simpa [before, hx] using ih h

theorem after_subset {c : UInt8} {s t : CStr} (h : after c s = some t) : t ⊆ s := by
  intro x hx
  rw [before_append_after h]
  exact List.mem_append_right _ (List.mem_cons_of_mem _ hx)

theorem after_eq_none_iff {c : UInt8} {s : CStr} : after c s = none ↔ c ∉ s := by
  induction s with
  | nil => simp [after]
  | cons x xs ih =>
    by_cases h : x = c
    · simp [after, h]
    · simp [after, h, ih, Ne.symm h]

theorem before_of_notMem {c : UInt8} {s : CStr} (h : c ∉ s) : before c s = s := by
  induction s with
  | nil => rfl
  | cons x xs ih =>
    simp only [List.mem_cons, not_or] at h
    simp [before, Ne.symm h.1, ih h.2]

theorem before_append {c : UInt8} {a : CStr} (h : c ∉ a) (t : CStr) : before c (a ++ c :: t) = a := by
  induction a with
  | nil => simp [before]
  | cons x xs ih =>
    simp only [List.mem_cons, not_or] at h
    simp [before, Ne.symm h.1, ih h.2]

theorem after_append {c : UInt8} {a : CStr} (h : c ∉ a) (t : CStr) : after c (a ++ c :: t) = some t := by
  induction a with
  | nil => simp [after]
  | cons x xs ih =>
    simp only [List.mem_cons, not_or] at h
    simp [after, Ne.symm h.1, ih h.2]

/-- The pieces a `strsep` loop keeps when it skips the empty ones. -/
def fields (delim : UInt8 → Bool) (s : CStr) : List CStr := (s.splitOnP delim).filter (· ≠ [])

theorem fields_append {delim : UInt8 → Bool} {c : UInt8} (h : delim c = true) (s t : CStr) :
    fields delim (s ++ c :: t) = fields delim s ++ fields delim t := by
  rw [fields, List.splitOnP_append_cons s t h, List.filter_append, fields, fields]

/-! ### Case -/

/-- A letter, in either case. -/
def IsLetter (c : UInt8) : Prop := chr 'A' ≤ c ∧ c ≤ chr 'Z' ∨ chr 'a' ≤ c ∧ c ≤ chr 'z'

instance : DecidablePred IsLetter := fun _ => inferInstanceAs (Decidable (_ ∨ _))

/-- What holds of all numbers below 256 holds of all bytes. -/
theorem forall_byte {P : UInt8 → Prop} (h : ∀ n < 256, P (UInt8.ofNat n)) (c : UInt8) : P c := by
  have hc := h c.toNat c.toNat_lt
  rwa [UInt8.ofNat_toNat] at hc

theorem toLower_toLower (c : UInt8) : toLower (toLower c) = toLower c := by
  revert c
  exact forall_byte (by decide +kernel)

theorem isLetter_toLower (c : UInt8) : IsLetter (toLower c) ↔ IsLetter c := by
  revert c
  exact forall_byte (by decide +kernel)

theorem toLower_of_not_isLetter {c : UInt8} (h : ¬ IsLetter c) : toLower c = c :=
  if_neg fun hupper => h (.inl hupper)

/-- Only a letter can become another byte, and it becomes a letter. -/
theorem toLower_eq_iff {c d : UInt8} (hd : ¬ IsLetter d) : toLower c = d ↔ c = d := by
  by_cases hc : IsLetter c
  · have hlower := (isLetter_toLower c).mpr hc
    constructor
    · rintro rfl
      exact absurd hlower hd
    · rintro rfl
      exact absurd hc hd
  · rw [toLower_of_not_isLetter hc]

@[simp] theorem lower_nil : lower [] = [] := rfl

@[simp] theorem lower_cons (c : UInt8) (s : CStr) : lower (c :: s) = toLower c :: lower s := rfl

@[simp] theorem length_lower (s : CStr) : (lower s).length = s.length := List.length_map _

@[simp] theorem lower_eq_nil_iff {s : CStr} : lower s = [] ↔ s = [] := List.map_eq_nil_iff

theorem lower_take (s : CStr) (n : ℕ) : (lower s).take n = lower (s.take n) := List.map_take.symm

theorem strnlen_lower (s : CStr) (n : ℕ) : strnlen (lower s) n = strnlen s n := by
  rw [strnlen, length_lower, strnlen]

@[simp] theorem lower_lower (s : CStr) : lower (lower s) = lower s := by
  induction s with
  | nil => rfl
  | cons c s ih => rw [lower_cons, lower_cons, toLower_toLower, ih]

theorem head?_lower_iff {d : UInt8} (hd : ¬ IsLetter d) (s : CStr) :
    (lower s).head? = some d ↔ s.head? = some d := by
  rcases s with _ | ⟨c, s⟩
  · rfl
  · rw [lower_cons, List.head?_cons, List.head?_cons, Option.some_inj, Option.some_inj, toLower_eq_iff hd]

theorem mem_lower_iff {d : UInt8} (hd : ¬ IsLetter d) {s : CStr} : d ∈ lower s ↔ d ∈ s := by
  induction s with
  | nil => rfl
  | cons c s ih => rw [lower_cons, List.mem_cons, List.mem_cons, ih, eq_comm, toLower_eq_iff hd, eq_comm]

theorem before_lower {d : UInt8} (hd : ¬ IsLetter d) (s : CStr) :
    before d (lower s) = lower (before d s) := by
  induction s with
  | nil => rfl
  | cons c s ih =>
    by_cases hc : c = d
    · rw [lower_cons, before, if_pos ((toLower_eq_iff hd).mpr hc), before, if_pos hc, lower_nil]
    · rw [lower_cons, before, if_neg fun h => hc ((toLower_eq_iff hd).mp h), before, if_neg hc, lower_cons, ih]

theorem after_lower {d : UInt8} (hd : ¬ IsLetter d) (s : CStr) :
    after d (lower s) = (after d s).map lower := by
  induction s with
  | nil => rfl
  | cons c s ih =>
    by_cases hc : c = d
    · rw [lower_cons, after, if_pos ((toLower_eq_iff hd).mpr hc), after, if_pos hc, Option.map_some]
    · rw [lower_cons, after, if_neg fun h => hc ((toLower_eq_iff hd).mp h), after, if_neg hc, ih]

theorem ofArray_lower (s : CStr) : ofArray (lower s) = lower (ofArray s) := by
  have hzero : ∀ c, toLower c ≠ 0 ↔ c ≠ 0 := fun c => not_congr (toLower_eq_iff (by decide))
  rw [ofArray, lower, List.takeWhile_map, ofArray, lower]
  refine congrArg (List.map toLower) (congrFun (congrArg _ (funext fun c => ?_)) s)
  exact decide_eq_decide.mpr (hzero c)

/-- A string is cut at the same places in any case. -/
theorem fields_lower {delim : UInt8 → Bool} (h : ∀ c, delim (toLower c) = delim c) (s : CStr) :
    fields delim (lower s) = (fields delim s).map lower := by
  have hcut : (lower s).splitOnP delim = (s.splitOnP delim).map lower := by
    induction s with
    | nil => rfl
    | cons c s ih =>
      rw [lower_cons, List.splitOnP_cons_eq_if_modifyHead, List.splitOnP_cons_eq_if_modifyHead, h, ih]
      by_cases hc : delim c = true
      · rw [if_pos hc, if_pos hc]
        rfl
      · rw [if_neg hc, if_neg hc]
        rcases s.splitOnP delim with _ | ⟨t, ts⟩
        · rfl
        · rfl
  rw [fields, hcut, List.filter_map, fields]
  refine congrArg (List.map lower) (congrFun (congrArg _ (funext fun t => ?_)) _)
  exact decide_eq_decide.mpr (not_congr lower_eq_nil_iff)

/-! ### Buffers -/

/-- The content of a `char[n]` that holds a NUL-terminated string. -/
structure CharBuf (n : ℕ) where
  /-- The characters before the terminator. -/
  str : CStr
  /-- The terminator fits. -/
  fits : str.length < n
  /-- The terminator is the first NUL. -/
  noNul : (0 : UInt8) ∉ str
  deriving DecidableEq

@[ext] theorem CharBuf.ext {n : ℕ} {a b : CharBuf n} (h : a.str = b.str) : a = b := by
  cases a; cases b; simpa using h

/-- `strlcpy(dst, src, n)`: at most `n - 1` characters, and the terminator. -/
def strlcpy (n : ℕ) [hn : Fact (0 < n)] (src : CStr) : CharBuf n where
  str := (ofArray src).take (n - 1)
  fits := by
    have := hn.out
    have := List.length_take_le (n - 1) (ofArray src)
    omega
  noNul h := ofArray_zero_notMem src (List.mem_of_mem_take h)

/-- A string shorter than the buffer is copied whole. -/
theorem strlcpy_str {n : ℕ} [Fact (0 < n)] {src : CStr} (h : src.length < n) (h0 : (0 : UInt8) ∉ src) :
    (strlcpy n src).str = src := by
  have : (ofArray src).take (n - 1) = src := by
    rw [ofArray_of_notMem h0]
    exact List.take_of_length_le (by omega)
  exact this

/-- The buffer whose first byte is NUL. -/
def CharBuf.empty (n : ℕ) [Fact (0 < n)] : CharBuf n := strlcpy n []

end CString
