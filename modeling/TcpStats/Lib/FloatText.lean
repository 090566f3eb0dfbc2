import TcpStats.Lib.Binary64
import TcpStats.Lib.Items

/-!
# Numbers with a point as text

How a text is read as a number of 64 bits: as a decimal number, perhaps with a point and an exponent, that is rounded to the
nearest, as an infinity or as none. A natural number that is written in decimal is read as the number nearest to it
(`parseF64_decimal`), and so is one with a point (`parseF64_point`).
-/

namespace Binary64

open CString

/-- A number of 64 bits: its sign and its absolute value. -/
inductive Float64 where
  | nan
  | inf (negative : Bool)
  | num (negative : Bool) (abs : ℚ)
  deriving DecidableEq

/-- The value of the last place that a number can have. -/
def place (q : ℚ) : ℚ := max (ulp q) (2 ^ (-1074 : ℤ))

/-- The nearest number where there is an end to the exponent below. -/
def nearest (q : ℚ) : ℚ := roundEven (q / place q) * place q

/-- The number that is nearest to one with this sign and absolute value, infinite where there is an end to the exponent
above. -/
def Float64.ofAbs (negative : Bool) (q : ℚ) : Float64 :=
  if nearest q < 2 ^ 1024 then .num negative (nearest q) else .inf negative

/-! ### Reading -/

def isDigit (c : UInt8) : Bool := chr '0' ≤ c && c ≤ chr '9'

/-- The number that is written with some digits. -/
def digitsValue (s : CStr) : ℕ := s.foldl (fun val c => val * 10 + (c - chr '0').toNat) 0

/-- A sign, if there is one, and what is behind it. -/
def readSign : CStr → Bool × CStr
  | [] => (false, [])
  | c :: s => if c = chr '-' then (true, s) else if c = chr '+' then (false, s) else (false, c :: s)

/-- The exponent, at the end of a number. -/
def readExponent : CStr → Option ℤ
  | [] => some 0
  | c :: s =>
    if c = chr 'e' ∨ c = chr 'E' then
      let (negative, digits) := readSign s
      if digits ≠ [] ∧ digits.all isDigit then
        some (if negative then -(digitsValue digits : ℤ) else digitsValue digits)
      else none
    else none

/-- The digits behind the point, if there is one, and what is behind them. -/
def readPart : CStr → CStr × CStr
  | [] => ([], [])
  | c :: s => if c = chr '.' then s.span isDigit else ([], c :: s)

/-- A number without a sign. -/
def readNumber (s : CStr) : Option ℚ :=
  let (whole, rest) := s.span isDigit
  let (part, rest) := readPart rest
  if whole = [] ∧ part = [] then none
  else (readExponent rest).map fun e => (digitsValue (whole ++ part) : ℚ) * 10 ^ (e - part.length : ℤ)

/-- `f64::from_str`. -/
def parseF64 (s : CStr) : Option Float64 :=
  let (negative, s) := readSign s
  match readNumber s with
  | some q => some (.ofAbs negative q)
  | none =>
    if lower s = cstr "inf" ∨ lower s = cstr "infinity" then some (.inf negative)
    else if lower s = cstr "nan" then some .nan
    else none

example : parseF64 (cstr "-12.5e1") = some (.num true 125) := by decide +kernel
example : parseF64 (cstr "1e309") = some (.inf false) := by decide +kernel
example : parseF64 (cstr "1.2.3") = none := by decide +kernel

/-! ### Within the range -/

/-- Within the range the end of the exponent makes no difference. -/
theorem Float64.ofAbs_round {q : ℚ} (hlow : q = 0 ∨ 2 ^ (-1022 : ℤ) ≤ q) (hhigh : q ≤ 2 ^ 1023) (negative : Bool) :
    Float64.ofAbs negative q = .num negative (round q) := by
  have hleast : (0 : ℚ) < 2 ^ (-1022 : ℤ) := zpow_pos (by norm_num) _
  have hnonneg : 0 ≤ q := hlow.elim (fun h => h.ge) fun h => hleast.le.trans h
  have hplace : place q = ulp q := by
    refine max_eq_left (zpow_le_zpow_right₀ (by norm_num) ?_)
    rcases hlow with rfl | hlow
    · rw [Int.log_zero_right]
      decide
    · have hlog : -1022 ≤ Int.log 2 q := by
        refine (Int.zpow_le_iff_le_log (by decide) (hleast.trans_le hlow)).mp ?_
        exact_mod_cast hlow
      omega
  have hnearest : nearest q = round q := by rw [nearest, hplace, round]
  have hfinite : round q < 2 ^ 1024 := by
    have hpow : (0 : ℚ) < 2 ^ 1023 := pow_pos (by norm_num) _
    have heps : eps < 1 := by norm_num [eps]
    have hround := round_le hnonneg
    rw [pow_succ (2 : ℚ) 1023]
    generalize (2 : ℚ) ^ 1023 = bound at *
    nlinarith [show 0 ≤ eps by norm_num [eps]]
  rw [Float64.ofAbs, hnearest, if_pos hfinite]

/-! ### Decimal numbers -/

theorem isDigit_of_mem_decimal {n : ℕ} {c : UInt8} (h : c ∈ decimal n) : isDigit c = true := by
  obtain ⟨hlow, hhigh⟩ := mem_decimal h
  rw [isDigit, Bool.and_eq_true, decide_eq_true_iff, decide_eq_true_iff]
  exact ⟨hlow, hhigh⟩

/-- Digits in front of others count for as much more. -/
theorem digitsValue_append (s t : CStr) : digitsValue (s ++ t) = digitsValue s * 10 ^ t.length + digitsValue t := by
  have hfrom : ∀ (t : CStr) (v : ℕ), t.foldl (fun val c => val * 10 + (c - chr '0').toNat) v =
      v * 10 ^ t.length + digitsValue t := by
    intro t
    induction t with
    | nil => exact fun v => by simp [digitsValue]
    | cons c t ih =>
      intro v
      rw [digitsValue, List.foldl_cons, List.foldl_cons, ih, ih, List.length_cons]
      ring
  rw [digitsValue, List.foldl_append, hfrom]
  rfl

theorem span_append {p : UInt8 → Bool} {s rest : CStr} (h : ∀ c ∈ s, p c = true) (hrest : ∀ c ∈ rest.head?, p c = false) :
    (s ++ rest).span p = (s, rest) := by
  have htake : rest.takeWhile p = [] := by
    cases rest with
    | nil => rfl
    | cons c rest => exact List.takeWhile_cons_of_neg (by simp [hrest c rfl])
  have hdrop : rest.dropWhile p = rest := by
    cases rest with
    | nil => rfl
    | cons c rest => exact List.dropWhile_cons_of_neg (by simp [hrest c rfl])
  rw [List.span_eq_takeWhile_dropWhile, List.takeWhile_append_of_pos h, List.dropWhile_append_of_pos h, htake, hdrop,
    List.append_nil]

theorem span_all {p : UInt8 → Bool} {s : CStr} (h : ∀ c ∈ s, p c = true) : s.span p = (s, []) := by
  have hnil : ∀ c ∈ ([] : CStr).head?, p c = false := by simp
  simpa using span_append h hnil

/-- A digit is no sign. -/
theorem readSign_digit {c : UInt8} (h : isDigit c = true) (s : CStr) : readSign (c :: s) = (false, c :: s) := by
  have hall : ∀ c, isDigit c = true → c ≠ chr '-' ∧ c ≠ chr '+' := forall_byte (by decide +kernel)
  rw [readSign, if_neg (hall c h).1, if_neg (hall c h).2]

/-- Digits are read as their number. -/
theorem parseF64_digits {s : CStr} (hne : s ≠ []) (hs : ∀ c ∈ s, isDigit c = true) :
    parseF64 s = some (.ofAbs false (digitsValue s)) := by
  have hsign : readSign s = (false, s) := by
    obtain ⟨c, s, rfl⟩ := List.exists_cons_of_ne_nil hne
    exact readSign_digit (hs c List.mem_cons_self) s
  have hspan := span_all hs
  have hnumber : readNumber s = some (digitsValue s : ℚ) := by
    simp only [readNumber, hspan, readPart, readExponent]
    simp [hne]
  rw [parseF64, hsign]
  simp only [hnumber]

/-- Digits with a point in between are read as their number without it, divided by a power of ten. -/
theorem parseF64_point {s part : CStr} (hne : s ≠ []) (hs : ∀ c ∈ s, isDigit c = true)
    (hpart : ∀ c ∈ part, isDigit c = true) :
    parseF64 (s ++ chr '.' :: part) = some (.ofAbs false (digitsValue (s ++ part) / 10 ^ part.length)) := by
  have hsign : readSign (s ++ chr '.' :: part) = (false, s ++ chr '.' :: part) := by
    obtain ⟨c, s, rfl⟩ := List.exists_cons_of_ne_nil hne
    exact readSign_digit (hs c List.mem_cons_self) _
  have hdot : ∀ c ∈ (chr '.' :: part).head?, isDigit c = false := by simp [show isDigit (chr '.') = false from rfl]
  have hspan := span_append hs hdot
  have hspanPart := span_all hpart
  have hnumber : readNumber (s ++ chr '.' :: part) = some ((digitsValue (s ++ part) : ℚ) / 10 ^ part.length) := by
    simp only [readNumber, hspan, readPart, if_true, hspanPart, readExponent]
    simp [hne, zpow_neg, div_eq_mul_inv]
  rw [parseF64, hsign]
  simp only [hnumber]

/-- A natural number is read as the nearest number. -/
theorem parseF64_decimal {n : ℕ} (h : n < 2 ^ 64) : parseF64 (decimal n) = some (.num false (ofWord (.ofNat n))) := by
  have hvalue : digitsValue (decimal n) = n := foldl_decimal n
  have hword : (UInt64.ofNat n).toNat = n := UInt64.toNat_ofNat_of_lt' h
  rw [parseF64_digits (decimal_ne_nil n) fun c hc => isDigit_of_mem_decimal hc, hvalue, Float64.ofAbs_round, ofWord, hword]
  · rcases Nat.eq_zero_or_pos n with rfl | hpos
    · exact .inl rfl
    · exact .inr ((zpow_le_one_of_nonpos₀ (by norm_num) (by norm_num)).trans (show (1 : ℚ) ≤ n by exact_mod_cast hpos))
  · exact (show (n : ℚ) ≤ 2 ^ 64 by exact_mod_cast h.le).trans (pow_le_pow_right₀ (by norm_num) (by norm_num))

end Binary64
