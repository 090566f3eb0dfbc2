import Mathlib.Data.Nat.Notation

/-!
# Bits of a byte sequence

The bits of a sequence of bytes in network order: bit 0 is the high bit of the first
byte. Two sequences agree on their first `n` bits when their first `n / 8` bytes are the
same and the top `n % 8` bits of the next byte are, which is how code that compares
bytes tests it.
-/

namespace Bits

/-! ### Masks -/

theorem or_and_right16 (a b c : UInt16) : (a ||| b) &&& c = (a &&& c) ||| (b &&& c) := by
  refine UInt16.toBitVec_inj.mp (BitVec.eq_of_getLsbD_eq fun i _ => ?_)
  simp [Bool.and_or_distrib_right]

theorem or_and_right32 (a b c : UInt32) : (a ||| b) &&& c = (a &&& c) ||| (b &&& c) := by
  refine UInt32.toBitVec_inj.mp (BitVec.eq_of_getLsbD_eq fun i _ => ?_)
  simp [Bool.and_or_distrib_right]

/-- The mask of one bit. -/
def single16 (i : ℕ) : UInt16 := 1 <<< i.toUInt16

/-- The mask of one bit. -/
def single32 (i : ℕ) : UInt32 := 1 <<< i.toUInt32

theorem and_single16_ne_zero_iff (x : UInt16) {i : ℕ} (hi : i < 16) :
    x &&& single16 i ≠ 0 ↔ x.toBitVec.getLsbD i = true := by
  have hmask : ∀ i < 16, ∀ j < 16, (single16 i).toBitVec.getLsbD j = decide (i = j) := by decide
  have hbits : x &&& single16 i = 0 ↔ x.toBitVec.getLsbD i = false := by
    constructor
    · intro hzero
      have hbit := congrArg (fun x : UInt16 => x.toBitVec.getLsbD i) hzero
      simpa [hmask i hi i hi] using hbit
    · intro hoff
      refine UInt16.toBitVec_inj.mp (BitVec.eq_of_getLsbD_eq fun j hj => ?_)
      rw [UInt16.toBitVec_and, BitVec.getLsbD_and, hmask i hi j hj]
      by_cases hij : i = j
      · subst hij
        simp [hoff]
      · simp [hij]
  rw [Ne, hbits, Bool.not_eq_false]

theorem and_single32_ne_zero_iff (x : UInt32) {i : ℕ} (hi : i < 32) :
    x &&& single32 i ≠ 0 ↔ x.toBitVec.getLsbD i = true := by
  have hmask : ∀ i < 32, ∀ j < 32, (single32 i).toBitVec.getLsbD j = decide (i = j) := by decide +kernel
  have hbits : x &&& single32 i = 0 ↔ x.toBitVec.getLsbD i = false := by
    constructor
    · intro hzero
      have hbit := congrArg (fun x : UInt32 => x.toBitVec.getLsbD i) hzero
      simpa [hmask i hi i hi] using hbit
    · intro hoff
      refine UInt32.toBitVec_inj.mp (BitVec.eq_of_getLsbD_eq fun j hj => ?_)
      rw [UInt32.toBitVec_and, BitVec.getLsbD_and, hmask i hi j hj]
      by_cases hij : i = j
      · subst hij
        simp [hoff]
      · simp [hij]
  rw [Ne, hbits, Bool.not_eq_false]

/-- Masks that have the same bits are the same. -/
theorem eq_of_single16 {x y : UInt16} (h : ∀ i < 16, x &&& single16 i ≠ 0 ↔ y &&& single16 i ≠ 0) : x = y := by
  refine UInt16.toBitVec_inj.mp (BitVec.eq_of_getLsbD_eq fun i hi => ?_)
  rw [Bool.eq_iff_iff, ← and_single16_ne_zero_iff x hi, ← and_single16_ne_zero_iff y hi]
  exact h i hi

theorem eq_of_single32 {x y : UInt32} (h : ∀ i < 32, x &&& single32 i ≠ 0 ↔ y &&& single32 i ≠ 0) : x = y := by
  refine UInt32.toBitVec_inj.mp (BitVec.eq_of_getLsbD_eq fun i hi => ?_)
  rw [Bool.eq_iff_iff, ← and_single32_ne_zero_iff x hi, ← and_single32_ne_zero_iff y hi]
  exact h i hi

/-! ### Bits of a sequence -/

/-- Bit `j` of a byte, from the high end. -/
def byteBit (x : UInt8) (j : ℕ) : Bool := x.toBitVec.getMsbD j

/-- Bit `i` of a sequence of bytes. -/
def bit (a : ℕ → UInt8) (i : ℕ) : Bool := byteBit (a (i / 8)) (i % 8)

/-- The first `n` bits are the same. -/
def Agree (n : ℕ) (a b : ℕ → UInt8) : Prop := ∀ i < n, bit a i = bit b i

/-- The byte whose top `r` bits are set, for `r` from 1 to 7. -/
def topMask (r : ℕ) : UInt8 := 0xFF <<< (8 - r).toUInt8

theorem byte_ext_iff {x y : UInt8} : x = y ↔ ∀ j < 8, byteBit x j = byteBit y j := by
  constructor
  · rintro rfl j _
    rfl
  · intro h
    refine UInt8.toBitVec_inj.mp (BitVec.eq_of_getMsbD_eq fun j hj => ?_)
    exact h j hj

theorem byteBit_and (x y : UInt8) (j : ℕ) : byteBit (x &&& y) j = (byteBit x j && byteBit y j) := by
  simp [byteBit]

theorem byteBit_topMask : ∀ r < 8, 0 < r → ∀ j < 8, byteBit (topMask r) j = decide (j < r) := by
  decide

/-- Comparing two bytes under the mask of `r` bits compares their top `r` bits. -/
theorem and_topMask_eq_iff {x y : UInt8} {r : ℕ} (h0 : 0 < r) (h8 : r < 8) :
    x &&& topMask r = y &&& topMask r ↔ ∀ j < r, byteBit x j = byteBit y j := by
  rw [byte_ext_iff]
  constructor
  · intro h j hj
    have := h j (by omega)
    simpa [byteBit_and, byteBit_topMask r h8 h0 j (by omega), hj] using this
  · intro h j hj
    rw [byteBit_and, byteBit_and, byteBit_topMask r h8 h0 j hj]
    by_cases hjr : j < r
    · simp [h j hjr]
    · simp [hjr]

/-- Agreement on `n` bits, byte by byte. -/
theorem agree_iff {n : ℕ} {a b : ℕ → UInt8} :
    Agree n a b ↔ (∀ i < n / 8, a i = b i) ∧ ∀ j < n % 8, byteBit (a (n / 8)) j = byteBit (b (n / 8)) j := by
  constructor
  · intro h
    constructor
    · intro i hi
      refine byte_ext_iff.mpr fun j hj => ?_
      have := h (8 * i + j) (by omega)
      rwa [bit, bit, show (8 * i + j) / 8 = i by omega, show (8 * i + j) % 8 = j by omega] at this
    · intro j hj
      have := h (8 * (n / 8) + j) (by omega)
      rwa [bit, bit, show (8 * (n / 8) + j) / 8 = n / 8 by omega,
        show (8 * (n / 8) + j) % 8 = j by omega] at this
  · rintro ⟨hfull, hrest⟩ i hi
    by_cases hlt : i / 8 < n / 8
    · rw [bit, bit, hfull _ hlt]
    · have : i / 8 = n / 8 := by omega
      rw [bit, bit, this]
      exact hrest _ (by omega)

/-- Agreement on `n` bits depends on the bytes that hold them only. -/
theorem Agree.congr {n : ℕ} {a b a' b' : ℕ → UInt8} (ha : ∀ i, 8 * i < n → a i = a' i)
    (hb : ∀ i, 8 * i < n → b i = b' i) : Agree n a b ↔ Agree n a' b' := by
  refine forall₂_congr fun i hi => ?_
  rw [bit, bit, bit, bit, ha (i / 8) (by omega), hb (i / 8) (by omega)]

/-! ### Bits that are zero -/

theorem byteBit_not (x : UInt8) {j : ℕ} (h : j < 8) : byteBit (~~~x) j = !byteBit x j := by
  simp [byteBit, h]

theorem eq_zero_iff {x : UInt8} : x = 0 ↔ ∀ j < 8, byteBit x j = false := by
  rw [byte_ext_iff]
  have hzero : ∀ j, byteBit 0 j = false := by simp [byteBit]
  simp only [hzero]

/-- What is left of a byte outside the mask of `r` bits is its other bits. -/
theorem and_not_topMask_eq_zero_iff {x : UInt8} {r : ℕ} (h0 : 0 < r) (h8 : r < 8) :
    x &&& ~~~topMask r = 0 ↔ ∀ j < 8, r ≤ j → byteBit x j = false := by
  rw [eq_zero_iff]
  refine forall₂_congr fun j hj => ?_
  rw [byteBit_and, byteBit_not _ hj, byteBit_topMask r h8 h0 j hj]
  by_cases hjr : r ≤ j
  · simp [hjr, Nat.not_lt.mpr hjr]
  · simp [hjr, Nat.not_le.mp hjr]

/-- The bits from the `n`-th to the end of `m` bytes are zero, byte by byte. -/
theorem zero_from_iff {n m : ℕ} {a : ℕ → UInt8} (h : n ≤ 8 * m) :
    (∀ i < 8 * m, n ≤ i → bit a i = false) ↔
      (0 < n % 8 → a (n / 8) &&& ~~~topMask (n % 8) = 0) ∧ ∀ i < m, n ≤ 8 * i → a i = 0 := by
  constructor
  · intro hz
    constructor
    · intro hrem
      refine (and_not_topMask_eq_zero_iff hrem (Nat.mod_lt _ (by decide))).mpr fun j hj hle => ?_
      have := hz (8 * (n / 8) + j) (by omega) (by omega)
      rwa [bit, show (8 * (n / 8) + j) / 8 = n / 8 by omega, show (8 * (n / 8) + j) % 8 = j by omega] at this
    · intro i hi hle
      refine eq_zero_iff.mpr fun j hj => ?_
      have := hz (8 * i + j) (by omega) (by omega)
      rwa [bit, show (8 * i + j) / 8 = i by omega, show (8 * i + j) % 8 = j by omega] at this
  · rintro ⟨hpart, hfull⟩ i hi hle
    rw [bit]
    by_cases hsplit : n ≤ 8 * (i / 8)
    · exact eq_zero_iff.mp (hfull _ (by omega) hsplit) _ (Nat.mod_lt _ (by decide))
    · have hbyte : i / 8 = n / 8 := by omega
      have hrem : 0 < n % 8 := by omega
      rw [hbyte]
      exact (and_not_topMask_eq_zero_iff hrem (Nat.mod_lt _ (by decide))).mp (hpart hrem) _
        (Nat.mod_lt _ (by decide)) (by omega)

/-! ### Truncation -/

/-- The first `r` bits of a byte, the others cleared. -/
def leading (r : ℕ) (x : UInt8) : UInt8 := ⟨x.toBitVec &&& ~~~(BitVec.allOnes 8 >>> r)⟩

/-- The first `n` bits of a sequence, the others cleared. -/
def truncate (n : ℕ) (a : ℕ → UInt8) (i : ℕ) : UInt8 := leading (n - 8 * i) (a i)

theorem byteBit_leading (r : ℕ) (x : UInt8) {j : ℕ} (h : j < 8) :
    byteBit (leading r x) j = (decide (j < r) && byteBit x j) := by
  have hones : ∀ k < 8, (BitVec.allOnes 8).getMsbD k = true := by decide
  rw [byteBit, leading, BitVec.getMsbD_and, BitVec.getMsbD_not, BitVec.getMsbD_ushiftRight]
  by_cases hjr : j < r
  · simp [byteBit, h, hjr]
  · rw [hones (j - r) (by omega)]
    simp [h, hjr]

theorem bit_truncate (n : ℕ) (a : ℕ → UInt8) (i : ℕ) :
    bit (truncate n a) i = (decide (i < n) && bit a i) := by
  have hsplit : i % 8 < n - 8 * (i / 8) ↔ i < n := by omega
  rw [bit, truncate, byteBit_leading _ _ (Nat.mod_lt _ (by decide)), bit, decide_eq_decide.mpr hsplit]

/-- Sequences agree on their first `n` bits when they have the same truncation. -/
theorem agree_iff_truncate {n m : ℕ} (h : n ≤ m) (a b : ℕ → UInt8) :
    Agree n a b ↔ Agree m (truncate n a) (truncate n b) := by
  constructor
  · intro hagree i _
    rw [bit_truncate, bit_truncate]
    by_cases hi : i < n
    · rw [hagree i hi]
    · simp [hi]
  · intro hagree i hi
    have := hagree i (by omega)
    simpa [bit_truncate, hi] using this

/-- A sequence is its own truncation when the other bits are zero. -/
theorem zero_from_iff_truncate {n m : ℕ} (a : ℕ → UInt8) :
    (∀ i < m, n ≤ i → bit a i = false) ↔ Agree m a (truncate n a) := by
  refine forall₂_congr fun i _ => ?_
  rw [bit_truncate]
  by_cases hi : i < n
  · simp [hi, Nat.not_le.mpr hi]
  · simp [hi, Nat.not_lt.mp hi]

/-! ### Rounding -/

/-- Clearing the low three bits rounds down to a multiple of 8. -/
theorem toNat_and_not_seven (x : UInt64) : (x &&& ~~~7).toNat = x.toNat / 8 * 8 := by
  have hmask : ∀ i < 64, (~~~7#64).getLsbD i = decide (3 ≤ i) := by decide
  have hbits : x.toBitVec &&& ~~~7#64 = (x.toBitVec >>> 3) <<< 3 := by
    refine BitVec.eq_of_getLsbD_eq fun i hi => ?_
    rw [BitVec.getLsbD_and, hmask i hi]
    by_cases hlow : 3 ≤ i
    · simp [hi, hlow]
    · simp [hi, hlow]
  have := x.toNat_lt
  calc (x &&& ~~~7).toNat = ((x.toBitVec >>> 3) <<< 3).toNat := congrArg BitVec.toNat hbits
    _ = x.toNat / 8 * 8 := by
      simp only [BitVec.toNat_shiftLeft, BitVec.toNat_ushiftRight, UInt64.toNat_toBitVec,
        Nat.shiftRight_eq_div_pow, Nat.shiftLeft_eq]
      omega

/-! ### Two bytes in a word -/

theorem high_byte (h l : UInt8) : ((h.toUInt16 <<< 8 ||| l.toUInt16) >>> 8).toUInt8 = h := by
  refine UInt8.toBitVec_inj.mp (BitVec.eq_of_getLsbD_eq fun i hi => ?_)
  have hover : ¬ 8 + i < 8 := by omega
  have hword : 8 + i < 16 := by omega
  have hlow : i < 16 := by omega
  simp [hi, hover, hword, hlow]

theorem low_byte (h l : UInt8) : (h.toUInt16 <<< 8 ||| l.toUInt16).toUInt8 = l := by
  refine UInt8.toBitVec_inj.mp (BitVec.eq_of_getLsbD_eq fun i hi => ?_)
  simp [hi]

end Bits
