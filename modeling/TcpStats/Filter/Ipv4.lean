import TcpStats.Filter.Ipv6
import TcpStats.Filter.WellFormed
import TcpStats.Lib.Bytes

/-!
# IPv4 networks

`Ipv4Network` is a network: four octets and the length of a prefix that holds all of their
bits. `Ipv4Network.Spells` is how it is written: four decimal numbers with dots, and the
prefix length behind a `/` or left out for 32.
-/

namespace TcpStats

open CString Fallible

/-! ### Octets -/

/-- No digit stands at the head. -/
def NoDigit (rest : CStr) : Prop := ∀ c ∈ rest.head?, isDigit c = false

/-- What the digit loop of an octet takes off the string. -/
theorem octetDigits_spec (bad : UInt8 → ParseError) {n val seen v k : ℕ} {p rest : CStr}
    (h : octetDigits n p val seen = (v, k, rest)) :
    ∃ ds, p = ds ++ rest ∧ ds.length ≤ n ∧ k = seen + ds.length ∧ digits bad ds val = .ok v ∧
      (ds.length = n ∨ NoDigit rest) := by
  induction n generalizing p val seen with
  | zero =>
    obtain ⟨rfl, rfl, rfl⟩ : val = v ∧ seen = k ∧ p = rest := by simpa [octetDigits] using h
    exact ⟨[], rfl, le_refl 0, rfl, rfl, .inl rfl⟩
  | succ n ih =>
    rcases p with _ | ⟨c, p⟩
    · obtain ⟨rfl, rfl, rfl⟩ : val = v ∧ seen = k ∧ [] = rest := by simpa [octetDigits] using h
      exact ⟨[], rfl, Nat.zero_le _, rfl, rfl, .inr (by simp [NoDigit])⟩
    rw [octetDigits] at h
    by_cases hc : isDigit c = true
    · rw [if_pos hc] at h
      obtain ⟨ds, rfl, hlen, rfl, hdigits, hend⟩ := ih h
      refine ⟨c :: ds, rfl, by rw [List.length_cons]; omega, by rw [List.length_cons]; omega, ?_, ?_⟩
      · rw [digits, if_pos hc]
        exact hdigits
      · exact hend.imp_left fun hlen => by rw [List.length_cons, hlen]
    · rw [if_neg hc] at h
      obtain ⟨rfl, rfl, rfl⟩ : val = v ∧ seen = k ∧ c :: p = rest := by simpa using h
      exact ⟨[], rfl, Nat.zero_le _, rfl, rfl, .inr (by simpa [NoDigit] using hc)⟩

/-- It takes the digits that are there, if they are not too many. -/
theorem octetDigits_append {bad : UInt8 → ParseError} {n val seen v : ℕ} {ds rest : CStr}
    (hdigits : digits bad ds val = .ok v) (hlen : ds.length ≤ n) (hrest : NoDigit rest) :
    octetDigits n (ds ++ rest) val seen = (v, seen + ds.length, rest) := by
  induction ds generalizing n val seen with
  | nil =>
    obtain rfl := Except.ok.inj hdigits
    rcases n with _ | n
    · rfl
    · rcases rest with _ | ⟨c, rest⟩
      · rfl
      · have hc : isDigit c = false := hrest c rfl
        simp [octetDigits, hc]
  | cons c ds ih =>
    rcases n with _ | n
    · simp at hlen
    rw [digits] at hdigits
    obtain ⟨hc, hdigits⟩ := ite_else_error_eq_ok.mp hdigits
    rw [List.cons_append, octetDigits, if_pos hc, ih hdigits (by simpa using hlen), List.length_cons,
      Nat.add_right_comm, Nat.add_assoc]

/-- The tests of an octet are passed by the numbers up to 255 in decimal. -/
theorem octet_iff {p rest : CStr} {v : ℕ} :
    (∃ k, octetDigits 4 p 0 0 = (v, k, rest) ∧ k ≠ 0 ∧ ¬ (k > 1 ∧ p.head? = some (chr '0')) ∧ v ≤ 255) ↔
      v ≤ 255 ∧ p = decimal v ++ rest ∧ NoDigit rest := by
  have hdecimal : ∀ v < 256, decimal v ≠ [] ∧ (decimal v).length ≤ 3 ∧
      ¬ (1 < (decimal v).length ∧ (decimal v).head? = some (chr '0')) := by decide +kernel
  constructor
  · rintro ⟨k, hread, hk, hlead, hv⟩
    obtain ⟨ds, rfl, -, rfl, hdigits, hend⟩ := octetDigits_spec (fun _ => .v4Trailing) hread
    rw [Nat.zero_add] at hk hlead
    have hne : ds ≠ [] := List.ne_nil_of_length_pos (Nat.pos_of_ne_zero hk)
    rw [List.head?_append_of_ne_nil _ hne] at hlead
    obtain rfl := decimal_of_digits hne hlead hdigits
    have := (hdecimal v (Nat.lt_succ_of_le hv)).2.1
    exact ⟨hv, rfl, hend.resolve_left (by omega)⟩
  · rintro ⟨hv, rfl, hrest⟩
    obtain ⟨hne, hlen, hlead⟩ := hdecimal v (Nat.lt_succ_of_le hv)
    have hdigits : ∀ v < 256, digits (fun _ => .v4Trailing) (decimal v) 0 = .ok v := by decide +kernel
    refine ⟨(decimal v).length, ?_, by simpa using hne, ?_, hv⟩
    · rw [octetDigits_append (hdigits v (Nat.lt_succ_of_le hv)) (by omega) hrest, Nat.zero_add]
    · rwa [List.head?_append_of_ne_nil _ hne]

/-- Numbers in decimal with dots between them. -/
def dotted (vs : List ℕ) : CStr := List.intercalate [chr '.'] (vs.map decimal)

theorem dotted_cons_cons (v w : ℕ) (vs : List ℕ) :
    dotted (v :: w :: vs) = decimal v ++ chr '.' :: dotted (w :: vs) := by
  simp [dotted, List.intercalate_cons_cons]

/-- The loop over the octets takes so many numbers up to 255. -/
theorem parseOctets_iff {n : ℕ} {p : CStr} {acc octets : List ℕ} :
    parseOctets n p acc = .ok (octets, []) ↔
      ∃ vs, vs.length = n ∧ (∀ v ∈ vs, v ≤ 255) ∧ p = dotted vs ∧ octets = acc ++ vs := by
  induction n generalizing p acc with
  | zero =>
    rw [parseOctets, Except.ok.injEq, Prod.mk.injEq]
    constructor
    · rintro ⟨rfl, rfl⟩
      exact ⟨[], rfl, by simp, rfl, (List.append_nil _).symm⟩
    · rintro ⟨vs, hlen, -, rfl, rfl⟩
      obtain rfl := List.length_eq_zero_iff.mp hlen
      exact ⟨(List.append_nil _).symm, rfl⟩
  | succ n ih =>
    constructor
    · intro h
      rcases hread : octetDigits 4 p 0 0 with ⟨v, k, rest⟩
      rw [parseOctets, hread] at h
      obtain ⟨hk, h⟩ := ite_error_eq_ok.mp h
      obtain ⟨hlead, h⟩ := ite_error_eq_ok.mp h
      obtain ⟨hlarge, h⟩ := ite_error_eq_ok.mp h
      obtain ⟨hv, hp, -⟩ := octet_iff.mp ⟨k, hread, hk, hlead, not_lt.mp hlarge⟩
      rw [hp]
      rcases ite_eq_cases h with ⟨rfl, h⟩ | ⟨hn, h⟩
      · obtain ⟨rfl, rfl⟩ := Prod.mk.inj (Except.ok.inj h)
        exact ⟨[v], rfl, by simpa using hv, by simp [dotted], rfl⟩
      · obtain ⟨hdot, h⟩ := ite_else_error_eq_ok.mp h
        obtain ⟨vs, hlen, hvs, htail, rfl⟩ := ih.mp h
        obtain ⟨w, ws, rfl⟩ := List.exists_cons_of_length_pos (by omega : 0 < vs.length)
        refine ⟨v :: w :: ws, by rw [List.length_cons, hlen], List.forall_mem_cons.mpr ⟨hv, hvs⟩, ?_, by simp⟩
        rw [dotted_cons_cons, ← htail, List.cons_head?_tail hdot]
    · rintro ⟨vs, hlen, hvs, rfl, rfl⟩
      obtain ⟨v, vs, rfl⟩ := List.exists_cons_of_length_pos (by omega : 0 < vs.length)
      obtain ⟨hv, hvs⟩ := List.forall_mem_cons.mp hvs
      rw [List.length_cons, Nat.add_right_cancel_iff] at hlen
      rcases vs with _ | ⟨w, ws⟩
      · have hend : dotted [v] = decimal v ++ [] := by simp [dotted]
        obtain ⟨k, hread, hk, hlead, -⟩ := octet_iff.mpr ⟨hv, hend, by simp [NoDigit]⟩
        rw [parseOctets, hread]
        dsimp only
        rw [if_neg hk, if_neg hlead, if_neg (not_lt.mpr hv), ← hlen]
        rfl
      · have hdot : NoDigit (chr '.' :: dotted (w :: ws)) := by simp [NoDigit]; decide
        obtain ⟨k, hread, hk, hlead, -⟩ := octet_iff.mpr ⟨hv, dotted_cons_cons v w ws, hdot⟩
        have hn : n ≠ 0 := by
          rw [List.length_cons] at hlen
          omega
        rw [parseOctets, hread]
        dsimp only
        rw [if_neg hk, if_neg hlead, if_neg (not_lt.mpr hv), if_neg hn, List.head?_cons, if_pos rfl, List.tail_cons]
        exact ih.mpr ⟨w :: ws, hlen, hvs, rfl, by simp⟩

/-! ### Bits of an address -/

namespace InAddr

/-- The bytes of an address in memory, which are its octets in order. -/
def octets (a : InAddr) : ℕ → UInt8 := fun i => (Bytes.le32 a.sAddr).getD i 0

/-- The first `n` bits of two IPv4 addresses are the same. -/
def SameBits (n : ℕ) (a b : InAddr) : Prop := Bits.Agree n a.octets b.octets

/-- A bit of an address is a bit of its word, which has the first octet in the low byte. -/
theorem bit_octets (a : InAddr) {i : ℕ} (hi : i < 32) :
    Bits.bit a.octets i = a.sAddr.toBitVec.getLsbD (8 * (i / 8) + (7 - i % 8)) := by
  have hj : i % 8 < 8 := Nat.mod_lt _ (by decide)
  have hlow : 7 - i % 8 < 8 := by omega
  have hq : i / 8 = 0 ∨ i / 8 = 1 ∨ i / 8 = 2 ∨ i / 8 = 3 := by omega
  unfold Bits.bit Bits.byteBit octets
  rcases hq with hq | hq | hq | hq
  · rw [hq]
    simp [Bytes.le32, BitVec.getMsbD, hj, hlow]
  · rw [hq]
    simp [Bytes.le32, BitVec.getMsbD, hj, hlow]
  · rw [hq]
    simp [Bytes.le32, BitVec.getMsbD, hj, hlow]
  · rw [hq]
    simp [Bytes.le32, BitVec.getMsbD, hj, hlow]

/-- Two words are the same if all their bits are, in the order of the octets. -/
theorem word_ext_iff {x y : UInt32} :
    x = y ↔ ∀ i < 32, Bits.bit (octets ⟨x⟩) i = Bits.bit (octets ⟨y⟩) i := by
  constructor
  · rintro rfl i _
    rfl
  · intro h
    refine UInt32.toBitVec_inj.mp (BitVec.eq_of_getLsbD_eq fun i hi => ?_)
    have := h (8 * (i / 8) + (7 - i % 8)) (by omega)
    rwa [bit_octets _ (by omega), bit_octets _ (by omega),
      show 8 * ((8 * (i / 8) + (7 - i % 8)) / 8) + (7 - (8 * (i / 8) + (7 - i % 8)) % 8) = i by omega] at this

theorem bit_and (x y : UInt32) {i : ℕ} (hi : i < 32) :
    Bits.bit (octets ⟨x &&& y⟩) i = (Bits.bit (octets ⟨x⟩) i && Bits.bit (octets ⟨y⟩) i) := by
  rw [bit_octets _ hi, bit_octets _ hi, bit_octets _ hi, UInt32.toBitVec_and, BitVec.getLsbD_and]

theorem bit_not (x : UInt32) {i : ℕ} (hi : i < 32) :
    Bits.bit (octets ⟨~~~x⟩) i = !Bits.bit (octets ⟨x⟩) i := by
  have hpos : 8 * (i / 8) + (7 - i % 8) < 32 := by omega
  rw [bit_octets _ hi, bit_octets _ hi, UInt32.toBitVec_not, BitVec.getLsbD_not, decide_eq_true hpos, Bool.true_and]

/-- The mask of a prefix length has that many leading ones. -/
theorem bit_v4Mask {p i : ℕ} (hp : p ≤ 32) (hi : i < 32) :
    Bits.bit (octets (v4Mask p)) i = decide (i < p) := by
  have hall : ∀ p < 33, ∀ i < 32, Bits.bit (octets (v4Mask p)) i = decide (i < p) := by decide +kernel
  exact hall p (Nat.lt_succ_of_le hp) i hi

/-- Comparing under the mask compares the leading bits. -/
theorem and_v4Mask_eq_iff {p : ℕ} (hp : p ≤ 32) (a b : InAddr) :
    a.sAddr &&& (v4Mask p).sAddr = b.sAddr &&& (v4Mask p).sAddr ↔ a.SameBits p b := by
  rw [word_ext_iff]
  constructor
  · intro h i hi
    have hlt : i < 32 := by omega
    have := h i hlt
    rw [bit_and _ _ hlt, bit_and _ _ hlt, bit_v4Mask hp hlt] at this
    simpa [hi] using this
  · intro h i hi
    rw [bit_and _ _ hi, bit_and _ _ hi, bit_v4Mask hp hi]
    by_cases hlt : i < p
    · rw [h i hlt]
    · simp [hlt]

/-- What is left of an address outside the mask is its other bits. -/
theorem and_not_v4Mask_eq_zero_iff {p : ℕ} (hp : p ≤ 32) (a : InAddr) :
    a.sAddr &&& ~~~(v4Mask p).sAddr = 0 ↔ ∀ i < 32, p ≤ i → Bits.bit a.octets i = false := by
  have hzero : ∀ i < 32, Bits.bit (octets ⟨0⟩) i = false := by decide
  rw [word_ext_iff]
  refine forall₂_congr fun i hi => ?_
  rw [bit_and _ _ hi, bit_not _ hi, bit_v4Mask hp hi, hzero i hi]
  by_cases hle : p ≤ i
  · simp [hle, Nat.not_lt.mpr hle]
  · simp [hle, Nat.not_le.mp hle]

end InAddr

/-! ### Networks -/

/-- The bytes of a list, continued by zeros. -/
def bytesOf (l : List UInt8) : ℕ → UInt8 := fun i => l.getD i 0

/-- `htonl` puts the high byte first in memory. -/
theorem le32_htonl (x : UInt32) :
    Bytes.le32 (htonl x) = [(x >>> 24).toUInt8, (x >>> 16).toUInt8, (x >>> 8).toUInt8, x.toUInt8] := by
  have hmask : ∀ j (h : j < 32), (65280#32)[j] = decide (8 ≤ j ∧ j < 16) := by
    intro j h
    have hall : ∀ j < 32, (65280#32).getLsbD j = decide (8 ≤ j ∧ j < 16) := by decide
    rw [← BitVec.getLsbD_eq_getElem]
    exact hall j h
  have hover : ∀ j, 32 ≤ j → x.toBitVec.getLsbD j = false := fun j h => BitVec.getLsbD_of_ge _ _ h
  simp only [Bytes.le32, htonl, List.cons.injEq, and_true]
  refine ⟨?_, ?_, ?_, ?_⟩
  · refine UInt8.toBitVec_inj.mp (BitVec.eq_of_getLsbD_eq fun i hi => ?_)
    simp [hi]
  · refine UInt8.toBitVec_inj.mp (BitVec.eq_of_getLsbD_eq fun i hi => ?_)
    have hbits : 8 + i < 32 ∧ ¬ 8 + i < 8 ∧ 8 + i < 24 ∧ ¬ 8 ≤ i ∧ 8 + i < 16 := by omega
    simp [hi, hbits, hmask, hover (24 + (8 + i)) (by omega), show 8 + (8 + i) = 16 + i by omega]
  · refine UInt8.toBitVec_inj.mp (BitVec.eq_of_getLsbD_eq fun i hi => ?_)
    have hbits : 16 + i < 32 ∧ ¬ 16 + i < 8 ∧ 16 + i < 24 ∧ ¬ 16 + i < 16 ∧ 8 + i < 16 := by omega
    have hback : 16 + i - 8 = 8 + i := by omega
    simpa [hi, hbits, hback, hmask, hover (24 + (16 + i)) (by omega)] using (BitVec.getLsbD_eq_getElem _).symm
  · refine UInt8.toBitVec_inj.mp (BitVec.eq_of_getLsbD_eq fun i hi => ?_)
    have hbits : 24 + i < 32 ∧ ¬ 24 + i < 8 ∧ ¬ 24 + i < 24 ∧ ¬ 24 + i < 16 := by omega
    have hback : 24 + i - 8 = 16 + i := by omega
    simpa [hi, hbits, hback, hmask, hover (24 + (24 + i)) (by omega), hover (8 + (24 + i)) (by omega)] using
      (BitVec.getLsbD_eq_getElem _).symm

/-- The bytes of a word that is put together from four. -/
theorem bytes_of_word (a b c d : UInt8) {x : UInt32}
    (hx : x = (a.toUInt32 <<< 24) ||| (b.toUInt32 <<< 16) ||| (c.toUInt32 <<< 8) ||| d.toUInt32) :
    [(x >>> 24).toUInt8, (x >>> 16).toUInt8, (x >>> 8).toUInt8, x.toUInt8] = [a, b, c, d] := by
  have hover : ∀ (y : UInt8) (j : ℕ), 8 ≤ j → y.toBitVec.getLsbD j = false :=
    fun y j h => BitVec.getLsbD_of_ge _ _ h
  rw [hx]
  simp only [List.cons.injEq, and_true]
  refine ⟨?_, ?_, ?_, ?_⟩
  · refine UInt8.toBitVec_inj.mp (BitVec.eq_of_getLsbD_eq fun i hi => ?_)
    have hbits : 24 + i < 32 ∧ ¬ 24 + i < 24 ∧ ¬ 24 + i < 16 ∧ ¬ 24 + i < 8 := by omega
    simp [hi, hbits, hover b (24 + i - 16) (by omega), hover c (24 + i - 8) (by omega), hover d (24 + i) (by omega)]
  · refine UInt8.toBitVec_inj.mp (BitVec.eq_of_getLsbD_eq fun i hi => ?_)
    have hbits : 16 + i < 32 ∧ 16 + i < 24 ∧ ¬ 16 + i < 16 ∧ ¬ 16 + i < 8 := by omega
    simp [hi, hbits, hover c (16 + i - 8) (by omega), hover d (16 + i) (by omega)]
  · refine UInt8.toBitVec_inj.mp (BitVec.eq_of_getLsbD_eq fun i hi => ?_)
    have hbits : 8 + i < 32 ∧ 8 + i < 24 ∧ 8 + i < 16 ∧ ¬ 8 + i < 8 := by omega
    simp [hi, hbits]
  · refine UInt8.toBitVec_inj.mp (BitVec.eq_of_getLsbD_eq fun i hi => ?_)
    simp [hi]

/-- The four octets in the word that the parser makes of them. -/
theorem octets_octetsWord (a b c d : UInt8) :
    InAddr.octets ⟨htonl (octetsWord [a.toNat, b.toNat, c.toNat, d.toNat])⟩ = bytesOf [a, b, c, d] := by
  have hcast : ∀ x : UInt8, x.toNat.toUInt32 = x.toUInt32 := fun x => UInt32.toNat_inj.mp (by simp)
  have hword : octetsWord [a.toNat, b.toNat, c.toNat, d.toNat] =
      (a.toUInt32 <<< 24) ||| (b.toUInt32 <<< 16) ||| (c.toUInt32 <<< 8) ||| d.toUInt32 := by
    simp only [octetsWord, List.getD_cons_zero, List.getD_cons_succ, hcast]
  unfold InAddr.octets
  rw [le32_htonl, bytes_of_word a b c d hword]
  rfl

/-- The address of four octets, as it is stored. -/
def InAddr.ofOctets (octets : Vector UInt8 4) : InAddr :=
  ⟨htonl (octetsWord (octets.toList.map UInt8.toNat))⟩

theorem InAddr.octets_ofOctets (octets : Vector UInt8 4) :
    (ofOctets octets).octets = bytesOf octets.toList := by
  have hlen : octets.toList.length = 4 := octets.length_toList
  unfold ofOctets
  generalize octets.toList = l at hlen
  obtain ⟨a, b, c, d, rfl⟩ := List.length_eq_four.mp hlen
  exact octets_octetsWord a b c d

/-- An IPv4 network: four octets, and the length of a prefix with no bit set beyond it. -/
structure Ipv4Network where
  octets : Vector UInt8 4
  pfx : ℕ
  pfx_le : pfx ≤ 32
  hostBitsZero : ∀ i < 32, pfx ≤ i → Bits.bit (bytesOf octets.toList) i = false

namespace Ipv4Network

variable (n : Ipv4Network)

/-- The octets in decimal with dots between them. -/
def dottedQuad : CStr := dotted (n.octets.toList.map UInt8.toNat)

/-- How a network is written; the prefix length may be left out if it is 32. -/
inductive Spells : CStr → Prop where
  | plain : n.pfx = 32 → Spells n.dottedQuad
  | cidr : Spells (n.dottedQuad ++ chr '/' :: decimal n.pfx)

/-- Its address. -/
def addr : InAddr := .ofOctets n.octets

end Ipv4Network

/-! ### The parser -/

/-- The prefix length of a text, in decimal and at most 32. -/
theorem tsfParsePrefixLength_32_iff {str : CStr} {p : ℕ} :
    tsfParsePrefixLength str 32 = .ok p ↔ p ≤ 32 ∧ str = decimal p := by
  have hmax : tsfParsePrefixLength str 32 = .ok p ↔ p ≤ 32 ∧ tsfParsePrefixLength str 128 = .ok p := by
    unfold tsfParsePrefixLength
    simp only [ite_error_eq_ok, bind_eq_ok, Except.ok.injEq]
    constructor
    · rintro ⟨hempty, hlead, val, hdigits, hle, rfl⟩
      exact ⟨not_lt.mp hle, hempty, hlead, val, hdigits, by omega, rfl⟩
    · rintro ⟨hle, hempty, hlead, val, hdigits, -, rfl⟩
      exact ⟨hempty, hlead, val, hdigits, not_lt.mpr hle, rfl⟩
  rw [hmax, tsfParsePrefixLength_iff]
  constructor
  · rintro ⟨hle, -, rfl⟩
    exact ⟨hle, rfl⟩
  · rintro ⟨hle, rfl⟩
    exact ⟨hle, by omega, rfl⟩

/-- Digits are all that there is in a number. -/
theorem isDigit_of_mem_decimal {n : ℕ} {d : UInt8} (h : d ∈ decimal n) : isDigit d = true := by
  have hdigit : ∀ v < 10, isDigit (chr '0' + v.toUInt8) = true := by decide
  induction n using Nat.strong_induction_on with
  | _ n ih =>
    by_cases hn : n < 10
    · rw [decimal_of_lt hn, List.mem_singleton] at h
      rw [h]
      exact hdigit n hn
    · have hmod : n % 10 < 10 := Nat.mod_lt n (by decide)
      have hsnoc := decimal_snoc (show 0 < n / 10 by omega) hmod
      rw [Nat.div_add_mod'] at hsnoc
      rw [hsnoc, List.mem_append, List.mem_singleton] at h
      rcases h with h | rfl
      · exact ih (n / 10) (by omega) h
      · exact hdigit _ hmod

/-- Digits and dots are all that there is in such a text. -/
theorem notMem_dotted {c : UInt8} (hdot : c ≠ chr '.') (hdigit : isDigit c = false) (vs : List ℕ) :
    c ∉ dotted vs := by
  have hnot : ∀ v, c ∉ decimal v := fun v hc => by simp [isDigit_of_mem_decimal hc] at hdigit
  induction vs with
  | nil => exact List.not_mem_nil
  | cons v vs ih =>
    rcases vs with _ | ⟨w, ws⟩
    · simpa [dotted] using hnot v
    · rw [dotted_cons_cons, List.mem_append, List.mem_cons, not_or, not_or]
      exact ⟨hnot v, hdot, ih⟩

theorem length_dotted_lt {vs : List ℕ} (hlen : vs.length = 4) (h : ∀ v ∈ vs, v ≤ 255) :
    (dotted vs).length < 16 := by
  have hdecimal : ∀ v < 256, (decimal v).length ≤ 3 := by decide +kernel
  have hrun : ∀ vs : List ℕ, (∀ v ∈ vs, v ≤ 255) → (dotted vs).length + 1 ≤ 4 * vs.length ∨ vs = [] := by
    intro vs h
    induction vs with
    | nil => exact .inr rfl
    | cons v vs ih =>
      obtain ⟨hv, hvs⟩ := List.forall_mem_cons.mp h
      have hthree := hdecimal v (Nat.lt_succ_of_le hv)
      rcases vs with _ | ⟨w, ws⟩
      · left
        simp only [dotted, List.map_cons, List.map_nil, List.intercalate_singleton, List.length_singleton]
        omega
      · have hrest := (ih hvs).resolve_right (by simp)
        left
        rw [dotted_cons_cons, List.length_append, List.length_cons, List.length_cons]
        omega
  rcases hrun vs h with hle | rfl
  · omega
  · cases hlen

/-- Four numbers up to 255 are four octets. -/
theorem exists_octets {vs : List ℕ} (hlen : vs.length = 4) (h : ∀ v ∈ vs, v ≤ 255) :
    ∃ octets : Vector UInt8 4, octets.toList.map UInt8.toNat = vs := by
  refine ⟨⟨(vs.map Nat.toUInt8).toArray, by simpa using hlen⟩, ?_⟩
  have hback : ∀ v ∈ vs, v.toUInt8.toNat = v := fun v hv => UInt8.toNat_ofNat_of_lt' (Nat.lt_succ_of_le (h v hv))
  have hmap := List.map_congr_left hback
  rw [List.map_id'] at hmap
  simpa [Vector.toList, Function.comp_def] using hmap

namespace Ipv4Network

/-- Digits, dots and the slash are all that there is in the text of a network. -/
theorem Spells.notMem {n : Ipv4Network} {s : CStr} (h : n.Spells s) {c : UInt8} (hdot : c ≠ chr '.')
    (hslash : c ≠ chr '/') (hdigit : isDigit c = false) : c ∉ s := by
  have hquad : c ∉ n.dottedQuad := notMem_dotted hdot hdigit _
  cases h with
  | plain => exact hquad
  | cidr =>
    simp only [List.mem_append, List.mem_cons, not_or]
    refine ⟨hquad, hslash, fun hc => ?_⟩
    rw [isDigit_of_mem_decimal hc] at hdigit
    cases hdigit

/-- The parser accepts what spells a network, and yields its address and its mask. -/
theorem tsfParseIpv4Addr_eq_ok_iff {str : CStr} {addr mask : InAddr} :
    tsfParseIpv4Addr str = .ok (addr, mask) ↔
      ∃ n : Ipv4Network, n.Spells str ∧ addr = n.addr ∧ mask = v4Mask n.pfx := by
  rw [tsfParseIpv4Addr_iff]
  constructor
  · rintro ⟨pfx, octets, hpfx, hoctets, rfl, rfl, hhost⟩
    obtain ⟨vs, hlen, hvs, htext, rfl⟩ := parseOctets_iff.mp hoctets
    obtain ⟨octets, rfl⟩ := exists_octets hlen hvs
    have hle := v4Prefix_le hpfx
    rw [InAddr.and_not_v4Mask_eq_zero_iff hle, ← InAddr.ofOctets, InAddr.octets_ofOctets] at hhost
    refine ⟨⟨octets, pfx, hle, hhost⟩, ?_, rfl, rfl⟩
    unfold v4Prefix at hpfx
    rcases hslash : after (chr '/') str with _ | suffix
    · rw [hslash] at hpfx
      obtain ⟨-, hpfx⟩ := ite_error_eq_ok.mp hpfx
      rw [before_of_notMem (after_eq_none_iff.mp hslash)] at htext
      rw [htext]
      exact .plain (Except.ok.inj hpfx).symm
    · rw [hslash] at hpfx
      obtain ⟨-, hpfx⟩ := ite_error_eq_ok.mp hpfx
      obtain ⟨-, rfl⟩ := tsfParsePrefixLength_32_iff.mp hpfx
      rw [before_append_after hslash, htext]
      exact .cidr
  · rintro ⟨n, hspells, rfl, rfl⟩
    have hvs : ∀ v ∈ n.octets.toList.map UInt8.toNat, v ≤ 255 := by
      intro v hv
      obtain ⟨octet, -, rfl⟩ := List.mem_map.mp hv
      exact Nat.le_of_lt_succ octet.toNat_lt
    have hlen : (n.octets.toList.map UInt8.toNat).length = 4 := by simp
    have hshort : n.dottedQuad.length < 16 := length_dotted_lt hlen hvs
    have hslash : chr '/' ∉ n.dottedQuad := notMem_dotted (by decide) (by decide) _
    have hoctets : parseOctets 4 n.dottedQuad [] = .ok (n.octets.toList.map UInt8.toNat, []) :=
      parseOctets_iff.mpr ⟨_, hlen, hvs, rfl, rfl⟩
    have hhost : n.addr.sAddr &&& ~~~(v4Mask n.pfx).sAddr = 0 := by
      rw [InAddr.and_not_v4Mask_eq_zero_iff n.pfx_le, addr, InAddr.octets_ofOctets]
      exact n.hostBitsZero
    refine ⟨n.pfx, _, ?_, ?_, rfl, rfl, hhost⟩
    · cases hspells with
      | plain h32 =>
        unfold v4Prefix
        rw [after_eq_none_iff.mpr hslash]
        dsimp only
        rw [if_neg (by unfold strnlen; omega), h32]
      | cidr =>
        unfold v4Prefix
        rw [after_append hslash, before_append hslash]
        dsimp only
        rw [if_neg (not_le.mpr hshort)]
        exact tsfParsePrefixLength_32_iff.mpr ⟨n.pfx_le, rfl⟩
    · cases hspells with
      | plain =>
        rw [before_of_notMem hslash]
        exact hoctets
      | cidr =>
        rw [before_append hslash]
        exact hoctets

end Ipv4Network

end TcpStats
