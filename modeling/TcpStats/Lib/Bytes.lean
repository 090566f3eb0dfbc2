import Mathlib.Algebra.Order.Ring.Nat
import Mathlib.Data.List.GetD
import Mathlib.Data.Nat.Notation
import Mathlib.Tactic.Ring

/-!
# Words and text in byte buffers

Little-endian words, as they are laid out in memory and read back from a buffer, and
the decoding of UTF-8 that replaces what is ill formed by U+FFFD.
-/

namespace Bytes

/-- The bytes of a word of two, four or eight bytes, the low byte first. -/
def le16 (x : UInt16) : List UInt8 := [x.toUInt8, (x >>> 8).toUInt8]

@[inherit_doc le16]
def le32 (x : UInt32) : List UInt8 :=
  [x.toUInt8, (x >>> 8).toUInt8, (x >>> 16).toUInt8, (x >>> 24).toUInt8]

@[inherit_doc le16]
def le64 (x : UInt64) : List UInt8 := le32 x.toUInt32 ++ le32 (x >>> 32).toUInt32

@[simp] theorem length_le16 (x : UInt16) : (le16 x).length = 2 := rfl

@[simp] theorem length_le32 (x : UInt32) : (le32 x).length = 4 := rfl

@[simp] theorem length_le64 (x : UInt64) : (le64 x).length = 8 := rfl

/-- The number that some bytes spell, the low byte first. -/
def leNat (bs : List UInt8) : ℕ := bs.foldr (fun b n => b.toNat + 256 * n) 0

/-- The word at an offset of a buffer. -/
def u16At (buf : List UInt8) (offset : ℕ) : UInt16 := .ofNat (leNat ((buf.drop offset).take 2))

@[inherit_doc u16At]
def u32At (buf : List UInt8) (offset : ℕ) : UInt32 := .ofNat (leNat ((buf.drop offset).take 4))

@[inherit_doc u16At]
def u64At (buf : List UInt8) (offset : ℕ) : UInt64 := .ofNat (leNat ((buf.drop offset).take 8))

@[inherit_doc u16At]
def i32At (buf : List UInt8) (offset : ℕ) : Int32 := (u32At buf offset).toInt32

/-- The byte at an offset. -/
def u8At (buf : List UInt8) (offset : ℕ) : UInt8 := buf.getD offset 0

/-- The `n` bytes at an offset. -/
def bytesAt (buf : List UInt8) (offset n : ℕ) : List UInt8 := (buf.drop offset).take n

theorem leNat_append (a b : List UInt8) : leNat (a ++ b) = leNat a + 256 ^ a.length * leNat b := by
  induction a with
  | nil => simp [leNat]
  | cons x a ih =>
    have hx : ∀ l, leNat (x :: l) = x.toNat + 256 * leNat l := fun l => rfl
    rw [List.cons_append, hx, hx, ih, List.length_cons, pow_succ]
    ring

theorem leNat_le16 (x : UInt16) : leNat (le16 x) = x.toNat := by
  have := x.toNat_lt
  simp only [leNat, le16, List.foldr, UInt16.toNat_toUInt8, UInt16.toNat_shiftRight, UInt16.reduceToNat,
    Nat.reduceMod, Nat.shiftRight_eq_div_pow, Nat.reducePow]
  omega

theorem leNat_le32 (x : UInt32) : leNat (le32 x) = x.toNat := by
  have := x.toNat_lt
  simp only [leNat, le32, List.foldr, UInt32.toNat_toUInt8, UInt32.toNat_shiftRight, UInt32.reduceToNat,
    Nat.reduceMod, Nat.shiftRight_eq_div_pow, Nat.reducePow]
  omega

theorem leNat_le64 (x : UInt64) : leNat (le64 x) = x.toNat := by
  have := x.toNat_lt
  rw [le64, leNat_append, leNat_le32, leNat_le32, length_le32]
  simp only [UInt64.toNat_toUInt32, UInt64.toNat_shiftRight, UInt64.reduceToNat, Nat.reduceMod,
    Nat.shiftRight_eq_div_pow, Nat.reducePow]
  omega

/-- A word that a buffer begins with is read back. -/
theorem u32At_zero (x : UInt32) (rest : List UInt8) : u32At (le32 x ++ rest) 0 = x := by
  rw [u32At, List.drop_zero, List.take_left' (length_le32 x), leNat_le32, UInt32.ofNat_toNat]

/-! ### Parts of a buffer -/

section Parts

variable {buf a s : List UInt8} {offset n : ℕ}

theorem bytesAt_append_left (h : offset + n ≤ a.length) (b : List UInt8) :
    bytesAt (a ++ b) offset n = bytesAt a offset n := by
  rw [bytesAt, List.drop_append_of_le_length (by omega),
    List.take_append_of_le_length (by rw [List.length_drop]; omega), bytesAt]

theorem bytesAt_append_right (h : a.length ≤ offset) (b : List UInt8) (n : ℕ) :
    bytesAt (a ++ b) offset n = bytesAt b (offset - a.length) n := by
  rw [bytesAt, List.drop_append, List.drop_eq_nil_of_le h, List.nil_append, bytesAt]

theorem bytesAt_self (h : a.length = n) : bytesAt a 0 n = a := by
  rw [bytesAt, List.drop_zero, List.take_of_length_le h.le]

theorem bytesAt_suffix {b : List UInt8} (ha : a.length = offset) (hb : b.length = n) :
    bytesAt (a ++ b) offset n = b := by
  rw [bytesAt_append_right ha.le, ha, Nat.sub_self, bytesAt_self hb]

/-- What is read inside a part of the buffer is read from the part. -/
theorem bytesAt_within (hs : bytesAt buf offset n = s) {i m : ℕ} (h : i + m ≤ n) :
    bytesAt buf (offset + i) m = bytesAt s i m := by
  rw [← hs, bytesAt, bytesAt, bytesAt, List.drop_take, List.drop_drop, List.take_take, Nat.min_eq_left (by omega)]

theorem u8At_within (hs : bytesAt buf offset n = s) {i : ℕ} (h : i < n) :
    u8At buf (offset + i) = u8At s i := by
  rw [← hs, u8At, u8At, bytesAt, List.getD_eq_getElem?_getD, List.getD_eq_getElem?_getD,
    List.getElem?_take_of_lt h, List.getElem?_drop]

theorem u16At_of_bytesAt {x : UInt16} (h : bytesAt buf offset 2 = le16 x) : u16At buf offset = x := by
  rw [u16At, ← bytesAt, h, leNat_le16, UInt16.ofNat_toNat]

theorem u32At_of_bytesAt {x : UInt32} (h : bytesAt buf offset 4 = le32 x) : u32At buf offset = x := by
  rw [u32At, ← bytesAt, h, leNat_le32, UInt32.ofNat_toNat]

theorem u64At_of_bytesAt {x : UInt64} (h : bytesAt buf offset 8 = le64 x) : u64At buf offset = x := by
  rw [u64At, ← bytesAt, h, leNat_le64, UInt64.ofNat_toNat]

/-- A part of a buffer begins where the parts before it end. -/
theorem bytesAt_flatten (ps : List (List UInt8)) (i : ℕ) (hi : i < ps.length) :
    bytesAt ps.flatten ((ps.take i).map List.length).sum ps[i].length = ps[i] := by
  induction ps generalizing i with
  | nil => simp at hi
  | cons p ps ih =>
    cases i with
    | zero =>
      rw [List.flatten_cons]
      exact (bytesAt_append_left (by simp) _).trans (bytesAt_self rfl)
    | succ i =>
      rw [List.flatten_cons, List.take_succ_cons, List.map_cons, List.sum_cons,
        bytesAt_append_right (Nat.le_add_right ..), Nat.add_sub_cancel_left]
      exact ih i (Nat.lt_of_succ_lt_succ hi)

theorem bytesAt_part {ps : List (List UInt8)} {p : List UInt8} (i : ℕ) (hp : ps[i]? = some p)
    (ho : ((ps.take i).map List.length).sum = offset) (hn : p.length = n) : bytesAt ps.flatten offset n = p := by
  obtain ⟨hi, rfl⟩ := List.getElem?_eq_some_iff.mp hp
  rw [← ho, ← hn]
  exact bytesAt_flatten ps i hi

/-- One of the words that a part of the buffer consists of. -/
theorem u32At_words {xs : List UInt32} {x : UInt32} (h : bytesAt buf offset n = xs.flatMap le32) (i : ℕ)
    (hx : xs[i]? = some x) : u32At buf (offset + 4 * i) = x := by
  have hword : ∀ {ys : List UInt32} {j : ℕ} (hj : j < ys.length),
      bytesAt (ys.flatMap le32) (4 * j) 4 = le32 ys[j] := by
    intro ys
    induction ys with
    | nil => simp
    | cons y ys ih =>
      intro j hj
      cases j with
      | zero =>
        rw [List.flatMap_cons, bytesAt_append_left (by simp), bytesAt_self (length_le32 y)]
        rfl
      | succ j =>
        rw [List.flatMap_cons, bytesAt_append_right (by rw [length_le32]; omega), length_le32,
          Nat.mul_succ, Nat.add_sub_cancel]
        exact ih (Nat.lt_of_succ_lt_succ hj)
  obtain ⟨hi, rfl⟩ := List.getElem?_eq_some_iff.mp hx
  have hle : (xs.flatMap le32).length ≤ n := by
    rw [← h]
    exact List.length_take_le ..
  have hlen : (xs.flatMap le32).length = 4 * xs.length := by
    simp [List.length_flatMap, List.map_const', Nat.mul_comm]
  apply u32At_of_bytesAt
  rw [bytesAt_within h (by omega), hword hi]

theorem i32At_words {xs : List UInt32} {x : Int32} (h : bytesAt buf offset n = xs.flatMap le32) (i : ℕ)
    (hx : xs[i]? = some x.toUInt32) : i32At buf (offset + 4 * i) = x :=
  congrArg UInt32.toInt32 (u32At_words h i hx)

end Parts

/-! ### Labelled segments -/

/-- The label of the segment that holds a position, from the lengths of the segments. -/
def labelAt {α : Type} (last : α) : List (α × ℕ) → ℕ → α
  | [], _ => last
  | (label, n) :: rest, i => if i < n then label else labelAt last rest (i - n)

/-- A segment if its label is wanted, and zeros in its place if not. -/
def keepSegment {α : Type} (keep : α → Bool) (seg : α × List UInt8) : List UInt8 :=
  if keep seg.1 then seg.2 else List.replicate seg.2.length 0

@[simp] theorem length_keepSegment {α : Type} (keep : α → Bool) (seg : α × List UInt8) :
    (keepSegment keep seg).length = seg.2.length := by
  unfold keepSegment
  split_ifs
  · rfl
  · exact List.length_replicate

theorem getD_keepSegment {α : Type} (keep : α → Bool) (seg : α × List UInt8) (i : ℕ) :
    (keepSegment keep seg).getD i 0 = if keep seg.1 then seg.2.getD i 0 else 0 := by
  unfold keepSegment
  split_ifs
  · rfl
  · rw [List.getD_eq_getElem?_getD, List.getElem?_getD_replicate_default_eq]

/-- Each byte of the wanted segments is kept, and every other one is zero. -/
theorem getD_keepSegments {α : Type} (keep : α → Bool) (last : α) (segs : List (α × List UInt8)) (i : ℕ) :
    (segs.flatMap (keepSegment keep)).getD i 0 =
      if keep (labelAt last (segs.map fun seg => (seg.1, seg.2.length)) i) then (segs.flatMap Prod.snd).getD i 0
      else 0 := by
  induction segs generalizing i with
  | nil => simp
  | cons seg segs ih =>
    rw [List.flatMap_cons, List.flatMap_cons, List.map_cons, labelAt]
    by_cases hi : i < seg.2.length
    · rw [if_pos hi, List.getD_append _ _ _ _ (by simpa using hi), List.getD_append _ _ _ _ hi, getD_keepSegment]
    · have hle : seg.2.length ≤ i := not_lt.mp hi
      rw [if_neg hi, List.getD_append_right _ _ _ _ (by simpa using hle), List.getD_append_right _ _ _ _ hle,
        length_keepSegment, ih]

/-! ### UTF-8 -/

/-- A sequence that has begun: its bytes so far, how many are missing, and the range of the
next one. -/
structure Pending where
  seen : List UInt8
  missing : ℕ
  lo : UInt8
  hi : UInt8

/-- U+FFFD. -/
def replacement : List UInt8 := [0xEF, 0xBF, 0xBD]

/-- What the first byte of a sequence begins: output, and what is to come. -/
def beginSequence (b : UInt8) : List UInt8 × Option Pending :=
  if b < 0x80 then ([b], none)
  else if 0xC2 ≤ b ∧ b ≤ 0xDF then ([], some ⟨[b], 1, 0x80, 0xBF⟩)
  else if b = 0xE0 then ([], some ⟨[b], 2, 0xA0, 0xBF⟩)
  else if b = 0xED then ([], some ⟨[b], 2, 0x80, 0x9F⟩)
  else if 0xE1 ≤ b ∧ b ≤ 0xEF then ([], some ⟨[b], 2, 0x80, 0xBF⟩)
  else if b = 0xF0 then ([], some ⟨[b], 3, 0x90, 0xBF⟩)
  else if 0xF1 ≤ b ∧ b ≤ 0xF3 then ([], some ⟨[b], 3, 0x80, 0xBF⟩)
  else if b = 0xF4 then ([], some ⟨[b], 3, 0x80, 0x8F⟩)
  else (replacement, none)

/-- One byte, in a sequence or not. A byte that does not continue the sequence ends it, and
begins another. -/
def continueSequence (p : Option Pending) (b : UInt8) : List UInt8 × Option Pending :=
  match p with
  | none => beginSequence b
  | some p =>
    if p.lo ≤ b ∧ b ≤ p.hi then
      if p.missing = 1 then (p.seen ++ [b], none)
      else ([], some ⟨p.seen ++ [b], p.missing - 1, 0x80, 0xBF⟩)
    else
      let (out, next) := beginSequence b
      (replacement ++ out, next)

/-- `String::from_utf8_lossy`, as the bytes of the string: every maximal piece of an ill-formed
sequence is replaced by U+FFFD. -/
def fromUtf8Lossy (bs : List UInt8) (p : Option Pending) : List UInt8 :=
  match bs with
  | [] => if p.isSome then replacement else []
  | b :: bs =>
    let (out, next) := continueSequence p b
    out ++ fromUtf8Lossy bs next

end Bytes
