import TcpStats.Client.MacosLoop

/-!
# Where the macOS parser panics

`RecordAt` is where records begin in a buffer, by the lengths in it alone, and it is there that the
cursor of `parse_pcblist_n` comes to (`reaches_record`). The parser ends on every buffer, and its
cursor moves forward in every iteration; but the range that it takes a body from is only checked
at its end. So it returns, with records or an error, just if no record says that it is shorter
than its own tag (`parsePcblistN_returns_iff`).
-/

namespace TcpStats.Client.Macos

open Bytes Panic

/-- Where a record begins, if there is a record. -/
inductive RecordAt (buf : List UInt8) : ℕ → Prop where
  /-- Behind the header. -/
  | first {pos : ℕ} : HeaderEnds buf pos → RecordAt buf pos
  /-- Behind a record. -/
  | next {pos : ℕ} : RecordAt buf pos → recKind buf pos ≠ 0 → 8 ≤ (recLen buf pos).toNat →
      pos + (recLen buf pos).toNat ≤ buf.length → RecordAt buf (pos + roundup64 (recLen buf pos))

/-- Some record gives itself a length that its own tag exceeds. -/
def ShorterThanTag (buf : List UInt8) : Prop :=
  ∃ pos, RecordAt buf pos ∧ pos + TAG_HEADER_SIZE ≤ buf.length ∧ recKind buf pos ≠ 0 ∧
    0 < (recLen buf pos).toNat ∧ (recLen buf pos).toNat < TAG_HEADER_SIZE

/-- The parser returns. -/
def Returns (buf : List UInt8) (hz : Int32) : Prop := ∃ r, Parses buf hz r ∧ r ≠ .error .panic

variable {buf : List UInt8} {hz : Int32} {pos : ℕ}

/-! ### The cursor -/

/-- A place where a record begins is not far beyond the buffer. -/
theorem RecordAt.bound (hbuf : buf.length < 2 ^ 63) (h : RecordAt buf pos) : pos + 8 < 2 ^ 64 := by
  cases h with
  | first h =>
    have := (headerLen buf).toNat_lt
    rw [h.pos, roundup64_eq]
    omega
  | next _ _ _ hend =>
    rw [roundup64_eq]
    omega

/-- The cursor stands where records begin. -/
theorem recordAt_of_reaches (hbuf : buf.length < 2 ^ 63) (hhead : HeaderEnds buf pos) {s : LoopState}
    (h : While.Reaches (iteration buf hz) (start pos) s) : RecordAt buf s.pos := by
  apply h.inv (I := fun s : LoopState => RecordAt buf s.pos)
  · exact .first hhead
  · intro u v hu hstep
    obtain ⟨hkind, hlen, hend, hpos⟩ := iteration_go hbuf hstep
    rw [hpos]
    exact .next hu hkind hlen hend

/-- It comes to every place where one begins. -/
theorem reaches_record (hbuf : buf.length < 2 ^ 63) (hz : Int32) (h : RecordAt buf pos) :
    ∃ p s, HeaderEnds buf p ∧ While.Reaches (iteration buf hz) (start p) s ∧ s.pos = pos := by
  induction h with
  | first h => exact ⟨_, start _, h, .refl, rfl⟩
  | next _ hkind hlen hend ih =>
    obtain ⟨p, s, hhead, hreach, rfl⟩ := ih
    obtain ⟨t, hstep, hpos⟩ := iteration_goes hz hbuf hkind hlen hend
    exact ⟨p, t, hhead, hreach.tail hstep, hpos⟩

/-- An iteration panics at a record that is shorter than its tag only. -/
theorem iteration_ne_panic (hbuf : buf.length < 2 ^ 63) {s : LoopState} (hrecord : RecordAt buf s.pos)
    (h : ¬ ShorterThanTag buf) : iteration buf hz s ≠ .error .panic := by
  by_cases hroom : s.pos + 8 ≤ buf.length
  · by_cases htag : recLen buf s.pos = 0 ∨ recKind buf s.pos = 0
    · simp [iteration_trailer hbuf hroom htag]
    by_cases hlong : buf.length < s.pos + (recLen buf s.pos).toNat
    · simp [iteration_truncated hbuf hroom htag hlong]
    rw [not_or] at htag
    have hlen : 8 ≤ (recLen buf s.pos).toNat := by
      by_contra hshort
      have hpos : 0 < (recLen buf s.pos).toNat :=
        Nat.pos_of_ne_zero fun hzero => htag.1 (UInt32.toNat_inj.mp hzero)
      exact h ⟨s.pos, hrecord, hroom, htag.2, hpos, Nat.not_le.mp hshort⟩
    obtain ⟨t, hgo, -⟩ := iteration_goes hz hbuf htag.2 hlen (Nat.not_lt.mp hlong)
    simp [hgo]
  · simp [iteration_end (hrecord.bound hbuf) (Nat.not_le.mp hroom)]

/-! ### The parser -/

/-- Without a record that is shorter than its tag the parser returns. -/
theorem returns_of_tags (hbuf : buf.length < 2 ^ 63) (h : ¬ ShorterThanTag buf) : Returns buf hz := by
  rcases hskip : skipHeader buf with e | pos
  · refine ⟨.error e, (parses_error hskip).mpr rfl, fun hpanic => ?_⟩
    obtain rfl : e = .panic := by simpa using hpanic
    exact skipHeader_ne_panic hskip
  have hhead := skipHeader_ok_iff.mp hskip
  obtain ⟨r, hends⟩ := loop_ends hz hbuf (start pos)
  refine ⟨_, (parses_ok hskip).mpr ⟨r, hends, rfl⟩, ?_⟩
  obtain ⟨s, hreach, ⟨e, hfail, rfl⟩ | ⟨t, -, rfl⟩⟩ := hends.last
  · intro hpanic
    obtain rfl : e = .panic := by simpa [Except.map] using hpanic
    exact iteration_ne_panic hbuf (recordAt_of_reaches hbuf hhead hreach) h hfail
  · simp [Except.map]

/-- At one the parser panics. -/
theorem parses_panic (hbuf : buf.length < 2 ^ 63) (hz : Int32) (h : ShorterThanTag buf) :
    Parses buf hz (.error .panic) := by
  obtain ⟨pos, hrecord, hroom, hkind, hpos, hshort⟩ := h
  obtain ⟨p, s, hhead, hreach, rfl⟩ := reaches_record hbuf hz hrecord
  have htag : ¬ (recLen buf s.pos = 0 ∨ recKind buf s.pos = 0) := by
    rintro (hzero | hzero)
    · simp [hzero] at hpos
    · exact hkind hzero
  have hfail := iteration_short hz hbuf hroom htag hshort
  exact (parses_ok (skipHeader_ok_iff.mpr hhead)).mpr ⟨_, hreach.ends_iff.mpr (.fail hfail), rfl⟩

/-- The parser returns on a buffer, its cursor moving forward in every iteration, just if no
record of the buffer is shorter than its tag. -/
theorem parsePcblistN_returns_iff (buf : Slice) (hz : Int32) :
    (Returns buf.bytes hz ∧ ∀ s t, iteration buf.bytes hz s = .ok (.go t) → s.pos < t.pos) ↔
      ¬ ShorterThanTag buf.bytes := by
  constructor
  · rintro ⟨⟨r, hparses, hne⟩, -⟩ hshort
    exact hne (hparses.unique (parses_panic buf.fits hz hshort))
  · intro h
    refine ⟨returns_of_tags buf.fits h, fun s t hstep => ?_⟩
    have := iteration_advances buf.fits hstep
    omega

/-- A header, and a record of four bytes. -/
def shortTag : Slice where
  bytes := le32 24 ++ le32 0 ++ le64 1 ++ le64 0 ++ le32 4 ++ le32 XSO_SOCKET
  fits := by decide

/-- The parser panics at it. -/
theorem shortTag_panics : ¬ Returns shortTag.bytes 100 := by
  rintro ⟨r, hparses, hne⟩
  have hpanic : Parses shortTag.bytes 100 (.error .panic) := ⟨1, rfl⟩
  exact hne (hparses.unique hpanic)

end TcpStats.Client.Macos
