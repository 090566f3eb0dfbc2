import TcpStats.Client.MacosFields

/-!
# The loop of the macOS parser

What one iteration of `parse_pcblist_n` does, by the tag it finds: it ends the loop, refuses a
record that goes beyond the buffer, takes a record and goes on behind it, or panics, at a
record that is shorter than its own tag. Every iteration that goes on moves the cursor forward, so
the loop ends (`loop_ends`), and the parser comes to one thing (`Parses.unique`).
-/

namespace TcpStats.Client.Macos

open Bytes Panic

theorem roundup64_eq (len : UInt32) : roundup64 len = (len.toNat + 7) / 8 * 8 := by
  have := len.toNat_lt
  rw [roundup64, Bits.toNat_and_not_seven, UInt64.toNat_add, UInt32.toNat_toUInt64]
  change (len.toNat + 7) % 2 ^ 64 / 8 * 8 = _
  omega

/-! ### The header -/

/-- The length that the header gives itself. -/
def headerLen (buf : List UInt8) : UInt32 := u32At buf XINPGEN_LEN_OFFSET

/-- The header is accepted, and the records begin at `pos`. -/
structure HeaderEnds (buf : List UInt8) (pos : ℕ) : Prop where
  room : 4 ≤ buf.length
  nonzero : headerLen buf ≠ 0
  fits : (headerLen buf).toNat ≤ buf.length
  pos : pos = roundup64 (headerLen buf)

section Header

variable {buf : List UInt8} {pos : ℕ}

theorem skipHeader_ok_iff : skipHeader buf = .ok pos ↔ HeaderEnds buf pos := by
  by_cases hroom : buf.length < 4
  · constructor
    · intro h
      simp [skipHeader, hroom] at h
    · intro h
      exact absurd h.room (Nat.not_le.mpr hroom)
  have hread : readU32At buf XINPGEN_LEN_OFFSET = .ok (headerLen buf) :=
    readU32At_ok (by decide) (by simpa [XINPGEN_LEN_OFFSET] using hroom)
  rw [skipHeader, if_neg hroom, hread, ok_bind]
  by_cases hlen : headerLen buf = 0 ∨ (headerLen buf).toNat > buf.length
  · rw [if_pos hlen]
    constructor
    · intro h
      simp at h
    · intro h
      rcases hlen with hzero | hlong
      · exact absurd hzero h.nonzero
      · exact absurd h.fits (Nat.not_le.mpr hlong)
  · rw [if_neg hlen, pure_eq_ok, Except.ok.injEq]
    constructor
    · rintro rfl
      exact ⟨Nat.not_lt.mp hroom, fun hzero => hlen (.inl hzero), Nat.not_lt.mp fun hlong => hlen (.inr hlong), rfl⟩
    · intro h
      exact h.pos.symm

theorem skipHeader_ne_panic : skipHeader buf ≠ .error .panic := by
  by_cases hroom : buf.length < 4
  · simp [skipHeader, hroom]
  have hread : readU32At buf XINPGEN_LEN_OFFSET = .ok (headerLen buf) :=
    readU32At_ok (by decide) (by simpa [XINPGEN_LEN_OFFSET] using hroom)
  rw [skipHeader, if_neg hroom, hread, ok_bind]
  by_cases hlen : headerLen buf = 0 ∨ (headerLen buf).toNat > buf.length
  · simp [if_pos hlen]
  · simp [if_neg hlen]

end Header

/-! ### The records taken -/

namespace LoopState

variable (hz : Int32) (body : List UInt8)

/-- A socket record ends the connection before it and begins one. -/
theorem take_socket : ∃ acc : ConnectionAccumulator, acc.hasSocket = true ∧
    ∀ s : LoopState, s.take hz XSO_SOCKET body = .ok { s with acc := acc, records := s.finish } := by
  refine ⟨(default : ConnectionAccumulator).withXsocketN body, rfl, fun s => ?_⟩
  rw [take, if_pos rfl, ConnectionAccumulator.parseXsocketN_ok, ok_bind, pure_eq_ok]
  rfl

/-- Every other record changes the fields of its connection, if anything. -/
theorem take_other {kind : UInt32} (h : kind ≠ XSO_SOCKET) :
    ∃ f : ConnectionAccumulator → ConnectionAccumulator,
    (∀ acc, (f acc).hasSocket = acc.hasSocket) ∧
      ∀ s : LoopState, s.take hz kind body = .ok { s with acc := f s.acc } := by
  by_cases hrcv : kind = XSO_RCVBUF
  · refine ⟨(·.withRcvbuf body), fun _ => rfl, fun s => ?_⟩
    simp only [take, if_neg h, if_pos hrcv, ConnectionAccumulator.parseRcvbuf_ok, ok_bind, pure_eq_ok]
  by_cases hsnd : kind = XSO_SNDBUF
  · refine ⟨(·.withSndbuf body), fun _ => rfl, fun s => ?_⟩
    simp only [take, if_neg h, if_neg hrcv, if_pos hsnd, ConnectionAccumulator.parseSndbuf_ok, ok_bind, pure_eq_ok]
  by_cases hstats : kind = XSO_STATS
  · refine ⟨id, fun _ => rfl, fun s => ?_⟩
    simp only [take, if_neg h, if_neg hrcv, if_neg hsnd, if_pos hstats, pure_eq_ok, id]
  by_cases hinpcb : kind = XSO_INPCB
  · by_cases hlen : body.length ≤ XINPCB_N_INP_VFLAG_OFFSET
    · refine ⟨id, fun _ => rfl, fun s => ?_⟩
      simp only [take, if_neg h, if_neg hrcv, if_neg hsnd, if_neg hstats, if_pos hinpcb,
        ConnectionAccumulator.parseXinpcbN_short _ hlen, ok_bind, pure_eq_ok, id]
    · refine ⟨(·.withXinpcbN body), fun _ => rfl, fun s => ?_⟩
      simp only [take, if_neg h, if_neg hrcv, if_neg hsnd, if_neg hstats, if_pos hinpcb,
        ConnectionAccumulator.parseXinpcbN_ok _ (Nat.not_le.mp hlen), ok_bind, pure_eq_ok]
  by_cases htcpcb : kind = XSO_TCPCB
  · refine ⟨(·.withXtcpcbN body hz), fun _ => rfl, fun s => ?_⟩
    simp only [take, if_neg h, if_neg hrcv, if_neg hsnd, if_neg hstats, if_neg hinpcb, if_pos htcpcb,
      ConnectionAccumulator.parseXtcpcbN_ok, ok_bind, pure_eq_ok]
  · refine ⟨id, fun _ => rfl, fun s => ?_⟩
    simp only [take, if_neg h, if_neg hrcv, if_neg hsnd, if_neg hstats, if_neg hinpcb, if_neg htcpcb,
      pure_eq_ok, id]

/-- Taking a record does not fail, and leaves the cursor alone. -/
theorem take_ok (s : LoopState) (kind : UInt32) : ∃ t, s.take hz kind body = .ok t ∧ t.pos = s.pos := by
  by_cases h : kind = XSO_SOCKET
  · obtain ⟨acc, -, htake⟩ := take_socket hz body
    rw [h]
    exact ⟨_, htake s, rfl⟩
  · obtain ⟨f, -, htake⟩ := take_other hz body h
    exact ⟨_, htake s, rfl⟩

end LoopState

/-! ### One iteration -/

/-- The length of the record at a place. -/
def recLen (buf : List UInt8) (pos : ℕ) : UInt32 := u32At buf (pos + TAG_LEN_OFFSET)

/-- Its kind. -/
def recKind (buf : List UInt8) (pos : ℕ) : UInt32 := u32At buf (pos + TAG_KIND_OFFSET)

section Iteration

variable {buf : List UInt8} {hz : Int32} {s : LoopState}

/-- There is no room for another tag. -/
theorem iteration_end (hsize : s.pos + 8 < 2 ^ 64) (h : buf.length < s.pos + 8) :
    iteration buf hz s = .ok (.exit s) := by
  rw [iteration, TAG_HEADER_SIZE, add_ok hsize, ok_bind, if_pos h, pure_eq_ok]

/-- The iteration once it has read a tag. -/
theorem iteration_tag (hbuf : buf.length < 2 ^ 63) (h : s.pos + 8 ≤ buf.length) : iteration buf hz s =
    if recLen buf s.pos = 0 ∨ recKind buf s.pos = 0 then .ok (.exit s)
    else if buf.length < s.pos + (recLen buf s.pos).toNat then
      .error (.error (.truncated s.pos (recLen buf s.pos).toNat (buf.length - s.pos)))
    else do
      let body ← slice buf (s.pos + 8) (s.pos + (recLen buf s.pos).toNat)
      let t ← s.take hz (recKind buf s.pos) body
      return .go { t with pos := s.pos + roundup64 (recLen buf s.pos) } := by
  have hlen := (recLen buf s.pos).toNat_lt
  have hround : roundup64 (recLen buf s.pos) ≤ 2 ^ 32 + 7 := by
    rw [roundup64_eq]
    omega
  simp only [recLen, TAG_LEN_OFFSET] at hlen hround
  simp (disch := omega) only [iteration, recLen, recKind, TAG_HEADER_SIZE, TAG_LEN_OFFSET, TAG_KIND_OFFSET, add_ok,
    sub_ok, readU32At_ok, ok_bind, pure_eq_ok, gt_iff_lt]
  rw [if_neg (Nat.not_lt.mpr h)]
  rfl

/-- The trailer, or what looks like it. -/
theorem iteration_trailer (hbuf : buf.length < 2 ^ 63) (h : s.pos + 8 ≤ buf.length)
    (htrailer : recLen buf s.pos = 0 ∨ recKind buf s.pos = 0) : iteration buf hz s = .ok (.exit s) := by
  rw [iteration_tag hbuf h, if_pos htrailer]

/-- A record that goes beyond the buffer. -/
theorem iteration_truncated (hbuf : buf.length < 2 ^ 63) (h : s.pos + 8 ≤ buf.length)
    (htag : ¬ (recLen buf s.pos = 0 ∨ recKind buf s.pos = 0))
    (hlong : buf.length < s.pos + (recLen buf s.pos).toNat) :
    iteration buf hz s =
      .error (.error (.truncated s.pos (recLen buf s.pos).toNat (buf.length - s.pos))) := by
  rw [iteration_tag hbuf h, if_neg htag, if_pos hlong]

/-- A record that is shorter than its tag: the body begins behind its end. -/
theorem iteration_short (hz : Int32) (hbuf : buf.length < 2 ^ 63) (h : s.pos + 8 ≤ buf.length)
    (htag : ¬ (recLen buf s.pos = 0 ∨ recKind buf s.pos = 0)) (hshort : (recLen buf s.pos).toNat < 8) :
    iteration buf hz s = .error .panic := by
  rw [iteration_tag hbuf h, if_neg htag, if_neg (by omega), slice_panic (by omega)]
  rfl

/-- A record. -/
theorem iteration_record (hz : Int32) (hbuf : buf.length < 2 ^ 63) (hkind : recKind buf s.pos ≠ 0)
    (hlen : 8 ≤ (recLen buf s.pos).toNat) (hend : s.pos + (recLen buf s.pos).toNat ≤ buf.length) :
    iteration buf hz s = do
      let t ← s.take hz (recKind buf s.pos) (bytesAt buf (s.pos + 8) ((recLen buf s.pos).toNat - 8))
      return .go { t with pos := s.pos + roundup64 (recLen buf s.pos) } := by
  have htag : ¬ (recLen buf s.pos = 0 ∨ recKind buf s.pos = 0) := by
    rintro (hzero | hzero)
    · simp [hzero] at hlen
    · exact hkind hzero
  rw [iteration_tag hbuf (by omega), if_neg htag, if_neg (by omega), slice_ok (by omega) hend, ok_bind,
    Nat.add_sub_add_left]

/-- It goes on behind the record. -/
theorem iteration_goes (hz : Int32) (hbuf : buf.length < 2 ^ 63) (hkind : recKind buf s.pos ≠ 0)
    (hlen : 8 ≤ (recLen buf s.pos).toNat) (hend : s.pos + (recLen buf s.pos).toNat ≤ buf.length) :
    ∃ t, iteration buf hz s = .ok (.go t) ∧ t.pos = s.pos + roundup64 (recLen buf s.pos) := by
  obtain ⟨t, htake, -⟩ := s.take_ok hz (bytesAt buf (s.pos + 8) ((recLen buf s.pos).toNat - 8)) (recKind buf s.pos)
  refine ⟨{ t with pos := s.pos + roundup64 (recLen buf s.pos) }, ?_, rfl⟩
  rw [iteration_record hz hbuf hkind hlen hend, htake, ok_bind, pure_eq_ok]

/-- What is so of an iteration that goes on. -/
theorem iteration_go {t : LoopState} (hbuf : buf.length < 2 ^ 63) (h : iteration buf hz s = .ok (.go t)) :
    recKind buf s.pos ≠ 0 ∧ 8 ≤ (recLen buf s.pos).toNat ∧ s.pos + (recLen buf s.pos).toNat ≤ buf.length ∧
      t.pos = s.pos + roundup64 (recLen buf s.pos) := by
  by_cases hroom : s.pos + 8 ≤ buf.length
  · by_cases htag : recLen buf s.pos = 0 ∨ recKind buf s.pos = 0
    · simp [iteration_trailer hbuf hroom htag] at h
    by_cases hlong : buf.length < s.pos + (recLen buf s.pos).toNat
    · simp [iteration_truncated hbuf hroom htag hlong] at h
    by_cases hshort : (recLen buf s.pos).toNat < 8
    · simp [iteration_short hz hbuf hroom htag hshort] at h
    have hkind : recKind buf s.pos ≠ 0 := fun hzero => htag (.inr hzero)
    obtain ⟨u, hgo, hpos⟩ := iteration_goes hz hbuf hkind (by omega) (by omega)
    rw [hgo, Except.ok.injEq, While.Next.go.injEq] at h
    subst h
    exact ⟨hkind, by omega, by omega, hpos⟩
  · -- Without room for a tag the loop ends, or the sum overflows.
    by_cases hsize : s.pos + 8 < 2 ^ 64
    · simp [iteration_end hsize (Nat.not_le.mp hroom)] at h
    · rw [iteration, TAG_HEADER_SIZE, add_panic hsize, error_bind] at h
      simp at h

/-- The cursor moves forward, by a tag at least. -/
theorem iteration_advances {t : LoopState} (hbuf : buf.length < 2 ^ 63)
    (h : iteration buf hz s = .ok (.go t)) :
    s.pos + 8 ≤ t.pos := by
  obtain ⟨-, hlen, -, hpos⟩ := iteration_go hbuf h
  rw [hpos, roundup64_eq]
  omega

end Iteration

/-! ### The whole loop -/

section Loop

variable {buf : List UInt8} {hz : Int32}

/-- The loop ends, from wherever. -/
theorem loop_ends (hz : Int32) (hbuf : buf.length < 2 ^ 63) (s : LoopState) :
    ∃ r, While.Ends (iteration buf hz) s r := by
  apply While.exists_ends fun s : LoopState => buf.length + 1 - s.pos
  intro s t h
  have hadvance := iteration_advances hbuf h
  obtain ⟨-, hlen, hend, -⟩ := iteration_go hbuf h
  change buf.length + 1 - t.pos < buf.length + 1 - s.pos
  omega

/-- The start of the loop. -/
def start (pos : ℕ) : LoopState := ⟨pos, default, []⟩

theorem parses_error {e : Stop CollectError} (h : skipHeader buf = .error e)
    {r : Outcome (List RawSocketRecord)} : Parses buf hz r ↔ r = .error e := by
  have hparse : ∀ fuel, parsePcblistN fuel buf hz = some (.error e) := fun fuel => by rw [parsePcblistN, h]
  simp only [Parses, hparse, Option.some.injEq, exists_const, eq_comm]

theorem parses_ok {pos : ℕ} (h : skipHeader buf = .ok pos) {r : Outcome (List RawSocketRecord)} :
    Parses buf hz r ↔ ∃ e, While.Ends (iteration buf hz) (start pos) e ∧ r = e.map LoopState.finish := by
  have hparse : ∀ fuel, parsePcblistN fuel buf hz =
      (While.run (iteration buf hz) fuel (start pos)).map (Except.map LoopState.finish) := by
    intro fuel
    rw [parsePcblistN, h]
    rfl
  simp only [Parses, hparse, Option.map_eq_some_iff, While.ends_iff]
  constructor
  · rintro ⟨fuel, e, hrun, rfl⟩
    exact ⟨e, ⟨fuel, hrun⟩, rfl⟩
  · rintro ⟨e, ⟨fuel, hrun⟩, rfl⟩
    exact ⟨fuel, e, hrun, rfl⟩

/-- The parser comes to one thing. -/
theorem Parses.unique {r r' : Outcome (List RawSocketRecord)} (h : Parses buf hz r)
    (h' : Parses buf hz r') :
    r = r' := by
  rcases hskip : skipHeader buf with e | pos
  · rw [parses_error hskip] at h h'
    rw [h, h']
  · obtain ⟨e, he, rfl⟩ := (parses_ok hskip).mp h
    obtain ⟨e', he', rfl⟩ := (parses_ok hskip).mp h'
    rw [he.unique he']

end Loop

end TcpStats.Client.Macos
