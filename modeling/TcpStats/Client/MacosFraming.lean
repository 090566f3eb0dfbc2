import TcpStats.Client.MacosLoop

/-!
# The framing of a macOS snapshot

A snapshot is a header, the records of the connections, each connection begun by its socket
record, and a trailer that has the form of the header. From the connections `parse_pcblist_n`
makes the records that they make alone, in their order (`takeAll_groups`). But it knows the
trailer only by the kind that it would have as a record, and that is its count of connections.
So nothing of the trailer comes through just if the count is not the kind of a socket record,
nor, when there are connections, that of a record whose fields the 16 bytes behind the count fill
(`framing_iff`).
-/

namespace TcpStats.Client.Macos

open Bytes Panic

/-! ### Snapshots -/

/-- `struct xinpgen`, the header and the trailer. -/
structure Xinpgen where
  count : UInt32
  gen : UInt64
  sogen : UInt64

def Xinpgen.bytes (x : Xinpgen) : List UInt8 := le32 24 ++ le32 x.count ++ le64 x.gen ++ le64 x.sogen

@[simp] theorem Xinpgen.length_bytes (x : Xinpgen) : x.bytes.length = 24 := by
  simp [bytes]

/-- A tagged record, which is padded to a multiple of 8 bytes. -/
structure Tagged where
  kind : UInt32
  body : List UInt8
  padding : List UInt8
  /-- A kind of zero marks the trailer. -/
  named : kind ≠ 0
  /-- The length is a 32-bit word. -/
  fits : TAG_HEADER_SIZE + body.length < 2 ^ 32
  aligned : TAG_HEADER_SIZE + body.length + padding.length = roundup64 (.ofNat (TAG_HEADER_SIZE + body.length))

def Tagged.bytes (r : Tagged) : List UInt8 :=
  le32 (.ofNat (TAG_HEADER_SIZE + r.body.length)) ++ le32 r.kind ++ r.body ++ r.padding

/-- The records of a connection. -/
structure Group where
  socket : Tagged
  rest : List Tagged
  opens : socket.kind = XSO_SOCKET
  closed : ∀ r ∈ rest, r.kind ≠ XSO_SOCKET

def Group.records (g : Group) : List Tagged := g.socket :: g.rest

def Group.bytes (g : Group) : List UInt8 := g.records.flatMap Tagged.bytes

/-- The buffer of a snapshot. -/
def snapshot (header : Xinpgen) (groups : List Group) (trailer : Xinpgen) : List UInt8 :=
  header.bytes ++ groups.flatMap Group.bytes ++ trailer.bytes

/-- The `match` of the loop, for records in turn. -/
def takeAll (hz : Int32) (rs : List Tagged) (s : LoopState) : Outcome LoopState :=
  rs.foldlM (fun s r => s.take hz r.kind r.body) s

/-- `r` is what the records of a connection make alone. -/
def Own (hz : Int32) (g : Group) (r : RawSocketRecord) : Prop :=
  (takeAll hz g.records (start 0)).map LoopState.finish = .ok [r]

variable {hz : Int32}

theorem takeAll_cons (r : Tagged) (rs : List Tagged) (s : LoopState) :
    takeAll hz (r :: rs) s = s.take hz r.kind r.body >>= takeAll hz rs := rfl

theorem takeAll_append (rs ss : List Tagged) (s : LoopState) :
    takeAll hz (rs ++ ss) s = takeAll hz rs s >>= takeAll hz ss := List.foldlM_append

/-! ### The records of a connection -/

/-- What follows the socket record leaves the finished records alone. -/
theorem takeAll_rest (hz : Int32) {rs : List Tagged} (h : ∀ r ∈ rs, r.kind ≠ XSO_SOCKET) :
    ∃ f : ConnectionAccumulator → ConnectionAccumulator, (∀ acc, (f acc).hasSocket = acc.hasSocket) ∧
      ∀ s : LoopState, takeAll hz rs s = .ok { s with acc := f s.acc } := by
  induction rs with
  | nil => exact ⟨id, fun _ => rfl, fun _ => rfl⟩
  | cons r rs ih =>
    obtain ⟨f, hf, htake⟩ := LoopState.take_other hz r.body (h r (List.mem_cons_self ..))
    obtain ⟨g, hg, hrest⟩ := ih fun r' hr' => h r' (List.mem_cons_of_mem _ hr')
    refine ⟨g ∘ f, fun acc => (hg _).trans (hf acc), fun s => ?_⟩
    rw [takeAll_cons, htake, ok_bind, hrest]
    rfl

/-- A connection ends the one before it, and nothing else of the state matters to it. -/
theorem takeAll_group (hz : Int32) (g : Group) : ∃ acc : ConnectionAccumulator, acc.hasSocket = true ∧
    ∀ s : LoopState, takeAll hz g.records s = .ok { s with acc := acc, records := s.finish } := by
  obtain ⟨acc, hacc, htake⟩ := LoopState.take_socket hz g.socket.body
  obtain ⟨f, hf, hrest⟩ := takeAll_rest hz g.closed
  refine ⟨f acc, (hf acc).trans hacc, fun s => ?_⟩
  rw [Group.records, takeAll_cons, g.opens, htake, ok_bind, hrest]

/-- The records of a state within a connection: those finished, and that of the connection. -/
theorem finish_of_hasSocket {s : LoopState} (h : s.acc.hasSocket = true) :
    s.finish = s.records ++ [{ s.acc.record with sources := [MACOS_PCBLIST_N] }] := by
  rw [LoopState.finish, ConnectionAccumulator.build, if_pos h]
  rfl

/-- The connections of a list make what each makes alone, in their order. -/
theorem takeAll_groups (hz : Int32) (groups : List Group) : ∃ rs, List.Forall₂ (Own hz) groups rs ∧
    ∀ s : LoopState, ∃ t, takeAll hz (groups.flatMap Group.records) s = .ok t ∧ t.finish = s.finish ++ rs ∧
      (groups ≠ [] → t.acc.hasSocket = true) ∧ (groups = [] → t = s) := by
  induction groups with
  | nil => exact ⟨[], .nil, fun s => ⟨s, rfl, (List.append_nil _).symm, fun h => absurd rfl h, fun _ => rfl⟩⟩
  | cons g groups ih =>
    obtain ⟨acc, hacc, hgroup⟩ := takeAll_group hz g
    obtain ⟨rs, hown, hgroups⟩ := ih
    refine ⟨{ acc.record with sources := [MACOS_PCBLIST_N] } :: rs, .cons ?_ hown, fun s => ?_⟩
    · rw [Own, hgroup]
      exact congrArg Except.ok (finish_of_hasSocket hacc)
    obtain ⟨t, htake, hfinish, hsocket, hsame⟩ := hgroups { s with acc := acc, records := s.finish }
    refine ⟨t, ?_, ?_, fun _ => ?_, nofun⟩
    · rw [List.flatMap_cons, takeAll_append, hgroup, ok_bind, htake]
    · rw [hfinish, finish_of_hasSocket hacc]
      simp
    · by_cases hnil : groups = []
      · rw [hsame hnil]
        exact hacc
      · exact hsocket hnil

/-! ### The records in the buffer -/

/-- The cursor plays no part in what a record does. -/
theorem take_moved (hz : Int32) (kind : UInt32) (body : List UInt8) (s : LoopState) (pos : ℕ) :
    LoopState.take { s with pos := pos } hz kind body =
      (s.take hz kind body).map fun t => { t with pos := pos } := by
  by_cases h : kind = XSO_SOCKET
  · obtain ⟨acc, -, htake⟩ := LoopState.take_socket hz body
    rw [h, htake, htake]
    rfl
  · obtain ⟨f, -, htake⟩ := LoopState.take_other hz body h
    rw [htake, htake]
    rfl

theorem takeAll_moved (rs : List Tagged) (s : LoopState) (pos : ℕ) :
    takeAll hz rs { s with pos := pos } = (takeAll hz rs s).map fun t => { t with pos := pos } := by
  induction rs generalizing s with
  | nil => rfl
  | cons r rs ih =>
    rw [takeAll_cons, takeAll_cons, take_moved]
    rcases s.take hz r.kind r.body with e | t
    · rfl
    · exact ih t

@[simp] theorem Tagged.length_bytes (r : Tagged) :
    r.bytes.length = roundup64 (.ofNat (TAG_HEADER_SIZE + r.body.length)) := by
  rw [← r.aligned, bytes, TAG_HEADER_SIZE]
  simp
  omega

section Buffer

variable {buf front back : List UInt8} {r : Tagged}

theorem recLen_tagged (hbuf : buf = front ++ (r.bytes ++ back)) :
    (recLen buf front.length).toNat = TAG_HEADER_SIZE + r.body.length := by
  have hlen : recLen buf front.length = .ofNat (TAG_HEADER_SIZE + r.body.length) := by
    apply u32At_of_bytesAt
    rw [hbuf, TAG_LEN_OFFSET, bytesAt_append_right (by omega), Nat.add_zero, Nat.sub_self, Tagged.bytes]
    simp only [List.append_assoc]
    rw [bytesAt_append_left (by simp), bytesAt_self (length_le32 _)]
  rw [hlen, UInt32.toNat_ofNat_of_lt' r.fits]

theorem recKind_tagged (hbuf : buf = front ++ (r.bytes ++ back)) : recKind buf front.length = r.kind := by
  apply u32At_of_bytesAt
  rw [hbuf, TAG_KIND_OFFSET, bytesAt_append_right (by omega), Nat.add_sub_cancel_left, Tagged.bytes]
  simp only [List.append_assoc]
  rw [bytesAt_append_right (by simp), length_le32, bytesAt_append_left (by simp), bytesAt_self (length_le32 _)]

theorem body_tagged (hbuf : buf = front ++ (r.bytes ++ back)) :
    bytesAt buf (front.length + 8) r.body.length = r.body := by
  rw [hbuf, bytesAt_append_right (by omega), Nat.add_sub_cancel_left, Tagged.bytes]
  simp only [List.append_assoc]
  rw [bytesAt_append_right (by simp), length_le32, bytesAt_append_right (by simp), length_le32,
    bytesAt_append_left (by simp), bytesAt_self rfl]

/-- The iteration that finds a tagged record takes it, and goes on behind its padding. -/
theorem iteration_tagged (hz : Int32) (hsize : buf.length < 2 ^ 63)
    (hbuf : buf = front ++ (r.bytes ++ back)) {s : LoopState}
    (hpos : s.pos = front.length) : iteration buf hz s = do
      let t ← s.take hz r.kind r.body
      return .go { t with pos := (front ++ r.bytes).length } := by
  have hlen := recLen_tagged hbuf
  have hkind := recKind_tagged hbuf
  have hbody := body_tagged hbuf
  have hend : front.length + (TAG_HEADER_SIZE + r.body.length) ≤ buf.length := by
    rw [hbuf, List.length_append, List.length_append, Tagged.length_bytes, ← r.aligned]
    omega
  have hround : roundup64 (recLen buf front.length) = r.bytes.length := by
    rw [Tagged.length_bytes, ← hlen, UInt32.ofNat_toNat]
  rw [← hpos] at hlen hkind hbody hend hround
  rw [iteration_record hz hsize (by rw [hkind]; exact r.named) (by rw [hlen, TAG_HEADER_SIZE]; omega)
    (by rw [hlen]; exact hend), hkind, hlen, TAG_HEADER_SIZE, Nat.add_sub_cancel_left, hbody, hround,
    List.length_append, hpos]

end Buffer

/-- The loop takes the records of a part of the buffer in turn. -/
theorem reaches_takeAll {buf front back : List UInt8} {rs : List Tagged} (hsize : buf.length < 2 ^ 63)
    (hbuf : buf = front ++ (rs.flatMap Tagged.bytes ++ back)) {s t : LoopState} (hpos : s.pos = front.length)
    (h : takeAll hz rs s = .ok t) :
    While.Reaches (iteration buf hz) s { t with pos := (front ++ rs.flatMap Tagged.bytes).length } := by
  induction rs generalizing front s t with
  | nil =>
    obtain rfl : s = t := by simpa [takeAll] using h
    rw [List.flatMap_nil, List.append_nil, ← hpos]
    exact .refl
  | cons r rs ih =>
    obtain ⟨u, htake, -⟩ := s.take_ok hz r.body r.kind
    rw [takeAll_cons, htake, ok_bind] at h
    rw [List.flatMap_cons, List.append_assoc] at hbuf
    have hstep := iteration_tagged hz hsize hbuf hpos
    rw [htake, ok_bind, pure_eq_ok] at hstep
    have hrest : takeAll hz rs { u with pos := (front ++ r.bytes).length } =
        .ok { t with pos := (front ++ r.bytes).length } := by
      rw [takeAll_moved, h]
      rfl
    have hbuf' : buf = (front ++ r.bytes) ++ (rs.flatMap Tagged.bytes ++ back) := by
      rw [hbuf, List.append_assoc]
    rw [List.flatMap_cons, ← List.append_assoc]
    have hreach := ih hbuf' rfl hrest
    exact .head hstep hreach

/-! ### The header and the trailer -/

theorem skipHeader_xinpgen (header : Xinpgen) (rest : List UInt8) :
    skipHeader (header.bytes ++ rest) = .ok 24 := by
  have hlen : headerLen (header.bytes ++ rest) = 24 := by
    simp only [Xinpgen.bytes, List.append_assoc]
    exact u32At_zero 24 _
  refine skipHeader_ok_iff.mpr ⟨by simp; omega, ?_, ?_, ?_⟩
  · rw [hlen]
    decide
  · rw [hlen]
    simp
  · rw [hlen]
    decide

/-- The trailer, read as a record. -/
def Xinpgen.tagged (x : Xinpgen) (h : x.count ≠ 0) : Tagged where
  kind := x.count
  body := le64 x.gen ++ le64 x.sogen
  padding := []
  named := h
  fits := by simp [TAG_HEADER_SIZE]
  aligned := by
    simp only [List.length_append, length_le64]
    decide

theorem Xinpgen.bytes_tagged (x : Xinpgen) (h : x.count ≠ 0) : (x.tagged h).bytes = x.bytes := by
  simp [Tagged.bytes, tagged, bytes, TAG_HEADER_SIZE]

section Snapshot

variable {header trailer : Xinpgen} {groups : List Group} {t : LoopState}

theorem snapshot_eq (header trailer : Xinpgen) (groups : List Group) : snapshot header groups trailer =
    header.bytes ++ ((groups.flatMap Group.records).flatMap Tagged.bytes ++ trailer.bytes) := by
  have hgroups : groups.flatMap Group.bytes = (groups.flatMap Group.records).flatMap Tagged.bytes :=
    List.flatMap_assoc.symm
  rw [snapshot, hgroups, List.append_assoc]

/-- Where the loop leaves a state alone the parser returns its records. -/
theorem parses_of_exit {buf : List UInt8} {pos p : ℕ} {s : LoopState} (hskip : skipHeader buf = .ok pos)
    (hreach : While.Reaches (iteration buf hz) (start pos) { s with pos := p })
    (hexit : iteration buf hz { s with pos := p } = .ok (.exit { s with pos := p })) :
    Parses buf hz (.ok s.finish) :=
  (parses_ok hskip).mpr ⟨_, hreach.ends_iff.mpr (.exit hexit), rfl⟩

/-- A count of zero ends the loop. -/
theorem parses_zero (hsize : (snapshot header groups trailer).length < 2 ^ 63)
    (ht : takeAll hz (groups.flatMap Group.records) (start 24) = .ok t) (hcount : trailer.count = 0) :
    Parses (snapshot header groups trailer) hz (.ok t.finish) := by
  have hbuf := snapshot_eq header trailer groups
  have hreach := reaches_takeAll hsize hbuf (s := start 24) (by rw [header.length_bytes]; rfl) ht
  refine parses_of_exit (by rw [hbuf]; exact skipHeader_xinpgen ..) hreach ?_
  apply iteration_trailer hsize
  · rw [hbuf]
    simp
    omega
  · right
    apply u32At_of_bytesAt
    rw [hbuf, ← List.append_assoc, TAG_KIND_OFFSET, bytesAt_append_right (Nat.le_add_right ..),
      Nat.add_sub_cancel_left, Xinpgen.bytes, hcount]
    simp only [List.append_assoc]
    rw [bytesAt_append_right (by simp), length_le32, bytesAt_append_left (by simp), bytesAt_self (length_le32 _)]

/-- Any other count makes a record of the trailer, which the loop takes. -/
theorem parses_record {u : LoopState} (hsize : (snapshot header groups trailer).length < 2 ^ 63)
    (ht : takeAll hz (groups.flatMap Group.records) (start 24) = .ok t) (hcount : trailer.count ≠ 0)
    (hu : t.take hz trailer.count (le64 trailer.gen ++ le64 trailer.sogen) = .ok u) :
    Parses (snapshot header groups trailer) hz (.ok u.finish) := by
  have hbuf : snapshot header groups trailer =
      header.bytes ++ ((groups.flatMap Group.records ++ [trailer.tagged hcount]).flatMap Tagged.bytes ++ []) := by
    rw [snapshot_eq, List.flatMap_append, List.flatMap_singleton, trailer.bytes_tagged, List.append_nil]
  have hall : takeAll hz (groups.flatMap Group.records ++ [trailer.tagged hcount]) (start 24) = .ok u := by
    rw [takeAll_append, ht, ok_bind]
    change (t.take hz trailer.count _ >>= pure) = _
    rw [bind_pure]
    exact hu
  have hreach := reaches_takeAll hsize hbuf (s := start 24) (by rw [header.length_bytes]; rfl) hall
  refine parses_of_exit (by rw [hbuf]; exact skipHeader_xinpgen ..) hreach ?_
  have hend : (header.bytes ++
      (groups.flatMap Group.records ++ [trailer.tagged hcount]).flatMap Tagged.bytes).length =
      (snapshot header groups trailer).length := by
    rw [hbuf, List.append_nil]
  apply iteration_end
  · change (header.bytes ++ _).length + 8 < 2 ^ 64
    rw [hend]
    omega
  · change _ < (header.bytes ++ _).length + 8
    rw [hend]
    omega

end Snapshot

/-! ### What comes through of the trailer -/

/-- The kinds of records whose fields 16 bytes fill. -/
def Fills (kind : UInt32) : Prop := kind = XSO_RCVBUF ∨ kind = XSO_SNDBUF ∨ kind = XSO_TCPCB

section Trailer

variable {kind : UInt32}

/-- A trailer whose count is no such kind does nothing as a record. -/
theorem take_idle (hsocket : kind ≠ XSO_SOCKET) (h : ¬ Fills kind) (s : LoopState) (gen sogen : UInt64) :
    s.take hz kind (le64 gen ++ le64 sogen) = .ok s := by
  simp only [Fills, not_or] at h
  obtain ⟨hrcv, hsnd, htcpcb⟩ := h
  rw [LoopState.take, if_neg hsocket, if_neg hrcv, if_neg hsnd]
  by_cases hstats : kind = XSO_STATS
  · rw [if_pos hstats, pure_eq_ok]
  rw [if_neg hstats]
  by_cases hinpcb : kind = XSO_INPCB
  · have hlen : (le64 gen ++ le64 sogen).length ≤ XINPCB_N_INP_VFLAG_OFFSET := by
      simp [XINPCB_N_INP_VFLAG_OFFSET]
    rw [if_pos hinpcb, ConnectionAccumulator.parseXinpcbN_short _ hlen, ok_bind, pure_eq_ok]
  · rw [if_neg hinpcb, if_neg htcpcb, pure_eq_ok]

theorem u32At_le64 (x : UInt64) (rest : List UInt8) : u32At (le64 x ++ rest) 0 = x.toUInt32 := by
  rw [le64, List.append_assoc]
  exact u32At_zero _ _

theorem fieldAt_first {α : Type} (value : List UInt8 → ℕ → α) (gen sogen : UInt64) (old : Option α) :
    fieldAt value 0 4 (le64 gen ++ le64 sogen) old = some (value (le64 gen ++ le64 sogen) 0) :=
  if_pos (by simp)

/-- A trailer whose count is one leaves the low word of its generation in the record. -/
theorem take_fills (hz : Int32) (h : Fills kind) : ∃ field : RawSocketRecord → Option UInt32,
    ∀ (s : LoopState) (gen sogen : UInt64), s.acc.hasSocket = true →
      ∃ t r, s.take hz kind (le64 gen ++ le64 sogen) = .ok t ∧ t.finish = s.records ++ [r] ∧
        field r = some gen.toUInt32 := by
  rcases h with rfl | rfl | rfl
  · refine ⟨fun r => r.rcvBufUsed, fun s gen sogen hsocket => ?_⟩
    have htake : s.take hz XSO_RCVBUF (le64 gen ++ le64 sogen) =
        .ok { s with acc := s.acc.withRcvbuf (le64 gen ++ le64 sogen) } := by
      rw [LoopState.take, if_neg (by decide), if_pos rfl, ConnectionAccumulator.parseRcvbuf_ok, ok_bind, pure_eq_ok]
    refine ⟨_, _, htake, finish_of_hasSocket hsocket, ?_⟩
    change fieldAt u32At 0 4 (le64 gen ++ le64 sogen) s.acc.record.rcvBufUsed = _
    rw [fieldAt_first, u32At_le64]
  · refine ⟨fun r => r.sndBufUsed, fun s gen sogen hsocket => ?_⟩
    have htake : s.take hz XSO_SNDBUF (le64 gen ++ le64 sogen) =
        .ok { s with acc := s.acc.withSndbuf (le64 gen ++ le64 sogen) } := by
      rw [LoopState.take, if_neg (by decide), if_neg (by decide), if_pos rfl, ConnectionAccumulator.parseSndbuf_ok,
        ok_bind, pure_eq_ok]
    refine ⟨_, _, htake, finish_of_hasSocket hsocket, ?_⟩
    change fieldAt u32At 0 4 (le64 gen ++ le64 sogen) s.acc.record.sndBufUsed = _
    rw [fieldAt_first, u32At_le64]
  · refine ⟨fun r => r.state.map Int32.toUInt32, fun s gen sogen hsocket => ?_⟩
    have htake : s.take hz XSO_TCPCB (le64 gen ++ le64 sogen) =
        .ok { s with acc := s.acc.withXtcpcbN (le64 gen ++ le64 sogen) hz } := by
      rw [LoopState.take, if_neg (by decide), if_neg (by decide), if_neg (by decide), if_neg (by decide),
        if_neg (by decide), if_pos rfl, ConnectionAccumulator.parseXtcpcbN_ok, ok_bind, pure_eq_ok]
    refine ⟨_, _, htake, finish_of_hasSocket hsocket, ?_⟩
    change (fieldAt i32At 0 4 (le64 gen ++ le64 sogen) s.acc.record.state).map Int32.toUInt32 = _
    rw [fieldAt_first, i32At, u32At_le64]
    rfl

end Trailer

/-! ### The law -/

/-- The parser returns a record for every connection, each the one that the connection makes
alone, whatever else the trailer says. -/
def Framed (hz : Int32) (header : Xinpgen) (groups : List Group) (count : UInt32) : Prop :=
  ∃ rs, List.Forall₂ (Own hz) groups rs ∧
    ∀ gen sogen, Parses (snapshot header groups ⟨count, gen, sogen⟩) hz (.ok rs)

theorem Own.unique {g : Group} {r r' : RawSocketRecord} (h : Own hz g r) (h' : Own hz g r') : r = r' := by
  rw [Own, h] at h'
  simpa using h'

/-- The connections of a snapshot are told from its trailer just if the count in the trailer is
not the kind of a socket record nor, with connections before it, of one that it fills. -/
theorem framing_iff (hz : Int32) (header : Xinpgen) (groups : List Group) (count : UInt32)
    (fits : 48 + (groups.flatMap Group.bytes).length < 2 ^ 63) :
    Framed hz header groups count ↔ count ≠ XSO_SOCKET ∧ (groups = [] ∨ ¬ Fills count) := by
  have hsize : ∀ gen sogen, (snapshot header groups ⟨count, gen, sogen⟩).length < 2 ^ 63 := by
    intro gen sogen
    simp only [snapshot, List.length_append, Xinpgen.length_bytes]
    omega
  obtain ⟨rs, hown, hgroups⟩ := takeAll_groups hz groups
  obtain ⟨t, htake, hfinish, hsocket, hsame⟩ := hgroups (start 24)
  rw [show (start 24).finish = [] from rfl, List.nil_append] at hfinish
  constructor
  · rintro ⟨ss, howns, hparses⟩
    have hlen : ss.length = rs.length := by rw [← howns.length_eq, hown.length_eq]
    constructor
    · -- The trailer begins a connection of its own.
      rintro rfl
      obtain ⟨acc, hacc, hone⟩ := LoopState.take_socket hz (le64 0 ++ le64 0)
      have hrecord := parses_record (hsize 0 0) htake (by decide) (hone t)
      have hextra := (hparses 0 0).unique hrecord
      rw [Except.ok.injEq, finish_of_hasSocket hacc, hfinish] at hextra
      rw [hextra] at hlen
      simp at hlen
    · by_contra hneither
      rw [not_or, not_not] at hneither
      obtain ⟨hne, hfills⟩ := hneither
      have hzero : count ≠ 0 := by
        rcases hfills with rfl | rfl | rfl <;> decide
      -- Two generations leave two words in the last record.
      obtain ⟨field, hfield⟩ := take_fills hz hfills
      have hword : ∀ gen : UInt64, ∃ r, ss = t.records ++ [r] ∧ field r = some gen.toUInt32 := by
        intro gen
        obtain ⟨u, r, hu, hlast, hr⟩ := hfield t gen 0 (hsocket hne)
        have hrecord := parses_record (hsize gen 0) htake hzero hu
        have hsame := (hparses gen 0).unique hrecord
        rw [Except.ok.injEq, hlast] at hsame
        exact ⟨r, hsame, hr⟩
      obtain ⟨r, hss, hr⟩ := hword 0
      obtain ⟨r', hss', hr'⟩ := hword 1
      obtain rfl : r = r' := by simpa [hss] using hss'
      rw [hr] at hr'
      exact absurd (Option.some.inj hr') (by decide)
  · rintro ⟨hone, hfills⟩
    refine ⟨rs, hown, fun gen sogen => ?_⟩
    rw [← hfinish]
    by_cases hzero : count = 0
    · exact parses_zero (hsize gen sogen) htake hzero
    rcases hfills with rfl | hfills
    · -- Without a connection there is no record to fill.
      obtain rfl := hsame rfl
      obtain ⟨f, hf, hother⟩ := LoopState.take_other hz (le64 gen ++ le64 sogen) hone
      have hrecord := parses_record (hsize gen sogen) htake hzero (hother _)
      have hnone : (f (default : ConnectionAccumulator)).build = none := if_neg (by rw [hf]; decide)
      change Parses _ hz (.ok ([] ++ (f (default : ConnectionAccumulator)).build.toList)) at hrecord
      rw [hnone] at hrecord
      exact hrecord
    · exact parses_record (hsize gen sogen) htake hzero (take_idle hone hfills t gen sogen)

/-- A connection that is a socket record without a body. -/
def lone : Group where
  socket := ⟨XSO_SOCKET, [], [], by decide, by decide, by decide⟩
  rest := []
  opens := rfl
  closed := nofun

/-- With a count of zero in the trailer, as in the buffers of the tests. -/
theorem framing_iff_lone : Framed 100 ⟨0, 7, 0⟩ [lone] 0 := by
  refine (framing_iff 100 ⟨0, 7, 0⟩ [lone] 0 (by decide)).mpr ⟨by decide, .inr ?_⟩
  unfold Fills
  decide

/-- With the count that is true of it one connection makes two records. -/
theorem lone_counted : ¬ ∃ r, Parses (snapshot ⟨1, 7, 0⟩ [lone] ⟨1, 7, 0⟩) 100 (.ok [r]) := by
  rintro ⟨r, hparses⟩
  have htwo : ∃ a b, Parses (snapshot ⟨1, 7, 0⟩ [lone] ⟨1, 7, 0⟩) 100 (.ok [a, b]) := ⟨_, _, 3, rfl⟩
  obtain ⟨a, b, htwo⟩ := htwo
  simpa using hparses.unique htwo

end TcpStats.Client.Macos
