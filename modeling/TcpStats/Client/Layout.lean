import TcpStats.Client.Kld

/-!
# The layout of a record

The two descriptions of a record agree: what the Rust mirror of the packed struct finds at
its offsets in the bytes of a record are the fields of the record (`ofBytes_bytes`). Each
group of fields is found as a part of the bytes, and then the fields within the part.
-/

namespace TcpStats

open Bytes CString Client

namespace TcpStatsRecord

variable (r : TcpStats.TcpStatsRecord)

/-- The groups of fields, in their order. -/
def parts : List (List UInt8) :=
  [r.headerBytes, r.identityBytes, r.stateBytes, r.congestionBytes, r.rttBytes, r.scaleBytes,
    r.sequenceBytes, r.counterBytes, r.ecnBytes, r.timerBytes, r.bufferBytes, r.socketBytes,
    List.replicate 52 0]

theorem bytes_eq_flatten : r.bytes = r.parts.flatten := by
  simp only [bytes, parts, List.flatten_cons, List.flatten_nil, List.append_nil, List.append_assoc]

/-- A group is found where the groups before it end. -/
theorem bytesAt_part {p : List UInt8} {offset n : ℕ} (i : ℕ) (hp : r.parts[i]? = some p)
    (ho : ((r.parts.take i).map List.length).sum = offset) (hn : p.length = n) :
    bytesAt r.bytes offset n = p := by
  rw [bytes_eq_flatten]
  exact Bytes.bytesAt_part i hp ho hn

theorem bytesAt_headerBytes : bytesAt r.bytes 0 16 = 
    [r.tsrVersion, r.tsrLen, r.tsrFlags, 0].flatMap le32 :=
  r.bytesAt_part 0 rfl (by simp [parts]) (by simp)

theorem bytesAt_identityBytes : bytesAt r.bytes 16 40 = r.identityBytes :=
  r.bytesAt_part 1 rfl (by simp [parts]) (by simp)

theorem bytesAt_stateBytes : bytesAt r.bytes 56 8 = 
    [r.tsrState.toUInt32, r.tsrFlagsTcp].flatMap le32 :=
  r.bytesAt_part 2 rfl (by simp [parts]) (by simp)

theorem bytesAt_congestionBytes : bytesAt r.bytes 64 52 = r.congestionBytes :=
  r.bytesAt_part 3 rfl (by simp [parts]) (by simp)

theorem bytesAt_rttBytes : bytesAt r.bytes 116 16 = 
    [r.tsrRtt, r.tsrRttvar, r.tsrRto, r.tsrRttmin].flatMap le32 :=
  r.bytesAt_part 4 rfl (by simp [parts]) (by simp)

theorem bytesAt_scaleBytes : bytesAt r.bytes 132 4 = r.scaleBytes :=
  r.bytesAt_part 5 rfl (by simp [parts]) (by simp)

theorem bytesAt_sequenceBytes : bytesAt r.bytes 136 20 = 
    [r.tsrSndNxt, r.tsrSndUna, r.tsrSndMax, r.tsrRcvNxt, r.tsrRcvAdv].flatMap le32 :=
  r.bytesAt_part 6 rfl (by simp [parts]) (by simp)

theorem bytesAt_counterBytes : bytesAt r.bytes 156 20 = 
    [r.tsrSndRexmitpack, r.tsrRcvOoopack, r.tsrSndZerowin, r.tsrDupacks, r.tsrRcvNumsacks].flatMap le32 :=
  r.bytesAt_part 7 rfl (by simp [parts]) (by simp)

theorem bytesAt_ecnBytes : bytesAt r.bytes 176 32 = r.ecnBytes :=
  r.bytesAt_part 8 rfl (by simp [parts]) (by simp)

theorem bytesAt_timerBytes : bytesAt r.bytes 208 24 =
    [r.tsrTtRexmt.toUInt32, r.tsrTtPersist.toUInt32, r.tsrTtKeep.toUInt32, r.tsrTt2msl.toUInt32,
      r.tsrTtDelack.toUInt32, r.tsrRcvtime.toUInt32].flatMap le32 :=
  r.bytesAt_part 9 rfl (by simp [parts]) (by simp)

theorem bytesAt_bufferBytes : bytesAt r.bytes 232 16 = 
    [r.tsrSndBufCc, r.tsrSndBufHiwat, r.tsrRcvBufCc, r.tsrRcvBufHiwat].flatMap le32 :=
  r.bytesAt_part 10 rfl (by simp [parts]) (by simp)

theorem bytesAt_socketBytes : bytesAt r.bytes 248 20 = r.socketBytes :=
  r.bytesAt_part 11 rfl (by simp [parts]) (by simp)

/-! ### Fields that are not words -/

theorem bytesAt_tsrLocalAddr : bytesAt r.bytes 24 16 = r.tsrLocalAddr.toList := by
  have hpart : bytesAt r.identityBytes 8 16 = r.tsrLocalAddr.toList :=
    List.take_left' (Vector.length_toList : r.tsrLocalAddr.toList.length = 16)
  exact (bytesAt_within (i := 8) r.bytesAt_identityBytes (by decide)).trans hpart

theorem bytesAt_tsrRemoteAddr : bytesAt r.bytes 40 16 = r.tsrRemoteAddr.toList := by
  have hpart : bytesAt r.identityBytes 24 16 = r.tsrRemoteAddr.toList :=
    bytesAt_suffix (by simp) (by simp)
  exact (bytesAt_within (i := 24) r.bytesAt_identityBytes (by decide)).trans hpart

theorem bytesAt_tsrCc : bytesAt r.bytes 84 16 = charBytes r.tsrCc := by
  have hpart : bytesAt r.congestionBytes 20 16 = charBytes r.tsrCc :=
    List.take_left' (length_charBytes r.tsrCc)
  exact (bytesAt_within (i := 20) r.bytesAt_congestionBytes (by decide)).trans hpart

theorem bytesAt_tsrStack : bytesAt r.bytes 100 16 = charBytes r.tsrStack := by
  have hpart : bytesAt r.congestionBytes 36 16 = charBytes r.tsrStack :=
    bytesAt_suffix (by simp) (by simp)
  exact (bytesAt_within (i := 36) r.bytesAt_congestionBytes (by decide)).trans hpart

theorem bytesAt_congestionWords : bytesAt r.bytes 64 20 =
    [r.tsrSndCwnd, r.tsrSndSsthresh, r.tsrSndWnd, r.tsrRcvWnd, r.tsrMaxseg].flatMap le32 :=
  (bytesAt_within (i := 0) r.bytesAt_congestionBytes (by decide)).trans rfl

theorem bytesAt_ecnWords : bytesAt r.bytes 176 24 =
    [r.tsrEcn, r.tsrDeliveredCe, r.tsrReceivedCe, r.tsrDsackBytes, r.tsrDsackPack,
      r.tsrTotalTlp].flatMap le32 :=
  (bytesAt_within (i := 0) r.bytesAt_ecnBytes (by decide)).trans rfl

theorem u16At_tsrLocalPort : u16At r.bytes 20 = r.tsrLocalPort :=
  u16At_of_bytesAt ((bytesAt_within (i := 4) r.bytesAt_identityBytes (by decide)).trans rfl)

theorem u16At_tsrRemotePort : u16At r.bytes 22 = r.tsrRemotePort :=
  u16At_of_bytesAt ((bytesAt_within (i := 6) r.bytesAt_identityBytes (by decide)).trans rfl)

theorem u64At_tsrTotalTlpBytes : u64At r.bytes 200 = r.tsrTotalTlpBytes :=
  u64At_of_bytesAt ((bytesAt_within (i := 24) r.bytesAt_ecnBytes (by decide)).trans rfl)

theorem u64At_tsrSoAddr : u64At r.bytes 248 = r.tsrSoAddr :=
  u64At_of_bytesAt ((bytesAt_within (i := 0) r.bytesAt_socketBytes (by decide)).trans rfl)

theorem u32At_tsrUid : u32At r.bytes 256 = r.tsrUid :=
  u32At_of_bytesAt ((bytesAt_within (i := 8) r.bytesAt_socketBytes (by decide)).trans rfl)

theorem u64At_tsrInpGencnt : u64At r.bytes 260 = r.tsrInpGencnt :=
  u64At_of_bytesAt ((bytesAt_within (i := 12) r.bytesAt_socketBytes (by decide)).trans rfl)

end TcpStatsRecord

namespace Client

open TcpStats.TcpStatsRecord

/-- The fields of a record as the Rust struct holds them. -/
def TcpStatsRecord.mirror (r : TcpStats.TcpStatsRecord) : TcpStatsRecord where
  tsrVersion := r.tsrVersion
  tsrLen := r.tsrLen
  tsrFlags := r.tsrFlags
  tsrAf := r.tsrAf
  tsrLocalPort := r.tsrLocalPort
  tsrRemotePort := r.tsrRemotePort
  tsrLocalAddr := r.tsrLocalAddr.toList
  tsrRemoteAddr := r.tsrRemoteAddr.toList
  tsrState := r.tsrState
  tsrFlagsTcp := r.tsrFlagsTcp
  tsrSndCwnd := r.tsrSndCwnd
  tsrSndSsthresh := r.tsrSndSsthresh
  tsrSndWnd := r.tsrSndWnd
  tsrRcvWnd := r.tsrRcvWnd
  tsrMaxseg := r.tsrMaxseg
  tsrCc := charBytes r.tsrCc
  tsrStack := charBytes r.tsrStack
  tsrRtt := r.tsrRtt
  tsrRttvar := r.tsrRttvar
  tsrRto := r.tsrRto
  tsrRttmin := r.tsrRttmin
  tsrSndWscale := r.tsrSndWscale
  tsrRcvWscale := r.tsrRcvWscale
  tsrOptions := r.tsrOptions
  tsrSndNxt := r.tsrSndNxt
  tsrSndUna := r.tsrSndUna
  tsrSndMax := r.tsrSndMax
  tsrRcvNxt := r.tsrRcvNxt
  tsrRcvAdv := r.tsrRcvAdv
  tsrSndRexmitpack := r.tsrSndRexmitpack
  tsrRcvOoopack := r.tsrRcvOoopack
  tsrSndZerowin := r.tsrSndZerowin
  tsrDupacks := r.tsrDupacks
  tsrRcvNumsacks := r.tsrRcvNumsacks
  tsrEcn := r.tsrEcn
  tsrDeliveredCe := r.tsrDeliveredCe
  tsrReceivedCe := r.tsrReceivedCe
  tsrDsackBytes := r.tsrDsackBytes
  tsrDsackPack := r.tsrDsackPack
  tsrTotalTlp := r.tsrTotalTlp
  tsrTotalTlpBytes := r.tsrTotalTlpBytes
  tsrTtRexmt := r.tsrTtRexmt
  tsrTtPersist := r.tsrTtPersist
  tsrTtKeep := r.tsrTtKeep
  tsrTt2msl := r.tsrTt2msl
  tsrTtDelack := r.tsrTtDelack
  tsrRcvtime := r.tsrRcvtime
  tsrSndBufCc := r.tsrSndBufCc
  tsrSndBufHiwat := r.tsrSndBufHiwat
  tsrRcvBufCc := r.tsrRcvBufCc
  tsrRcvBufHiwat := r.tsrRcvBufHiwat
  tsrSoAddr := r.tsrSoAddr
  tsrUid := r.tsrUid
  tsrInpGencnt := r.tsrInpGencnt

/-- The Rust struct finds every field. -/
theorem ofBytes_bytes (r : TcpStats.TcpStatsRecord) : TcpStatsRecord.ofBytes r.bytes = .mirror r := by
  rw [TcpStatsRecord.ofBytes, TcpStatsRecord.mirror, TcpStatsRecord.mk.injEq]
  refine ⟨u32At_words r.bytesAt_headerBytes 0 rfl,
    u32At_words r.bytesAt_headerBytes 1 rfl,
    u32At_words r.bytesAt_headerBytes 2 rfl,
    u8At_within r.bytesAt_identityBytes (i := 0) (by decide),
    r.u16At_tsrLocalPort,
    r.u16At_tsrRemotePort,
    r.bytesAt_tsrLocalAddr,
    r.bytesAt_tsrRemoteAddr,
    i32At_words r.bytesAt_stateBytes 0 rfl,
    u32At_words r.bytesAt_stateBytes 1 rfl,
    u32At_words r.bytesAt_congestionWords 0 rfl,
    u32At_words r.bytesAt_congestionWords 1 rfl,
    u32At_words r.bytesAt_congestionWords 2 rfl,
    u32At_words r.bytesAt_congestionWords 3 rfl,
    u32At_words r.bytesAt_congestionWords 4 rfl,
    r.bytesAt_tsrCc,
    r.bytesAt_tsrStack,
    u32At_words r.bytesAt_rttBytes 0 rfl,
    u32At_words r.bytesAt_rttBytes 1 rfl,
    u32At_words r.bytesAt_rttBytes 2 rfl,
    u32At_words r.bytesAt_rttBytes 3 rfl,
    u8At_within r.bytesAt_scaleBytes (i := 0) (by decide),
    u8At_within r.bytesAt_scaleBytes (i := 1) (by decide),
    u8At_within r.bytesAt_scaleBytes (i := 2) (by decide),
    u32At_words r.bytesAt_sequenceBytes 0 rfl,
    u32At_words r.bytesAt_sequenceBytes 1 rfl,
    u32At_words r.bytesAt_sequenceBytes 2 rfl,
    u32At_words r.bytesAt_sequenceBytes 3 rfl,
    u32At_words r.bytesAt_sequenceBytes 4 rfl,
    u32At_words r.bytesAt_counterBytes 0 rfl,
    u32At_words r.bytesAt_counterBytes 1 rfl,
    u32At_words r.bytesAt_counterBytes 2 rfl,
    u32At_words r.bytesAt_counterBytes 3 rfl,
    u32At_words r.bytesAt_counterBytes 4 rfl,
    u32At_words r.bytesAt_ecnWords 0 rfl,
    u32At_words r.bytesAt_ecnWords 1 rfl,
    u32At_words r.bytesAt_ecnWords 2 rfl,
    u32At_words r.bytesAt_ecnWords 3 rfl,
    u32At_words r.bytesAt_ecnWords 4 rfl,
    u32At_words r.bytesAt_ecnWords 5 rfl,
    r.u64At_tsrTotalTlpBytes,
    i32At_words r.bytesAt_timerBytes 0 rfl,
    i32At_words r.bytesAt_timerBytes 1 rfl,
    i32At_words r.bytesAt_timerBytes 2 rfl,
    i32At_words r.bytesAt_timerBytes 3 rfl,
    i32At_words r.bytesAt_timerBytes 4 rfl,
    i32At_words r.bytesAt_timerBytes 5 rfl,
    u32At_words r.bytesAt_bufferBytes 0 rfl,
    u32At_words r.bytesAt_bufferBytes 1 rfl,
    u32At_words r.bytesAt_bufferBytes 2 rfl,
    u32At_words r.bytesAt_bufferBytes 3 rfl,
    r.u64At_tsrSoAddr,
    r.u32At_tsrUid,
    r.u64At_tsrInpGencnt⟩

theorem charBytes_injective {n : ℕ} : Function.Injective (charBytes (n := n)) := by
  intro a b h
  have hstr : ∀ c : CharBuf n, ofArray (charBytes c) = c.str := by
    intro c
    obtain ⟨more, hmore⟩ : ∃ more, n - c.str.length = more + 1 := ⟨n - c.str.length - 1, by have := c.fits; omega⟩
    rw [charBytes, hmore, List.replicate_succ, ofArray_append_zero c.noNul]
  exact CharBuf.ext (by rw [← hstr a, h, hstr b])

/-- Nothing of a record is lost in the struct. -/
theorem mirror_injective : Function.Injective TcpStatsRecord.mirror := by
  intro r s h
  cases r
  cases s
  simp only [TcpStatsRecord.mirror, TcpStatsRecord.mk.injEq, Vector.toList_inj, charBytes_injective.eq_iff] at h
  simp only [TcpStats.TcpStatsRecord.mk.injEq]
  exact h

end Client

/-- Records with the same bytes are the same. -/
theorem TcpStatsRecord.bytes_injective : Function.Injective TcpStatsRecord.bytes := by
  intro r s h
  apply mirror_injective
  rw [← ofBytes_bytes, h, ofBytes_bytes]

theorem flatMap_bytes_injective :
    Function.Injective fun rs : List TcpStatsRecord => rs.flatMap TcpStatsRecord.bytes := by
  intro rs ss h
  have hsame : rs.length = ss.length := by
    have := congrArg List.length h
    simp only [length_flatMap_bytes] at this
    exact Nat.eq_of_mul_eq_mul_left (by decide) this
  induction rs generalizing ss with
  | nil => exact (List.length_eq_zero_iff.mp hsame.symm).symm
  | cons r rs ih =>
    obtain ⟨s, ss, rfl⟩ := List.exists_cons_of_length_eq_add_one hsame.symm
    obtain ⟨hhead, htail⟩ := List.append_inj h (by simp)
    rw [TcpStatsRecord.bytes_injective hhead, ih htail (Nat.succ.inj hsame)]

end TcpStats
