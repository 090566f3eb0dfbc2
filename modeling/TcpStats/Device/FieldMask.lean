import TcpStats.Device.Record
import TcpStats.Lib.Bits
import Mathlib.Data.List.GetD

/-!
# Field masks

Each of the bytes of a record belongs to the identity or to one field group (`recordLayout`).
`restrict` leaves a record the identity and the groups that a mask asks for. Filling with a
mask is filling with all groups and then restricting (`tcpstatsFillRecord_restrict`), because
each of the bodies writes its own group only; so a mask picks bytes of the full record, and
the union of two masks picks the bytes of either (`fieldMask_projects`).
-/

namespace TcpStats

open CString Bytes

/-! ### Restricting a record -/

/-- The group is asked for. -/
def Asks (mask group : UInt32) : Prop := mask &&& group ≠ 0

instance (mask group : UInt32) : Decidable (Asks mask group) := inferInstanceAs (Decidable (_ ≠ _))

theorem asks_or (m₁ m₂ group : UInt32) : Asks (m₁ ||| m₂) group ↔ Asks m₁ group ∨ Asks m₂ group := by
  rw [Asks, Bits.or_and_right32, Ne, UInt32.or_eq_zero_iff, not_and_or]
  rfl

/-- A field of a group, when the group is asked for, and else what it is cleared to. -/
def keepField {α : Type} (mask group : UInt32) (x cleared : α) : α := if Asks mask group then x else cleared

theorem keepField_of_asks {α : Type} {mask group : UInt32} (h : Asks mask group) (x cleared : α) :
    keepField mask group x cleared = x := if_pos h

theorem keepField_of_not_asks {α : Type} {mask group : UInt32} (h : ¬ Asks mask group) (x cleared : α) :
    keepField mask group x cleared = cleared := if_neg h

@[simp] theorem keepField_self {α : Type} (mask group : UInt32) (x : α) : keepField mask group x x = x :=
  ite_self x

/-- The identity of a record and the groups that the mask asks for. -/
def TcpStatsRecord.restrict (m : UInt32) (r : TcpStatsRecord) : TcpStatsRecord :=
  { r with
    tsrSndCwnd := keepField m TSR_FIELDS_CONGESTION r.tsrSndCwnd 0
    tsrSndSsthresh := keepField m TSR_FIELDS_CONGESTION r.tsrSndSsthresh 0
    tsrSndWnd := keepField m TSR_FIELDS_CONGESTION r.tsrSndWnd 0
    tsrRcvWnd := keepField m TSR_FIELDS_CONGESTION r.tsrRcvWnd 0
    tsrMaxseg := keepField m TSR_FIELDS_CONGESTION r.tsrMaxseg 0
    tsrCc := keepField m TSR_FIELDS_NAMES r.tsrCc (.empty 16)
    tsrStack := keepField m TSR_FIELDS_NAMES r.tsrStack (.empty 16)
    tsrRtt := keepField m TSR_FIELDS_RTT r.tsrRtt 0
    tsrRttvar := keepField m TSR_FIELDS_RTT r.tsrRttvar 0
    tsrRto := keepField m TSR_FIELDS_RTT r.tsrRto 0
    tsrRttmin := keepField m TSR_FIELDS_RTT r.tsrRttmin 0
    tsrSndWscale := keepField m TSR_FIELDS_STATE r.tsrSndWscale 0
    tsrRcvWscale := keepField m TSR_FIELDS_STATE r.tsrRcvWscale 0
    tsrOptions := keepField m TSR_FIELDS_STATE r.tsrOptions 0
    tsrSndNxt := keepField m TSR_FIELDS_SEQUENCES r.tsrSndNxt 0
    tsrSndUna := keepField m TSR_FIELDS_SEQUENCES r.tsrSndUna 0
    tsrSndMax := keepField m TSR_FIELDS_SEQUENCES r.tsrSndMax 0
    tsrRcvNxt := keepField m TSR_FIELDS_SEQUENCES r.tsrRcvNxt 0
    tsrRcvAdv := keepField m TSR_FIELDS_SEQUENCES r.tsrRcvAdv 0
    tsrSndRexmitpack := keepField m TSR_FIELDS_COUNTERS r.tsrSndRexmitpack 0
    tsrRcvOoopack := keepField m TSR_FIELDS_COUNTERS r.tsrRcvOoopack 0
    tsrSndZerowin := keepField m TSR_FIELDS_COUNTERS r.tsrSndZerowin 0
    tsrDupacks := keepField m TSR_FIELDS_COUNTERS r.tsrDupacks 0
    tsrRcvNumsacks := keepField m TSR_FIELDS_COUNTERS r.tsrRcvNumsacks 0
    tsrEcn := keepField m TSR_FIELDS_ECN r.tsrEcn 0
    tsrDeliveredCe := keepField m TSR_FIELDS_ECN r.tsrDeliveredCe 0
    tsrReceivedCe := keepField m TSR_FIELDS_ECN r.tsrReceivedCe 0
    tsrDsackBytes := keepField m TSR_FIELDS_ECN r.tsrDsackBytes 0
    tsrDsackPack := keepField m TSR_FIELDS_ECN r.tsrDsackPack 0
    tsrTotalTlp := keepField m TSR_FIELDS_ECN r.tsrTotalTlp 0
    tsrTotalTlpBytes := keepField m TSR_FIELDS_ECN r.tsrTotalTlpBytes 0
    tsrTtRexmt := keepField m TSR_FIELDS_TIMERS r.tsrTtRexmt 0
    tsrTtPersist := keepField m TSR_FIELDS_TIMERS r.tsrTtPersist 0
    tsrTtKeep := keepField m TSR_FIELDS_TIMERS r.tsrTtKeep 0
    tsrTt2msl := keepField m TSR_FIELDS_TIMERS r.tsrTt2msl 0
    tsrTtDelack := keepField m TSR_FIELDS_TIMERS r.tsrTtDelack 0
    tsrRcvtime := keepField m TSR_FIELDS_TIMERS r.tsrRcvtime 0
    tsrSndBufCc := keepField m TSR_FIELDS_BUFFERS r.tsrSndBufCc 0
    tsrSndBufHiwat := keepField m TSR_FIELDS_BUFFERS r.tsrSndBufHiwat 0
    tsrRcvBufCc := keepField m TSR_FIELDS_BUFFERS r.tsrRcvBufCc 0
    tsrRcvBufHiwat := keepField m TSR_FIELDS_BUFFERS r.tsrRcvBufHiwat 0 }

/-! ### Each body writes one group -/

/-- A body that writes the fields of one group, and needs no other field for it. -/
structure WritesGroup (group : UInt32) (fill : TcpStatsRecord → TcpStatsRecord) : Prop where
  asked : ∀ (m : UInt32) (r : TcpStatsRecord), Asks m group → (fill r).restrict m = fill (r.restrict m)
  other : ∀ (m : UInt32) (r : TcpStatsRecord), ¬ Asks m group → (fill r).restrict m = r.restrict m

section Bodies

variable (tp : Tcpcb)

theorem writesGroup_fillRtt (tick : Int32) : WritesGroup TSR_FIELDS_RTT (fillRtt tp tick) where
  asked m r h := by simp only [TcpStatsRecord.restrict, fillRtt, keepField_of_asks h]
  other m r h := by simp only [TcpStatsRecord.restrict, fillRtt, keepField_of_not_asks h]

theorem writesGroup_fillState : WritesGroup TSR_FIELDS_STATE (fillState tp) where
  asked m r h := by simp only [TcpStatsRecord.restrict, fillState, keepField_of_asks h]
  other m r h := by simp only [TcpStatsRecord.restrict, fillState, keepField_of_not_asks h]

theorem writesGroup_fillSequences : WritesGroup TSR_FIELDS_SEQUENCES (fillSequences tp) where
  asked m r h := by simp only [TcpStatsRecord.restrict, fillSequences, keepField_of_asks h]
  other m r h := by simp only [TcpStatsRecord.restrict, fillSequences, keepField_of_not_asks h]

theorem writesGroup_fillCongestion : WritesGroup TSR_FIELDS_CONGESTION (fillCongestion tp) where
  asked m r h := by simp only [TcpStatsRecord.restrict, fillCongestion, keepField_of_asks h]
  other m r h := by simp only [TcpStatsRecord.restrict, fillCongestion, keepField_of_not_asks h]

theorem writesGroup_fillNames : WritesGroup TSR_FIELDS_NAMES (fillNames tp) where
  asked m r h := by simp only [TcpStatsRecord.restrict, fillNames, keepField_of_asks h]
  other m r h := by simp only [TcpStatsRecord.restrict, fillNames, keepField_of_not_asks h]

theorem writesGroup_fillCounters : WritesGroup TSR_FIELDS_COUNTERS (fillCounters tp) where
  asked m r h := by simp only [TcpStatsRecord.restrict, fillCounters, keepField_of_asks h]
  other m r h := by simp only [TcpStatsRecord.restrict, fillCounters, keepField_of_not_asks h]

theorem writesGroup_fillEcn : WritesGroup TSR_FIELDS_ECN (fillEcn tp) where
  asked m r h := by simp only [TcpStatsRecord.restrict, fillEcn, keepField_of_asks h]
  other m r h := by simp only [TcpStatsRecord.restrict, fillEcn, keepField_of_not_asks h]

theorem writesGroup_fillTimers (now : Sbintime) (tick : Int32) (ticks : UInt32) :
    WritesGroup TSR_FIELDS_TIMERS (fillTimers tp now tick ticks) where
  asked m r h := by simp only [TcpStatsRecord.restrict, fillTimers, keepField_of_asks h]
  other m r h := by simp only [TcpStatsRecord.restrict, fillTimers, keepField_of_not_asks h]

theorem writesGroup_fillBuffers (so : Option Socket) : WritesGroup TSR_FIELDS_BUFFERS (fillBuffers so) where
  asked m r h := by
    rcases so with _ | so
    · rfl
    · simp only [TcpStatsRecord.restrict, fillBuffers, keepField_of_asks h]
  other m r h := by
    rcases so with _ | so
    · rfl
    · simp only [TcpStatsRecord.restrict, fillBuffers, keepField_of_not_asks h]

end Bodies

/-- Such a body may as well be left out when the mask leaves its group out. -/
theorem WritesGroup.restrict_fillGroup {group : UInt32} {fill : TcpStatsRecord → TcpStatsRecord}
    (h : WritesGroup group fill) (hall : Asks TSR_FIELDS_ALL group) (m : UInt32) (r : TcpStatsRecord) :
    (fillGroup TSR_FIELDS_ALL group fill r).restrict m = fillGroup m group fill (r.restrict m) := by
  unfold fillGroup
  rw [if_neg hall]
  by_cases hask : m &&& group = 0
  · rw [if_pos hask]
    exact h.other m r (not_not.mpr hask)
  · rw [if_neg hask]
    exact h.asked m r hask

variable {Cred : Type}

/-- The identity belongs to no group. -/
theorem restrict_tcpstatsFillIdentity (inp : Inpcb Cred) (tp : Option Tcpcb) (m : UInt32) :
    (tcpstatsFillIdentity .zero inp tp).restrict m = tcpstatsFillIdentity .zero inp tp := by
  unfold tcpstatsFillIdentity
  rcases tp with _ | tp <;> rcases inp.inpSocket with _ | so <;> cases inp.hasVflag INP_IPV6 <;>
    simp [TcpStatsRecord.restrict, TcpStatsRecord.zero]

/-- The record that a mask fills is the full record restricted. -/
theorem tcpstatsFillRecord_restrict (inp : Inpcb Cred) (tp : Option Tcpcb) (m : UInt32) (now : Sbintime)
    (tick : Int32) (ticks : UInt32) :
    tcpstatsFillRecord .zero inp tp m now tick ticks =
      (tcpstatsFillRecord .zero inp tp TSR_FIELDS_ALL now tick ticks).restrict m := by
  have hid := restrict_tcpstatsFillIdentity inp tp m
  unfold tcpstatsFillRecord
  rcases tp with _ | tp
  · exact hid.symm
  dsimp only
  split_ifs with hlisten
  · exact hid.symm
  rw [(writesGroup_fillBuffers inp.inpSocket).restrict_fillGroup (by decide),
    (writesGroup_fillTimers tp now tick ticks).restrict_fillGroup (by decide),
    (writesGroup_fillEcn tp).restrict_fillGroup (by decide),
    (writesGroup_fillCounters tp).restrict_fillGroup (by decide),
    (writesGroup_fillNames tp).restrict_fillGroup (by decide),
    (writesGroup_fillCongestion tp).restrict_fillGroup (by decide),
    (writesGroup_fillSequences tp).restrict_fillGroup (by decide),
    (writesGroup_fillState tp).restrict_fillGroup (by decide),
    (writesGroup_fillRtt tp tick).restrict_fillGroup (by decide), hid]

/-! ### Bytes -/

/-- The groups of a record and the numbers of their bytes, in the order of the struct. The spare
words count as identity. -/
def recordLayout : List (UInt32 × ℕ) :=
  [(TSR_FIELDS_IDENTITY, 64), (TSR_FIELDS_CONGESTION, 20), (TSR_FIELDS_NAMES, 32), (TSR_FIELDS_RTT, 16),
    (TSR_FIELDS_STATE, 4), (TSR_FIELDS_SEQUENCES, 20), (TSR_FIELDS_COUNTERS, 20), (TSR_FIELDS_ECN, 32),
    (TSR_FIELDS_TIMERS, 24), (TSR_FIELDS_BUFFERS, 16), (TSR_FIELDS_IDENTITY, 72)]

/-- The group of the byte at an offset. -/
def groupAt (offset : ℕ) : UInt32 := labelAt TSR_FIELDS_IDENTITY recordLayout offset

/-- A mask selects the identity and the groups it asks for. -/
def selects (m group : UInt32) : Bool := group == TSR_FIELDS_IDENTITY || decide (Asks m group)

theorem selects_or (m₁ m₂ group : UInt32) :
    selects (m₁ ||| m₂) group = (selects m₁ group || selects m₂ group) := by
  rw [Bool.eq_iff_iff]
  simp only [selects, Bool.or_eq_true, decide_eq_true_eq, asks_or]
  tauto

namespace TcpStatsRecord

/-- The windows and the segment size, without the names behind them (20 bytes). -/
def windowBytes (r : TcpStatsRecord) : List UInt8 :=
  le32 r.tsrSndCwnd ++ le32 r.tsrSndSsthresh ++ le32 r.tsrSndWnd ++ le32 r.tsrRcvWnd ++ le32 r.tsrMaxseg

/-- The two names (32 bytes). -/
def nameBytes (r : TcpStatsRecord) : List UInt8 := charBytes r.tsrCc ++ charBytes r.tsrStack

/-- The bytes of a record by their groups. -/
def segments (r : TcpStatsRecord) : List (UInt32 × List UInt8) :=
  [(TSR_FIELDS_IDENTITY, r.headerBytes ++ r.identityBytes ++ r.stateBytes),
    (TSR_FIELDS_CONGESTION, r.windowBytes), (TSR_FIELDS_NAMES, r.nameBytes), (TSR_FIELDS_RTT, r.rttBytes),
    (TSR_FIELDS_STATE, r.scaleBytes), (TSR_FIELDS_SEQUENCES, r.sequenceBytes),
    (TSR_FIELDS_COUNTERS, r.counterBytes), (TSR_FIELDS_ECN, r.ecnBytes), (TSR_FIELDS_TIMERS, r.timerBytes),
    (TSR_FIELDS_BUFFERS, r.bufferBytes), (TSR_FIELDS_IDENTITY, r.socketBytes ++ List.replicate 52 0)]

theorem bytes_eq_segments (r : TcpStatsRecord) : r.bytes = r.segments.flatMap Prod.snd := by
  simp only [bytes, segments, congestionBytes, windowBytes, nameBytes, List.flatMap_cons, List.flatMap_nil,
    List.append_nil, List.append_assoc]

theorem length_segments (r : TcpStatsRecord) :
    (r.segments.map fun seg => (seg.1, seg.2.length)) = recordLayout := by
  simp [segments, recordLayout, windowBytes, nameBytes]

/-- A group of a record is selected if it is asked for. -/
theorem eq_keepSegment {m group : UInt32} (hgroup : group ≠ TSR_FIELDS_IDENTITY)
    {kept full : List UInt8} (n : ℕ)
    (hn : full.length = n) (hasked : Asks m group → kept = full)
    (hother : ¬ Asks m group → kept = List.replicate n 0) :
    kept = keepSegment (selects m) (group, full) := by
  unfold keepSegment selects
  by_cases hask : Asks m group
  · simpa [hask] using hasked hask
  · simpa [hask, hgroup, hn] using hother hask

theorem keepSegment_identity (m : UInt32) (full : List UInt8) :
    keepSegment (selects m) (TSR_FIELDS_IDENTITY, full) = full := if_pos rfl

section Restrict

variable (m : UInt32) (r : TcpStatsRecord)

theorem restrict_windowBytes :
    (r.restrict m).windowBytes = keepSegment (selects m) (TSR_FIELDS_CONGESTION, r.windowBytes) :=
  eq_keepSegment (by decide) 20 rfl
    (fun h => by simp only [restrict, windowBytes, keepField_of_asks h])
    (fun h => by simp only [restrict, windowBytes, keepField_of_not_asks h]; rfl)

theorem restrict_nameBytes :
    (r.restrict m).nameBytes = keepSegment (selects m) (TSR_FIELDS_NAMES, r.nameBytes) :=
  eq_keepSegment (by decide) 32 (by simp [nameBytes])
    (fun h => by simp only [restrict, nameBytes, keepField_of_asks h])
    (fun h => by simp only [restrict, nameBytes, keepField_of_not_asks h]; rfl)

theorem restrict_rttBytes :
    (r.restrict m).rttBytes = keepSegment (selects m) (TSR_FIELDS_RTT, r.rttBytes) :=
  eq_keepSegment (by decide) 16 rfl
    (fun h => by simp only [restrict, rttBytes, keepField_of_asks h])
    (fun h => by simp only [restrict, rttBytes, keepField_of_not_asks h]; rfl)

theorem restrict_scaleBytes :
    (r.restrict m).scaleBytes = keepSegment (selects m) (TSR_FIELDS_STATE, r.scaleBytes) :=
  eq_keepSegment (by decide) 4 rfl
    (fun h => by simp only [restrict, scaleBytes, keepField_of_asks h])
    (fun h => by simp only [restrict, scaleBytes, keepField_of_not_asks h]; rfl)

theorem restrict_sequenceBytes :
    (r.restrict m).sequenceBytes = keepSegment (selects m) (TSR_FIELDS_SEQUENCES, r.sequenceBytes) :=
  eq_keepSegment (by decide) 20 rfl
    (fun h => by simp only [restrict, sequenceBytes, keepField_of_asks h])
    (fun h => by simp only [restrict, sequenceBytes, keepField_of_not_asks h]; rfl)

theorem restrict_counterBytes :
    (r.restrict m).counterBytes = keepSegment (selects m) (TSR_FIELDS_COUNTERS, r.counterBytes) :=
  eq_keepSegment (by decide) 20 rfl
    (fun h => by simp only [restrict, counterBytes, keepField_of_asks h])
    (fun h => by simp only [restrict, counterBytes, keepField_of_not_asks h]; rfl)

theorem restrict_ecnBytes :
    (r.restrict m).ecnBytes = keepSegment (selects m) (TSR_FIELDS_ECN, r.ecnBytes) :=
  eq_keepSegment (by decide) 32 rfl
    (fun h => by simp only [restrict, ecnBytes, keepField_of_asks h])
    (fun h => by simp only [restrict, ecnBytes, keepField_of_not_asks h]; rfl)

theorem restrict_timerBytes :
    (r.restrict m).timerBytes = keepSegment (selects m) (TSR_FIELDS_TIMERS, r.timerBytes) :=
  eq_keepSegment (by decide) 24 rfl
    (fun h => by simp only [restrict, timerBytes, keepField_of_asks h])
    (fun h => by simp only [restrict, timerBytes, keepField_of_not_asks h]; rfl)

theorem restrict_bufferBytes :
    (r.restrict m).bufferBytes = keepSegment (selects m) (TSR_FIELDS_BUFFERS, r.bufferBytes) :=
  eq_keepSegment (by decide) 16 rfl
    (fun h => by simp only [restrict, bufferBytes, keepField_of_asks h])
    (fun h => by simp only [restrict, bufferBytes, keepField_of_not_asks h]; rfl)

/-- Restricting a record clears the bytes of the groups that are not selected. -/
theorem restrict_bytes : (r.restrict m).bytes = r.segments.flatMap (keepSegment (selects m)) := by
  rw [bytes_eq_segments]
  simp only [segments, List.flatMap_cons, List.flatMap_nil, keepSegment_identity, restrict_windowBytes,
    restrict_nameBytes, restrict_rttBytes, restrict_scaleBytes, restrict_sequenceBytes, restrict_counterBytes,
    restrict_ecnBytes, restrict_timerBytes, restrict_bufferBytes]
  rfl

/-- Each byte of a restricted record is that of the record or zero, by its group. -/
theorem restrict_byte (offset : ℕ) :
    (r.restrict m).bytes.getD offset 0 = if selects m (groupAt offset) then r.bytes.getD offset 0 else 0 := by
  rw [restrict_bytes, getD_keepSegments (selects m) TSR_FIELDS_IDENTITY, length_segments, ← bytes_eq_segments]
  rfl

end Restrict

end TcpStatsRecord

/-- The bytes of a zeroed record that `tcpstats_fill_record` has filled. -/
def filledBytes (inp : Inpcb Cred) (tp : Option Tcpcb) (now : Sbintime) (tick : Int32) (ticks : UInt32)
    (m : UInt32) : List UInt8 :=
  (tcpstatsFillRecord .zero inp tp m now tick ticks).bytes

/-- A mask picks the bytes of its groups from the full record, and the union of two masks fills the
bytes that one of them fills. -/
theorem fieldMask_projects (inp : Inpcb Cred) (tp : Option Tcpcb) (now : Sbintime) (tick : Int32) (ticks : UInt32)
    (m₁ m₂ : UInt32) :
    (∀ offset, (filledBytes inp tp now tick ticks m₁).getD offset 0 =
      if selects m₁ (groupAt offset) then (filledBytes inp tp now tick ticks TSR_FIELDS_ALL).getD offset 0 else 0) ∧
    filledBytes inp tp now tick ticks (m₁ ||| m₂) =
      List.zipWith (· ||| ·) (filledBytes inp tp now tick ticks m₁) (filledBytes inp tp now tick ticks m₂) := by
  have hbyte : ∀ m offset, (filledBytes inp tp now tick ticks m).getD offset 0 =
      if selects m (groupAt offset) then (filledBytes inp tp now tick ticks TSR_FIELDS_ALL).getD offset 0
      else 0 := by
    intro m offset
    unfold filledBytes
    rw [tcpstatsFillRecord_restrict inp tp m]
    exact TcpStatsRecord.restrict_byte m _ offset
  refine ⟨hbyte m₁, List.ext_getElem (by simp [filledBytes]) fun offset h h' => ?_⟩
  have hget : ∀ (l : List UInt8) (hl : offset < l.length), l[offset] = l.getD offset 0 :=
    fun l hl => (List.getD_eq_getElem l 0 hl).symm
  rw [List.getElem_zipWith, hget, hget, hget, hbyte, hbyte m₁, hbyte m₂, selects_or]
  cases selects m₁ (groupAt offset) <;> cases selects m₂ (groupAt offset) <;> simp

end TcpStats
