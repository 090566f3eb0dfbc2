import TcpStats.Client.Layout
import TcpStats.Device.ReadSpec

/-!
# What a record becomes

`raw_to_proto` of `convert.rs`, and the whole way of a record: filled by the kernel, laid
out in 320 bytes, read by the client and converted to the `TcpSocketRecord` of
`tcp_stats.proto`. Every field arrives under its name there (`rawToProto_decode`), and the
buffers that are accepted are those made of whole records of the version
(`parseKldRecords_ok_iff`).
-/

namespace TcpStats

open Bytes CString

namespace Client

/-! ### The conversion -/

/-- `TcpState::Unknown`; the other values are those of the kernel plus one. -/
def TCP_STATE_UNKNOWN : Int32 := 0

/-! `IpVersion`. -/

def IP_VERSION_UNKNOWN : Int32 := 0
def IP_VERSION_4 : Int32 := 1
def IP_VERSION_6 : Int32 := 2

/-- The message `TcpSocketRecord`. What no conversion fills is absent. -/
structure TcpSocketRecord where
  localAddr : List UInt8
  remoteAddr : List UInt8
  localPort : UInt32
  remotePort : UInt32
  ipVersion : Int32
  socketId : Option UInt64
  state : Int32
  tcpFlags : Option UInt32
  sndCwnd : Option UInt32
  sndSsthresh : Option UInt32
  sndWnd : Option UInt32
  rcvWnd : Option UInt32
  maxseg : Option UInt32
  ccAlgo : Option (List UInt8)
  tcpStack : Option (List UInt8)
  rttUs : Option UInt32
  rttvarUs : Option UInt32
  rtoUs : Option UInt32
  rttMinUs : Option UInt32
  rttCurUs : Option UInt32 := none
  rttUpdateCount : Option UInt32 := none
  sndNxt : Option UInt32
  sndUna : Option UInt32
  sndMax : Option UInt32
  rcvNxt : Option UInt32
  rcvAdv : Option UInt32
  sndWscale : Option UInt32
  rcvWscale : Option UInt32
  rexmitPackets : Option UInt32
  oooPackets : Option UInt32
  zerowinProbes : Option UInt32
  dupacks : Option UInt32
  sackBlocks : Option UInt32
  dsackBytes : Option UInt32
  dsackPackets : Option UInt32
  rxtShift : Option UInt32
  txBytes : Option UInt64 := none
  rxBytes : Option UInt64 := none
  txPackets : Option UInt64 := none
  rxPackets : Option UInt64 := none
  retransmitBytes : Option UInt64 := none
  oooBytes : Option UInt64 := none
  retransmitPacketsTotal : Option UInt64 := none
  timerRexmtMs : Option UInt32
  timerPersistMs : Option UInt32
  timerKeepMs : Option UInt32
  timer2mslMs : Option UInt32
  timerDelackMs : Option UInt32
  idleTimeMs : Option UInt32
  sndBufUsed : Option UInt32
  sndBufHiwat : Option UInt32
  rcvBufUsed : Option UInt32
  rcvBufHiwat : Option UInt32
  pid : Option Int32
  effectivePid : Option Int32
  uid : Option UInt32
  fd : Option Int32
  command : Option (List UInt8) := none
  ecnFlags : Option UInt32
  ecnCeDelivered : Option UInt32
  ecnCeReceived : Option UInt32
  negotiatedOptions : Option UInt32
  tfoStateMacos : Option UInt32 := none
  tfoNegotiated : Option Bool := none
  inLossRecovery : Option Bool := none
  reorderingDetected : Option Bool := none
  tlpProbesSent : Option UInt32
  tlpBytesSent : Option UInt64
  encapsPort : Option UInt32 := none
  inpGencnt : Option UInt64
  startTimeSecs : Option UInt32
  deltaRexmitPackets : Option Int32 := none
  deltaOooPackets : Option Int32 := none
  deltaZerowin : Option Int32 := none
  connectionAgeMs : Option UInt64 := none
  deltaTxBytes : Option Int64 := none
  deltaRxBytes : Option Int64 := none
  sources : List Int32

/-- `kernel_state_to_proto`. -/
def kernelStateToProto (kernelState : Int32) : Int32 :=
  if 0 ≤ kernelState ∧ kernelState ≤ 10 then kernelState + 1 else TCP_STATE_UNKNOWN

/-- `ip_version_to_proto`. -/
def ipVersionToProto (version : UInt8) : Int32 :=
  if version = 4 then IP_VERSION_4 else if version = 6 then IP_VERSION_6 else IP_VERSION_UNKNOWN

/-- `ip_addr_to_bytes`. -/
def ipAddrToBytes : IpAddr → List UInt8
  | .v4 a => a
  | .v6 a => a

/-- `raw_to_proto`. -/
def rawToProto (raw : RawSocketRecord) : TcpSocketRecord :=
  { localAddr := (raw.localAddr.map ipAddrToBytes).getD []
    remoteAddr := (raw.remoteAddr.map ipAddrToBytes).getD []
    localPort := (raw.localPort.getD 0).toUInt32
    remotePort := (raw.remotePort.getD 0).toUInt32
    ipVersion := (raw.ipVersion.map ipVersionToProto).getD IP_VERSION_UNKNOWN
    socketId := raw.socketId
    state := (raw.state.map kernelStateToProto).getD TCP_STATE_UNKNOWN
    tcpFlags := raw.tcpFlags
    sndCwnd := raw.sndCwnd
    sndSsthresh := raw.sndSsthresh
    sndWnd := raw.sndWnd
    rcvWnd := raw.rcvWnd
    maxseg := raw.maxseg
    ccAlgo := raw.ccAlgo
    tcpStack := raw.tcpStack
    rttUs := raw.rttUs
    rttvarUs := raw.rttvarUs
    rtoUs := raw.rtoUs
    rttMinUs := raw.rttMinUs
    sndNxt := raw.sndNxt
    sndUna := raw.sndUna
    sndMax := raw.sndMax
    rcvNxt := raw.rcvNxt
    rcvAdv := raw.rcvAdv
    sndWscale := raw.sndWscale
    rcvWscale := raw.rcvWscale
    rexmitPackets := raw.sndRexmitpack
    oooPackets := raw.rcvOoopack
    zerowinProbes := raw.sndZerowin
    dupacks := raw.dupacks
    sackBlocks := raw.rcvNumsacks
    dsackBytes := raw.dsackBytes
    dsackPackets := raw.dsackPack
    rxtShift := raw.rxtShift
    timerRexmtMs := raw.timerRexmtMs
    timerPersistMs := raw.timerPersistMs
    timerKeepMs := raw.timerKeepMs
    timer2mslMs := raw.timer2mslMs
    timerDelackMs := raw.timerDelackMs
    idleTimeMs := raw.idleTimeMs
    sndBufUsed := raw.sndBufUsed
    sndBufHiwat := raw.sndBufHiwat
    rcvBufUsed := raw.rcvBufUsed
    rcvBufHiwat := raw.rcvBufHiwat
    pid := raw.pid
    effectivePid := raw.effectivePid
    uid := raw.uid
    fd := raw.fd
    ecnFlags := raw.ecnFlags
    ecnCeDelivered := raw.deliveredCe
    ecnCeReceived := raw.receivedCe
    negotiatedOptions := raw.options.map UInt8.toUInt32
    tlpProbesSent := raw.totalTlp
    tlpBytesSent := raw.totalTlpBytes
    inpGencnt := raw.inpGencnt
    startTimeSecs := raw.startTimeSecs
    sources := raw.sources.map fun s => s.toUInt32.toInt32 }

end Client

/-! ### The record that should arrive -/

namespace TcpStatsRecord

variable (r : TcpStats.TcpStatsRecord)

/-- An address in as many bytes as the family has. -/
def address (a : Vector UInt8 16) : List UInt8 := if r.tsrAf = AF_INET6 then a.toList else a.toList.take 4

/-- A name, unless it is empty. -/
def nameOf (b : CharBuf 16) : Option (List UInt8) := if b.str = [] then none else some b.str

/-- A number of milliseconds, 0 if it is negative. -/
def remaining (v : Int32) : Option UInt32 := some (UInt32.ofNat v.toInt.toNat)

/-- The message with the fields of a record. -/
def message : Client.TcpSocketRecord where
  localAddr := r.address r.tsrLocalAddr
  remoteAddr := r.address r.tsrRemoteAddr
  localPort := r.tsrLocalPort.toUInt32
  remotePort := r.tsrRemotePort.toUInt32
  ipVersion := if r.tsrAf = AF_INET6 then Client.IP_VERSION_6 else Client.IP_VERSION_4
  socketId := some r.tsrSoAddr
  state := r.tsrState + 1
  tcpFlags := some r.tsrFlagsTcp
  sndCwnd := some r.tsrSndCwnd
  sndSsthresh := some r.tsrSndSsthresh
  sndWnd := some r.tsrSndWnd
  rcvWnd := some r.tsrRcvWnd
  maxseg := some r.tsrMaxseg
  ccAlgo := nameOf r.tsrCc
  tcpStack := nameOf r.tsrStack
  rttUs := some r.tsrRtt
  rttvarUs := some r.tsrRttvar
  rtoUs := some r.tsrRto
  rttMinUs := some r.tsrRttmin
  sndNxt := some r.tsrSndNxt
  sndUna := some r.tsrSndUna
  sndMax := some r.tsrSndMax
  rcvNxt := some r.tsrRcvNxt
  rcvAdv := some r.tsrRcvAdv
  sndWscale := some r.tsrSndWscale.toUInt32
  rcvWscale := some r.tsrRcvWscale.toUInt32
  rexmitPackets := some r.tsrSndRexmitpack
  oooPackets := some r.tsrRcvOoopack
  zerowinProbes := some r.tsrSndZerowin
  dupacks := some r.tsrDupacks
  sackBlocks := some r.tsrRcvNumsacks
  dsackBytes := some r.tsrDsackBytes
  dsackPackets := some r.tsrDsackPack
  rxtShift := none
  timerRexmtMs := remaining r.tsrTtRexmt
  timerPersistMs := remaining r.tsrTtPersist
  timerKeepMs := remaining r.tsrTtKeep
  timer2mslMs := remaining r.tsrTt2msl
  timerDelackMs := remaining r.tsrTtDelack
  idleTimeMs := remaining r.tsrRcvtime
  sndBufUsed := some r.tsrSndBufCc
  sndBufHiwat := some r.tsrSndBufHiwat
  rcvBufUsed := some r.tsrRcvBufCc
  rcvBufHiwat := some r.tsrRcvBufHiwat
  pid := none
  effectivePid := none
  uid := some r.tsrUid
  fd := none
  ecnFlags := some r.tsrEcn
  ecnCeDelivered := some r.tsrDeliveredCe
  ecnCeReceived := some r.tsrReceivedCe
  negotiatedOptions := some r.tsrOptions.toUInt32
  tlpProbesSent := some r.tsrTotalTlp
  tlpBytesSent := some r.tsrTotalTlpBytes
  inpGencnt := some r.tsrInpGencnt
  startTimeSecs := none
  sources := [5]

/-- The names in a record are in ASCII. -/
def Ascii : Prop := (∀ c ∈ r.tsrCc.str, c < 0x80) ∧ ∀ c ∈ r.tsrStack.str, c < 0x80

/-- The record of a connection: of this version, with the flag of its family, in one of the
eleven states, its names in ASCII. -/
structure Filled : Prop where
  version : r.tsrVersion = TCP_STATS_VERSION
  family : r.tsrAf = AF_INET6 ∧ r.tsrFlags &&& TSR_F_IPV6 ≠ 0 ∨ r.tsrAf = AF_INET ∧ r.tsrFlags &&& TSR_F_IPV6 = 0
  state : 0 ≤ r.tsrState ∧ r.tsrState ≤ 10
  ascii : r.Ascii

/-! ### The kernel fills such records -/

variable {r} {Cred : Type}

/-- The names of a connection are in ASCII. -/
def AsciiNames (inp : Inpcb Cred) : Prop :=
  ∀ tp ∈ inp.tcpcb, (∀ name ∈ tp.ccAlgo, ∀ c ∈ name, c < 0x80) ∧ ∀ name ∈ tp.tFb, ∀ c ∈ name, c < 0x80

theorem ascii_strlcpy {name : CStr} (h : ∀ c ∈ name, c < 0x80) : ∀ c ∈ (strlcpy 16 name).str, c < 0x80 :=
  fun c hc => h c ((List.takeWhile_prefix _).subset (List.mem_of_mem_take hc))

theorem Ascii.fillNames {tp : Tcpcb} (hcc : ∀ name ∈ tp.ccAlgo, ∀ c ∈ name, c < 0x80)
    (hfb : ∀ name ∈ tp.tFb, ∀ c ∈ name, c < 0x80) (h : r.Ascii) : (fillNames tp r).Ascii := by
  have hopt : ∀ {o : Option CStr} {b : CharBuf 16}, (∀ name ∈ o, ∀ c ∈ name, c < 0x80) →
      (∀ c ∈ b.str, c < 0x80) → ∀ c ∈ ((o.map (strlcpy 16)).getD b).str, c < 0x80 := by
    intro o b ho hb
    cases o with
    | none => exact hb
    | some name => exact ascii_strlcpy (ho name rfl)
  exact ⟨hopt hcc h.1, hopt hfb h.2⟩

theorem Ascii.fillIdentity (inp : Inpcb Cred) (tp : Option Tcpcb) :
    (tcpstatsFillIdentity .zero inp tp).Ascii := by
  have hnames : (tcpstatsFillIdentity .zero inp tp).tsrCc.str = [] ∧
      (tcpstatsFillIdentity .zero inp tp).tsrStack.str = [] := by
    unfold tcpstatsFillIdentity
    rcases tp with _ | tp <;> rcases inp.inpSocket with _ | so <;> cases inp.hasVflag INP_IPV6 <;>
      exact ⟨rfl, rfl⟩
  simp [Ascii, hnames]

theorem freshRecord_ascii {inp : Inpcb Cred} (h : AsciiNames inp) (fieldMask : UInt32) (now : Sbintime)
    (tick : Int32) (ticks : UInt32) : (freshRecord inp fieldMask now tick ticks).Ascii := by
  have hbuf : ∀ r : TcpStats.TcpStatsRecord, r.Ascii → (fillBuffers inp.inpSocket r).Ascii := by
    intro r hr
    rcases inp.inpSocket with _ | so <;> exact hr
  unfold freshRecord tcpstatsFillRecord
  rcases htp : inp.tcpcb with _ | tp
  · exact Ascii.fillIdentity inp none
  obtain ⟨hcc, hfb⟩ := h tp htp
  dsimp only
  split_ifs
  · exact Ascii.fillIdentity inp (some tp)
  refine fillGroup_inv hbuf (fillGroup_inv (fun _ hr => hr) (fillGroup_inv (fun _ hr => hr) ?_))
  refine fillGroup_inv (fun _ hr => hr) (fillGroup_inv (fun _ hr => hr.fillNames hcc hfb) ?_)
  refine fillGroup_inv (fun _ hr => hr) (fillGroup_inv (fun _ hr => hr) ?_)
  exact fillGroup_inv (fun _ hr => hr) (fillGroup_inv (fun _ hr => hr) (Ascii.fillIdentity inp (some tp)))

/-- The flags of a record: its family, and whether the socket listens. -/
def flagsOf (v6 listening : Bool) : UInt32 :=
  let flags : UInt32 := if v6 then 0 ||| TSR_F_IPV6 else 0
  if listening then flags ||| TSR_F_LISTEN else flags

theorem freshRecord_flags (inp : Inpcb Cred) (fieldMask : UInt32) (now : Sbintime) (tick : Int32)
    (ticks : UInt32) : (freshRecord inp fieldMask now tick ticks).tsrFlags =
      flagsOf (inp.hasVflag INP_IPV6) (inp.tcpcb.any fun tp => tp.tState = TcpState.LISTEN) := by
  have hid := congrArg TcpStatsRecord.tsrFlags
    (identity_tcpstatsFillRecord .zero inp inp.tcpcb fieldMask now tick ticks)
  refine hid.trans ?_
  unfold tcpstatsFillIdentity
  rcases inp.tcpcb with _ | tp
  · rcases inp.inpSocket with _ | so <;> cases inp.hasVflag INP_IPV6 <;> rfl
  · simp only [Option.any_some]
    by_cases hl : tp.tState = TcpState.LISTEN <;> rcases inp.inpSocket with _ | so <;>
      cases inp.hasVflag INP_IPV6 <;> simp only [hl, if_true, if_false] <;> rfl

/-- Every record that the kernel fills is such a record. -/
theorem freshRecord_filled {inp : Inpcb Cred} (h : AsciiNames inp) (fieldMask : UInt32) (now : Sbintime)
    (tick : Int32) (ticks : UInt32) : (freshRecord inp fieldMask now tick ticks).Filled where
  version := freshRecord_version inp fieldMask now tick ticks
  family := by
    rw [freshRecord_af, freshRecord_flags]
    generalize inp.tcpcb.any _ = listening
    cases inp.hasVflag INP_IPV6 <;> cases listening <;> decide
  state := by
    rw [freshRecord_state]
    rcases inp.tcpcb with _ | tp
    · decide
    · cases h : tp.tState <;> rw [reportedState, h] <;> decide
  ascii := freshRecord_ascii h fieldMask now tick ticks

end TcpStatsRecord

/-! ### Every field arrives -/

namespace Client

open TcpStats.TcpStatsRecord

variable {r : TcpStats.TcpStatsRecord}

/-- ASCII is its own decoding. -/
theorem fromUtf8Lossy_ascii {bs : List UInt8} (h : ∀ c ∈ bs, c < 0x80) : fromUtf8Lossy bs none = bs := by
  induction bs with
  | nil => rfl
  | cons b bs ih =>
    rw [fromUtf8Lossy, continueSequence, beginSequence, if_pos (h b (List.mem_cons_self ..))]
    exact congrArg (b :: ·) (ih fun c hc => h c (List.mem_cons_of_mem _ hc))

/-- The name in a char array. -/
theorem optionalName_charBytes {b : CharBuf 16} (h : ∀ c ∈ b.str, c < 0x80) :
    optionalName (charBytes b) = nameOf b := by
  have hpos : 0 < 16 - b.str.length := Nat.sub_pos_of_lt b.fits
  have hname : extractNulString (charBytes b) = b.str := by
    rw [extractNulString, charBytes, ← Nat.succ_pred_eq_of_pos hpos, List.replicate_succ]
    exact (congrArg (fromUtf8Lossy · none) (ofArray_append_zero b.noNul _)).trans (fromUtf8Lossy_ascii h)
  simp only [optionalName, hname, nameOf, List.isEmpty_iff]

theorem normalizeTimer_eq (v : Int32) : normalizeTimer v = remaining v := by
  unfold normalizeTimer remaining
  congr 1
  split_ifs with hv
  · have : v.toInt ≤ 0 := (Int32.lt_iff_toInt_lt.mp hv).le
    rw [Int.toNat_of_nonpos this]
    rfl
  · have : v.toUInt32.toNat = v.toInt.toNat := Int32.toNat_toUInt32_of_le (Int32.not_lt.mp hv)
    rw [← this, UInt32.ofNat_toNat]

theorem kernelStateToProto_of_filled (h : r.Filled) : kernelStateToProto r.tsrState = r.tsrState + 1 :=
  if_pos h.state

/-- The client decodes a record and converts it: every field arrives. -/
theorem rawToProto_decode (h : r.Filled) : rawToProto (decode r) = r.message := by
  rw [decode, ofBytes_bytes]
  have hcc := optionalName_charBytes h.ascii.1
  have hstack := optionalName_charBytes h.ascii.2
  have hstate := kernelStateToProto_of_filled h
  rcases h.family with ⟨haf, -⟩ | ⟨haf, hflags⟩
  · have hv6 : (r.tsrFlags &&& TSR_F_IPV6 != 0 || r.tsrAf == AF_INET6) = true := by simp [haf]
    have haddr : ∀ a, r.address a = a.toList := fun a => if_pos haf
    simp only [rawToProto, rawSocketRecord, TcpStatsRecord.mirror, message, hcc, hstack, hstate,
      normalizeTimer_eq, haddr, hv6, if_true, if_pos haf, Option.map_some, Option.getD_some]
    rfl
  · have hne : ¬ r.tsrAf = AF_INET6 := by rw [haf]; decide
    have hv4 : (r.tsrFlags &&& TSR_F_IPV6 != 0 || r.tsrAf == AF_INET6) = false := by simp [hflags, hne]
    have haddr : ∀ a, r.address a = a.toList.take 4 := fun a => if_neg hne
    simp only [rawToProto, rawSocketRecord, TcpStatsRecord.mirror, message, hcc, hstack, hstate,
      normalizeTimer_eq, haddr, hv4, Bool.false_eq_true, if_false, if_neg hne, Option.map_some,
      Option.getD_some]
    rfl

/-! ### What is accepted -/

theorem mapM_ok_iff {α β ε : Type} {f : α → Except ε β} {l : List α} :
    (∃ ys, l.mapM f = .ok ys) ↔ ∀ x ∈ l, ∃ y, f x = .ok y := by
  induction l with
  | nil => exact ⟨fun _ x hx => absurd hx List.not_mem_nil, fun _ => ⟨[], rfl⟩⟩
  | cons x l ih =>
    rw [List.mapM_cons, List.forall_mem_cons, ← ih]
    cases f x with
    | error e => simp [bind, Except.bind]
    | ok y => cases l.mapM f <;> simp [bind, Except.bind, pure, Except.pure]

/-- The version in a chunk is the word at its start. -/
theorem ofBytes_bytesAt_version (buf : List UInt8) (offset : ℕ) :
    (TcpStatsRecord.ofBytes (bytesAt buf offset TCP_STATS_RECORD_SIZE)).tsrVersion = u32At buf offset :=
  congrArg (fun b => UInt32.ofNat (leNat b)) (bytesAt_within (i := 0) (m := 4) rfl (by decide)).symm

/-- A buffer is accepted just when it is made of whole records of the version. -/
theorem parseKldRecords_ok_iff (buf : List UInt8) :
    (∃ raws, parseKldRecords buf = .ok raws) ↔ buf.length % TCP_STATS_RECORD_SIZE = 0 ∧
      ∀ i < buf.length / TCP_STATS_RECORD_SIZE, u32At buf (i * TCP_STATS_RECORD_SIZE) = TCP_STATS_VERSION := by
  unfold parseKldRecords
  by_cases hempty : buf = []
  · subst hempty
    exact ⟨fun _ => ⟨rfl, fun i hi => absurd hi (Nat.not_lt_zero i)⟩, fun _ => ⟨[], rfl⟩⟩
  rw [if_neg (by simpa using hempty)]
  by_cases hsize : buf.length % TCP_STATS_RECORD_SIZE = 0
  · rw [if_neg (not_not.mpr hsize), mapM_ok_iff]
    simp only [List.mem_range, ofBytes_bytesAt_version, hsize, true_and]
    refine forall₂_congr fun i _ => ?_
    split_ifs with hversion
    · simp [hversion]
    · simp [kldRecordToRaw, not_not.mp hversion]
  · rw [if_pos hsize]
    simp [hsize]

/-- The kernel's records and the client's decoder agree on the whole format: what is decoded
from filled records is, once converted, the message of every record in order, and the buffers
that are accepted are those made of whole records of the version. -/
theorem records_decoded :
    (∀ rs : List TcpStats.TcpStatsRecord, (∀ r ∈ rs, r.Filled) →
      ∃ raws, parseKldRecords (rs.flatMap TcpStats.TcpStatsRecord.bytes) = .ok raws ∧
        raws.map rawToProto = rs.map message) ∧
    ∀ buf : List UInt8, (∃ raws, parseKldRecords buf = .ok raws) ↔
      buf.length % TCP_STATS_RECORD_SIZE = 0 ∧
      ∀ i < buf.length / TCP_STATS_RECORD_SIZE, u32At buf (i * TCP_STATS_RECORD_SIZE) = TCP_STATS_VERSION := by
  refine ⟨fun rs h => ⟨rs.map decode, parseKldRecords_flatMap fun r hr => (h r hr).version, ?_⟩,
    parseKldRecords_ok_iff⟩
  rw [List.map_map]
  exact List.map_congr_left fun r hr => rawToProto_decode (h r hr)

/-- A connection with both of its names. -/
def Sample.named (vflag : UInt8) : Inpcb ℕ :=
  { TcpStats.Sample.inpcb 1 vflag 5 with
    tcpcb := some { TcpStats.Sample.tcpcb TcpState.ESTABLISHED with
      ccAlgo := some (cstr "cubic")
      tFb := some (cstr "freebsd") } }

/-- Such a connection of either family, both reported whole. -/
theorem records_decoded_two :
    let rs := [INP_IPV4, INP_IPV6].map fun v =>
      freshRecord (Sample.named v) TSR_FIELDS_ALL SBT_1S 1000 0
    ∃ raws, parseKldRecords (rs.flatMap TcpStats.TcpStatsRecord.bytes) = .ok raws ∧
      raws.map rawToProto = rs.map message := by
  refine records_decoded.1 _ fun r hr => ?_
  obtain ⟨v, -, rfl⟩ := List.mem_map.mp hr
  refine freshRecord_filled (fun tp htp => ?_) ..
  obtain rfl := Option.mem_some.mp htp
  have hcc : ∀ c ∈ cstr "cubic", c < 0x80 := by decide +kernel
  have hstack : ∀ c ∈ cstr "freebsd", c < 0x80 := by decide +kernel
  exact ⟨fun name h => Option.mem_some.mp h ▸ hcc, fun name h => Option.mem_some.mp h ▸ hstack⟩

end Client
end TcpStats
