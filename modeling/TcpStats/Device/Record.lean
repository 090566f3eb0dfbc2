import TcpStats.Filter.Struct
import TcpStats.Kernel.Inpcb
import TcpStats.Lib.Bytes

/-!
# Records

`struct tcp_stats_record`, its 320 packed bytes, and how `tcpstats_fill_identity` and
`tcpstats_fill_record` fill one from a connection.
-/

namespace TcpStats

open CString Bytes

def TCP_STATS_VERSION : UInt32 := 1
def TCP_STATS_RECORD_SIZE : ℕ := 320
def TSR_F_IPV6 : UInt32 := 0x00000001
def TSR_F_LISTEN : UInt32 := 0x00000002

instance ccNamePos : Fact (0 < 16) := ⟨by decide⟩

/-- `struct tcp_stats_record`. The padding and the spare words are always zero. -/
structure TcpStatsRecord where
  tsrVersion : UInt32
  tsrLen : UInt32
  tsrFlags : UInt32
  tsrAf : UInt8
  tsrLocalPort : UInt16
  tsrRemotePort : UInt16
  /-- A union: an IPv4 address takes the first four bytes. -/
  tsrLocalAddr : Vector UInt8 16
  tsrRemoteAddr : Vector UInt8 16
  tsrState : Int32
  tsrFlagsTcp : UInt32
  tsrSndCwnd : UInt32
  tsrSndSsthresh : UInt32
  tsrSndWnd : UInt32
  tsrRcvWnd : UInt32
  tsrMaxseg : UInt32
  tsrCc : CharBuf 16
  tsrStack : CharBuf 16
  tsrRtt : UInt32
  tsrRttvar : UInt32
  tsrRto : UInt32
  tsrRttmin : UInt32
  tsrSndWscale : UInt8
  tsrRcvWscale : UInt8
  tsrOptions : UInt8
  tsrSndNxt : UInt32
  tsrSndUna : UInt32
  tsrSndMax : UInt32
  tsrRcvNxt : UInt32
  tsrRcvAdv : UInt32
  tsrSndRexmitpack : UInt32
  tsrRcvOoopack : UInt32
  tsrSndZerowin : UInt32
  tsrDupacks : UInt32
  tsrRcvNumsacks : UInt32
  tsrEcn : UInt32
  tsrDeliveredCe : UInt32
  tsrReceivedCe : UInt32
  tsrDsackBytes : UInt32
  tsrDsackPack : UInt32
  tsrTotalTlp : UInt32
  tsrTotalTlpBytes : UInt64
  tsrTtRexmt : Int32
  tsrTtPersist : Int32
  tsrTtKeep : Int32
  tsrTt2msl : Int32
  tsrTtDelack : Int32
  tsrRcvtime : Int32
  tsrSndBufCc : UInt32
  tsrSndBufHiwat : UInt32
  tsrRcvBufCc : UInt32
  tsrRcvBufHiwat : UInt32
  tsrSoAddr : UInt64
  tsrUid : UInt32
  tsrInpGencnt : UInt64
  deriving DecidableEq

/-- `bzero(&rec, sizeof(rec))`. -/
def TcpStatsRecord.zero : TcpStatsRecord where
  tsrVersion := 0
  tsrLen := 0
  tsrFlags := 0
  tsrAf := 0
  tsrLocalPort := 0
  tsrRemotePort := 0
  tsrLocalAddr := Vector.replicate 16 0
  tsrRemoteAddr := Vector.replicate 16 0
  tsrState := 0
  tsrFlagsTcp := 0
  tsrSndCwnd := 0
  tsrSndSsthresh := 0
  tsrSndWnd := 0
  tsrRcvWnd := 0
  tsrMaxseg := 0
  tsrCc := .empty 16
  tsrStack := .empty 16
  tsrRtt := 0
  tsrRttvar := 0
  tsrRto := 0
  tsrRttmin := 0
  tsrSndWscale := 0
  tsrRcvWscale := 0
  tsrOptions := 0
  tsrSndNxt := 0
  tsrSndUna := 0
  tsrSndMax := 0
  tsrRcvNxt := 0
  tsrRcvAdv := 0
  tsrSndRexmitpack := 0
  tsrRcvOoopack := 0
  tsrSndZerowin := 0
  tsrDupacks := 0
  tsrRcvNumsacks := 0
  tsrEcn := 0
  tsrDeliveredCe := 0
  tsrReceivedCe := 0
  tsrDsackBytes := 0
  tsrDsackPack := 0
  tsrTotalTlp := 0
  tsrTotalTlpBytes := 0
  tsrTtRexmt := 0
  tsrTtPersist := 0
  tsrTtKeep := 0
  tsrTt2msl := 0
  tsrTtDelack := 0
  tsrRcvtime := 0
  tsrSndBufCc := 0
  tsrSndBufHiwat := 0
  tsrRcvBufCc := 0
  tsrRcvBufHiwat := 0
  tsrSoAddr := 0
  tsrUid := 0
  tsrInpGencnt := 0

/-! ### Bytes -/

/-- All the bytes of a char buffer that was zeroed before the string was copied in. -/
def charBytes {n : ℕ} (b : CharBuf n) : List UInt8 := b.str ++ List.replicate (n - b.str.length) 0

@[simp] theorem length_charBytes {n : ℕ} (b : CharBuf n) : (charBytes b).length = n := by
  have := b.fits
  simp only [charBytes, List.length_append, List.length_replicate]
  omega

namespace TcpStatsRecord

variable (r : TcpStatsRecord)

/-- Record header (16 bytes). -/
def headerBytes : List UInt8 := le32 r.tsrVersion ++ le32 r.tsrLen ++ le32 r.tsrFlags ++ le32 0

/-- Connection identity (40 bytes). -/
def identityBytes : List UInt8 :=
  [r.tsrAf, 0, 0, 0] ++ le16 r.tsrLocalPort ++ le16 r.tsrRemotePort ++
    r.tsrLocalAddr.toList ++ r.tsrRemoteAddr.toList

/-- TCP state (8 bytes). -/
def stateBytes : List UInt8 := le32 r.tsrState.toUInt32 ++ le32 r.tsrFlagsTcp

/-- Congestion control (52 bytes). -/
def congestionBytes : List UInt8 :=
  le32 r.tsrSndCwnd ++ le32 r.tsrSndSsthresh ++ le32 r.tsrSndWnd ++ le32 r.tsrRcvWnd ++
    le32 r.tsrMaxseg ++ charBytes r.tsrCc ++ charBytes r.tsrStack

/-- RTT (16 bytes). -/
def rttBytes : List UInt8 := le32 r.tsrRtt ++ le32 r.tsrRttvar ++ le32 r.tsrRto ++ le32 r.tsrRttmin

/-- Window scale and options (4 bytes). -/
def scaleBytes : List UInt8 := [r.tsrSndWscale, r.tsrRcvWscale, r.tsrOptions, 0]

/-- Sequence numbers (20 bytes). -/
def sequenceBytes : List UInt8 :=
  le32 r.tsrSndNxt ++ le32 r.tsrSndUna ++ le32 r.tsrSndMax ++ le32 r.tsrRcvNxt ++ le32 r.tsrRcvAdv

/-- Counters (20 bytes). -/
def counterBytes : List UInt8 :=
  le32 r.tsrSndRexmitpack ++ le32 r.tsrRcvOoopack ++ le32 r.tsrSndZerowin ++ le32 r.tsrDupacks ++
    le32 r.tsrRcvNumsacks

/-- ECN, DSACK and TLP (32 bytes). -/
def ecnBytes : List UInt8 :=
  le32 r.tsrEcn ++ le32 r.tsrDeliveredCe ++ le32 r.tsrReceivedCe ++ le32 r.tsrDsackBytes ++
    le32 r.tsrDsackPack ++ le32 r.tsrTotalTlp ++ le64 r.tsrTotalTlpBytes

/-- Timers (24 bytes). -/
def timerBytes : List UInt8 :=
  le32 r.tsrTtRexmt.toUInt32 ++ le32 r.tsrTtPersist.toUInt32 ++ le32 r.tsrTtKeep.toUInt32 ++
    le32 r.tsrTt2msl.toUInt32 ++ le32 r.tsrTtDelack.toUInt32 ++ le32 r.tsrRcvtime.toUInt32

/-- Buffer utilization (16 bytes). -/
def bufferBytes : List UInt8 :=
  le32 r.tsrSndBufCc ++ le32 r.tsrSndBufHiwat ++ le32 r.tsrRcvBufCc ++ le32 r.tsrRcvBufHiwat

/-- Socket metadata (20 bytes). -/
def socketBytes : List UInt8 := le64 r.tsrSoAddr ++ le32 r.tsrUid ++ le64 r.tsrInpGencnt

/-- The bytes of a record, in the order of its fields; the struct is packed. -/
def bytes : List UInt8 :=
  r.headerBytes ++ r.identityBytes ++ r.stateBytes ++ r.congestionBytes ++ r.rttBytes ++ r.scaleBytes ++
    r.sequenceBytes ++ r.counterBytes ++ r.ecnBytes ++ r.timerBytes ++ r.bufferBytes ++ r.socketBytes ++
    List.replicate 52 0

@[simp] theorem length_headerBytes : r.headerBytes.length = 16 := rfl

@[simp] theorem length_identityBytes : r.identityBytes.length = 40 := by
  simp [identityBytes]

@[simp] theorem length_stateBytes : r.stateBytes.length = 8 := rfl

@[simp] theorem length_congestionBytes : r.congestionBytes.length = 52 := by
  simp [congestionBytes]

@[simp] theorem length_rttBytes : r.rttBytes.length = 16 := rfl

@[simp] theorem length_scaleBytes : r.scaleBytes.length = 4 := rfl

@[simp] theorem length_sequenceBytes : r.sequenceBytes.length = 20 := rfl

@[simp] theorem length_counterBytes : r.counterBytes.length = 20 := rfl

@[simp] theorem length_ecnBytes : r.ecnBytes.length = 32 := rfl

@[simp] theorem length_timerBytes : r.timerBytes.length = 24 := rfl

@[simp] theorem length_bufferBytes : r.bufferBytes.length = 16 := rfl

@[simp] theorem length_socketBytes : r.socketBytes.length = 20 := rfl

/-- `_Static_assert(sizeof(struct tcp_stats_record) == TCP_STATS_RECORD_SIZE)`. -/
@[simp] theorem length_bytes : r.bytes.length = TCP_STATS_RECORD_SIZE := by
  simp [bytes, TCP_STATS_RECORD_SIZE]

end TcpStatsRecord

theorem length_flatMap_bytes (rs : List TcpStatsRecord) :
    (rs.flatMap TcpStatsRecord.bytes).length = TCP_STATS_RECORD_SIZE * rs.length := by
  simp [List.length_flatMap, Nat.mul_comm]

/-! ### Filling -/

/-- An IPv4 address in the union: its bytes in memory, the other twelve zero. -/
def InAddr.union (a : InAddr) : Vector UInt8 16 := Vector.ofFn fun i => (le32 a.sAddr).getD i 0

variable {Cred : Type}

/-- `tcpstats_fill_identity`. -/
def tcpstatsFillIdentity (r : TcpStatsRecord) (inp : Inpcb Cred) (tp : Option Tcpcb) : TcpStatsRecord :=
  let r := { r with
    tsrVersion := TCP_STATS_VERSION
    tsrLen := TCP_STATS_RECORD_SIZE.toUInt32 }
  let r :=
    if inp.hasVflag INP_IPV6 then
      { r with
        tsrAf := AF_INET6
        tsrFlags := r.tsrFlags ||| TSR_F_IPV6
        tsrLocalAddr := inp.inc6Laddr.s6Addr
        tsrRemoteAddr := inp.inc6Faddr.s6Addr }
    else
      { r with
        tsrAf := AF_INET
        tsrLocalAddr := inp.incLaddr.union
        tsrRemoteAddr := inp.incFaddr.union }
  let r := { r with
    tsrLocalPort := ntohs inp.incLport
    tsrRemotePort := ntohs inp.incFport }
  let r :=
    match tp with
    | some tp =>
      { r with
        tsrState := Int32.ofNat tp.tState.code
        tsrFlagsTcp := tp.tFlags
        tsrFlags := if tp.tState = TcpState.LISTEN then r.tsrFlags ||| TSR_F_LISTEN else r.tsrFlags }
    | none => r
  let r :=
    match inp.inpSocket with
    | some so => { r with tsrSoAddr := so.addr, tsrUid := so.crUid.getD r.tsrUid }
    | none => r
  { r with tsrInpGencnt := inp.inpGencnt }

/-- The remaining time of a timer in milliseconds, 0 if it is not running. -/
def timerMs (timer now : Sbintime) : Int32 :=
  if timer = SBT_MAX ∨ timer = 0 then 0 else ((timer - now) / SBT_1MS).toInt32

/-! The bodies of the `if (field_mask & TSR_FIELDS_...)` of `tcpstats_fill_record`. -/

/-- RTT, converted to microseconds as `tcp_fill_info` does. -/
def fillRtt (tp : Tcpcb) (tick : Int32) (r : TcpStatsRecord) : TcpStatsRecord :=
  { r with
    tsrRtt := ((tp.tSrtt.toInt64.toUInt64 * tick.toInt64.toUInt64) >>> TCP_RTT_SHIFT).toUInt32
    tsrRttvar := ((tp.tRttvar.toInt64.toUInt64 * tick.toInt64.toUInt64) >>> TCP_RTTVAR_SHIFT).toUInt32
    tsrRto := (tp.tRxtcur * tick).toUInt32
    tsrRttmin := tp.tRttlow }

/-- Window scale and options. -/
def fillState (tp : Tcpcb) (r : TcpStatsRecord) : TcpStatsRecord :=
  let scale := tp.tFlags &&& TF_REQ_SCALE != 0 && tp.tFlags &&& TF_RCVD_SCALE != 0
  let tstmp := tp.tFlags &&& TF_REQ_TSTMP != 0 && tp.tFlags &&& TF_RCVD_TSTMP != 0
  let sack := tp.tFlags &&& TF_SACK_PERMIT != 0
  { r with
    tsrOptions := r.tsrOptions ||| (if scale then TCPI_OPT_WSCALE else 0) |||
      (if tstmp then TCPI_OPT_TIMESTAMPS else 0) ||| (if sack then TCPI_OPT_SACK else 0)
    tsrSndWscale := if scale then tp.sndScale else r.tsrSndWscale
    tsrRcvWscale := if scale then tp.rcvScale else r.tsrRcvWscale }

/-- Sequence numbers. -/
def fillSequences (tp : Tcpcb) (r : TcpStatsRecord) : TcpStatsRecord :=
  { r with
    tsrSndNxt := tp.sndNxt
    tsrSndUna := tp.sndUna
    tsrSndMax := tp.sndMax
    tsrRcvNxt := tp.rcvNxt
    tsrRcvAdv := tp.rcvAdv }

/-- Congestion. -/
def fillCongestion (tp : Tcpcb) (r : TcpStatsRecord) : TcpStatsRecord :=
  { r with
    tsrSndCwnd := tp.sndCwnd
    tsrSndSsthresh := tp.sndSsthresh
    tsrSndWnd := tp.sndWnd
    tsrRcvWnd := tp.rcvWnd
    tsrMaxseg := tp.tMaxseg }

/-- The names of the congestion control algorithm and the TCP stack. -/
def fillNames (tp : Tcpcb) (r : TcpStatsRecord) : TcpStatsRecord :=
  { r with
    tsrCc := (tp.ccAlgo.map (strlcpy 16)).getD r.tsrCc
    tsrStack := (tp.tFb.map (strlcpy 16)).getD r.tsrStack }

/-- Counters. -/
def fillCounters (tp : Tcpcb) (r : TcpStatsRecord) : TcpStatsRecord :=
  { r with
    tsrSndRexmitpack := tp.tSndrexmitpack
    tsrRcvOoopack := tp.tRcvoopack
    tsrSndZerowin := tp.tSndzerowin
    tsrDupacks := tp.tDupacks
    tsrRcvNumsacks := tp.rcvNumsacks }

/-- ECN, DSACK and TLP. -/
def fillEcn (tp : Tcpcb) (r : TcpStatsRecord) : TcpStatsRecord :=
  let both := TF2_ECN_PERMIT ||| TF2_ACE_PERMIT
  { r with
    tsrDeliveredCe := if tp.tFlags2 &&& both = both then tp.tScep - 5 else tp.tScep
    tsrReceivedCe := tp.tRcep
    tsrEcn := if tp.tFlags2 &&& TF2_ECN_PERMIT = 0 then 0 else 1
    tsrDsackBytes := tp.tDsackBytes
    tsrDsackPack := tp.tDsackPack
    tsrTotalTlp := tp.tSndtlppack
    tsrTotalTlpBytes := tp.tSndtlpbyte }

/-- Timers, and the time since data last arrived. -/
def fillTimers (tp : Tcpcb) (now : Sbintime) (tick : Int32) (ticks : UInt32)
    (r : TcpStatsRecord) : TcpStatsRecord :=
  { r with
    tsrTtRexmt := timerMs tp.tTimers[0] now
    tsrTtPersist := timerMs tp.tTimers[1] now
    tsrTtKeep := timerMs tp.tTimers[2] now
    tsrTt2msl := timerMs tp.tTimers[3] now
    tsrTtDelack := timerMs tp.tTimers[4] now
    tsrRcvtime := ((ticks - tp.tRcvtime) * tick.toUInt32 / 1000).toInt32 }

/-- Buffer utilization, when there is a socket. -/
def fillBuffers (so : Option Socket) (r : TcpStatsRecord) : TcpStatsRecord :=
  match so with
  | some so =>
    { r with
      tsrSndBufCc := so.sndCcc
      tsrSndBufHiwat := so.sndHiwat
      tsrRcvBufCc := so.rcvCcc
      tsrRcvBufHiwat := so.rcvHiwat }
  | none => r

/-- A body that runs when its group is asked for. -/
def fillGroup (fieldMask group : UInt32) (fill : TcpStatsRecord → TcpStatsRecord)
    (r : TcpStatsRecord) : TcpStatsRecord :=
  if fieldMask &&& group = 0 then r else fill r

/-- `tcpstats_fill_record`. The clock it reads is `ticks`; `tick` is the number of
microseconds in one of them, and `now` the time at which the read began. -/
def tcpstatsFillRecord (r : TcpStatsRecord) (inp : Inpcb Cred) (tp : Option Tcpcb) (fieldMask : UInt32)
    (now : Sbintime) (tick : Int32) (ticks : UInt32) : TcpStatsRecord :=
  let r := tcpstatsFillIdentity r inp tp
  match tp with
  | none => r
  | some tp =>
    if tp.tState = TcpState.LISTEN then r
    else
      let r := fillGroup fieldMask TSR_FIELDS_RTT (fillRtt tp tick) r
      let r := fillGroup fieldMask TSR_FIELDS_STATE (fillState tp) r
      let r := fillGroup fieldMask TSR_FIELDS_SEQUENCES (fillSequences tp) r
      let r := fillGroup fieldMask TSR_FIELDS_CONGESTION (fillCongestion tp) r
      let r := fillGroup fieldMask TSR_FIELDS_NAMES (fillNames tp) r
      let r := fillGroup fieldMask TSR_FIELDS_COUNTERS (fillCounters tp) r
      let r := fillGroup fieldMask TSR_FIELDS_ECN (fillEcn tp) r
      let r := fillGroup fieldMask TSR_FIELDS_TIMERS (fillTimers tp now tick ticks) r
      fillGroup fieldMask TSR_FIELDS_BUFFERS (fillBuffers inp.inpSocket) r

/-- The record of a connection: `bzero` and `tcpstats_fill_record`. -/
def freshRecord (inp : Inpcb Cred) (fieldMask : UInt32) (now : Sbintime) (tick : Int32)
    (ticks : UInt32) : TcpStatsRecord :=
  tcpstatsFillRecord .zero inp inp.tcpcb fieldMask now tick ticks

/-! ### What every record holds -/

/-- The record with only the fields that `tcpstats_fill_identity` fills. -/
def TcpStatsRecord.identity (r : TcpStatsRecord) : TcpStatsRecord :=
  { TcpStatsRecord.zero with
    tsrVersion := r.tsrVersion
    tsrLen := r.tsrLen
    tsrFlags := r.tsrFlags
    tsrAf := r.tsrAf
    tsrLocalPort := r.tsrLocalPort
    tsrRemotePort := r.tsrRemotePort
    tsrLocalAddr := r.tsrLocalAddr
    tsrRemoteAddr := r.tsrRemoteAddr
    tsrState := r.tsrState
    tsrFlagsTcp := r.tsrFlagsTcp
    tsrSoAddr := r.tsrSoAddr
    tsrUid := r.tsrUid
    tsrInpGencnt := r.tsrInpGencnt }

/-- What a group of fields keeps is kept when the mask leaves the group out. -/
theorem fillGroup_inv {P : TcpStatsRecord → Prop} {fieldMask group : UInt32}
    {fill : TcpStatsRecord → TcpStatsRecord}
    {r : TcpStatsRecord} (h : ∀ r, P r → P (fill r)) (hr : P r) : P (fillGroup fieldMask group fill r) := by
  unfold fillGroup
  split_ifs
  · exact hr
  · exact h r hr

/-- No field group touches the identity. -/
theorem identity_tcpstatsFillRecord (r : TcpStatsRecord) (inp : Inpcb Cred) (tp : Option Tcpcb)
    (fieldMask : UInt32) (now : Sbintime) (tick : Int32) (ticks : UInt32) :
    (tcpstatsFillRecord r inp tp fieldMask now tick ticks).identity =
      (tcpstatsFillIdentity r inp tp).identity := by
  have hbuf : ∀ r, (fillBuffers inp.inpSocket r).identity = r.identity := by
    intro r
    rcases inp.inpSocket with _ | so <;> rfl
  unfold tcpstatsFillRecord
  rcases tp with _ | tp
  · rfl
  dsimp only
  split_ifs
  · rfl
  let P := fun s : TcpStatsRecord => s.identity = (tcpstatsFillIdentity r inp (some tp)).identity
  refine fillGroup_inv (P := P) (fun s hs => (hbuf s).trans hs) (fillGroup_inv (fun _ hs => hs) ?_)
  refine fillGroup_inv (fun _ hs => hs) (fillGroup_inv (fun _ hs => hs) (fillGroup_inv (fun _ hs => hs) ?_))
  refine fillGroup_inv (fun _ hs => hs) (fillGroup_inv (fun _ hs => hs) (fillGroup_inv (fun _ hs => hs) ?_))
  exact fillGroup_inv (fun _ hs => hs) rfl

/-- Every record says its version. -/
theorem freshRecord_version (inp : Inpcb Cred) (fieldMask : UInt32) (now : Sbintime) (tick : Int32)
    (ticks : UInt32) : (freshRecord inp fieldMask now tick ticks).tsrVersion = TCP_STATS_VERSION := by
  have hid := congrArg TcpStatsRecord.tsrVersion
    (identity_tcpstatsFillRecord .zero inp inp.tcpcb fieldMask now tick ticks)
  refine hid.trans ?_
  unfold tcpstatsFillIdentity
  rcases inp.tcpcb with _ | tp <;> rcases inp.inpSocket with _ | so <;> cases inp.hasVflag INP_IPV6 <;> rfl

/-- The family of a record: IPv6 whenever the connection serves it. -/
theorem freshRecord_af (inp : Inpcb Cred) (fieldMask : UInt32) (now : Sbintime) (tick : Int32)
    (ticks : UInt32) : (freshRecord inp fieldMask now tick ticks).tsrAf =
      if inp.hasVflag INP_IPV6 then AF_INET6 else AF_INET := by
  have hid := congrArg TcpStatsRecord.tsrAf
    (identity_tcpstatsFillRecord .zero inp inp.tcpcb fieldMask now tick ticks)
  refine hid.trans ?_
  unfold tcpstatsFillIdentity
  rcases inp.tcpcb with _ | tp <;> rcases inp.inpSocket with _ | so <;> cases inp.hasVflag INP_IPV6 <;> rfl

/-- The state that is reported: that of the `tcpcb`, and 0 if there is none. -/
def reportedState : Option Tcpcb → Int32
  | some tp => Int32.ofNat tp.tState.code
  | none => 0

theorem freshRecord_state (inp : Inpcb Cred) (fieldMask : UInt32) (now : Sbintime) (tick : Int32)
    (ticks : UInt32) : (freshRecord inp fieldMask now tick ticks).tsrState = reportedState inp.tcpcb := by
  have hid := congrArg TcpStatsRecord.tsrState
    (identity_tcpstatsFillRecord .zero inp inp.tcpcb fieldMask now tick ticks)
  refine hid.trans ?_
  unfold tcpstatsFillIdentity
  rcases inp.tcpcb with _ | tp <;> rcases inp.inpSocket with _ | so <;> cases inp.hasVflag INP_IPV6 <;> rfl

end TcpStats
