import TcpStats.Device.Record
import TcpStats.Lib.Panic

/-!
# Decoding records

The client's side of the record format: `TcpStatsRecord` of `freebsd_layout.rs`, the Rust
mirror of the packed C struct, and `parse_kld_records` of `freebsd.rs`, which turns the
bytes that a read delivers into `RawSocketRecord`s. A Rust `String` is the bytes of its
UTF-8 encoding.
-/

namespace TcpStats.Client

open Bytes

/-- `DATA_SOURCE_FREEBSD_KLD`. -/
def DATA_SOURCE_FREEBSD_KLD : UInt8 := 5

/-- `IpAddr`. -/
inductive IpAddr where
  | v4 (bytes : List UInt8)
  | v6 (bytes : List UInt8)
  deriving DecidableEq

/-- `RawSocketRecord`. -/
structure RawSocketRecord where
  localAddr : Option IpAddr
  remoteAddr : Option IpAddr
  localPort : Option UInt16
  remotePort : Option UInt16
  ipVersion : Option UInt8
  socketId : Option UInt64
  state : Option Int32
  tcpFlags : Option UInt32
  sndCwnd : Option UInt32
  sndSsthresh : Option UInt32
  sndWnd : Option UInt32
  rcvWnd : Option UInt32
  maxseg : Option UInt32
  rttUs : Option UInt32
  rttvarUs : Option UInt32
  rtoUs : Option UInt32
  sndNxt : Option UInt32
  sndUna : Option UInt32
  sndMax : Option UInt32
  rcvNxt : Option UInt32
  rcvAdv : Option UInt32
  sndWscale : Option UInt32
  rcvWscale : Option UInt32
  dupacks : Option UInt32
  rxtShift : Option UInt32
  sndBufUsed : Option UInt32
  sndBufHiwat : Option UInt32
  rcvBufUsed : Option UInt32
  rcvBufHiwat : Option UInt32
  pid : Option Int32
  effectivePid : Option Int32
  uid : Option UInt32
  inpGencnt : Option UInt64
  startTimeSecs : Option UInt32
  rttMinUs : Option UInt32
  ccAlgo : Option (List UInt8)
  tcpStack : Option (List UInt8)
  sndRexmitpack : Option UInt32
  rcvOoopack : Option UInt32
  sndZerowin : Option UInt32
  rcvNumsacks : Option UInt32
  ecnFlags : Option UInt32
  deliveredCe : Option UInt32
  receivedCe : Option UInt32
  dsackBytes : Option UInt32
  dsackPack : Option UInt32
  totalTlp : Option UInt32
  totalTlpBytes : Option UInt64
  timerRexmtMs : Option UInt32
  timerPersistMs : Option UInt32
  timerKeepMs : Option UInt32
  timer2mslMs : Option UInt32
  timerDelackMs : Option UInt32
  idleTimeMs : Option UInt32
  options : Option UInt8
  fd : Option Int32
  sources : List UInt8

/-- The variants of `CollectError` that the FreeBSD collector returns. -/
inductive CollectError where
  | parse (offset : ℕ) (message : String)
  | deviceOpen (path : String) (source : Errno)
  | deviceRead (source : Errno)
  | ioctl (cmd : UInt64) (source : Errno)
  | versionMismatch (expected got : UInt32)
  deriving DecidableEq

/-- The Rust mirror of `struct tcp_stats_record`, without its padding and spare words. -/
structure TcpStatsRecord where
  tsrVersion : UInt32
  tsrLen : UInt32
  tsrFlags : UInt32
  tsrAf : UInt8
  tsrLocalPort : UInt16
  tsrRemotePort : UInt16
  tsrLocalAddr : List UInt8
  tsrRemoteAddr : List UInt8
  tsrState : Int32
  tsrFlagsTcp : UInt32
  tsrSndCwnd : UInt32
  tsrSndSsthresh : UInt32
  tsrSndWnd : UInt32
  tsrRcvWnd : UInt32
  tsrMaxseg : UInt32
  tsrCc : List UInt8
  tsrStack : List UInt8
  tsrRtt : UInt32
  tsrRttvar : UInt32
  tsrRto : UInt32
  tsrRttmin : UInt32
  tsrSndWscale : UInt8
  tsrRcvWscale : UInt8
  tsrOptions : UInt8
  tsrSndNxt : UInt32
  tsrSndUna : UInt32
  tsrSndMax : UInt32
  tsrRcvNxt : UInt32
  tsrRcvAdv : UInt32
  tsrSndRexmitpack : UInt32
  tsrRcvOoopack : UInt32
  tsrSndZerowin : UInt32
  tsrDupacks : UInt32
  tsrRcvNumsacks : UInt32
  tsrEcn : UInt32
  tsrDeliveredCe : UInt32
  tsrReceivedCe : UInt32
  tsrDsackBytes : UInt32
  tsrDsackPack : UInt32
  tsrTotalTlp : UInt32
  tsrTotalTlpBytes : UInt64
  tsrTtRexmt : Int32
  tsrTtPersist : Int32
  tsrTtKeep : Int32
  tsrTt2msl : Int32
  tsrTtDelack : Int32
  tsrRcvtime : Int32
  tsrSndBufCc : UInt32
  tsrSndBufHiwat : UInt32
  tsrRcvBufCc : UInt32
  tsrRcvBufHiwat : UInt32
  tsrSoAddr : UInt64
  tsrUid : UInt32
  tsrInpGencnt : UInt64

/-- The struct in a chunk of 320 bytes, at the offsets that `#[repr(C, packed)]` gives its
fields. -/
def TcpStatsRecord.ofBytes (chunk : List UInt8) : TcpStatsRecord where
  tsrVersion := u32At chunk 0
  tsrLen := u32At chunk 4
  tsrFlags := u32At chunk 8
  tsrAf := u8At chunk 16
  tsrLocalPort := u16At chunk 20
  tsrRemotePort := u16At chunk 22
  tsrLocalAddr := bytesAt chunk 24 16
  tsrRemoteAddr := bytesAt chunk 40 16
  tsrState := i32At chunk 56
  tsrFlagsTcp := u32At chunk 60
  tsrSndCwnd := u32At chunk 64
  tsrSndSsthresh := u32At chunk 68
  tsrSndWnd := u32At chunk 72
  tsrRcvWnd := u32At chunk 76
  tsrMaxseg := u32At chunk 80
  tsrCc := bytesAt chunk 84 16
  tsrStack := bytesAt chunk 100 16
  tsrRtt := u32At chunk 116
  tsrRttvar := u32At chunk 120
  tsrRto := u32At chunk 124
  tsrRttmin := u32At chunk 128
  tsrSndWscale := u8At chunk 132
  tsrRcvWscale := u8At chunk 133
  tsrOptions := u8At chunk 134
  tsrSndNxt := u32At chunk 136
  tsrSndUna := u32At chunk 140
  tsrSndMax := u32At chunk 144
  tsrRcvNxt := u32At chunk 148
  tsrRcvAdv := u32At chunk 152
  tsrSndRexmitpack := u32At chunk 156
  tsrRcvOoopack := u32At chunk 160
  tsrSndZerowin := u32At chunk 164
  tsrDupacks := u32At chunk 168
  tsrRcvNumsacks := u32At chunk 172
  tsrEcn := u32At chunk 176
  tsrDeliveredCe := u32At chunk 180
  tsrReceivedCe := u32At chunk 184
  tsrDsackBytes := u32At chunk 188
  tsrDsackPack := u32At chunk 192
  tsrTotalTlp := u32At chunk 196
  tsrTotalTlpBytes := u64At chunk 200
  tsrTtRexmt := i32At chunk 208
  tsrTtPersist := i32At chunk 212
  tsrTtKeep := i32At chunk 216
  tsrTt2msl := i32At chunk 220
  tsrTtDelack := i32At chunk 224
  tsrRcvtime := i32At chunk 228
  tsrSndBufCc := u32At chunk 232
  tsrSndBufHiwat := u32At chunk 236
  tsrRcvBufCc := u32At chunk 240
  tsrRcvBufHiwat := u32At chunk 244
  tsrSoAddr := u64At chunk 248
  tsrUid := u32At chunk 256
  tsrInpGencnt := u64At chunk 260

/-- `extract_nul_string`. -/
def extractNulString (buf : List UInt8) : List UInt8 := fromUtf8Lossy (buf.takeWhile (· ≠ 0)) none

/-- A name, when there is one. -/
def optionalName (buf : List UInt8) : Option (List UInt8) :=
  let s := extractNulString buf
  if s.isEmpty then none else some s

/-- `normalize_timer`: a negative value becomes 0. -/
def normalizeTimer (v : Int32) : Option UInt32 := some (if v < 0 then 0 else v.toUInt32)

/-- The record that `kld_record_to_raw` builds. -/
def rawSocketRecord (tsr : TcpStatsRecord) : RawSocketRecord :=
  let isIpv6 := tsr.tsrFlags &&& TSR_F_IPV6 != 0 || tsr.tsrAf == AF_INET6
  let (localAddr, remoteAddr, ipVersion) :=
    if isIpv6 then
      (some (IpAddr.v6 tsr.tsrLocalAddr), some (IpAddr.v6 tsr.tsrRemoteAddr), some 6)
    else
      (some (IpAddr.v4 (tsr.tsrLocalAddr.take 4)), some (IpAddr.v4 (tsr.tsrRemoteAddr.take 4)), some 4)
  { localAddr := localAddr
    remoteAddr := remoteAddr
    localPort := some tsr.tsrLocalPort
    remotePort := some tsr.tsrRemotePort
    ipVersion := ipVersion
    socketId := some tsr.tsrSoAddr
    state := some tsr.tsrState
    tcpFlags := some tsr.tsrFlagsTcp
    sndCwnd := some tsr.tsrSndCwnd
    sndSsthresh := some tsr.tsrSndSsthresh
    sndWnd := some tsr.tsrSndWnd
    rcvWnd := some tsr.tsrRcvWnd
    maxseg := some tsr.tsrMaxseg
    ccAlgo := optionalName tsr.tsrCc
    tcpStack := optionalName tsr.tsrStack
    rttUs := some tsr.tsrRtt
    rttvarUs := some tsr.tsrRttvar
    rtoUs := some tsr.tsrRto
    rttMinUs := some tsr.tsrRttmin
    sndWscale := some tsr.tsrSndWscale.toUInt32
    rcvWscale := some tsr.tsrRcvWscale.toUInt32
    options := some tsr.tsrOptions
    sndNxt := some tsr.tsrSndNxt
    sndUna := some tsr.tsrSndUna
    sndMax := some tsr.tsrSndMax
    rcvNxt := some tsr.tsrRcvNxt
    rcvAdv := some tsr.tsrRcvAdv
    sndRexmitpack := some tsr.tsrSndRexmitpack
    rcvOoopack := some tsr.tsrRcvOoopack
    sndZerowin := some tsr.tsrSndZerowin
    dupacks := some tsr.tsrDupacks
    rcvNumsacks := some tsr.tsrRcvNumsacks
    ecnFlags := some tsr.tsrEcn
    deliveredCe := some tsr.tsrDeliveredCe
    receivedCe := some tsr.tsrReceivedCe
    dsackBytes := some tsr.tsrDsackBytes
    dsackPack := some tsr.tsrDsackPack
    totalTlp := some tsr.tsrTotalTlp
    totalTlpBytes := some tsr.tsrTotalTlpBytes
    timerRexmtMs := normalizeTimer tsr.tsrTtRexmt
    timerPersistMs := normalizeTimer tsr.tsrTtPersist
    timerKeepMs := normalizeTimer tsr.tsrTtKeep
    timer2mslMs := normalizeTimer tsr.tsrTt2msl
    timerDelackMs := normalizeTimer tsr.tsrTtDelack
    idleTimeMs := normalizeTimer tsr.tsrRcvtime
    sndBufUsed := some tsr.tsrSndBufCc
    sndBufHiwat := some tsr.tsrSndBufHiwat
    rcvBufUsed := some tsr.tsrRcvBufCc
    rcvBufHiwat := some tsr.tsrRcvBufHiwat
    uid := some tsr.tsrUid
    inpGencnt := some tsr.tsrInpGencnt
    pid := none
    effectivePid := none
    fd := none
    rxtShift := none
    startTimeSecs := none
    sources := [DATA_SOURCE_FREEBSD_KLD] }

/-- `kld_record_to_raw`. -/
def kldRecordToRaw (tsr : TcpStatsRecord) : Except CollectError RawSocketRecord := .ok (rawSocketRecord tsr)

/-- The message of a buffer that is not a whole number of records. -/
def sizeMessage (size : ℕ) : String :=
  "buffer size " ++ toString size ++ " is not a multiple of record size " ++ toString TCP_STATS_RECORD_SIZE

/-- `parse_kld_records`. -/
def parseKldRecords (buf : List UInt8) : Except CollectError (List RawSocketRecord) :=
  if buf.isEmpty then .ok []
  else if buf.length % TCP_STATS_RECORD_SIZE ≠ 0 then .error (.parse 0 (sizeMessage buf.length))
  else (List.range (buf.length / TCP_STATS_RECORD_SIZE)).mapM fun i =>
    let tsr := TcpStatsRecord.ofBytes (bytesAt buf (i * TCP_STATS_RECORD_SIZE) TCP_STATS_RECORD_SIZE)
    if tsr.tsrVersion ≠ TCP_STATS_VERSION then
      .error (.versionMismatch TCP_STATS_VERSION tsr.tsrVersion)
    else kldRecordToRaw tsr

/-! ### What the kernel delivers is decoded -/

/-- The record that the client makes of one of the kernel's. -/
def decode (r : TcpStats.TcpStatsRecord) : RawSocketRecord := rawSocketRecord (.ofBytes r.bytes)

theorem ofBytes_version (r : TcpStats.TcpStatsRecord) :
    (TcpStatsRecord.ofBytes r.bytes).tsrVersion = r.tsrVersion := by
  simp only [TcpStatsRecord.ofBytes, TcpStats.TcpStatsRecord.bytes,
    TcpStats.TcpStatsRecord.headerBytes, List.append_assoc]
  exact u32At_zero _ _

/-- The chunks of concatenated records are the records. -/
theorem bytesAt_flatMap {rs : List TcpStats.TcpStatsRecord} {i : ℕ} (h : i < rs.length) :
    bytesAt (rs.flatMap TcpStats.TcpStatsRecord.bytes) (i * TCP_STATS_RECORD_SIZE)
      TCP_STATS_RECORD_SIZE = rs[i].bytes := by
  induction rs generalizing i with
  | nil => simp at h
  | cons r rs ih =>
    cases i with
    | zero => simp [bytesAt, List.take_left']
    | succ i =>
      have := ih (i := i) (by simpa using h)
      rw [bytesAt, List.flatMap_cons, Nat.succ_mul, Nat.add_comm, ← List.drop_drop,
        List.drop_left' (TcpStats.TcpStatsRecord.length_bytes r)]
      simpa [bytesAt] using this

/-- The concatenation of records of the protocol version is decoded record by record. -/
theorem parseKldRecords_flatMap {rs : List TcpStats.TcpStatsRecord}
    (h : ∀ r ∈ rs, r.tsrVersion = TCP_STATS_VERSION) :
    parseKldRecords (rs.flatMap TcpStats.TcpStatsRecord.bytes) = .ok (rs.map decode) := by
  have hlen : (rs.flatMap TcpStats.TcpStatsRecord.bytes).length = rs.length * TCP_STATS_RECORD_SIZE :=
    (length_flatMap_bytes rs).trans (Nat.mul_comm ..)
  unfold parseKldRecords
  rcases Nat.eq_zero_or_pos rs.length with h0 | hpos
  · obtain rfl := List.length_eq_zero_iff.mp h0
    rfl
  have hne : (rs.flatMap TcpStats.TcpStatsRecord.bytes).isEmpty = false := by
    rw [List.isEmpty_eq_false_iff, ← List.length_pos_iff, hlen]
    exact Nat.mul_pos hpos (by decide)
  rw [hne, hlen, Nat.mul_mod_left, Nat.mul_div_cancel _ (by decide)]
  simp only [Bool.false_eq_true, if_false, ne_eq, not_true_eq_false]
  rw [Panic.mapM_ok (g := fun i => decode (rs.getD i .zero))]
  · congr 1
    refine List.ext_getElem (by simp) fun i hi _ => ?_
    have hi' : i < rs.length := by simpa using hi
    simp [hi']
  · intro i hi
    have hi' : i < rs.length := List.mem_range.mp hi
    rw [bytesAt_flatMap hi', ofBytes_version, h _ (List.getElem_mem hi')]
    simp [kldRecordToRaw, decode, hi']

end TcpStats.Client
