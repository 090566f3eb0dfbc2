import TcpStats.Client.Kld
import TcpStats.Lib.While

/-!
# The macOS collector

`parse_pcblist_n` of `macos.rs`: the buffer of `net.inet.tcp.pcblist_n` is a header, tagged
records and a trailer, and an accumulator gathers the records of one connection. The offsets are
those of `macos_layout.rs`. The functions are over code that may panic; `parsePcblistN` takes the
loop with fuel, and `Parses` without.
-/

namespace TcpStats.Client

-- `#[derive(Default)]`: every field is `none`, and there are no sources.
deriving instance Inhabited for RawSocketRecord

namespace Macos

open Bytes Panic

/-! ### The layout -/

def XSO_SOCKET : UInt32 := 0x001
def XSO_RCVBUF : UInt32 := 0x002
def XSO_SNDBUF : UInt32 := 0x004
def XSO_STATS : UInt32 := 0x008
def XSO_INPCB : UInt32 := 0x010
def XSO_TCPCB : UInt32 := 0x020

def TAG_HEADER_SIZE : ℕ := 8
def TAG_LEN_OFFSET : ℕ := 0
def TAG_KIND_OFFSET : ℕ := 4

def XINPGEN_LEN_OFFSET : ℕ := 0

def XSOCKET_N_SO_LAST_PID_OFFSET : ℕ := 68
def XSOCKET_N_SO_E_PID_OFFSET : ℕ := 72
def XSOCKET_N_SO_UID_OFFSET : ℕ := 36
def XSOCKET_N_SO_PCB_OFFSET : ℕ := 8

def XSOCKBUF_N_CC_OFFSET : ℕ := 0
def XSOCKBUF_N_HIWAT_OFFSET : ℕ := 4

def XINPCB_N_INP_VFLAG_OFFSET : ℕ := 44
def XINPCB_N_INP_LADDR_OFFSET : ℕ := 84
def XINPCB_N_INP_FADDR_OFFSET : ℕ := 80
def XINPCB_N_INP_LPORT_OFFSET : ℕ := 72
def XINPCB_N_INP_FPORT_OFFSET : ℕ := 70
def XINPCB_N_INP_GENCNT_OFFSET : ℕ := 104
def XINPCB_N_IN6P_LADDR_OFFSET : ℕ := 48
def XINPCB_N_IN6P_FADDR_OFFSET : ℕ := 32

def XTCPCB_N_T_STATE_OFFSET : ℕ := 0
def XTCPCB_N_T_FLAGS_OFFSET : ℕ := 8
def XTCPCB_N_SND_CWND_OFFSET : ℕ := 12
def XTCPCB_N_SND_SSTHRESH_OFFSET : ℕ := 16
def XTCPCB_N_T_MAXSEG_OFFSET : ℕ := 20
def XTCPCB_N_T_SRTT_OFFSET : ℕ := 24
def XTCPCB_N_T_RTTVAR_OFFSET : ℕ := 28
def XTCPCB_N_SND_NXT_OFFSET : ℕ := 32
def XTCPCB_N_SND_UNA_OFFSET : ℕ := 36
def XTCPCB_N_SND_MAX_OFFSET : ℕ := 40
def XTCPCB_N_RCV_NXT_OFFSET : ℕ := 44
def XTCPCB_N_RCV_ADV_OFFSET : ℕ := 48
def XTCPCB_N_SND_WND_OFFSET : ℕ := 52
def XTCPCB_N_RCV_WND_OFFSET : ℕ := 56
def XTCPCB_N_SND_WSCALE_OFFSET : ℕ := 60
def XTCPCB_N_RCV_WSCALE_OFFSET : ℕ := 61
def XTCPCB_N_T_DUPACKS_OFFSET : ℕ := 64
def XTCPCB_N_T_RXTSHIFT_OFFSET : ℕ := 4
def XTCPCB_N_T_STARTTIME_OFFSET : ℕ := 68
def XTCPCB_N_T_RXTCUR_OFFSET : ℕ := 72

def TCP_RTT_SHIFT : UInt32 := 3
def TCP_RTTVAR_SHIFT : UInt32 := 2

def INP_IPV4 : UInt8 := 0x1
def INP_IPV6 : UInt8 := 0x2

/-- `roundup64`: `(len + 7) & !7` on a 64-bit word. -/
def roundup64 (len : UInt32) : ℕ := ((len.toUInt64 + 7) &&& ~~~7).toNat

/-- `DataSource::MacosPcblistN`. -/
def MACOS_PCBLIST_N : UInt8 := 1

/-! ### Reading -/

/-- The variants of `CollectError` that the parser returns. -/
inductive CollectError where
  | truncated (offset need haveLen : ℕ)
  | parse (offset : ℕ) (message : String)
  deriving DecidableEq

/-- What a function of the parser comes to. -/
abbrev Outcome (α : Type) := Except (Stop CollectError) α

/-- The bytes that a reader of `n` bytes takes. -/
def readArray (n : ℕ) (buf : List UInt8) (offset : ℕ) : Outcome (List UInt8) := do
  let stop ← add offset n
  if stop > buf.length then throw (.error (.truncated offset n buf.length))
  else indices buf offset n

/-- `read_u8_at`. -/
def readU8At (buf : List UInt8) (offset : ℕ) : Outcome UInt8 :=
  match buf[offset]? with
  | some b => .ok b
  | none => .error (.error (.truncated offset 1 buf.length))

/-- `read_u16_be_at`. -/
def readU16BeAt (buf : List UInt8) (offset : ℕ) : Outcome UInt16 := do
  return .ofNat (leNat (← readArray 2 buf offset).reverse)

/-- `read_u32_at`. -/
def readU32At (buf : List UInt8) (offset : ℕ) : Outcome UInt32 := do
  return .ofNat (leNat (← readArray 4 buf offset))

/-- `read_i32_at`. -/
def readI32At (buf : List UInt8) (offset : ℕ) : Outcome Int32 := do
  return (UInt32.ofNat (leNat (← readArray 4 buf offset))).toInt32

/-- `read_u64_at`. -/
def readU64At (buf : List UInt8) (offset : ℕ) : Outcome UInt64 := do
  return .ofNat (leNat (← readArray 8 buf offset))

/-- An address of `n` bytes, copied from a range of the buffer. -/
def copyAddr (version : List UInt8 → IpAddr) (n : ℕ) (buf : List UInt8) (offset : ℕ) : Outcome IpAddr := do
  return version (← slice buf offset (offset + n))

/-- A byte that is kept in a wider field. -/
def readWideAt (buf : List UInt8) (offset : ℕ) : Outcome UInt32 := do
  return (← readU8At buf offset).toUInt32

/-- A field of the record after `if body.len() > offset + width { field = Some(read(body, offset)?) }`. -/
def readField {α : Type} (read : List UInt8 → ℕ → Outcome α) (offset width : ℕ) (body : List UInt8)
    (old : Option α) : Outcome (Option α) :=
  if body.length > offset + width then do return some (← read body offset) else return old

/-- `(ticks as u64 * 1_000_000 / hz as u64) as u32`. -/
def ticksToMicros (ticks : UInt32) (hz : Int32) : Outcome UInt32 := do
  let scaled ← mul ticks.toNat 1000000
  let micros ← div scaled hz.toInt64.toUInt64.toNat
  return .ofNat micros

/-- A time in ticks, which is read when `hz` is positive. -/
def readTicks (ticks : UInt32 → UInt32) (offset : ℕ) (body : List UInt8) (hz : Int32)
    (old : Option UInt32) :
    Outcome (Option UInt32) :=
  if body.length > offset + 4 ∧ hz > 0 then do
    let raw ← readU32At body offset
    return some (← ticksToMicros (ticks raw) hz)
  else return old

/-! ### One connection -/

/-- `ConnectionAccumulator`. -/
structure ConnectionAccumulator where
  record : RawSocketRecord
  hasSocket : Bool
  deriving Inhabited

namespace ConnectionAccumulator

/-- `parse_xsocket_n`. -/
def parseXsocketN (acc : ConnectionAccumulator) (body : List UInt8) : Outcome ConnectionAccumulator := do
  let socketId ← readField readU64At XSOCKET_N_SO_PCB_OFFSET 8 body acc.record.socketId
  let uid ← readField readU32At XSOCKET_N_SO_UID_OFFSET 4 body acc.record.uid
  let pid ← readField readI32At XSOCKET_N_SO_LAST_PID_OFFSET 4 body acc.record.pid
  let effectivePid ← readField readI32At XSOCKET_N_SO_E_PID_OFFSET 4 body acc.record.effectivePid
  return { record := { acc.record with
             socketId := socketId
             uid := uid
             pid := pid
             effectivePid := effectivePid }
           hasSocket := true }

/-- `parse_rcvbuf`. -/
def parseRcvbuf (acc : ConnectionAccumulator) (body : List UInt8) : Outcome ConnectionAccumulator := do
  let rcvBufUsed ← readField readU32At XSOCKBUF_N_CC_OFFSET 4 body acc.record.rcvBufUsed
  let rcvBufHiwat ← readField readU32At XSOCKBUF_N_HIWAT_OFFSET 4 body acc.record.rcvBufHiwat
  return { acc with record := { acc.record with rcvBufUsed := rcvBufUsed, rcvBufHiwat := rcvBufHiwat } }

/-- `parse_sndbuf`. -/
def parseSndbuf (acc : ConnectionAccumulator) (body : List UInt8) : Outcome ConnectionAccumulator := do
  let sndBufUsed ← readField readU32At XSOCKBUF_N_CC_OFFSET 4 body acc.record.sndBufUsed
  let sndBufHiwat ← readField readU32At XSOCKBUF_N_HIWAT_OFFSET 4 body acc.record.sndBufHiwat
  return { acc with record := { acc.record with sndBufUsed := sndBufUsed, sndBufHiwat := sndBufHiwat } }

/-- The version and the addresses that `parse_xinpcb_n` reads, by the family flag. -/
def parseAddrs (record : RawSocketRecord) (vflag : UInt8) (body : List UInt8) : Outcome RawSocketRecord :=
  if vflag &&& INP_IPV6 ≠ 0 then do
    let localAddr ← readField (copyAddr .v6 16) XINPCB_N_IN6P_LADDR_OFFSET 16 body record.localAddr
    let remoteAddr ← readField (copyAddr .v6 16) XINPCB_N_IN6P_FADDR_OFFSET 16 body record.remoteAddr
    return { record with ipVersion := some 6, localAddr := localAddr, remoteAddr := remoteAddr }
  else if vflag &&& INP_IPV4 ≠ 0 then do
    let localAddr ← readField (copyAddr .v4 4) XINPCB_N_INP_LADDR_OFFSET 4 body record.localAddr
    let remoteAddr ← readField (copyAddr .v4 4) XINPCB_N_INP_FADDR_OFFSET 4 body record.remoteAddr
    return { record with ipVersion := some 4, localAddr := localAddr, remoteAddr := remoteAddr }
  else return record

/-- `parse_xinpcb_n`. -/
def parseXinpcbN (acc : ConnectionAccumulator) (body : List UInt8) : Outcome ConnectionAccumulator := do
  if body.length ≤ XINPCB_N_INP_VFLAG_OFFSET then return acc
  else
    let vflag ← readU8At body XINPCB_N_INP_VFLAG_OFFSET
    let record ← parseAddrs acc.record vflag body
    let localPort ← readField readU16BeAt XINPCB_N_INP_LPORT_OFFSET 2 body record.localPort
    let remotePort ← readField readU16BeAt XINPCB_N_INP_FPORT_OFFSET 2 body record.remotePort
    let inpGencnt ← readField readU64At XINPCB_N_INP_GENCNT_OFFSET 8 body record.inpGencnt
    return { acc with record := { record with
               localPort := localPort, remotePort := remotePort, inpGencnt := inpGencnt } }

/-- `parse_xtcpcb_n`. -/
def parseXtcpcbN (acc : ConnectionAccumulator) (body : List UInt8) (hz : Int32) :
    Outcome ConnectionAccumulator := do
  let state ← readField readI32At XTCPCB_N_T_STATE_OFFSET 4 body acc.record.state
  let rxtShift ← readField readU32At XTCPCB_N_T_RXTSHIFT_OFFSET 4 body acc.record.rxtShift
  let tcpFlags ← readField readU32At XTCPCB_N_T_FLAGS_OFFSET 4 body acc.record.tcpFlags
  let sndCwnd ← readField readU32At XTCPCB_N_SND_CWND_OFFSET 4 body acc.record.sndCwnd
  let sndSsthresh ← readField readU32At XTCPCB_N_SND_SSTHRESH_OFFSET 4 body acc.record.sndSsthresh
  let maxseg ← readField readU32At XTCPCB_N_T_MAXSEG_OFFSET 4 body acc.record.maxseg
  let rttUs ← readTicks (· >>> TCP_RTT_SHIFT) XTCPCB_N_T_SRTT_OFFSET body hz acc.record.rttUs
  let rttvarUs ← readTicks (· >>> TCP_RTTVAR_SHIFT) XTCPCB_N_T_RTTVAR_OFFSET body hz acc.record.rttvarUs
  let rtoUs ← readTicks id XTCPCB_N_T_RXTCUR_OFFSET body hz acc.record.rtoUs
  let sndNxt ← readField readU32At XTCPCB_N_SND_NXT_OFFSET 4 body acc.record.sndNxt
  let sndUna ← readField readU32At XTCPCB_N_SND_UNA_OFFSET 4 body acc.record.sndUna
  let sndMax ← readField readU32At XTCPCB_N_SND_MAX_OFFSET 4 body acc.record.sndMax
  let rcvNxt ← readField readU32At XTCPCB_N_RCV_NXT_OFFSET 4 body acc.record.rcvNxt
  let rcvAdv ← readField readU32At XTCPCB_N_RCV_ADV_OFFSET 4 body acc.record.rcvAdv
  let sndWnd ← readField readU32At XTCPCB_N_SND_WND_OFFSET 4 body acc.record.sndWnd
  let rcvWnd ← readField readU32At XTCPCB_N_RCV_WND_OFFSET 4 body acc.record.rcvWnd
  let sndWscale ← readField readWideAt XTCPCB_N_SND_WSCALE_OFFSET 0 body acc.record.sndWscale
  let rcvWscale ← readField readWideAt XTCPCB_N_RCV_WSCALE_OFFSET 0 body acc.record.rcvWscale
  let dupacks ← readField readU32At XTCPCB_N_T_DUPACKS_OFFSET 4 body acc.record.dupacks
  let startTimeSecs ← readField readU32At XTCPCB_N_T_STARTTIME_OFFSET 4 body acc.record.startTimeSecs
  return { acc with record := { acc.record with
             state := state
             rxtShift := rxtShift
             tcpFlags := tcpFlags
             sndCwnd := sndCwnd
             sndSsthresh := sndSsthresh
             maxseg := maxseg
             rttUs := rttUs
             rttvarUs := rttvarUs
             rtoUs := rtoUs
             sndNxt := sndNxt
             sndUna := sndUna
             sndMax := sndMax
             rcvNxt := rcvNxt
             rcvAdv := rcvAdv
             sndWnd := sndWnd
             rcvWnd := rcvWnd
             sndWscale := sndWscale
             rcvWscale := rcvWscale
             dupacks := dupacks
             startTimeSecs := startTimeSecs } }

/-- `build`. -/
def build (acc : ConnectionAccumulator) : Option RawSocketRecord :=
  if acc.hasSocket then some { acc.record with sources := [MACOS_PCBLIST_N] } else none

end ConnectionAccumulator

/-! ### The loop -/

/-- The variables of the loop. -/
structure LoopState where
  pos : ℕ
  acc : ConnectionAccumulator
  records : List RawSocketRecord

/-- The `match` on the kind of a record. -/
def LoopState.take (s : LoopState) (hz : Int32) (kind : UInt32) (body : List UInt8) : Outcome LoopState :=
  if kind = XSO_SOCKET then do
    let acc ← ConnectionAccumulator.parseXsocketN default body
    return { s with acc := acc, records := s.records ++ s.acc.build.toList }
  else if kind = XSO_RCVBUF then do
    return { s with acc := ← s.acc.parseRcvbuf body }
  else if kind = XSO_SNDBUF then do
    return { s with acc := ← s.acc.parseSndbuf body }
  else if kind = XSO_STATS then return s
  else if kind = XSO_INPCB then do
    return { s with acc := ← s.acc.parseXinpcbN body }
  else if kind = XSO_TCPCB then do
    return { s with acc := ← s.acc.parseXtcpcbN body hz }
  else return s

/-- The condition of the loop and its body. -/
def iteration (buf : List UInt8) (hz : Int32) (s : LoopState) : Outcome (While.Next LoopState) := do
  let tagEnd ← add s.pos TAG_HEADER_SIZE
  if tagEnd > buf.length then return .exit s
  else
    let recLen ← readU32At buf (← add s.pos TAG_LEN_OFFSET)
    let recKind ← readU32At buf (← add s.pos TAG_KIND_OFFSET)
    if recLen = 0 ∨ recKind = 0 then return .exit s
    else
      let recEnd ← add s.pos recLen.toNat
      if recEnd > buf.length then
        throw (.error (.truncated s.pos recLen.toNat (← sub buf.length s.pos)))
      else
        let body ← slice buf (← add s.pos TAG_HEADER_SIZE) recEnd
        let t ← s.take hz recKind body
        let pos ← add s.pos (roundup64 recLen)
        return .go { t with pos := pos }

/-- What precedes the loop: the header, and where it ends. -/
def skipHeader (buf : List UInt8) : Outcome ℕ := do
  if buf.length < 4 then throw (.error (.truncated 0 4 buf.length))
  else
    let headerLen ← readU32At buf XINPGEN_LEN_OFFSET
    if headerLen = 0 ∨ headerLen.toNat > buf.length then
      throw (.error (.parse 0 ("invalid header length: " ++ toString headerLen.toNat)))
    else return roundup64 headerLen

/-- What follows the loop: the last accumulator. -/
def LoopState.finish (s : LoopState) : List RawSocketRecord := s.records ++ s.acc.build.toList

/-- `parse_pcblist_n`, with fuel for the loop. -/
def parsePcblistN (fuel : ℕ) (buf : List UInt8) (hz : Int32) : Option (Outcome (List RawSocketRecord)) :=
  match skipHeader buf with
  | .error e => some (.error e)
  | .ok pos => (While.run (iteration buf hz) fuel ⟨pos, default, []⟩).map (Except.map LoopState.finish)

/-- `parse_pcblist_n` comes to `r`. -/
def Parses (buf : List UInt8) (hz : Int32) (r : Outcome (List RawSocketRecord)) : Prop :=
  ∃ fuel, parsePcblistN fuel buf hz = some r

end Macos

end TcpStats.Client
