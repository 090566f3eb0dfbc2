import TcpStats.Client.Macos
import TcpStats.Lib.Bits

/-!
# What the macOS parsers read

A reader succeeds within the buffer, and a field is only read where its guard has found the
bytes; so none of the parsers of a record fails. What each of them makes of a body is said here
as a value: `parseXsocketN_ok` and the theorems like it.
-/

namespace TcpStats.Client.Macos

open Bytes Panic

/-- The word at an offset, the high byte first. -/
def u16BeAt (buf : List UInt8) (offset : ℕ) : UInt16 := .ofNat (leNat (bytesAt buf offset 2).reverse)

/-- A field of the record after its bytes were looked for. -/
def fieldAt {α : Type} (value : List UInt8 → ℕ → α) (offset width : ℕ) (body : List UInt8)
    (old : Option α) :
    Option α :=
  if offset + width < body.length then some (value body offset) else old

/-- A time of the record after its bytes were looked for. -/
def ticksAt (ticks : UInt32 → UInt32) (offset : ℕ) (body : List UInt8) (hz : Int32) (old : Option UInt32) :
    Option UInt32 :=
  if offset + 4 < body.length ∧ hz > 0 then
    some (.ofNat ((ticks (u32At body offset)).toNat * 1000000 / hz.toInt64.toUInt64.toNat))
  else old

section Readers

variable {buf body : List UInt8} {offset n : ℕ}

theorem readArray_ok (hsize : offset + n < 2 ^ 64) (h : offset + n ≤ buf.length) :
    readArray n buf offset = .ok (bytesAt buf offset n) := by
  simp [readArray, add_ok hsize, Nat.not_lt.mpr h, indices_ok h]

theorem readU8At_ok (h : offset < buf.length) : readU8At buf offset = .ok (u8At buf offset) := by
  simp [readU8At, u8At, h]

theorem readU32At_ok (hsize : offset + 4 < 2 ^ 64) (h : offset + 4 ≤ buf.length) :
    readU32At buf offset = .ok (u32At buf offset) := by
  rw [readU32At, readArray_ok hsize h]
  rfl

/-- A field is read when its bytes are there. -/
theorem readField_ok {α : Type} {read : List UInt8 → ℕ → Outcome α} {value : List UInt8 → ℕ → α} {width : ℕ}
    (h : offset + width < body.length → read body offset = .ok (value body offset)) (old : Option α) :
    readField read offset width body old = .ok (fieldAt value offset width body old) := by
  by_cases hlen : offset + width < body.length
  · simp [readField, fieldAt, hlen, h hlen]
  · simp [readField, fieldAt, hlen]

theorem readField_u16Be (hsize : offset < 2 ^ 32) (old : Option UInt16) :
    readField readU16BeAt offset 2 body old = .ok (fieldAt u16BeAt offset 2 body old) := by
  apply readField_ok
  intro h
  rw [readU16BeAt, readArray_ok (by omega) h.le]
  rfl

theorem readField_u32 (hsize : offset < 2 ^ 32) (old : Option UInt32) :
    readField readU32At offset 4 body old = .ok (fieldAt u32At offset 4 body old) := by
  apply readField_ok
  intro h
  exact readU32At_ok (by omega) h.le

theorem readField_i32 (hsize : offset < 2 ^ 32) (old : Option Int32) :
    readField readI32At offset 4 body old = .ok (fieldAt i32At offset 4 body old) := by
  apply readField_ok
  intro h
  rw [readI32At, readArray_ok (by omega) h.le]
  rfl

theorem readField_u64 (hsize : offset < 2 ^ 32) (old : Option UInt64) :
    readField readU64At offset 8 body old = .ok (fieldAt u64At offset 8 body old) := by
  apply readField_ok
  intro h
  rw [readU64At, readArray_ok (by omega) h.le]
  rfl

theorem readField_wide (old : Option UInt32) :
    readField readWideAt offset 0 body old = .ok (fieldAt (fun b o => (u8At b o).toUInt32) offset 0 body old) := by
  apply readField_ok
  intro h
  rw [readWideAt, readU8At_ok (Nat.lt_of_le_of_lt (Nat.le_add_right ..) h)]
  rfl

theorem readField_addr (version : List UInt8 → IpAddr) (old : Option IpAddr) :
    readField (copyAddr version n) offset n body old =
      .ok (fieldAt (fun b o => version (bytesAt b o n)) offset n body old) := by
  apply readField_ok
  intro h
  rw [copyAddr, slice_ok (Nat.le_add_right ..) h.le, Nat.add_sub_cancel_left]
  rfl

/-- A positive number of ticks a second is not zero as an unsigned word. -/
theorem hz_ne_zero {hz : Int32} (h : hz > 0) : hz.toInt64.toUInt64.toNat ≠ 0 := by
  intro h0
  have hword : hz.toInt64.toUInt64 = 0 := by exact UInt64.toNat_inj.mp h0
  have hzero : hz.toInt64.toInt = 0 := by
    rw [Int64.toInt, Int64.toBitVec, hword]
    rfl
  have hpos : 0 < hz.toInt := by simpa using Int32.lt_iff_toInt_lt.mp h
  rw [Int32.toInt_toInt64] at hzero
  omega

theorem ticksToMicros_ok (ticks : UInt32) {hz : Int32} (h : hz > 0) :
    ticksToMicros ticks hz = .ok (.ofNat (ticks.toNat * 1000000 / hz.toInt64.toUInt64.toNat)) := by
  have hticks := ticks.toNat_lt
  have hscaled : ticks.toNat * 1000000 < 2 ^ 64 := by omega
  rw [ticksToMicros, mul_ok hscaled, ok_bind, div_ok (hz_ne_zero h), ok_bind, pure_eq_ok]

theorem readTicks_ok (ticks : UInt32 → UInt32) (hsize : offset < 2 ^ 32) (hz : Int32)
    (old : Option UInt32) :
    readTicks ticks offset body hz old = .ok (ticksAt ticks offset body hz old) := by
  by_cases h : offset + 4 < body.length ∧ hz > 0
  · rw [readTicks, if_pos h, ticksAt, if_pos h, readU32At_ok (by omega) h.1.le, ok_bind,
      ticksToMicros_ok _ h.2, ok_bind, pure_eq_ok]
  · rw [readTicks, if_neg h, ticksAt, if_neg h]
    rfl

end Readers

namespace ConnectionAccumulator

variable (acc : ConnectionAccumulator) (body : List UInt8)

/-- What `parse_xsocket_n` makes of a body. -/
def withXsocketN : ConnectionAccumulator :=
  { record := { acc.record with
      socketId := fieldAt u64At XSOCKET_N_SO_PCB_OFFSET 8 body acc.record.socketId
      uid := fieldAt u32At XSOCKET_N_SO_UID_OFFSET 4 body acc.record.uid
      pid := fieldAt i32At XSOCKET_N_SO_LAST_PID_OFFSET 4 body acc.record.pid
      effectivePid := fieldAt i32At XSOCKET_N_SO_E_PID_OFFSET 4 body acc.record.effectivePid }
    hasSocket := true }

theorem parseXsocketN_ok : acc.parseXsocketN body = .ok (acc.withXsocketN body) := by
  simp (disch := decide) only [parseXsocketN, readField_u64, readField_u32, readField_i32, ok_bind, pure_eq_ok]
  rfl

/-- What `parse_rcvbuf` makes of a body. -/
def withRcvbuf : ConnectionAccumulator :=
  { acc with record := { acc.record with
      rcvBufUsed := fieldAt u32At XSOCKBUF_N_CC_OFFSET 4 body acc.record.rcvBufUsed
      rcvBufHiwat := fieldAt u32At XSOCKBUF_N_HIWAT_OFFSET 4 body acc.record.rcvBufHiwat } }

theorem parseRcvbuf_ok : acc.parseRcvbuf body = .ok (acc.withRcvbuf body) := by
  simp (disch := decide) only [parseRcvbuf, readField_u32, ok_bind, pure_eq_ok]
  rfl

/-- What `parse_sndbuf` makes of a body. -/
def withSndbuf : ConnectionAccumulator :=
  { acc with record := { acc.record with
      sndBufUsed := fieldAt u32At XSOCKBUF_N_CC_OFFSET 4 body acc.record.sndBufUsed
      sndBufHiwat := fieldAt u32At XSOCKBUF_N_HIWAT_OFFSET 4 body acc.record.sndBufHiwat } }

theorem parseSndbuf_ok : acc.parseSndbuf body = .ok (acc.withSndbuf body) := by
  simp (disch := decide) only [parseSndbuf, readField_u32, ok_bind, pure_eq_ok]
  rfl

/-- The version and the addresses of a record after `parse_xinpcb_n`. -/
def addrs (record : RawSocketRecord) (vflag : UInt8) (body : List UInt8) : RawSocketRecord :=
  if vflag &&& INP_IPV6 ≠ 0 then
    { record with
      ipVersion := some 6
      localAddr := fieldAt (fun b o => .v6 (bytesAt b o 16)) XINPCB_N_IN6P_LADDR_OFFSET 16 body record.localAddr
      remoteAddr := fieldAt (fun b o => .v6 (bytesAt b o 16)) XINPCB_N_IN6P_FADDR_OFFSET 16 body record.remoteAddr }
  else if vflag &&& INP_IPV4 ≠ 0 then
    { record with
      ipVersion := some 4
      localAddr := fieldAt (fun b o => .v4 (bytesAt b o 4)) XINPCB_N_INP_LADDR_OFFSET 4 body record.localAddr
      remoteAddr := fieldAt (fun b o => .v4 (bytesAt b o 4)) XINPCB_N_INP_FADDR_OFFSET 4 body record.remoteAddr }
  else record

theorem parseAddrs_ok (record : RawSocketRecord) (vflag : UInt8) :
    parseAddrs record vflag body = .ok (addrs record vflag body) := by
  rw [parseAddrs, addrs]
  by_cases hsix : vflag &&& INP_IPV6 ≠ 0
  · rw [if_pos hsix, if_pos hsix]
    simp only [readField_addr, ok_bind, pure_eq_ok]
  rw [if_neg hsix, if_neg hsix]
  by_cases hfour : vflag &&& INP_IPV4 ≠ 0
  · rw [if_pos hfour, if_pos hfour]
    simp only [readField_addr, ok_bind, pure_eq_ok]
  · rw [if_neg hfour, if_neg hfour]
    rfl

theorem parseXinpcbN_short {body : List UInt8} (h : body.length ≤ XINPCB_N_INP_VFLAG_OFFSET) :
    acc.parseXinpcbN body = .ok acc := by
  rw [parseXinpcbN, if_pos h]
  rfl

/-- What `parse_xinpcb_n` makes of a body that reaches beyond the family flag. -/
def withXinpcbN : ConnectionAccumulator :=
  let record := addrs acc.record (u8At body XINPCB_N_INP_VFLAG_OFFSET) body
  { acc with record := { record with
      localPort := fieldAt u16BeAt XINPCB_N_INP_LPORT_OFFSET 2 body record.localPort
      remotePort := fieldAt u16BeAt XINPCB_N_INP_FPORT_OFFSET 2 body record.remotePort
      inpGencnt := fieldAt u64At XINPCB_N_INP_GENCNT_OFFSET 8 body record.inpGencnt } }

theorem parseXinpcbN_ok {body : List UInt8} (h : XINPCB_N_INP_VFLAG_OFFSET < body.length) :
    acc.parseXinpcbN body = .ok (acc.withXinpcbN body) := by
  rw [parseXinpcbN, if_neg (Nat.not_le.mpr h)]
  simp (disch := decide) only [readU8At_ok h, parseAddrs_ok, readField_u16Be, readField_u64, ok_bind,
    pure_eq_ok]
  rfl

/-- What `parse_xtcpcb_n` makes of a body. -/
def withXtcpcbN (hz : Int32) : ConnectionAccumulator :=
  { acc with record := { acc.record with
      state := fieldAt i32At XTCPCB_N_T_STATE_OFFSET 4 body acc.record.state
      rxtShift := fieldAt u32At XTCPCB_N_T_RXTSHIFT_OFFSET 4 body acc.record.rxtShift
      tcpFlags := fieldAt u32At XTCPCB_N_T_FLAGS_OFFSET 4 body acc.record.tcpFlags
      sndCwnd := fieldAt u32At XTCPCB_N_SND_CWND_OFFSET 4 body acc.record.sndCwnd
      sndSsthresh := fieldAt u32At XTCPCB_N_SND_SSTHRESH_OFFSET 4 body acc.record.sndSsthresh
      maxseg := fieldAt u32At XTCPCB_N_T_MAXSEG_OFFSET 4 body acc.record.maxseg
      rttUs := ticksAt (· >>> TCP_RTT_SHIFT) XTCPCB_N_T_SRTT_OFFSET body hz acc.record.rttUs
      rttvarUs := ticksAt (· >>> TCP_RTTVAR_SHIFT) XTCPCB_N_T_RTTVAR_OFFSET body hz acc.record.rttvarUs
      rtoUs := ticksAt id XTCPCB_N_T_RXTCUR_OFFSET body hz acc.record.rtoUs
      sndNxt := fieldAt u32At XTCPCB_N_SND_NXT_OFFSET 4 body acc.record.sndNxt
      sndUna := fieldAt u32At XTCPCB_N_SND_UNA_OFFSET 4 body acc.record.sndUna
      sndMax := fieldAt u32At XTCPCB_N_SND_MAX_OFFSET 4 body acc.record.sndMax
      rcvNxt := fieldAt u32At XTCPCB_N_RCV_NXT_OFFSET 4 body acc.record.rcvNxt
      rcvAdv := fieldAt u32At XTCPCB_N_RCV_ADV_OFFSET 4 body acc.record.rcvAdv
      sndWnd := fieldAt u32At XTCPCB_N_SND_WND_OFFSET 4 body acc.record.sndWnd
      rcvWnd := fieldAt u32At XTCPCB_N_RCV_WND_OFFSET 4 body acc.record.rcvWnd
      sndWscale := fieldAt (fun b o => (u8At b o).toUInt32) XTCPCB_N_SND_WSCALE_OFFSET 0 body acc.record.sndWscale
      rcvWscale := fieldAt (fun b o => (u8At b o).toUInt32) XTCPCB_N_RCV_WSCALE_OFFSET 0 body acc.record.rcvWscale
      dupacks := fieldAt u32At XTCPCB_N_T_DUPACKS_OFFSET 4 body acc.record.dupacks
      startTimeSecs := fieldAt u32At XTCPCB_N_T_STARTTIME_OFFSET 4 body acc.record.startTimeSecs } }

theorem parseXtcpcbN_ok (hz : Int32) : acc.parseXtcpcbN body hz = .ok (acc.withXtcpcbN body hz) := by
  simp (disch := decide) only [parseXtcpcbN, readField_u32, readField_i32, readField_wide, readTicks_ok, ok_bind,
    pure_eq_ok]
  rfl

end ConnectionAccumulator

end TcpStats.Client.Macos
