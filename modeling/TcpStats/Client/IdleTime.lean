import TcpStats.Client.Timers

/-!
# Idle time

The time since data last arrived, from `ticks` and `t_rcvtime` through `tsr_rcvtime` to the
client's `idle_time_ms`. The kernel multiplies the ticks by the microseconds of a tick in 32
bits before it divides, so what arrives is the idle time exactly if the product fits there
(`idleReported_iff_micros`). With a tick of a millisecond it wraps after 71 minutes, although the
field itself would hold the milliseconds of 24 days.
-/

namespace TcpStats

open Client

/-- The ticks since data last arrived: the difference of two counters of 32 bits that wrap. -/
def idleTicks (ticks tRcvtime : UInt32) : ℕ := (((ticks.toNat : ℤ) - tRcvtime.toNat) % 2 ^ 32).toNat

/-- The microseconds in them. -/
def idleMicros (tick : Int32) (ticks tRcvtime : UInt32) : ℕ := idleTicks ticks tRcvtime * tick.toInt.toNat

/-- The whole milliseconds, computed over the integers. -/
def idleMs (tick : Int32) (ticks tRcvtime : UInt32) : ℕ := idleMicros tick ticks tRcvtime / 1000

/-- A number of milliseconds is in the record, and is what the client makes of the record. -/
structure IdleReported (r : TcpStatsRecord) (ms : ℕ) : Prop where
  record : r.tsrRcvtime.toInt = ms
  client : (decode r).idleTimeMs.map UInt32.toNat = some ms

/-! ### The product -/

theorem idleTicks_eq (ticks tRcvtime : UInt32) : idleTicks ticks tRcvtime = (ticks - tRcvtime).toNat := by
  have := ticks.toNat_lt
  have := tRcvtime.toNat_lt
  rw [idleTicks, UInt32.toNat_sub]
  omega

theorem toNat_toUInt32_of_pos {tick : Int32} (h : 0 < tick) : tick.toUInt32.toNat = tick.toInt.toNat := by
  have hpos : 0 ≤ tick.toInt := (Int32.lt_iff_toInt_lt.mp h).le
  have hlt := tick.toUInt32.toNat_lt
  have hcast : tick.toInt = (tick.toUInt32.toNat : ℤ).bmod (2 ^ 32) := by
    rw [← Int32.toInt_toBitVec, BitVec.toInt_eq_toNat_bmod]
    rfl
  rw [Int.bmod_def] at hcast
  norm_num at hcast hlt
  split_ifs at hcast <;> omega

/-- What the kernel writes: the milliseconds of the low 32 bits of the product. -/
theorem sinceMs_toInt {tick : Int32} (h : 0 < tick) (ticks tRcvtime : UInt32) :
    (((ticks - tRcvtime) * tick.toUInt32 / 1000).toInt32).toInt =
      (idleMicros tick ticks tRcvtime % 2 ^ 32 / 1000 : ℕ) := by
  have hnat : ((ticks - tRcvtime) * tick.toUInt32 / 1000).toNat =
      idleMicros tick ticks tRcvtime % 2 ^ 32 / 1000 := by
    rw [UInt32.toNat_div, UInt32.toNat_mul, ← idleTicks_eq, toNat_toUInt32_of_pos h]
    rfl
  have hlt : idleMicros tick ticks tRcvtime % 2 ^ 32 / 1000 < 2 ^ 31 := by omega
  rw [← Int32.toInt_toBitVec, BitVec.toInt_eq_toNat_bmod]
  have hbits : ((ticks - tRcvtime) * tick.toUInt32 / 1000).toInt32.toBitVec.toNat =
      ((ticks - tRcvtime) * tick.toUInt32 / 1000).toNat := rfl
  rw [hbits, hnat]
  exact Int.bmod_eq_of_le (by omega) (by omega)

/-- Cutting a product to 32 bits changes its milliseconds whenever it changes the product. -/
theorem mod_div_eq_iff (micros : ℕ) : micros % 2 ^ 32 / 1000 = micros / 1000 ↔ micros < 2 ^ 32 := by
  omega

/-! ### From the connection to the client -/

variable {Cred : Type} {inp : Inpcb Cred} {tp : Tcpcb} {fieldMask : UInt32}

theorem freshRecord_rcvtime (htp : inp.tcpcb = some tp) (hstate : tp.tState ≠ TcpState.LISTEN)
    (hmask : fieldMask &&& TSR_FIELDS_TIMERS ≠ 0) (now : Sbintime) (tick : Int32) (ticks : UInt32) :
    (freshRecord inp fieldMask now tick ticks).tsrRcvtime =
      ((ticks - tp.tRcvtime) * tick.toUInt32 / 1000).toInt32 := by
  refine freshRecord_timers TcpStatsRecord.tsrRcvtime htp hstate hmask (fun r => rfl) fun so r => ?_
  rcases so with _ | so <;> rfl

/-- What the client reports of a record: what is in it, when that is not negative. -/
theorem decode_idleTimeMs (r : TcpStatsRecord) :
    (decode r).idleTimeMs = TcpStatsRecord.remaining r.tsrRcvtime := by
  rw [decode, ofBytes_bytes, ← normalizeTimer_eq]
  rfl

theorem idleReported_iff_record (r : TcpStatsRecord) (ms : ℕ) :
    IdleReported r ms ↔ r.tsrRcvtime.toInt = ms := by
  refine ⟨IdleReported.record, fun h => ⟨h, ?_⟩⟩
  have hlt := r.tsrRcvtime.toInt_lt
  rw [decode_idleTimeMs, TcpStatsRecord.remaining, Option.map_some, UInt32.toNat_ofNat', h]
  congr 1
  norm_num at hlt
  omega

/-- The idle time that a connection is reported with is exact, in the record and at the client,
exactly if its microseconds fit 32 bits. -/
theorem idleReported_iff_micros (htp : inp.tcpcb = some tp) (hstate : tp.tState ≠ TcpState.LISTEN)
    (hmask : fieldMask &&& TSR_FIELDS_TIMERS ≠ 0) (now : Sbintime) {tick : Int32} (htick : 0 < tick)
    (ticks : UInt32) :
    IdleReported (freshRecord inp fieldMask now tick ticks) (idleMs tick ticks tp.tRcvtime) ↔
      idleMicros tick ticks tp.tRcvtime < 2 ^ 32 := by
  rw [idleReported_iff_record, freshRecord_rcvtime htp hstate hmask, sinceMs_toInt htick, Nat.cast_inj, idleMs]
  exact mod_div_eq_iff _

/-- When an idle time that fits its field is reported. -/
theorem idle_reported_iff (htp : inp.tcpcb = some tp) (hstate : tp.tState ≠ TcpState.LISTEN)
    (hmask : fieldMask &&& TSR_FIELDS_TIMERS ≠ 0) (now : Sbintime) {tick : Int32} (htick : 0 < tick)
    (ticks : UInt32) :
    (idleMs tick ticks tp.tRcvtime ≤ 2 ^ 31 - 1 →
        IdleReported (freshRecord inp fieldMask now tick ticks) (idleMs tick ticks tp.tRcvtime)) ↔
      idleMicros tick ticks tp.tRcvtime < 2 ^ 32 ∨ 2 ^ 31 * 1000 ≤ idleMicros tick ticks tp.tRcvtime := by
  have hfits : idleMs tick ticks tp.tRcvtime ≤ 2 ^ 31 - 1 ↔ idleMicros tick ticks tp.tRcvtime < 2 ^ 31 * 1000 := by
    rw [idleMs]
    omega
  rw [idleReported_iff_micros htp hstate hmask now htick, hfits, ← not_lt, imp_iff_or_not]

/-! ### An idle time that is lost -/

/-- An established connection on which data last arrived at tick 0. -/
def Sample.quiet : Inpcb ℕ :=
  { Sample.inpcb 1 INP_IPV4 5 with
    tcpcb := some { Sample.tcpcb TcpState.ESTABLISHED with tRcvtime := 0 } }

/-- An hour is reported. -/
theorem idle_reported_hour :
    IdleReported (freshRecord Sample.quiet TSR_FIELDS_ALL 0 1000 3600000) 3600000 := by
  have hmask : TSR_FIELDS_ALL &&& TSR_FIELDS_TIMERS ≠ 0 := by decide
  exact (idle_reported_iff (show Sample.quiet.tcpcb = some _ from rfl) TcpState.noConfusion hmask 0 (by decide)
    3600000).mpr (.inl (by decide)) (by decide)

/-- 4294968 ticks of a millisecond are reported as no time at all. -/
theorem idle_lost :
    idleMs 1000 4294968 0 = 4294968 ∧ idleMs 1000 4294968 0 ≤ 2 ^ 31 - 1 ∧
      (freshRecord Sample.quiet TSR_FIELDS_ALL 0 1000 4294968).tsrRcvtime = 0 ∧
      (decode (freshRecord Sample.quiet TSR_FIELDS_ALL 0 1000 4294968)).idleTimeMs = some 0 := by
  have hmask : TSR_FIELDS_ALL &&& TSR_FIELDS_TIMERS ≠ 0 := by decide
  have hzero : (freshRecord Sample.quiet TSR_FIELDS_ALL 0 1000 4294968).tsrRcvtime = 0 := by
    rw [freshRecord_rcvtime (show Sample.quiet.tcpcb = some _ from rfl) TcpState.noConfusion hmask]
    decide
  refine ⟨by decide, by decide, hzero, ?_⟩
  rw [decode_idleTimeMs, hzero]
  decide

end TcpStats
