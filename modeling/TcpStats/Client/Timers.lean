import Mathlib.Data.Fin.VecNotation
import Mathlib.Data.Fintype.Basic
import Mathlib.Tactic.FinCases
import TcpStats.Client.Proto

/-!
# Timers

The way of a timer from `t_timers[i]`, a 64-bit time, through a signed field of 32 bits to the
client's `timer_*_ms`. The kernel divides the difference from `now` and keeps the low 32 bits
of the quotient; the client takes what is negative there for a timer that is off. What arrives
is the remaining time exactly if the quotient survives that (`timer_reported_iff`): a timer
that is due in more than 24 days can arrive as one that is not running, and one that expired
as long ago as a running one.
-/

namespace TcpStats

open Client

/-! ### Narrowing -/

/-- The number that is read from the low 32 bits of an integer when negative means off. -/
def clampedLow32 (q : ℤ) : ℕ := (q.bmod (2 ^ 32)).toNat

theorem clampedLow32_lt (q : ℤ) : clampedLow32 q < 2 ^ 31 := by
  have := Int.bmod_lt (x := q) (m := 2 ^ 32) (by decide)
  unfold clampedLow32
  omega

/-- A number is read back if it fits a signed word. -/
theorem clampedLow32_eq_self_iff {q : ℤ} (hq : 0 ≤ q) : clampedLow32 q = q.toNat ↔ q < 2 ^ 31 := by
  constructor
  · intro h
    have := clampedLow32_lt q
    omega
  · intro h
    rw [clampedLow32, Int.bmod_eq_of_le (by norm_num; omega) (by norm_num; omega)]

/-- A number is read as zero if its low 32 bits are zero or a negative word. -/
theorem clampedLow32_eq_zero_iff (q : ℤ) :
    clampedLow32 q = 0 ↔ q % 2 ^ 32 = 0 ∨ 2 ^ 31 ≤ q % 2 ^ 32 := by
  unfold clampedLow32
  rw [Int.bmod_def]
  norm_num
  split_ifs <;> omega

/-! ### The quotient -/

/-- A millisecond of the fixed-point clock. -/
theorem SBT_1MS_toInt : SBT_1MS.toInt = 4294967 := by decide

/-- The quotient that the kernel narrows: of the difference as it wraps around 64 bits. -/
def wrappedQuotient (timer now : Sbintime) : ℤ :=
  ((timer.toInt - now.toInt).bmod (2 ^ 64)).tdiv SBT_1MS.toInt

/-- A running timer arrives as the clamped low word of the quotient. -/
theorem remaining_timerMs {timer now : Sbintime} (hrun : ¬ (timer = 0 ∨ timer = SBT_MAX)) :
    (TcpStatsRecord.remaining (timerMs timer now)).map UInt32.toNat =
      some (clampedLow32 (wrappedQuotient timer now)) := by
  have hms : (timerMs timer now).toInt = (wrappedQuotient timer now).bmod (2 ^ 32) := by
    rw [timerMs, if_neg (by tauto), Int64.toInt_toInt32, Int64.toInt_div_of_ne_right _ _ (by decide),
      Int64.toInt_sub, wrappedQuotient]
  have hlt := clampedLow32_lt (wrappedQuotient timer now)
  rw [TcpStatsRecord.remaining, Option.map_some, UInt32.toNat_ofNat', hms, ← clampedLow32,
    Nat.mod_eq_of_lt (by omega)]

/-- The remaining time of a timer in milliseconds, as `SBT_1MS` counts them: 0 if it is not running or has expired. -/
def remainingMs (timer now : Sbintime) : ℕ :=
  if timer = 0 ∨ timer = SBT_MAX then 0 else ((timer.toInt - now.toInt) / SBT_1MS.toInt).toNat

/-- `SBT_1MS` is cut to whole units, and what it counts runs ahead of `left * 1000 / 2 ^ 32`: by one in
14510 seconds. -/
theorem remainingMs_drift {timer now : Sbintime} (hrun : ¬ (timer = 0 ∨ timer = SBT_MAX))
    (hleft : 0 ≤ timer.toInt - now.toInt) :
    (timer.toInt - now.toInt) * 1000 / 2 ^ 32 ≤ remainingMs timer now ∧
      remainingMs timer now ≤
        (timer.toInt - now.toInt) * 1000 / 2 ^ 32 + (timer.toInt - now.toInt) / (14510 * 2 ^ 32) + 1 := by
  rw [remainingMs, if_neg hrun, SBT_1MS_toInt]
  generalize timer.toInt - now.toInt = left at *
  omega

/-- The timers whose remaining time arrives. With `left` the exact difference: a timer that is
off; one that is due in less than `2 ^ 31` milliseconds; one that expired a number of
milliseconds ago that does not become positive when its negative is cut to 32 bits; and, where
the difference wraps around 64 bits, one whose wrapped number does not become positive. -/
def Arrives (timer now : Sbintime) : Prop :=
  let left := timer.toInt - now.toInt
  let ms := SBT_1MS.toInt
  timer = 0 ∨ timer = SBT_MAX ∨ (0 ≤ left ∧ left < 2 ^ 31 * ms) ∨
    (-2 ^ 63 ≤ left ∧ left < 0 ∧ -left / ms % 2 ^ 32 ≤ 2 ^ 31) ∨
    (left < -2 ^ 63 ∧ ((left + 2 ^ 64) / ms % 2 ^ 32 = 0 ∨ 2 ^ 31 ≤ (left + 2 ^ 64) / ms % 2 ^ 32))

theorem arrives_iff {timer now : Sbintime} (hrun : ¬ (timer = 0 ∨ timer = SBT_MAX)) :
    clampedLow32 (wrappedQuotient timer now) = remainingMs timer now ↔ Arrives timer now := by
  have ht := timer.toInt_lt
  have ht' := timer.le_toInt
  have hn := now.toInt_lt
  have hn' := now.le_toInt
  obtain ⟨h0, hmax⟩ := not_or.mp hrun
  simp only [Arrives, h0, hmax, false_or, remainingMs, if_false, wrappedQuotient, SBT_1MS_toInt]
  generalize hleft : timer.toInt - now.toInt = left at *
  have hlo : -2 ^ 64 < left := by omega
  have hhi : left < 2 ^ 64 := by omega
  rcases lt_or_ge left 0 with hneg | hpos
  · -- Expired: what should arrive is 0.
    rw [Int.toNat_of_nonpos (Int.ediv_neg_of_neg_of_pos hneg (by decide)).le, clampedLow32_eq_zero_iff]
    rcases lt_or_ge left (-2 ^ 63) with hwrap | hfit
    · have hmod : left.bmod (2 ^ 64) = left + 2 ^ 64 := by
        have hcycle : (left + 2 ^ 64).bmod (2 ^ 64) = left.bmod (2 ^ 64) := Int.add_bmod_right left (2 ^ 64)
        rw [← hcycle]
        exact Int.bmod_eq_of_le (by norm_num; omega) (by norm_num; omega)
      rw [hmod, Int.tdiv_eq_ediv_of_nonneg (by omega)]
      omega
    · have hmod : left.bmod (2 ^ 64) = left := Int.bmod_eq_of_le (by norm_num; omega) (by norm_num; omega)
      have hdiv : left.tdiv 4294967 = -(-left / 4294967) := by
        rw [← neg_neg left, Int.neg_tdiv, Int.tdiv_eq_ediv_of_nonneg (by omega), neg_neg]
      rw [hmod, hdiv]
      generalize -left / 4294967 = m
      omega
  · rcases lt_or_ge left (2 ^ 63) with hfit | hwrap
    · have hmod : left.bmod (2 ^ 64) = left := Int.bmod_eq_of_le (by norm_num; omega) (by norm_num; omega)
      rw [hmod, Int.tdiv_eq_ediv_of_nonneg hpos, clampedLow32_eq_self_iff (by omega)]
      omega
    · -- The quotient is past every 32-bit word.
      have hlt := clampedLow32_lt ((left.bmod (2 ^ 64)).tdiv 4294967)
      omega

/-! ### From the connection to the message -/

/-- The field of a timer in a record, by its number in `t_timers`. -/
def TcpStatsRecord.timerField (r : TcpStatsRecord) : Fin 5 → Int32 :=
  ![r.tsrTtRexmt, r.tsrTtPersist, r.tsrTtKeep, r.tsrTt2msl, r.tsrTtDelack]

/-- The field of a timer in a message. -/
def Client.TcpSocketRecord.timerField (p : TcpSocketRecord) : Fin 5 → Option UInt32 :=
  ![p.timerRexmtMs, p.timerPersistMs, p.timerKeepMs, p.timer2mslMs, p.timerDelackMs]

variable {Cred : Type} {inp : Inpcb Cred} {tp : Tcpcb} {fieldMask : UInt32}

/-- What the timer group writes stays: only the buffers are filled behind it. -/
theorem freshRecord_timers {α : Type} (field : TcpStatsRecord → α) {v : α} (htp : inp.tcpcb = some tp)
    (hstate : tp.tState ≠ TcpState.LISTEN) (hmask : fieldMask &&& TSR_FIELDS_TIMERS ≠ 0) {now : Sbintime}
    {tick : Int32} {ticks : UInt32} (htimers : ∀ r, field (fillTimers tp now tick ticks r) = v)
    (hbuf : ∀ so r, field (fillBuffers so r) = field r) : field (freshRecord inp fieldMask now tick ticks) = v := by
  unfold freshRecord tcpstatsFillRecord
  rw [htp]
  dsimp only
  rw [if_neg hstate]
  let P := fun r : TcpStatsRecord => field r = v
  refine fillGroup_inv (P := P) (fun r hr => (hbuf inp.inpSocket r).trans hr) ?_
  rw [fillGroup, if_neg hmask]
  exact htimers _

theorem freshRecord_timerField (htp : inp.tcpcb = some tp) (hstate : tp.tState ≠ TcpState.LISTEN)
    (hmask : fieldMask &&& TSR_FIELDS_TIMERS ≠ 0) (now : Sbintime) (tick : Int32) (ticks : UInt32) (i : Fin 5) :
    (freshRecord inp fieldMask now tick ticks).timerField i = timerMs tp.tTimers[i] now := by
  refine freshRecord_timers (fun r => r.timerField i) htp hstate hmask (fun r => ?_) fun so r => ?_
  · fin_cases i <;> rfl
  · rcases so with _ | so <;> rfl

theorem decode_timerField (r : TcpStatsRecord) (i : Fin 5) :
    (rawToProto (decode r)).timerField i = TcpStatsRecord.remaining (r.timerField i) := by
  rw [decode, ofBytes_bytes, ← normalizeTimer_eq]
  fin_cases i <;> rfl

/-- The `timer_*_ms` that the client reports is the remaining time exactly for the timers that
arrive. -/
theorem timer_reported_iff (htp : inp.tcpcb = some tp) (hstate : tp.tState ≠ TcpState.LISTEN)
    (hmask : fieldMask &&& TSR_FIELDS_TIMERS ≠ 0) (now : Sbintime) (tick : Int32) (ticks : UInt32) (i : Fin 5) :
    ((rawToProto (decode (freshRecord inp fieldMask now tick ticks))).timerField i).map UInt32.toNat =
      some (remainingMs tp.tTimers[i] now) ↔ Arrives tp.tTimers[i] now := by
  rw [decode_timerField, freshRecord_timerField htp hstate hmask]
  by_cases hrun : tp.tTimers[i] = 0 ∨ tp.tTimers[i] = SBT_MAX
  · have hoff : timerMs tp.tTimers[i] now = 0 := if_pos hrun.symm
    rw [hoff, remainingMs, if_pos hrun]
    exact iff_of_true rfl (hrun.elim .inl fun h => .inr (.inl h))
  · rw [remaining_timerMs hrun, Option.some_inj]
    exact arrives_iff hrun

/-! ### A timer that does not arrive -/

/-- An established connection whose keepalive timer is due in four million seconds, as
`TCP_KEEPIDLE` allows. -/
def Sample.idle : Inpcb ℕ :=
  { Sample.inpcb 1 INP_IPV4 5 with
    tcpcb := some { Sample.tcpcb TcpState.ESTABLISHED with
      tTimers := #v[0, 0, 4000001 * SBT_1S, 0, 0] } }

/-- One whose keepalive timer is due in two hours, another of its timers having expired. -/
def Sample.usual : Inpcb ℕ :=
  { Sample.inpcb 1 INP_IPV4 5 with
    tcpcb := some { Sample.tcpcb TcpState.ESTABLISHED with
      tTimers := #v[SBT_1S / 2, 0, 7201 * SBT_1S, 0, 0] } }

/-- The keepalive timer of two hours arrives. -/
theorem timer_reported_usual :
    ((rawToProto (decode (freshRecord Sample.usual TSR_FIELDS_ALL SBT_1S 1000 0))).timerField 2).map
      UInt32.toNat = some (remainingMs (7201 * SBT_1S) SBT_1S) := by
  have harrives : Arrives (7201 * SBT_1S) SBT_1S := .inr (.inr (.inl (by decide)))
  have hmask : TSR_FIELDS_ALL &&& TSR_FIELDS_TIMERS ≠ 0 := by decide
  have husual : Sample.usual.tcpcb = some _ := rfl
  exact (timer_reported_iff husual TcpState.noConfusion hmask SBT_1S 1000 0 2).mpr harrives

/-- The keepalive timer of four million seconds is reported as one that is not running. -/
theorem timer_lost :
    ((rawToProto (decode (freshRecord Sample.idle TSR_FIELDS_ALL SBT_1S 1000 0))).timerField 2).map
      UInt32.toNat = some 0 ∧ remainingMs (4000001 * SBT_1S) SBT_1S = 4000000275 := by
  have hmask : TSR_FIELDS_ALL &&& TSR_FIELDS_TIMERS ≠ 0 := by decide
  have hidle : Sample.idle.tcpcb = some _ := rfl
  rw [decode_timerField, freshRecord_timerField hidle TcpState.noConfusion hmask]
  decide

end TcpStats
