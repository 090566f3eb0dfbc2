import TcpStats.Device.ReadSpec

/-!
# How long a read takes

At its end a read adds the nanoseconds it took to a total and offers them to a maximum. The
times are in units of 2⁻³² s; `elapsedNs` scales by 10⁹ in a word of 64 bits before it
divides, so what it gives is right exactly if the scaled time fits into the word
(`elapsedNs_exact_iff`): for a read of less than 4.3 s. The limit of the read duration that the
module is loaded with is 5 s (`exact_within_limit_iff`).
-/

namespace TcpStats

variable {Cred : Type}

/-- The nanoseconds in a time of `d` units. -/
def nanoseconds (d : ℕ) : ℕ := d * 10 ^ 9 / 2 ^ 32

/-- The units between two times. -/
def between (start stop : Sbintime) : ℕ := (stop.toInt - start.toInt).toNat

/-- A time as a word, and as a number with a sign. -/
theorem toNat_toUInt64 (t : Sbintime) :
    (t.toUInt64.toNat : ℤ) = t.toInt ∨ (t.toUInt64.toNat : ℤ) = t.toInt + 2 ^ 64 := by
  have hcond : t.toInt = if 2 * t.toUInt64.toNat < 2 ^ 64 then (t.toUInt64.toNat : ℤ)
      else (t.toUInt64.toNat : ℤ) - (2 ^ 64 : ℕ) := BitVec.toInt_eq_toNat_cond t.toBitVec
  split_ifs at hcond <;> omega

/-- A difference of times as a word: right also where it leaves the range of a signed word. -/
theorem toNat_sub_toUInt64 {start stop : Sbintime} (h : start ≤ stop) :
    (stop - start).toUInt64.toNat = between start stop := by
  have hle := Int64.le_iff_toInt_le.mp h
  have hlow := start.le_toInt
  have hhigh := stop.toInt_lt
  have hstart := start.toUInt64.toNat_lt
  have hstop := stop.toUInt64.toNat_lt
  rw [Int64.toUInt64_sub, UInt64.toNat_sub, between]
  rcases toNat_toUInt64 start with hs | hs <;> rcases toNat_toUInt64 stop with ht | ht <;> omega

theorem between_lt (start stop : Sbintime) : between start stop < 2 ^ 64 := by
  have := start.le_toInt
  have := stop.toInt_lt
  unfold between
  omega

theorem toNat_elapsedNs {start stop : Sbintime} (h : start ≤ stop) :
    (elapsedNs (stop - start)).toNat = between start stop * 10 ^ 9 % 2 ^ 64 / 2 ^ 32 := by
  have hscale : (1000000000 : UInt64).toNat = 10 ^ 9 := rfl
  have hunit : SBT_1S.toUInt64.toNat = 2 ^ 32 := by decide
  rw [elapsedNs, UInt64.toNat_div, UInt64.toNat_mul, toNat_sub_toUInt64 h, hscale, hunit]

/-- What is counted falls short by what the product loses: a multiple of `2 ^ 32` nanoseconds. -/
theorem nanoseconds_eq {start stop : Sbintime} (h : start ≤ stop) :
    nanoseconds (between start stop) =
      (elapsedNs (stop - start)).toNat + 2 ^ 32 * (between start stop * 10 ^ 9 / 2 ^ 64) := by
  rw [toNat_elapsedNs h, nanoseconds]
  omega

/-- The nanoseconds are right exactly if the product fits into a word. -/
theorem elapsedNs_exact_iff {start stop : Sbintime} (h : start ≤ stop) :
    (elapsedNs (stop - start)).toNat = nanoseconds (between start stop) ↔
      between start stop * 10 ^ 9 < 2 ^ 64 := by
  rw [nanoseconds_eq h, ← Nat.div_eq_zero_iff_lt (by decide : 0 < 2 ^ 64)]
  omega

/-! ### The counters of the module -/

/-- A read accounts for its duration: the total grows by it and the maximum takes it in. -/
structure DurationCounted (sched : Schedule) (before after : Stats) : Prop where
  total : after.readDurationNsTotal.toNat =
    (before.readDurationNsTotal.toNat + nanoseconds (between sched.now sched.endTime)) % 2 ^ 64
  largest : after.readDurationNsMax.toNat =
    max before.readDurationNsMax.toNat (nanoseconds (between sched.now sched.endTime))

theorem tcpstatsRead_timing (k : Kernel Cred) {tun : Tunables} (tcb : Tcbinfo Cred) {sched : Schedule}
    (resid : ℕ) {sc : Softc Cred} {g : Globals} (h : Admitted tun sched sc g) :
    (tcpstatsRead k tun tcb sched resid sc g).glob.stats.readDurationNsTotal =
        g.stats.readDurationNsTotal + elapsedNs (sched.endTime - sched.now) ∧
      (tcpstatsRead k tun tcb sched resid sc g).glob.stats.readDurationNsMax =
        max g.stats.readDurationNsMax (elapsedNs (sched.endTime - sched.now)) := by
  rcases hl : readLoop (readEnv k tun tcb sched sc) tcb.inpcbs (readStart resid) with ⟨exit, st⟩
  simp only [tcpstatsRead, h.unread, h.readers, h.interval, hl]
  exact ⟨rfl, rfl⟩

theorem toNat_max (a b : UInt64) : (max a b).toNat = max a.toNat b.toNat := by
  change (if a ≤ b then b else a).toNat = _
  split_ifs with h
  · rw [max_eq_right (UInt64.le_iff_toNat_le.mp h)]
  · rw [max_eq_left (UInt64.le_iff_toNat_le.mp (UInt64.le_of_lt (UInt64.not_le.mp h)))]

/-- An admitted read accounts for its duration exactly if that is less than 2⁶⁴ / 10⁹ units,
some 4.29 s, whatever the limit of the read duration. -/
theorem durationCounted_iff (k : Kernel Cred) (tun : Tunables) (tcb : Tcbinfo Cred) (sched : Schedule)
    (resid : ℕ) (sc : Softc Cred) (g : Globals) (hadm : Admitted tun sched sc g)
    (hle : sched.now ≤ sched.endTime) :
    DurationCounted sched g.stats (tcpstatsRead k tun tcb sched resid sc g).glob.stats ↔
      between sched.now sched.endTime * 10 ^ 9 < 2 ^ 64 := by
  obtain ⟨htotal, hmax⟩ := tcpstatsRead_timing k tcb resid hadm
  constructor
  · intro h
    -- The total tells a wrong duration apart: it is short by less than `2 ^ 64`.
    have hwrap := h.total
    have hbound := between_lt sched.now sched.endTime
    have hns := nanoseconds_eq hle
    rw [htotal, UInt64.toNat_add] at hwrap
    rw [← elapsedNs_exact_iff hle]
    unfold nanoseconds at hwrap hns ⊢
    omega
  · intro h
    have hns := (elapsedNs_exact_iff hle).mpr h
    refine ⟨?_, ?_⟩
    · rw [htotal, UInt64.toNat_add, hns]
    · rw [hmax, toNat_max, hns]

/-- A read of 2 s under the default limit. -/
theorem durationCounted_short :
    DurationCounted { Sample.still with endTime := SBT_1S * 3 } Sample.glob.stats
      (tcpstatsRead Sample.kern .default Sample.two { Sample.still with endTime := SBT_1S * 3 } 640
        (Sample.fresh .default) Sample.glob).glob.stats :=
  (durationCounted_iff Sample.kern .default Sample.two _ 640 (Sample.fresh .default) Sample.glob
    ⟨rfl, rfl, rfl⟩ (by decide)).mpr (by decide)

/-- A read of 4.5 s, which the counters take for one of 0.2 s. -/
def Sample.slow : Schedule := { Sample.still with endTime := SBT_1S * 11 / 2 }

/-- The default limit of 5 s permits it. -/
theorem durationCounted_slow :
    Admitted .default Sample.slow (Sample.fresh .default) Sample.glob ∧
      between Sample.slow.now Sample.slow.endTime ≤
        (msTime Tunables.default.maxReadDurationMs).toInt.toNat ∧
      nanoseconds (between Sample.slow.now Sample.slow.endTime) = 4500000000 ∧
      (tcpstatsRead Sample.kern .default Sample.two Sample.slow 640 (Sample.fresh .default)
        Sample.glob).glob.stats.readDurationNsTotal = 205032704 ∧
      ¬ DurationCounted Sample.slow Sample.glob.stats
        (tcpstatsRead Sample.kern .default Sample.two Sample.slow 640 (Sample.fresh .default)
          Sample.glob).glob.stats := by
  have hadm : Admitted .default Sample.slow (Sample.fresh .default) Sample.glob := ⟨rfl, rfl, rfl⟩
  have htotal := (tcpstatsRead_timing Sample.kern Sample.two 640 hadm).1
  refine ⟨hadm, by decide, by decide, htotal.trans (by decide), fun h => ?_⟩
  have hcounted := h.total
  rw [htotal] at hcounted
  revert hcounted
  decide

/-! ### The limit -/

theorem toInt_msTime (ms : UInt32) : (msTime ms).toInt = ms.toNat * 4294967 := by
  have hms := ms.toNat_lt
  have hword : ms.toUInt64.toInt64.toInt = ms.toNat := by
    rcases toNat_toUInt64 ms.toUInt64.toInt64 with h | h
    · rw [← h, UInt64.toUInt64_toInt64, UInt32.toNat_toUInt64]
    · have := ms.toUInt64.toInt64.toInt_lt
      rw [UInt64.toUInt64_toInt64, UInt32.toNat_toUInt64] at h
      have := ms.toUInt64.toInt64.le_toInt
      omega
  have hunit : SBT_1MS.toInt = 4294967 := by decide
  rw [msTime, Int64.toInt_mul, hword, hunit]
  exact Int.bmod_eq_of_le (by omega) (by omega)

/-- The limits within which every duration is right are those up to 4294 ms: the default is not
among them. -/
theorem exact_within_limit_iff (ms : UInt32) :
    (∀ start stop : Sbintime, start ≤ stop → (between start stop : ℤ) ≤ (msTime ms).toInt →
      (elapsedNs (stop - start)).toNat = nanoseconds (between start stop)) ↔ ms.toNat ≤ 4294 := by
  rw [toInt_msTime]
  constructor
  · intro h
    by_contra hlong
    -- A duration at the limit of 4295 ms: the product is too large.
    have hbetween : between 0 (4295 * 4294967) = 4295 * 4294967 := by decide
    have hexact := h 0 (4295 * 4294967) (by decide) (by omega)
    revert hexact
    decide
  · intro h start stop hle hlimit
    rw [elapsedNs_exact_iff hle]
    omega

end TcpStats
