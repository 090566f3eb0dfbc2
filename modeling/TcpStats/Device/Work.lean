import TcpStats.Device.Descriptor
import TcpStats.Device.LockBalance

/-!
# How much work a read does

A read looks at signals and at the clock once in every 1024 connections. However long the table is: when a check finds a
signal pending or the deadline past, no more connections are locked than lie before the check (`work_bounded`). And
unless the table ends, the buffer is full or a copy fails before, the read stops right there and says why.
-/

namespace TcpStats

open Scan

variable {Cred : Type}

/-- The event is the lock of a control block. -/
def Event.isLock : Event → Bool
  | .lock _ => true
  | _ => false

/-- How many control blocks are locked in a trace. -/
def locks (trace : List Event) : ℕ := trace.countP Event.isLock

@[simp] theorem locks_append (t u : List Event) : locks (t ++ u) = locks t + locks u := List.countP_append ..

@[simp] theorem locks_unlock (held : Option ℕ) : locks (held.toList.map .unlock) = 0 := by
  cases held <;> rfl

@[simp] theorem locks_look (i : ℕ) (examined : List ℕ) : locks (.touch i :: examined.map .examine) = 0 := by
  simp [locks, List.countP_eq_zero, Event.isLock]

/-- An iteration locks one block. It goes on only past a check that finds nothing. -/
theorem readBody_locks {env : ReadEnv Cred} {inp : Inpcb Cred} {st st' : ReadState} {c : Ctl Exit}
    (h : readBody env inp st = (c, st')) : locks st'.trace = locks st.trace + 1 ∧
      (c = .next → st'.nsockets = st.nsockets + 1 ∧ periodicCheck env (st.nsockets + 1) = none) := by
  have hnext : locks st.inpNext.trace = locks st.trace + 1 := by simp [ReadState.inpNext, locks, Event.isLock]
  have hunlock : locks [Event.unlock st.nsockets] = 0 := rfl
  cases readBody_iteration h with
  | full _ hc hst =>
    subst hc hst
    refine ⟨?_, fun hgo => by cases hgo⟩
    rw [ReadState.inpRunlock, locks_append, hnext, hunlock]
  | check e _ hcheck hc hst =>
    subst hc hst
    refine ⟨?_, fun hgo => by cases hgo⟩
    rw [ReadState.count, ReadState.inpRunlock, ReadState.visit, locks_append, hnext, hunlock]
  | skip why examined _ hcheck _ hc hst =>
    subst hc hst
    refine ⟨?_, fun _ => ⟨rfl, hcheck⟩⟩
    rw [ReadState.count, ReadState.look, ReadState.visit, locks_append, hnext, locks_look]
  | fault examined e _ hcheck _ _ hc hst =>
    subst hc hst
    refine ⟨?_, fun hgo => by cases hgo⟩
    have hlook := locks_look st.nsockets []
    rw [List.map_nil] at hlook
    simp only [ReadState.count, ReadState.inpRunlock, ReadState.look, ReadState.visit, locks_append, hnext, hunlock,
      locks_look, List.map_nil, hlook, Nat.add_zero]
  | emit examined _ hcheck _ _ hc hst =>
    subst hc hst
    refine ⟨?_, fun _ => ⟨emit_nsockets .., hcheck⟩⟩
    have hlook := locks_look st.nsockets []
    rw [List.map_nil] at hlook
    simp only [ReadState.emit, ReadState.look, ReadState.visit, locks_append, hnext, locks_look, List.map_nil, hlook,
      Nat.add_zero]

/-- Where the loop can be left, when the check at the `n + 1`-th connection finds something. -/
inductive LeftBy (env : ReadEnv Cred) (resid : ℕ) (inpcbs : List (Inpcb Cred)) (n : ℕ) : Option Exit × ReadState → Prop
    where
  /-- The table ends before. -/
  | finished {st : ReadState} : locks st.trace = inpcbs.length → inpcbs.length ≤ n → LeftBy env resid inpcbs n (none, st)
  | stopped {pre : List (Inpcb Cred)} {x : Inpcb Cred} {st : ReadState} {e : Exit} : Progress env resid pre st →
      Stops env pre x st e → locks st.trace = pre.length + 1 → pre.length ≤ n → LeftBy env resid inpcbs n (some e, st)

/-- A loop that has gone on past some connections has found nothing at the checks among them. -/
theorem readLoop_leftBy (env : ReadEnv Cred) (inpcbs : List (Inpcb Cred)) (resid : ℕ) {n : ℕ}
    (hcheck : periodicCheck env (n + 1) ≠ none) :
    LeftBy env resid inpcbs n (readLoop env inpcbs (readStart resid)) := by
  have loop : Ends
      (fun pre st => (Progress env resid pre st ∧ st.nsockets = pre.length) ∧ locks st.trace = pre.length ∧ pre.length ≤ n)
      (fun _ e st => ∃ p x, Progress env resid p st ∧ Stops env p x st e ∧ locks st.trace = p.length + 1 ∧ p.length ≤ n)
      inpcbs (scan (readBody env) inpcbs (readStart resid)) := by
    refine scan_rule ?_ ?_ inpcbs (readStart resid) ⟨⟨Progress.start env resid, rfl⟩, rfl, Nat.zero_le n⟩
    · rintro pre x s s' ⟨⟨hp, hn⟩, hlocks, hle⟩ hb
      obtain ⟨hlocks', hgo⟩ := readBody_locks hb
      obtain ⟨hn', hnone⟩ := hgo rfl
      rw [List.length_append, List.length_singleton]
      refine ⟨⟨(hp.next hb).1, by omega⟩, by omega, Nat.lt_of_le_of_ne hle fun heq => hcheck ?_⟩
      rw [← heq, ← hn, hnone]
    · rintro pre x s s' e ⟨⟨hp, hn⟩, hlocks, hle⟩ hb
      obtain ⟨hp', hstops⟩ := hp.stop hn hb
      exact ⟨pre, x, hp', hstops, by rw [(readBody_locks hb).1, hlocks], hle⟩
  unfold readLoop
  rcases hs : scan (readBody env) inpcbs (readStart resid) with ⟨_ | e, st⟩
  · rw [hs] at loop
    obtain ⟨-, hlocks, hle⟩ := loop
    refine .finished ?_ hle
    rw [ReadState.inpEnd, locks_append, locks_unlock, hlocks, Nat.add_zero]
  · rw [hs] at loop
    obtain ⟨_, _, _, p, x, hp, hstops, hlocks, hle⟩ := loop
    exact .stopped hp hstops hlocks hle

theorem LeftBy.locks_le {env : ReadEnv Cred} {resid n : ℕ} {inpcbs : List (Inpcb Cred)} {r : Option Exit × ReadState}
    (h : LeftBy env resid inpcbs n r) : locks r.2.trace ≤ n + 1 := by
  cases h with
  | finished hlocks hle =>
    dsimp only
    omega
  | stopped _ _ hlocks hle =>
    dsimp only
    omega

/-! ### Checks -/

/-- The `j`-th check finds a signal pending, or the deadline past. -/
def Trips (tun : Tunables) (sched : Schedule) (j : ℕ) : Prop :=
  sched.sigPending j = true ∨
    readDeadline tun sched.now ≠ 0 ∧ readDeadline tun sched.now < sched.checkTime j

instance (tun : Tunables) (sched : Schedule) (j : ℕ) : Decidable (Trips tun sched j) :=
  inferInstanceAs (Decidable (_ ∨ _))

/-- The connection at which it is made. -/
def checkPoint (j : ℕ) : ℕ := TSF_CHECK_INTERVAL * (j + 1)

/-- How the read ends at a check that finds something. -/
def tripped (sched : Schedule) (j : ℕ) : Exit := if sched.sigPending j then .failed .EINTR else .timedOut

theorem periodicCheck_eq_some_iff {k : Kernel Cred} {tun : Tunables} {tcb : Tcbinfo Cred} {sched : Schedule}
    {sc : Softc Cred} {n : ℕ} {e : Exit} (hn : 0 < n) : periodicCheck (readEnv k tun tcb sched sc) n = some e ↔
      ∃ j, n = checkPoint j ∧ Trips tun sched j ∧ e = tripped sched j := by
  have hat : ∀ j, periodicCheck (readEnv k tun tcb sched sc) (checkPoint j) = some e ↔
      Trips tun sched j ∧ e = tripped sched j := by
    intro j
    have hindex : checkPoint j / TSF_CHECK_INTERVAL - 1 = j := by
      rw [checkPoint, Nat.mul_div_cancel_left _ (by decide), Nat.add_sub_cancel]
    rw [periodicCheck, if_pos (by rw [checkPoint, Nat.mul_mod_right])]
    dsimp only [readEnv]
    rw [hindex, Trips, tripped]
    rcases Bool.eq_false_or_eq_true (sched.sigPending j) with hsig | hsig
    · simp [hsig, eq_comm]
    · simp [hsig, eq_comm]
  constructor
  · intro h
    have hmod : n % TSF_CHECK_INTERVAL = 0 := by
      by_contra hne
      rw [periodicCheck, if_neg hne] at h
      cases h
    obtain ⟨j, rfl⟩ : ∃ j, n = checkPoint j := by
      obtain ⟨m, rfl⟩ := Nat.dvd_of_mod_eq_zero hmod
      exact ⟨m - 1, by rw [checkPoint, Nat.sub_add_cancel (Nat.pos_of_mul_pos_left hn)]⟩
    exact ⟨j, rfl, (hat j).mp h⟩
  · rintro ⟨j, rfl, h⟩
    exact (hat j).mpr h

theorem checkPoint_lt {i j : ℕ} (h : checkPoint i < checkPoint j) : i < j := by
  have := Nat.lt_of_mul_lt_mul_left h
  omega

/-- An admitted read is its loop. -/
theorem tcpstatsRead_loop (k : Kernel Cred) {tun : Tunables} (tcb : Tcbinfo Cred) {sched : Schedule} (resid : ℕ)
    {sc : Softc Cred} {g : Globals} (h : Admitted tun sched sc g) :
    (tcpstatsRead k tun tcb sched resid sc g).trace =
        (readLoop (readEnv k tun tcb sched sc) tcb.inpcbs (readStart resid)).2.trace ∧
      (tcpstatsRead k tun tcb sched resid sc g).error =
        exitCode (readLoop (readEnv k tun tcb sched sc) tcb.inpcbs (readStart resid)).1 := by
  simp only [tcpstatsRead, h.unread, h.readers, h.interval]
  exact ⟨rfl, rfl⟩

/-- When a check finds a signal pending or the deadline past, a read locks no more connections than lie before it. And
when it is the first such check, the read gets as far as that and returns what the check says, unless the table ends
before, or the buffer is too small, or a copy fails. -/
theorem work_bounded (k : Kernel Cred) (tun : Tunables) (tcb : Tcbinfo Cred) (sched : Schedule) (resid : ℕ)
    (sc : Softc Cred) (g : Globals) {j : ℕ} (hj : Trips tun sched j) :
    locks (tcpstatsRead k tun tcb sched resid sc g).trace ≤ checkPoint j ∧
      (Admitted tun sched sc g → (∀ i < j, ¬ Trips tun sched i) → checkPoint j ≤ tcb.inpcbs.length →
        TCP_STATS_RECORD_SIZE * checkPoint j ≤ resid → (∀ n < checkPoint j, sched.uiomoveError n = none) →
        locks (tcpstatsRead k tun tcb sched resid sc g).trace = checkPoint j ∧
          (tcpstatsRead k tun tcb sched resid sc g).error = exitCode (some (tripped sched j))) := by
  have hpoint : 0 < checkPoint j := Nat.mul_pos (by decide) (Nat.succ_pos j)
  obtain ⟨n, hn⟩ : ∃ n, checkPoint j = n + 1 := ⟨checkPoint j - 1, by omega⟩
  have hcheck : periodicCheck (readEnv k tun tcb sched sc) (n + 1) ≠ none := by
    rw [← hn, (periodicCheck_eq_some_iff hpoint).mpr ⟨j, rfl, hj, rfl⟩]
    simp
  have hleft := readLoop_leftBy (readEnv k tun tcb sched sc) tcb.inpcbs resid hcheck
  rw [hn]
  refine ⟨?_, fun hadm hfirst hlong hroom hcopy => ?_⟩
  · rcases read_cases tun sched sc g with hd | href | hadm
    · rw [tcpstatsRead_done k tun tcb sched resid g hd]
      exact Nat.zero_le _
    · rw [tcpstatsRead_refused k tcb resid href]
      exact Nat.zero_le _
    · rw [(tcpstatsRead_loop k tcb resid hadm).1]
      exact hleft.locks_le
  · obtain ⟨htrace, herror⟩ := tcpstatsRead_loop k tcb resid hadm
    rw [htrace, herror]
    rcases hl : readLoop (readEnv k tun tcb sched sc) tcb.inpcbs (readStart resid) with ⟨exit, st⟩
    rw [hl] at hleft
    cases hleft with
    | finished hlocks hle => omega
    | @stopped pre x _ e hp hstops hlocks hle =>
      have hrecords : st.records.length ≤ pre.length := by
        rw [hp.records]
        exact length_recordsOf_le _ _
      cases hstops with
      | full hfull =>
        -- there is room for as many records as there are connections
        have hleft := hp.room
        have hsize : TCP_STATS_RECORD_SIZE = 320 := rfl
        rw [hsize] at hfull hroom hleft
        omega
      | check hc =>
        obtain ⟨i, hi, htrips, rfl⟩ := (periodicCheck_eq_some_iff (Nat.succ_pos _)).mp hc
        obtain rfl : i = j := by
          by_contra hne
          have hle' : checkPoint i ≤ checkPoint j := by omega
          rcases Nat.lt_or_eq_of_le hle' with hlt | heq
          · exact hfirst i (checkPoint_lt hlt) htrips
          · exact hne (Nat.succ_injective (Nat.eq_of_mul_eq_mul_left (by decide) heq))
        exact ⟨by rw [hlocks]; omega, rfl⟩
      | fault _ hfault =>
        exact absurd ((hcopy _ (by omega)).symm.trans hfault) (by simp)

/-- The read of 1025 connections that the deadline stops at the 1024th. -/
theorem work_bounded_long :
    locks (tcpstatsRead Sample.kern .default Sample.long Sample.late 400000 (Sample.fresh .default) Sample.glob).trace =
      1024 :=
  ((work_bounded Sample.kern .default Sample.long Sample.late 400000 (Sample.fresh .default) Sample.glob (j := 0)
    (by decide)).2 ⟨rfl, rfl, rfl⟩ (fun i hi => absurd hi (Nat.not_lt_zero i)) (by decide +kernel) (by decide) fun _ _ => rfl).1

end TcpStats
