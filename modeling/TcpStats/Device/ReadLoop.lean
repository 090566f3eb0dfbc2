import Mathlib.Data.List.Infix
import TcpStats.Device.Read

/-!
# The loop of a read

`Iteration` says once what an iteration of the loop of `tcpstats_read` can do, and
`LoopResult` what the whole loop can: it delivers the records of the connections before
the place where it stopped, in the order of the table, and says why it stopped there.
What a read returns follows from that (`Outcome`).
-/

namespace TcpStats

open Scan

variable {Cred : Type}

/-! ### One iteration -/

section Iteration

variable (st : ReadState) (i : ℕ) (examined : List ℕ) (inc : StatsBatch → StatsBatch)
  (r : TcpStatsRecord)

@[simp] theorem inpNext_uio : st.inpNext.uio = st.uio := rfl
@[simp] theorem inpNext_records : st.inpNext.records = st.records := rfl
@[simp] theorem inpNext_nsockets : st.inpNext.nsockets = st.nsockets := rfl
@[simp] theorem inpEnd_uio : st.inpEnd.uio = st.uio := rfl
@[simp] theorem inpEnd_records : st.inpEnd.records = st.records := rfl
@[simp] theorem inpRunlock_uio : (st.inpRunlock i).uio = st.uio := rfl
@[simp] theorem inpRunlock_records : (st.inpRunlock i).records = st.records := rfl
@[simp] theorem look_uio : (st.look i examined).uio = st.uio := rfl
@[simp] theorem look_records : (st.look i examined).records = st.records := rfl
@[simp] theorem look_nsockets : (st.look i examined).nsockets = st.nsockets := rfl
@[simp] theorem count_uio : (st.count inc).uio = st.uio := rfl
@[simp] theorem count_records : (st.count inc).records = st.records := rfl
@[simp] theorem count_nsockets : (st.count inc).nsockets = st.nsockets := rfl
@[simp] theorem visit_uio : st.visit.uio = st.uio := rfl
@[simp] theorem visit_records : st.visit.records = st.records := rfl
@[simp] theorem visit_nsockets : st.visit.nsockets = st.nsockets + 1 := rfl
@[simp] theorem emit_uio : (st.emit r).uio = uiomove r.bytes st.uio := by simp only [ReadState.emit]
@[simp] theorem emit_records : (st.emit r).records = st.records ++ [r] := rfl
@[simp] theorem emit_nsockets : (st.emit r).nsockets = st.nsockets := by simp only [ReadState.emit]

end Iteration

/-- What an iteration of the loop can do: go on or stop, and in which state. -/
inductive Iteration (env : ReadEnv Cred) (inp : Inpcb Cred) (st : ReadState) (c : Ctl Exit)
    (st' : ReadState) : Prop where
  /-- No room for another record. -/
  | full : st.uio.resid < TCP_STATS_RECORD_SIZE → c = .stop .full →
      st' = st.inpNext.inpRunlock st.nsockets → Iteration env inp st c st'
  /-- The periodic check stops the loop. -/
  | check (e : Exit) : TCP_STATS_RECORD_SIZE ≤ st.uio.resid →
      periodicCheck env (st.nsockets + 1) = some e → c = .stop e →
      st' = (st.inpNext.visit.inpRunlock st.nsockets).count (·.exit e) → Iteration env inp st c st'
  /-- A stage skips the connection. -/
  | skip (why : Skip) (examined : List ℕ) : TCP_STATS_RECORD_SIZE ≤ st.uio.resid →
      periodicCheck env (st.nsockets + 1) = none →
      filterStages env.kern env.cred env.gencnt env.filter inp = (some why, examined) → c = .next →
      st' = (st.inpNext.visit.look st.nsockets examined).count (·.skip why) → Iteration env inp st c st'
  /-- The record is filled and cannot be moved. -/
  | fault (examined : List ℕ) (e : Errno) : TCP_STATS_RECORD_SIZE ≤ st.uio.resid →
      periodicCheck env (st.nsockets + 1) = none →
      filterStages env.kern env.cred env.gencnt env.filter inp = (none, examined) →
      env.sched.uiomoveError st.records.length = some e → c = .stop (.failed e) →
      st' = (((st.inpNext.visit.look st.nsockets examined).look st.nsockets []).inpRunlock
        st.nsockets).count .fault → Iteration env inp st c st'
  /-- The record is filled and moved. -/
  | emit (examined : List ℕ) : TCP_STATS_RECORD_SIZE ≤ st.uio.resid →
      periodicCheck env (st.nsockets + 1) = none →
      filterStages env.kern env.cred env.gencnt env.filter inp = (none, examined) →
      env.sched.uiomoveError st.records.length = none → c = .next →
      st' = ((st.inpNext.visit.look st.nsockets examined).look st.nsockets []).emit
        (env.record st.records.length inp) → Iteration env inp st c st'

/-- The body of the loop does one of these. -/
theorem readBody_iteration {env : ReadEnv Cred} {inp : Inpcb Cred} {st st' : ReadState} {c : Ctl Exit}
    (h : readBody env inp st = (c, st')) : Iteration env inp st c st' := by
  by_cases hroom : st.uio.resid < TCP_STATS_RECORD_SIZE
  · rw [readBody, if_pos (by exact hroom), Prod.mk.injEq] at h
    exact .full hroom h.1.symm h.2.symm
  rw [readBody, if_neg (by exact hroom)] at h
  have hroom : TCP_STATS_RECORD_SIZE ≤ st.uio.resid := Nat.le_of_not_lt hroom
  simp only [visit_nsockets, inpNext_nsockets] at h
  rcases hcheck : periodicCheck env (st.nsockets + 1) with _ | e
  · rcases hf : filterStages env.kern env.cred env.gencnt env.filter inp with ⟨_ | why, examined⟩
    · simp only [hcheck, hf, emitRecord, look_records, visit_records, inpNext_records] at h
      rcases hu : env.sched.uiomoveError st.records.length with _ | e
      · simp only [hu, Prod.mk.injEq] at h
        exact .emit examined hroom hcheck hf hu h.1.symm h.2.symm
      · simp only [hu, Prod.mk.injEq] at h
        exact .fault examined e hroom hcheck hf hu h.1.symm h.2.symm
    · simp only [hcheck, hf, Prod.mk.injEq] at h
      exact .skip why examined hroom hcheck hf h.1.symm h.2.symm
  · simp only [hcheck, Prod.mk.injEq] at h
    exact .check e hroom hcheck h.1.symm h.2.symm

/-! ### The loop -/

/-- The connection passes every stage. -/
def ReadEnv.passes (env : ReadEnv Cred) (inp : Inpcb Cred) : Bool :=
  (filterStages env.kern env.cred env.gencnt env.filter inp).1.isNone

/-- The records of the connections that pass, each filled as the n-th of the read. -/
def ReadEnv.recordsOf (env : ReadEnv Cred) (inpcbs : List (Inpcb Cred)) : List TcpStatsRecord :=
  (inpcbs.filter env.passes).mapIdx env.record

theorem recordsOf_append (env : ReadEnv Cred) (xs ys : List (Inpcb Cred)) :
    ∃ more, env.recordsOf (xs ++ ys) = env.recordsOf xs ++ more := by
  simp only [ReadEnv.recordsOf, List.filter_append, List.mapIdx_append]
  exact ⟨_, rfl⟩

theorem recordsOf_snoc_pass {env : ReadEnv Cred} {xs : List (Inpcb Cred)} {x : Inpcb Cred}
    (h : env.passes x = true) :
    env.recordsOf (xs ++ [x]) = env.recordsOf xs ++ [env.record (env.recordsOf xs).length x] := by
  simp [ReadEnv.recordsOf, List.filter_append, h, List.mapIdx_append]

theorem recordsOf_snoc_skip {env : ReadEnv Cred} {xs : List (Inpcb Cred)} {x : Inpcb Cred}
    (h : env.passes x = false) : env.recordsOf (xs ++ [x]) = env.recordsOf xs := by
  simp [ReadEnv.recordsOf, List.filter_append, h]

/-- The state of a loop that has delivered the records of `pre` to a buffer of `resid` bytes. -/
structure Progress (env : ReadEnv Cred) (resid : ℕ) (pre : List (Inpcb Cred)) (st : ReadState) :
    Prop where
  records : st.records = env.recordsOf pre
  moved : st.uio.moved = st.records.flatMap TcpStatsRecord.bytes
  room : st.uio.resid + TCP_STATS_RECORD_SIZE * st.records.length = resid

/-- Why a loop that has gone through `pre` stops at the next connection, `x`. -/
inductive Stops (env : ReadEnv Cred) (pre : List (Inpcb Cred)) (x : Inpcb Cred) (st : ReadState) :
    Exit → Prop where
  | full : st.uio.resid < TCP_STATS_RECORD_SIZE → Stops env pre x st .full
  | check {e : Exit} : periodicCheck env (pre.length + 1) = some e → Stops env pre x st e
  | fault {e : Errno} : env.passes x = true → env.sched.uiomoveError st.records.length = some e →
      Stops env pre x st (.failed e)

/-- How the loop over a table can end. -/
inductive LoopResult (env : ReadEnv Cred) (resid : ℕ) (inpcbs : List (Inpcb Cred)) :
    Option Exit × ReadState → Prop where
  /-- It went through the whole table. -/
  | finished {st : ReadState} : Progress env resid inpcbs st →
      LoopResult env resid inpcbs (none, st)
  /-- It stopped at a connection. -/
  | stopped {pre rest : List (Inpcb Cred)} {x : Inpcb Cred} {st : ReadState} {e : Exit} :
      inpcbs = pre ++ x :: rest → Progress env resid pre st → Stops env pre x st e →
      LoopResult env resid inpcbs (some e, st)

/-- A skipped connection leaves the progress as it is. -/
theorem Progress.skip {env : ReadEnv Cred} {resid : ℕ} {pre : List (Inpcb Cred)} {x : Inpcb Cred}
    {st st' : ReadState} (h : Progress env resid pre st) (hx : env.passes x = false)
    (hu : st'.uio = st.uio) (hr : st'.records = st.records) : Progress env resid (pre ++ [x]) st' where
  records := by rw [hr, h.records, recordsOf_snoc_skip hx]
  moved := by rw [hu, hr, h.moved]
  room := by rw [hu, hr, h.room]

/-- A record that is moved out is the next of the list. -/
theorem Progress.emit {env : ReadEnv Cred} {resid : ℕ} {pre : List (Inpcb Cred)} {x : Inpcb Cred}
    {st st' : ReadState} (h : Progress env resid pre st) (hx : env.passes x = true)
    (hroom : TCP_STATS_RECORD_SIZE ≤ st.uio.resid)
    (hu : st'.uio = uiomove (env.record st.records.length x).bytes st.uio)
    (hr : st'.records = st.records ++ [env.record st.records.length x]) :
    Progress env resid (pre ++ [x]) st' where
  records := by rw [hr, recordsOf_snoc_pass hx, ← h.records]
  moved := by
    rw [hu, hr, List.flatMap_append, List.flatMap_singleton, ← h.moved]
    simp only [uiomove]
    rw [List.take_of_length_le (by simpa using hroom)]
  room := by
    have := h.room
    rw [hu, hr]
    simp only [uiomove, TcpStatsRecord.length_bytes, List.length_append, List.length_singleton, Nat.mul_add]
    omega

/-- A connection at which the loop stops has no part in what it delivered. -/
theorem Progress.same {env : ReadEnv Cred} {resid : ℕ} {pre : List (Inpcb Cred)} {st st' : ReadState}
    (h : Progress env resid pre st) (hu : st'.uio = st.uio) (hr : st'.records = st.records) :
    Progress env resid pre st' where
  records := by rw [hr, h.records]
  moved := by rw [hu, hr, h.moved]
  room := by rw [hu, hr, h.room]

theorem Progress.start (env : ReadEnv Cred) (resid : ℕ) : Progress env resid [] (readStart resid) where
  records := rfl
  moved := rfl
  room := rfl

/-- An iteration that goes on makes progress by its connection. -/
theorem Progress.next {env : ReadEnv Cred} {resid : ℕ} {pre : List (Inpcb Cred)} {x : Inpcb Cred}
    {st st' : ReadState} (h : Progress env resid pre st) (hb : readBody env x st = (.next, st')) :
    Progress env resid (pre ++ [x]) st' ∧ st'.nsockets = st.nsockets + 1 := by
  cases readBody_iteration hb with
  | full _ hc => cases hc
  | check e _ _ hc => cases hc
  | skip why examined _ _ hf _ hst =>
    subst hst
    exact ⟨h.skip (by simp [ReadEnv.passes, hf]) rfl rfl, rfl⟩
  | fault examined e _ _ _ _ hc => cases hc
  | emit examined hroom _ hf _ _ hst =>
    subst hst
    exact ⟨h.emit (by simp [ReadEnv.passes, hf]) hroom (emit_uio ..) (emit_records ..), emit_nsockets ..⟩

/-- An iteration that stops leaves the progress as it is. -/
theorem Progress.stop {env : ReadEnv Cred} {resid : ℕ} {pre : List (Inpcb Cred)} {x : Inpcb Cred}
    {st st' : ReadState} {e : Exit} (h : Progress env resid pre st) (hn : st.nsockets = pre.length)
    (hb : readBody env x st = (.stop e, st')) : Progress env resid pre st' ∧ Stops env pre x st' e := by
  cases readBody_iteration hb with
  | full hroom hc hst =>
    cases hc
    subst hst
    exact ⟨h.same rfl rfl, .full hroom⟩
  | check e _ hcheck hc hst =>
    cases hc
    subst hst
    exact ⟨h.same rfl rfl, .check (hn ▸ hcheck)⟩
  | skip _ _ _ _ _ hc => cases hc
  | fault examined e _ _ hf hu hc hst =>
    cases hc
    subst hst
    exact ⟨h.same rfl rfl, .fault (by simp [ReadEnv.passes, hf]) hu⟩
  | emit _ _ _ _ _ hc => cases hc

/-- What the loop can do. -/
theorem readLoop_result (env : ReadEnv Cred) (resid : ℕ) (inpcbs : List (Inpcb Cred)) :
    LoopResult env resid inpcbs (readLoop env inpcbs (readStart resid)) := by
  have loop : Ends (fun pre st => Progress env resid pre st ∧ st.nsockets = pre.length)
      (fun pre e st => ∃ p x, pre = p ++ [x] ∧ Progress env resid p st ∧ Stops env p x st e) inpcbs
      (scan (readBody env) inpcbs (readStart resid)) := by
    refine scan_rule ?_ ?_ inpcbs (readStart resid) ⟨Progress.start env resid, rfl⟩
    · rintro pre x s s' ⟨h, hn⟩ hb
      obtain ⟨h', hn'⟩ := h.next hb
      exact ⟨h', by simp [hn', hn]⟩
    · rintro pre x s s' e ⟨h, hn⟩ hb
      exact ⟨pre, x, rfl, h.stop hn hb⟩
  unfold readLoop
  rcases hs : scan (readBody env) inpcbs (readStart resid) with ⟨_ | e, st⟩
  · rw [hs] at loop
    exact .finished (loop.1.same rfl rfl)
  · rw [hs] at loop
    obtain ⟨_, suf, rfl, p, x, rfl, hp, hstop⟩ := loop
    exact .stopped (List.append_assoc p [x] suf) hp hstop

/-! ### The read -/

/-- A read that gets past the tests it begins with. -/
structure Admitted (tun : Tunables) (sched : Schedule) (sc : Softc Cred) (g : Globals) : Prop where
  unread : sc.scDone = false
  readers : tooManyReaders tun g = false
  interval : tooSoon tun sc sched.now = false

/-- The descriptor after an admitted read: nothing more to deliver. -/
def Softc.finish (sc : Softc Cred) (now : Sbintime) : Softc Cred :=
  { sc with scDone := true, scLastRead := now }

/-- What an admitted read returns, in terms of what its loop did. -/
structure Outcome (env : ReadEnv Cred) (resid : ℕ) (inpcbs : List (Inpcb Cred)) (sc : Softc Cred)
    (r : ReadResult Cred) (exit : Option Exit) (st : ReadState) : Prop where
  run : readLoop env inpcbs (readStart resid) = (exit, st)
  error : r.error = exitCode exit
  moved : r.moved = st.uio.moved
  records : r.records = st.records
  softc : r.sc = sc.finish env.sched.now

theorem Outcome.loop {env : ReadEnv Cred} {resid : ℕ} {inpcbs : List (Inpcb Cred)} {sc : Softc Cred}
    {r : ReadResult Cred} {exit : Option Exit} {st : ReadState}
    (h : Outcome env resid inpcbs sc r exit st) : LoopResult env resid inpcbs (exit, st) :=
  h.run ▸ readLoop_result env resid inpcbs

theorem tcpstatsRead_outcome (k : Kernel Cred) {tun : Tunables} (tcb : Tcbinfo Cred) {sched : Schedule}
    (resid : ℕ) {sc : Softc Cred} {g : Globals} (h : Admitted tun sched sc g) :
    ∃ exit st, Outcome (readEnv k tun tcb sched sc) resid tcb.inpcbs sc
      (tcpstatsRead k tun tcb sched resid sc g) exit st := by
  rcases hl : readLoop (readEnv k tun tcb sched sc) tcb.inpcbs (readStart resid) with ⟨exit, st⟩
  refine ⟨exit, st, ?_⟩
  simp only [tcpstatsRead, h.unread, h.readers, h.interval, hl]
  exact ⟨hl, rfl, rfl, rfl, rfl⟩

/-- A descriptor that has been read returns nothing, and nothing changes. -/
theorem tcpstatsRead_done (k : Kernel Cred) (tun : Tunables) (tcb : Tcbinfo Cred) (sched : Schedule)
    (resid : ℕ) {sc : Softc Cred} (g : Globals) (h : sc.scDone = true) :
    tcpstatsRead k tun tcb sched resid sc g = ⟨none, [], [], [], sc, g⟩ := by
  simp [tcpstatsRead, h]

/-- A read that is refused before it begins. -/
structure Refused (tun : Tunables) (sched : Schedule) (sc : Softc Cred) (g : Globals) : Prop where
  unread : sc.scDone = false
  limit : tooManyReaders tun g = true ∨ tooSoon tun sc sched.now = true

/-- A refused read leaves everything as it was. -/
theorem tcpstatsRead_refused (k : Kernel Cred) {tun : Tunables} (tcb : Tcbinfo Cred) {sched : Schedule}
    (resid : ℕ) {sc : Softc Cred} {g : Globals} (h : Refused tun sched sc g) :
    tcpstatsRead k tun tcb sched resid sc g = ⟨some .EBUSY, [], [], [], sc, g⟩ := by
  rcases h.limit with hl | hl
  · simp [tcpstatsRead, h.unread, hl]
  · simp [tcpstatsRead, h.unread, hl]

/-- A read of a finished descriptor, a refused one or an admitted one. -/
theorem read_cases (tun : Tunables) (sched : Schedule) (sc : Softc Cred) (g : Globals) :
    sc.scDone = true ∨ Refused tun sched sc g ∨ Admitted tun sched sc g := by
  rcases hd : sc.scDone
  · rcases hm : tooManyReaders tun g
    · rcases ht : tooSoon tun sc sched.now
      · exact .inr (.inr ⟨hd, hm, ht⟩)
      · exact .inr (.inl ⟨hd, .inr ht⟩)
    · exact .inr (.inl ⟨hd, .inl hm⟩)
  · exact .inl rfl

/-- No signal, deadline or copy-out fault in a read of `len` connections. -/
structure Schedule.Quiet (sched : Schedule) (deadline : Sbintime) (len : ℕ) : Prop where
  signal : ∀ i < len / TSF_CHECK_INTERVAL, sched.sigPending i = false
  inTime : ∀ i < len / TSF_CHECK_INTERVAL, deadline = 0 ∨ sched.checkTime i ≤ deadline
  fault : ∀ n < len, sched.uiomoveError n = none

/-- The periodic check lets a quiet read go on. -/
theorem periodicCheck_quiet {env : ReadEnv Cred} {len n : ℕ} (hq : env.sched.Quiet env.deadline len)
    (h0 : 0 < n) (hn : n ≤ len) : periodicCheck env n = none := by
  unfold periodicCheck
  split
  case isFalse => rfl
  case isTrue hmod =>
    have hpos : 0 < n / TSF_CHECK_INTERVAL :=
      Nat.div_pos (Nat.le_of_dvd h0 (Nat.dvd_of_mod_eq_zero hmod)) (by decide)
    have hlt : n / TSF_CHECK_INTERVAL - 1 < len / TSF_CHECK_INTERVAL := by
      have := Nat.div_le_div_right (c := TSF_CHECK_INTERVAL) hn
      omega
    rw [if_neg (by simp [hq.signal _ hlt]), if_neg]
    rintro ⟨hd, hlate⟩
    rcases hq.inTime _ hlt with h | h
    · exact hd h
    · exact absurd hlate (Int64.not_lt.mpr h)

/-- The records delivered so far are never more than the connections gone through. -/
theorem length_recordsOf_le (env : ReadEnv Cred) (xs : List (Inpcb Cred)) :
    (env.recordsOf xs).length ≤ xs.length := by
  simpa [ReadEnv.recordsOf] using List.length_filter_le _ xs

/-- A quiet loop runs until the table ends or the buffer is full. -/
theorem LoopResult.quiet {env : ReadEnv Cred} {resid : ℕ} {inpcbs : List (Inpcb Cred)}
    {exit : Option Exit} {st : ReadState} (h : LoopResult env resid inpcbs (exit, st))
    (hq : env.sched.Quiet env.deadline inpcbs.length) :
    exitCode exit = none ∧
      st.records = (env.recordsOf inpcbs).take (resid / TCP_STATS_RECORD_SIZE) := by
  cases h with
  | finished hp =>
    refine ⟨rfl, ?_⟩
    have hroom := hp.room
    rw [hp.records] at hroom ⊢
    refine (List.take_of_length_le ?_).symm
    rw [Nat.le_div_iff_mul_le (by decide), Nat.mul_comm]
    omega
  | @stopped pre rest x _ e heq hp hs =>
    cases hs with
    | full hfull =>
      refine ⟨rfl, ?_⟩
      obtain ⟨more, hmore⟩ := recordsOf_append env pre (x :: rest)
      have hroom := hp.room
      rw [hp.records] at hroom ⊢
      have hlen : resid / TCP_STATS_RECORD_SIZE = (env.recordsOf pre).length := by
        rw [← hroom, Nat.add_mul_div_left _ _ (by decide), Nat.div_eq_of_lt hfull, Nat.zero_add]
      rw [heq, hmore, hlen, List.take_left]
    | check hc =>
      rw [periodicCheck_quiet hq (Nat.succ_pos _) (by simp [heq])] at hc
      cases hc
    | fault hx hu =>
      have hlt : st.records.length < inpcbs.length := by
        have := length_recordsOf_le env pre
        simp only [hp.records, heq, List.length_append, List.length_cons]
        omega
      rw [hq.fault _ hlt] at hu
      cases hu

/-- The records of an admitted and quiet read. -/
theorem tcpstatsRead_records (k : Kernel Cred) {tun : Tunables} {tcb : Tcbinfo Cred} {sched : Schedule}
    (resid : ℕ) {sc : Softc Cred} {g : Globals} (hadm : Admitted tun sched sc g)
    (hq : sched.Quiet (readDeadline tun sched.now) tcb.inpcbs.length) :
    (tcpstatsRead k tun tcb sched resid sc g).records =
      ((readEnv k tun tcb sched sc).recordsOf tcb.inpcbs).take (resid / TCP_STATS_RECORD_SIZE) := by
  obtain ⟨exit, st, out⟩ := tcpstatsRead_outcome k tcb resid hadm
  exact out.records.trans (out.loop.quiet hq).2

/-- What any loop delivers is a beginning of the list of the records of its table. -/
theorem LoopResult.prefix_of {env : ReadEnv Cred} {resid : ℕ} {inpcbs : List (Inpcb Cred)}
    {exit : Option Exit} {st : ReadState} (h : LoopResult env resid inpcbs (exit, st)) :
    ∃ pre, pre <+: inpcbs ∧ Progress env resid pre st := by
  cases h with
  | finished hp => exact ⟨inpcbs, List.prefix_refl _, hp⟩
  | @stopped pre rest x _ _ heq hp _ => exact ⟨pre, ⟨x :: rest, heq.symm⟩, hp⟩

end TcpStats
