import TcpStats.Device.ReadSpec
import TcpStats.Lib.Run
import Mathlib.Algebra.BigOperators.Group.List.Basic
import Mathlib.Data.UInt
import Mathlib.Tactic.Abel

/-!
# The balance of the counters

A read counts in a batch of its own what becomes of the connections it visits, and adds the
batch to the counters of the module at its end, one atomic addition for each counter. Any
number of reads do so side by side. A connection that is visited is charged to one outcome,
unless the read ends with it: at a signal, a deadline or a failed `uiomove`. Without these
the connections visited are those reported and those skipped whenever no read is under way
(`balanced`).
-/

namespace TcpStats

open Scan Transition
open scoped UInt64.CommRing

variable {Cred : Type}

/-! ### Counters -/

/-- The counters of a batch. -/
inductive Counter where
  | recordsEmitted
  | socketsVisited
  | skipped (why : Skip)
  | uiomoveErrors
  | readsTimedOut
  | readsInterrupted

/-- The counters in the order of `TSF_STAT_FLUSH`. -/
def Counter.order : List Counter :=
  [.recordsEmitted, .socketsVisited, .skipped .gencnt, .skipped .cred, .skipped .ipver, .skipped .state,
    .skipped .port, .skipped .addr, .uiomoveErrors, .readsTimedOut, .readsInterrupted]

/-- The value of a counter. -/
def StatsBatch.get (b : StatsBatch) : Counter → UInt64
  | .recordsEmitted => b.recordsEmitted
  | .socketsVisited => b.socketsVisited
  | .skipped .gencnt => b.socketsSkippedGencnt
  | .skipped .cred => b.socketsSkippedCred
  | .skipped .ipver => b.socketsSkippedIpver
  | .skipped .state => b.socketsSkippedState
  | .skipped .port => b.socketsSkippedPort
  | .skipped .addr => b.socketsSkippedAddr
  | .uiomoveErrors => b.uiomoveErrors
  | .readsTimedOut => b.readsTimedOut
  | .readsInterrupted => b.readsInterrupted

/-- `atomic_add_64` on a counter of the module. -/
def Stats.atomicAdd (s : Stats) (v : UInt64) : Counter → Stats
  | .recordsEmitted => { s with recordsEmitted := s.recordsEmitted + v }
  | .socketsVisited => { s with socketsVisited := s.socketsVisited + v }
  | .skipped .gencnt => { s with socketsSkippedGencnt := s.socketsSkippedGencnt + v }
  | .skipped .cred => { s with socketsSkippedCred := s.socketsSkippedCred + v }
  | .skipped .ipver => { s with socketsSkippedIpver := s.socketsSkippedIpver + v }
  | .skipped .state => { s with socketsSkippedState := s.socketsSkippedState + v }
  | .skipped .port => { s with socketsSkippedPort := s.socketsSkippedPort + v }
  | .skipped .addr => { s with socketsSkippedAddr := s.socketsSkippedAddr + v }
  | .uiomoveErrors => { s with uiomoveErrors := s.uiomoveErrors + v }
  | .readsTimedOut => { s with readsTimedOut := s.readsTimedOut + v }
  | .readsInterrupted => { s with readsInterrupted := s.readsInterrupted + v }

/-- The end of a read: its duration is counted. -/
def Stats.timed (s : Stats) (elapsed : Sbintime) : Stats :=
  { s with
    readDurationNsTotal := s.readDurationNsTotal + elapsedNs elapsed
    readDurationNsMax := max s.readDurationNsMax (elapsedNs elapsed) }

@[simp] theorem timed_toStatsBatch (s : Stats) (elapsed : Sbintime) :
    (s.timed elapsed).toStatsBatch = s.toStatsBatch := by
  cases s
  rfl

/-- The additions of `TSF_STAT_FLUSH` one after another. -/
theorem foldl_atomicAdd (s : Stats) (b : StatsBatch) :
    Counter.order.foldl (fun s c => s.atomicAdd (b.get c) c) s = s.flush b := rfl

/-- Every connection visited has been reported or skipped. -/
def Balanced (b : StatsBatch) : Prop :=
  b.socketsVisited = b.recordsEmitted + b.socketsSkippedGencnt + b.socketsSkippedCred + b.socketsSkippedIpver +
    b.socketsSkippedState + b.socketsSkippedPort + b.socketsSkippedAddr

/-! ### Reads side by side -/

/-- How far a read has come. -/
inductive ReadStage where
  /-- In its loop, between two iterations. -/
  | looping (st : ReadState)
  /-- In `TSF_STAT_FLUSH`, with the counters still to be added. -/
  | flushing (batch : StatsBatch) (rest : List Counter)
  | returned

/-- The state of the loop of a read that is in it. -/
def ReadStage.state : ReadStage → Option ReadState
  | looping st => some st
  | flushing _ _ | returned => none

/-- The read has returned. -/
def ReadStage.done : ReadStage → Bool
  | returned => true
  | looping _ | flushing _ _ => false

/-- The counters of the module, and every read that was ever admitted. -/
structure StatsSystem where
  stats : Stats
  reads : List ReadStage

/-- What a read does next. -/
inductive ReadAct (Cred : Type) where
  /-- The next connection of its table. What it runs against, the filter and the answers of the
  kernel, may be different from one connection to the next. -/
  | turn (env : ReadEnv Cred) (inp : Inpcb Cred)
  /-- The end of its table. -/
  | tableEnd
  /-- The next addition of its flush. -/
  | add
  /-- It returns, some time after it began. -/
  | finish (elapsed : Sbintime)

/-- What happens next. -/
inductive StatsEvent (Cred : Type) where
  /-- A read is admitted, on a buffer of `resid` bytes. -/
  | enter (resid : ℕ)
  /-- A read goes on. -/
  | act (i : ℕ) (act : ReadAct Cred)

namespace StatsSystem

/-- The module after it is loaded. -/
def init : StatsSystem :=
  ⟨{ StatsBatch.zero with readDurationNsTotal := 0, readDurationNsMax := 0 }, []⟩

/-- A read goes on from here. -/
def readTo (s : StatsSystem) (i : ℕ) (r : ReadStage) : StatsSystem := { s with reads := s.reads.set i r }

end StatsSystem

/-- Where an iteration leads. -/
def afterTurn (env : ReadEnv Cred) (inp : Inpcb Cred) (st : ReadState) : ReadStage :=
  match readBody env inp st with
  | (.next, st) => .looping st
  | (.stop _, st) => .flushing st.batch Counter.order

/-- The next step of a read that is in its loop. -/
def loopGo (st : ReadState) : ReadAct Cred → Option ReadStage
  | .turn env inp => some (afterTurn env inp st)
  | .tableEnd => some (.flushing st.inpEnd.batch Counter.order)
  | .add | .finish _ => none

/-- The next step of a read in its flush, with what it does to the counters of the module. -/
def flushGo (stats : Stats) (b : StatsBatch) (rest : List Counter) :
    ReadAct Cred → Option (Stats × ReadStage)
  | .add => match rest with
    | c :: rest => some (stats.atomicAdd (b.get c) c, .flushing b rest)
    | [] => none
  | .finish elapsed => match rest with
    | [] => some (stats.timed elapsed, .returned)
    | _ :: _ => none
  | .turn _ _ | .tableEnd => none

/-- An event, where it can happen. -/
def statsStep (s : StatsSystem) : StatsEvent Cred → Option StatsSystem
  | .enter resid => some { s with reads := s.reads ++ [.looping (readStart resid)] }
  | .act i act => (s.reads[i]?).bind fun r => match r with
    | .looping st => (loopGo st act).map (s.readTo i)
    | .flushing b rest => (flushGo s.stats b rest act).map fun p => { s with stats := p.1 }.readTo i p.2
    | .returned => none

/-- The step relation. -/
def StatsStep (Cred : Type) (s : StatsSystem) (e : StatsEvent Cred) (s' : StatsSystem) : Prop :=
  statsStep s e = some s'

/-! ### What a step does -/

/-- All that a step can do. -/
inductive StatsMove (s : StatsSystem) (e : StatsEvent Cred) (s' : StatsSystem) : Prop where
  | enter (resid : ℕ) : e = .enter resid → s' = { s with reads := s.reads ++ [.looping (readStart resid)] } →
      StatsMove s e s'
  | turn (i : ℕ) (env : ReadEnv Cred) (inp : Inpcb Cred) (st : ReadState) : e = .act i (.turn env inp) →
      s.reads[i]? = some (.looping st) → s' = s.readTo i (afterTurn env inp st) → StatsMove s e s'
  | tableEnd (i : ℕ) (st : ReadState) : e = .act i .tableEnd → s.reads[i]? = some (.looping st) →
      s' = s.readTo i (.flushing st.inpEnd.batch Counter.order) → StatsMove s e s'
  | add (i : ℕ) (b : StatsBatch) (c : Counter) (rest : List Counter) : e = .act i .add →
      s.reads[i]? = some (.flushing b (c :: rest)) →
      s' = { s with stats := s.stats.atomicAdd (b.get c) c }.readTo i (.flushing b rest) → StatsMove s e s'
  | finish (i : ℕ) (b : StatsBatch) (elapsed : Sbintime) : e = .act i (.finish elapsed) →
      s.reads[i]? = some (.flushing b []) →
      s' = { s with stats := s.stats.timed elapsed }.readTo i .returned → StatsMove s e s'

theorem statsStep_move {s s' : StatsSystem} {e : StatsEvent Cred} (h : StatsStep Cred s e s') :
    StatsMove s e s' := by
  unfold StatsStep statsStep at h
  cases e with
  | enter resid => exact .enter resid rfl (Option.some.inj h).symm
  | act i act =>
    obtain ⟨r, hr, h⟩ := Option.bind_eq_some_iff.mp h
    cases r with
    | looping st =>
      obtain ⟨next, hgo, rfl⟩ := Option.map_eq_some_iff.mp h
      cases act with
      | turn env inp => exact .turn i env inp st rfl hr (by rw [Option.some.inj hgo])
      | tableEnd => exact .tableEnd i st rfl hr (by rw [Option.some.inj hgo])
      | add => cases hgo
      | finish elapsed => cases hgo
    | flushing b rest =>
      obtain ⟨p, hgo, rfl⟩ := Option.map_eq_some_iff.mp h
      cases act with
      | turn env inp => cases hgo
      | tableEnd => cases hgo
      | add =>
        cases rest with
        | nil => cases hgo
        | cons c rest => exact .add i b c rest rfl hr (by rw [← Option.some.inj hgo])
      | finish elapsed =>
        cases rest with
        | nil => exact .finish i b elapsed rfl hr (by rw [← Option.some.inj hgo])
        | cons c rest => cases hgo
    | returned => cases h

/-! ### What is missing -/

/-- What the connections visited exceed the outcomes by. -/
def StatsBatch.deficit (b : StatsBatch) : UInt64 :=
  b.socketsVisited - (b.recordsEmitted + b.socketsSkippedGencnt + b.socketsSkippedCred + b.socketsSkippedIpver +
    b.socketsSkippedState + b.socketsSkippedPort + b.socketsSkippedAddr)

theorem balanced_iff (b : StatsBatch) : Balanced b ↔ b.deficit = 0 := sub_eq_zero.symm

/-- How a counter enters into the deficit. -/
noncomputable def Counter.weight : Counter → UInt64
  | socketsVisited => 1
  | recordsEmitted | skipped _ => -1
  | uiomoveErrors | readsTimedOut | readsInterrupted => 0

/-- What a read will add to the deficit of the module. -/
noncomputable def ReadStage.pending : ReadStage → UInt64
  | looping st => st.batch.deficit
  | flushing b rest => (rest.map fun c => c.weight * b.get c).sum
  | returned => 0

/-- A flush adds the whole batch. -/
theorem pending_order (b : StatsBatch) : (ReadStage.flushing b Counter.order).pending = b.deficit := by
  simp only [ReadStage.pending, Counter.order, List.map, List.sum_cons, List.sum_nil, Counter.weight, StatsBatch.get,
    StatsBatch.deficit, neg_mul, one_mul, zero_mul]
  abel

theorem deficit_atomicAdd (s : Stats) (v : UInt64) (c : Counter) :
    (s.atomicAdd v c).toStatsBatch.deficit = s.toStatsBatch.deficit + c.weight * v := by
  cases c with
  | skipped why =>
    cases why <;> (simp only [Stats.atomicAdd, StatsBatch.deficit, Counter.weight, neg_mul, one_mul]; abel)
  | _ =>
    simp only [Stats.atomicAdd, StatsBatch.deficit, Counter.weight, neg_mul, one_mul, zero_mul]
    abel

theorem deficit_visit (st : ReadState) : st.visit.batch.deficit = st.batch.deficit + 1 := by
  simp only [ReadState.visit, StatsBatch.deficit]
  abel

theorem deficit_skip (b : StatsBatch) (why : Skip) : (b.skip why).deficit = b.deficit - 1 := by
  cases why <;> (simp only [StatsBatch.skip, StatsBatch.deficit]; abel)

theorem deficit_emit (st : ReadState) (r : TcpStatsRecord) :
    (st.emit r).batch.deficit = st.batch.deficit - 1 := by
  simp only [ReadState.emit, StatsBatch.deficit]
  abel

/-- One read of the list goes on. -/
theorem sum_pending_set {reads : List ReadStage} {i : ℕ} {r : ReadStage} (h : reads[i]? = some r)
    (r' : ReadStage) :
    ((reads.set i r').map ReadStage.pending).sum = (reads.map ReadStage.pending).sum - r.pending + r'.pending := by
  obtain ⟨hi, rfl⟩ := List.getElem?_eq_some_iff.mp h
  have hi' : i < (reads.map ReadStage.pending).length := by simpa using hi
  rw [List.map_set, List.sum_set', dif_pos hi', List.getElem_map]
  abel

/-! ### The balance -/

/-- The next iteration is not the last one at a signal, a deadline or a failed `uiomove`. -/
def Calm (env : ReadEnv Cred) (inp : Inpcb Cred) (st : ReadState) : Prop :=
  TCP_STATS_RECORD_SIZE ≤ st.uio.resid → periodicCheck env (st.nsockets + 1) = none ∧
    (env.passes inp = true → env.sched.uiomoveError st.records.length = none)

/-- An iteration of a read that is not disturbed charges the connection it visits. -/
theorem pending_afterTurn {env : ReadEnv Cred} {inp : Inpcb Cred} {st : ReadState}
    (calm : Calm env inp st) :
    (afterTurn env inp st).pending = st.batch.deficit := by
  rcases hb : readBody env inp st with ⟨c, st'⟩
  rw [afterTurn, hb]
  cases readBody_iteration hb with
  | full _ hc heq =>
    subst hc heq
    exact pending_order st.batch
  | check e hroom hcheck =>
    rw [(calm hroom).1] at hcheck
    cases hcheck
  | skip why examined _ _ _ hc heq =>
    subst hc heq
    calc (st.visit.batch.skip why).deficit = st.visit.batch.deficit - 1 := deficit_skip st.visit.batch why
      _ = st.batch.deficit := by rw [deficit_visit, add_sub_cancel_right]
  | fault examined e hroom _ hf herr =>
    have hpass : env.passes inp = true := by rw [ReadEnv.passes, hf]; rfl
    rw [(calm hroom).2 hpass] at herr
    cases herr
  | emit examined _ _ _ _ hc heq =>
    subst hc heq
    calc (st.visit.emit (env.record st.records.length inp)).batch.deficit = st.visit.batch.deficit - 1 :=
          deficit_emit st.visit _
      _ = st.batch.deficit := by rw [deficit_visit, add_sub_cancel_right]

/-- A step that disturbs no read. -/
def Undisturbed (s : StatsSystem) : StatsEvent Cred → Prop
  | .act i (.turn env inp) => ∀ st ∈ (s.reads[i]?).bind ReadStage.state, Calm env inp st
  | .enter _ | .act _ .tableEnd | .act _ .add | .act _ (.finish _) => True

/-- What the counters of the module lack, the reads under way will add. -/
def Settled (s : StatsSystem) : Prop :=
  s.stats.toStatsBatch.deficit + (s.reads.map ReadStage.pending).sum = 0

theorem pending_start (resid : ℕ) : (ReadStage.looping (readStart resid)).pending = 0 := by
  simp only [ReadStage.pending, readStart, StatsBatch.deficit, StatsBatch.zero, add_zero, sub_zero]

theorem pending_add (b : StatsBatch) (c : Counter) (rest : List Counter) :
    (ReadStage.flushing b (c :: rest)).pending = c.weight * b.get c + (ReadStage.flushing b rest).pending := by
  simp only [ReadStage.pending, List.map_cons, List.sum_cons]

theorem pending_flushed (b : StatsBatch) :
    (ReadStage.flushing b []).pending = ReadStage.returned.pending := by
  simp only [ReadStage.pending, List.map_nil, List.sum_nil]

/-- A read that goes on without a change of what it will add. -/
theorem sum_pending_same {reads : List ReadStage} {i : ℕ} {r r' : ReadStage} (h : reads[i]? = some r)
    (hsame : r'.pending = r.pending) :
    ((reads.set i r').map ReadStage.pending).sum = (reads.map ReadStage.pending).sum := by
  rw [sum_pending_set h, hsame, sub_add_cancel]

theorem Settled.step {s s' : StatsSystem} {e : StatsEvent Cred} (h : Settled s)
    (hstep : StatsStep Cred s e s') (hcalm : Undisturbed s e) : Settled s' := by
  unfold Settled at h ⊢
  cases statsStep_move hstep with
  | enter resid _ hs =>
    rw [hs, List.map_append, List.sum_append, List.map_singleton, List.sum_singleton, pending_start, add_zero]
    exact h
  | turn i env inp st he hr hs =>
    subst he
    have hcalm : Calm env inp st := hcalm st (by rw [hr]; rfl)
    rw [hs, StatsSystem.readTo, sum_pending_same hr (pending_afterTurn hcalm)]
    exact h
  | tableEnd i st _ hr hs =>
    rw [hs, StatsSystem.readTo, sum_pending_same hr (pending_order st.inpEnd.batch)]
    exact h
  | add i b c rest _ hr hs =>
    rw [hs, StatsSystem.readTo, sum_pending_set hr, pending_add, deficit_atomicAdd, ← h]
    abel
  | finish i b elapsed _ hr hs =>
    rw [hs, StatsSystem.readTo, sum_pending_same hr (pending_flushed b).symm, timed_toStatsBatch]
    exact h

/-- No read is under way. -/
def Idle (s : StatsSystem) : Prop := ∀ r ∈ s.reads, r.done = true

theorem Idle.pending {s : StatsSystem} (h : Idle s) : (s.reads.map ReadStage.pending).sum = 0 := by
  refine List.sum_eq_zero fun x hx => ?_
  obtain ⟨r, hr, rfl⟩ := List.mem_map.mp hx
  have hdone := h r hr
  cases r with
  | returned => rfl
  | looping st => cases hdone
  | flushing b rest => cases hdone

/-- Without disturbances the counters balance whenever no read is under way. -/
theorem balanced {es : List (StatsEvent Cred)} {s : StatsSystem}
    (run : Run (restrict (StatsStep Cred) Undisturbed) .init es s) (idle : Idle s) : Balanced s.stats.toStatsBatch := by
  have settled : Settled s := run.inv (I := Settled) rfl fun u e v h hstep => h.step hstep.1 hstep.2
  rw [Settled, idle.pending, add_zero] at settled
  exact (balanced_iff _).mpr settled

/-! ### A read on its own -/

/-- The iterations of a loop, one after another. -/
theorem loop_turns (env : ReadEnv Cred) (stats : Stats) (rest : List (Inpcb Cred)) (st : ReadState) :
    ∃ es, Run (StatsStep Cred) ⟨stats, [.looping st]⟩ es
      ⟨stats, [.flushing (readLoop env rest st).2.batch Counter.order]⟩ := by
  induction rest generalizing st with
  | nil => exact ⟨[.act 0 .tableEnd], .single rfl⟩
  | cons inp rest ih =>
    rcases hb : readBody env inp st with ⟨c, st'⟩
    have hstep : StatsStep Cred ⟨stats, [.looping st]⟩ (.act 0 (.turn env inp))
        ⟨stats, [afterTurn env inp st]⟩ := rfl
    rw [afterTurn, hb] at hstep
    cases c with
    | next =>
      obtain ⟨es, run⟩ := ih st'
      rw [readLoop, scan_cons_next hb]
      exact ⟨_, .cons hstep run⟩
    | stop e =>
      rw [readLoop, scan_cons_stop hb]
      exact ⟨_, .single hstep⟩

/-- The additions of a flush, one after another. -/
theorem flush_adds (Cred : Type) (stats : Stats) (b : StatsBatch) (rest : List Counter) :
    ∃ es, Run (StatsStep Cred) ⟨stats, [.flushing b rest]⟩ es
      ⟨rest.foldl (fun s c => s.atomicAdd (b.get c) c) stats, [.flushing b []]⟩ := by
  induction rest generalizing stats with
  | nil => exact ⟨[], .nil _⟩
  | cons c rest ih =>
    obtain ⟨es, run⟩ := ih (stats.atomicAdd (b.get c) c)
    exact ⟨.act 0 .add :: es, .cons rfl run⟩

/-- The steps of one admitted read come to what the counters of `tcpstats_read` are. -/
theorem stats_alone (k : Kernel Cred) {tun : Tunables} (tcb : Tcbinfo Cred) {sched : Schedule} (resid : ℕ)
    {sc : Softc Cred} {g : Globals} (hadm : Admitted tun sched sc g) :
    ∃ es, Run (StatsStep Cred) ⟨g.stats, []⟩ es
      ⟨(tcpstatsRead k tun tcb sched resid sc g).glob.stats, [.returned]⟩ := by
  set env := readEnv k tun tcb sched sc with henv
  obtain ⟨turns, hturns⟩ := loop_turns env g.stats tcb.inpcbs (readStart resid)
  obtain ⟨adds, hadds⟩ := flush_adds Cred g.stats (readLoop env tcb.inpcbs (readStart resid)).2.batch
    Counter.order
  rw [foldl_atomicAdd] at hadds
  have hstats : (tcpstatsRead k tun tcb sched resid sc g).glob.stats =
      (g.stats.flush (readLoop env tcb.inpcbs (readStart resid)).2.batch).timed (sched.endTime - sched.now) := by
    simp only [tcpstatsRead, hadm.unread, hadm.readers, hadm.interval]
    rfl
  have hfinish : StatsStep Cred
      ⟨g.stats.flush (readLoop env tcb.inpcbs (readStart resid)).2.batch,
        [.flushing (readLoop env tcb.inpcbs (readStart resid)).2.batch []]⟩
      (.act 0 (.finish (sched.endTime - sched.now)))
      ⟨(tcpstatsRead k tun tcb sched resid sc g).glob.stats, [.returned]⟩ := by
    rw [hstats]
    rfl
  have henter : StatsStep Cred ⟨g.stats, []⟩ (.enter resid) ⟨g.stats, [.looping (readStart resid)]⟩ := rfl
  exact ⟨_, .cons henter (hturns.trans (.snoc hadds hfinish))⟩

/-! ### Two reads, and one that faults -/

instance (b : StatsBatch) : Decidable (Balanced b) := inferInstanceAs (Decidable (_ = _))

instance (env : ReadEnv Cred) (inp : Inpcb Cred) (st : ReadState) : Decidable (Calm env inp st) :=
  inferInstanceAs (Decidable (_ → _ ∧ (_ → _)))

instance (s : StatsSystem) (e : StatsEvent Cred) : Decidable (Undisturbed s e) :=
  match e with
  | .act i (.turn env inp) =>
    inferInstanceAs (Decidable (∀ st ∈ (s.reads[i]?).bind ReadStage.state, Calm env inp st))
  | .enter _ | .act _ .tableEnd | .act _ .add | .act _ (.finish _) => isTrue trivial

/-- A step, if it disturbs no read. -/
def undisturbedStep (s : StatsSystem) (e : StatsEvent Cred) : Option StatsSystem :=
  if Undisturbed s e then statsStep s e else none

theorem undisturbedStep_restrict (s : StatsSystem) (e : StatsEvent Cred) (s' : StatsSystem)
    (h : undisturbedStep s e = some s') : restrict (StatsStep Cred) Undisturbed s e s' := by
  unfold undisturbedStep at h
  split_ifs at h with hcalm
  exact ⟨h, hcalm⟩

/-- Two reads of an IPv4 connection, side by side; the second wants IPv6 connections only. -/
def Sample.sideBySide : List (StatsEvent ℕ) :=
  let env (f : TcpstatsFilter) := readEnv Sample.kern .default Sample.two Sample.still (Sample.fresh f)
  let inp := Sample.inpcb 1 INP_IPV4 5
  [.enter 700, .enter 700, .act 0 (.turn (env .default) inp),
    .act 1 (.turn (env { TcpstatsFilter.default with flags := TSF_IPV6_ONLY }) inp), .act 1 .tableEnd, .act 0 .tableEnd] ++
    List.replicate 11 (.act 0 .add) ++ List.replicate 11 (.act 1 .add) ++
    [.act 0 (.finish 1), .act 1 (.finish 2)]

theorem balanced_two : ∃ s, Run (restrict (StatsStep ℕ) Undisturbed) .init Sample.sideBySide s ∧ Idle s ∧
    s.stats.socketsVisited = 2 ∧ Balanced s.stats.toStatsBatch := by
  have hends : (replay undisturbedStep Sample.sideBySide .init).any
      (fun s => s.reads.all ReadStage.done && s.stats.socketsVisited == 2) = true := by
    decide +kernel
  obtain ⟨s, hs, hall⟩ := (Option.any_eq_true _ _).mp hends
  obtain ⟨hdone, hvisited⟩ := Bool.and_eq_true_iff.mp hall
  have run := replay_run undisturbedStep_restrict hs
  have idle : Idle s := List.all_eq_true.mp hdone
  exact ⟨s, run, idle, beq_iff_eq.mp hvisited, balanced run idle⟩

/-- No record can be moved out. -/
def Sample.faulty : Schedule := { Sample.still with uiomoveError := fun _ => some .EFAULT }

/-- A connection is visited and charged to none of the outcomes. -/
theorem fault_unbalanced : ∃ es s, Run (StatsStep ℕ) .init es s ∧ Idle s ∧ ¬ Balanced s.stats.toStatsBatch := by
  have hadm : Admitted .default Sample.faulty (Sample.fresh .default) Sample.glob := ⟨rfl, rfl, rfl⟩
  obtain ⟨es, run⟩ := stats_alone Sample.kern Sample.two 320 hadm
  refine ⟨es, _, run, ?_, ?_⟩
  · simp [Idle, ReadStage.done]
  · decide +kernel

end TcpStats
