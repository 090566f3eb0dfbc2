import TcpStats.Device.ReadSpec
import TcpStats.Lib.Sessions
import Mathlib.Data.UInt
import Mathlib.Tactic.Abel

/-!
# The locks of a read

Each iteration of the loop of `tcpstats_read` takes the lock of the next control block. The
iterator releases it when the loop goes on, and the loop itself before it leaves early. So the
trace of a read is one session after another (`readLoop_sessions`), and every lock is
released once. The counter of readers is left as it was, whatever other callers
do to it meanwhile.
-/

namespace TcpStats

open Scan Resource
open scoped UInt32.CommRing

variable {Cred : Type}

/-! ### The loop -/

/-- What an event of the loop is to the locks. The bytes that a comparison looks at belong to the
control block that it is made for. -/
def Event.op : Event → Option (Op ℕ)
  | .lock i => some (.acquire i)
  | .touch i => some (.use i)
  | .examine _ => none
  | .unlock i => some (.release i)

/-- What a trace is to the locks. -/
def lockOps (trace : List Event) : List (Op ℕ) := trace.filterMap Event.op

@[simp] theorem lockOps_append (t u : List Event) : lockOps (t ++ u) = lockOps t ++ lockOps u :=
  List.filterMap_append

theorem lockOps_examine (examined : List ℕ) : lockOps (examined.map .examine) = [] := by
  simp [lockOps, Event.op]

/-- The control blocks before a place have had their sessions. -/
def Closed (n : ℕ) (trace : List Event) : Prop := Sessions (List.range n) (lockOps trace)

/-- Between iterations only the session of the block returned last is open. -/
def Underway (st : ReadState) : Prop := Closed st.nsockets (st.trace ++ st.held.toList.map .unlock)

/-- An iteration takes the lock of its block, and looks at nothing but the block. -/
theorem Closed.session {n : ℕ} {trace looks : List Event} (h : Closed n trace)
    (hlooks : ∀ o ∈ lockOps looks, o = .use n) :
    Closed (n + 1) (trace ++ .lock n :: (looks ++ [.unlock n])) := by
  have hops : lockOps (trace ++ .lock n :: (looks ++ [.unlock n])) =
      lockOps trace ++ .acquire n :: (lockOps looks ++ [.release n]) := by
    rw [lockOps_append, ← List.singleton_append, lockOps_append, lockOps_append]
    rfl
  rw [Closed, hops, List.range_succ]
  exact h.snoc hlooks

/-- A session in which the block is not looked at. -/
theorem Closed.session_nil {n : ℕ} {trace : List Event} (h : Closed n trace) :
    Closed (n + 1) (trace ++ [.lock n, .unlock n]) := by
  have hnone : ∀ o ∈ lockOps [], o = .use n := by simp [lockOps]
  exact h.session hnone

/-- What a look at a block is to the locks. -/
theorem lockOps_look (i : ℕ) (examined : List ℕ) :
    lockOps (.touch i :: examined.map .examine) = [.use i] := by
  rw [← List.singleton_append, lockOps_append, lockOps_examine]
  rfl

/-- An iteration that goes on leaves its block to the iterator, and one that stops has released it. -/
theorem readBody_underway {env : ReadEnv Cred} {inp : Inpcb Cred} {st st' : ReadState} {c : Ctl Exit}
    (h : Underway st) (hb : readBody env inp st = (c, st')) :
    match c with
    | .next => Underway st'
    | .stop _ => st'.held = none ∧ Closed (st.nsockets + 1) st'.trace := by
  cases readBody_iteration hb with
  | full _ hc hst =>
    subst hc hst
    refine ⟨rfl, ?_⟩
    simpa [ReadState.inpNext, ReadState.inpRunlock] using h.session_nil
  | check e _ _ hc hst =>
    subst hc hst
    refine ⟨rfl, ?_⟩
    simpa [ReadState.inpNext, ReadState.visit, ReadState.inpRunlock, ReadState.count] using
      h.session_nil
  | skip why examined _ _ _ hc hst =>
    subst hc hst
    have hlooks : ∀ o ∈ lockOps (.touch st.nsockets :: examined.map .examine), o = .use st.nsockets := by
      simp [lockOps_look]
    simpa [Underway, ReadState.inpNext, ReadState.visit, ReadState.look, ReadState.count]
      using h.session hlooks
  | fault examined e _ _ _ _ hc hst =>
    subst hc hst
    have hlooks : ∀ o ∈ lockOps (.touch st.nsockets :: (examined.map .examine ++ [.touch st.nsockets])),
        o = .use st.nsockets := by
      rw [← List.cons_append, lockOps_append, lockOps_look]
      simp [lockOps, Event.op]
    refine ⟨rfl, ?_⟩
    simpa [ReadState.inpNext, ReadState.visit, ReadState.look, ReadState.inpRunlock, ReadState.count] using
      h.session hlooks
  | emit examined _ _ _ _ hc hst =>
    subst hc hst
    have hlooks : ∀ o ∈ lockOps (.touch st.nsockets :: (examined.map .examine ++ [.touch st.nsockets])),
        o = .use st.nsockets := by
      rw [← List.cons_append, lockOps_append, lockOps_look]
      simp [lockOps, Event.op]
    simpa [Underway, ReadState.inpNext, ReadState.visit, ReadState.look, ReadState.emit]
      using h.session hlooks

/-- The loop over a table is one session after another, all of them closed. -/
theorem readLoop_sessions (env : ReadEnv Cred) (inpcbs : List (Inpcb Cred)) (resid : ℕ) :
    (readLoop env inpcbs (readStart resid)).2.held = none ∧
      ∃ n, Closed n (readLoop env inpcbs (readStart resid)).2.trace := by
  have loop : Ends (fun _ st => Underway st) (fun _ _ st => st.held = none ∧ ∃ n, Closed n st.trace) inpcbs
      (scan (readBody env) inpcbs (readStart resid)) := by
    refine scan_rule ?_ ?_ inpcbs (readStart resid) Sessions.nil
    · intro _ _ _ _ h hb
      exact readBody_underway h hb
    · intro _ _ _ _ _ h hb
      obtain ⟨hheld, hclosed⟩ := readBody_underway h hb
      exact ⟨hheld, _, hclosed⟩
  unfold readLoop
  rcases hs : scan (readBody env) inpcbs (readStart resid) with ⟨_ | e, st⟩
  · rw [hs] at loop
    exact ⟨rfl, st.nsockets, loop⟩
  · rw [hs] at loop
    obtain ⟨_, _, _, h⟩ := loop
    exact h

/-! ### The call -/

/-- What a call of `tcpstats_read` does, in order. -/
inductive CallOp where
  /-- `atomic_fetchadd_int(&tcpstats_active_readers, 1)`. -/
  | addReader
  /-- `atomic_subtract_int(&tcpstats_active_readers, 1)`. -/
  | subReader
  /-- In the loop. -/
  | inpcb (e : Event)

/-- In the loop. -/
def CallOp.event : CallOp → Option Event
  | .inpcb e => some e
  | _ => none

/-- What is added to the counter of readers. -/
def CallOp.delta : CallOp → UInt32
  | .addReader => 1
  | .subReader => -1
  | .inpcb _ => 0

/-- `tcpstats_read` from its first line, `devfs_get_cdevpriv`, which finds the descriptor or fails:
the return code, and what is done. -/
def readCall (k : Kernel Cred) (tun : Tunables) (tcb : Tcbinfo Cred) (sched : Schedule) (resid : ℕ)
    (cdevpriv : Except Errno (Softc Cred)) (g : Globals) : Option Errno × List CallOp :=
  match cdevpriv with
  | .error e => (some e, [])
  | .ok sc =>
    if sc.scDone then (none, [])
    else if tooManyReaders tun g then (some .EBUSY, [.addReader, .subReader])
    else if tooSoon tun sc sched.now then (some .EBUSY, [.addReader, .subReader])
    else
      let (exit, st) := readLoop (readEnv k tun tcb sched sc) tcb.inpcbs (readStart resid)
      (exitCode exit, .addReader :: st.trace.map .inpcb ++ [.subReader])

theorem event_comp_inpcb : CallOp.event ∘ CallOp.inpcb = some := rfl

/-- It is the read of the descriptor found. -/
theorem readCall_ok (k : Kernel Cred) (tun : Tunables) (tcb : Tcbinfo Cred) (sched : Schedule) (resid : ℕ)
    (sc : Softc Cred) (g : Globals) :
    (readCall k tun tcb sched resid (.ok sc) g).1 = (tcpstatsRead k tun tcb sched resid sc g).error ∧
      (readCall k tun tcb sched resid (.ok sc) g).2.filterMap CallOp.event =
        (tcpstatsRead k tun tcb sched resid sc g).trace := by
  rcases hl : readLoop (readEnv k tun tcb sched sc) tcb.inpcbs (readStart resid) with ⟨exit, st⟩
  unfold readCall tcpstatsRead
  by_cases hdone : sc.scDone = true
  · simp [hdone]
  by_cases hmany : tooManyReaders tun g = true
  · simp [hdone, hmany, CallOp.event]
  by_cases hsoon : tooSoon tun sc sched.now = true
  · simp [hdone, hmany, hsoon, CallOp.event]
  · simp [hdone, hmany, hsoon, hl, CallOp.event, List.filterMap_cons, event_comp_inpcb]

/-- Operations of a call among what other callers add to the counter. -/
abbrev Mixed := List (UInt32 ⊕ CallOp)

/-- The operations of the call. -/
def Mixed.own (ops : Mixed) : List CallOp := ops.filterMap Sum.getRight?

/-- What the others add. -/
def Mixed.others (ops : Mixed) : List UInt32 := ops.filterMap Sum.getLeft?

/-- `tcpstats_active_readers` after them. -/
def Mixed.readers (ops : Mixed) (n : UInt32) : UInt32 :=
  ops.foldl (fun n op => n + op.elim id CallOp.delta) n

/-- Operations that leave the counter as it was, but for what others add to it. -/
def LeavesReaders (ops : List CallOp) (n : UInt32) : Prop :=
  ∀ mixed : Mixed, mixed.own = ops → mixed.readers n = n + mixed.others.sum

/-- Additions to the counter may be taken in any order. -/
theorem Mixed.readers_eq (ops : Mixed) (n : UInt32) :
    ops.readers n = n + ops.others.sum + (ops.own.map CallOp.delta).sum := by
  induction ops generalizing n with
  | nil => simp [readers, own, others]
  | cons op ops ih =>
    have hcons : readers (op :: ops) n = readers ops (n + op.elim id CallOp.delta) := rfl
    rw [hcons, ih]
    rcases op with d | op
    · simp only [own, others, List.filterMap_cons, Sum.getLeft?_inl, Sum.getRight?_inl, List.sum_cons,
        Sum.elim_inl, id]
      abel
    · simp only [own, others, List.filterMap_cons, Sum.getLeft?_inr, Sum.getRight?_inr, List.sum_cons,
        List.map_cons, Sum.elim_inr]
      abel

/-- All that a call can do: nothing, or the sessions of the loop between the two operations on the
counter. -/
theorem readCall_ops (k : Kernel Cred) (tun : Tunables) (tcb : Tcbinfo Cred) (sched : Schedule) (resid : ℕ)
    (cdevpriv : Except Errno (Softc Cred)) (g : Globals) :
    (readCall k tun tcb sched resid cdevpriv g).2 = [] ∨ ∃ n trace, Closed n trace ∧
      (readCall k tun tcb sched resid cdevpriv g).2 = .addReader :: trace.map .inpcb ++ [.subReader] := by
  rcases cdevpriv with e | sc
  · exact .inl rfl
  unfold readCall
  by_cases hdone : sc.scDone = true
  · exact .inl (by simp [hdone])
  by_cases hmany : tooManyReaders tun g = true
  · exact .inr ⟨0, [], .nil, by simp [hdone, hmany]⟩
  by_cases hsoon : tooSoon tun sc sched.now = true
  · exact .inr ⟨0, [], .nil, by simp [hdone, hmany, hsoon]⟩
  · obtain ⟨n, hclosed⟩ := (readLoop_sessions (readEnv k tun tcb sched sc) tcb.inpcbs resid).2
    exact .inr ⟨n, _, hclosed, by simp [hdone, hmany, hsoon]⟩

theorem sum_delta_inpcb (t : List Event) : ((t.map CallOp.inpcb).map CallOp.delta).sum = 0 := by
  induction t with
  | nil => rfl
  | cons e t ih => simpa [CallOp.delta] using ih

/-- What a call adds to the counter, it takes away. -/
theorem readCall_delta (k : Kernel Cred) (tun : Tunables) (tcb : Tcbinfo Cred) (sched : Schedule)
    (resid : ℕ) (cdevpriv : Except Errno (Softc Cred)) (g : Globals) :
    ((readCall k tun tcb sched resid cdevpriv g).2.map CallOp.delta).sum = 0 := by
  rcases readCall_ops k tun tcb sched resid cdevpriv g with h | ⟨n, trace, -, h⟩
  · rw [h]
    rfl
  · rw [h, List.map_append, List.map_cons, List.sum_append, List.sum_cons, sum_delta_inpcb]
    rfl

/-- What a call does to locks is one session after another. -/
theorem readCall_sessions (k : Kernel Cred) (tun : Tunables) (tcb : Tcbinfo Cred) (sched : Schedule)
    (resid : ℕ) (cdevpriv : Except Errno (Softc Cred)) (g : Globals) :
    ∃ n, Closed n ((readCall k tun tcb sched resid cdevpriv g).2.filterMap CallOp.event) := by
  rcases readCall_ops k tun tcb sched resid cdevpriv g with h | ⟨n, trace, hclosed, h⟩
  · refine ⟨0, ?_⟩
    rw [h]
    exact .nil
  · refine ⟨n, ?_⟩
    rw [h]
    simpa [List.filterMap_cons, CallOp.event, event_comp_inpcb] using hclosed

/-- A call releases every lock it takes, once, holds none when it returns, looks at no control block
outside its session, and leaves the counter of readers as it was but for what others add to it. -/
theorem readCall_balanced (k : Kernel Cred) (tun : Tunables) (tcb : Tcbinfo Cred) (sched : Schedule)
    (resid : ℕ) (cdevpriv : Except Errno (Softc Cred)) (g : Globals) :
    Resource.Balanced (lockOps ((readCall k tun tcb sched resid cdevpriv g).2.filterMap CallOp.event)) ∧
      LeavesReaders (readCall k tun tcb sched resid cdevpriv g).2 g.activeReaders := by
  obtain ⟨n, hclosed⟩ := readCall_sessions k tun tcb sched resid cdevpriv g
  refine ⟨hclosed.allBalanced List.nodup_range, fun mixed hown => ?_⟩
  rw [Mixed.readers_eq, hown, readCall_delta, add_zero]

end TcpStats
