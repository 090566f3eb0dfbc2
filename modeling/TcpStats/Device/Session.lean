import TcpStats.Device.Descriptor
import TcpStats.Device.Duration
import TcpStats.Lib.Throttle

/-!
# Sessions

All that a process does with a descriptor between `open` and `close`, in any order and while everything around the
descriptor changes: the table, the limits, what the credential may see. Each read works under the filter that was
accepted last, and the reads that deliver data are at most one more than the resets (`session_data`). The interval
throttle spaces them, and nothing that can be done to the descriptor gets around it (`reads_spaced`). Many descriptors side
by side do not disturb each other (`descriptors_apart`).
-/

namespace TcpStats

open Machine

variable {Cred : Type}

/-! ### Calls -/

/-- What a call finds around the descriptor. -/
structure Around (Cred : Type) where
  kern : Kernel Cred
  tun : Tunables
  tcb : Tcbinfo Cred

/-- A call. -/
inductive Call (Cred : Type) where
  | read (a : Around Cred) (resid : ℕ) (sched : Schedule)
  | ioctl (a : Around Cred) (cmd : IoctlCmd)

/-- What a call returns: the error, the bytes of a read and the structure of `TCPSTATS_VERSION_CMD`. -/
structure Answer where
  error : Option Errno
  moved : List UInt8
  version : Option TcpstatsVersion
  deriving DecidableEq

/-- It brings data. -/
def Answer.delivers (a : Answer) : Bool := !a.moved.isEmpty

/-- A call on a descriptor. -/
def callStep (c : Call Cred) (s : Softc Cred × Globals) : Answer × (Softc Cred × Globals) :=
  match c with
  | .read a resid sched =>
    let r := tcpstatsRead a.kern a.tun a.tcb sched resid s.1 s.2
    (⟨r.error, r.moved, none⟩, (r.sc, r.glob))
  | .ioctl a cmd =>
    let (error, sc, version) := tcpstatsIoctl a.tcb cmd s.1
    (⟨error, [], version⟩, (sc, s.2))

/-- The call is `TCPSTATS_RESET`. -/
def Call.isReset : Call Cred → Bool
  | .ioctl _ .reset => true
  | _ => false

/-- The filter that a call installs. -/
def Call.filter? : Call Cred → Option TcpstatsFilter
  | .ioctl _ (.setFilter f) => if f.version = TSF_VERSION then some f else none
  | _ => none

/-- The filter after some calls: the last that was installed, or the one before them. -/
def filterAfter (cs : List (Call Cred)) (f : TcpstatsFilter) : TcpstatsFilter :=
  (cs.filterMap Call.filter?).getLast?.getD f

/-! ### Data -/

/-- Whose descriptor it is never changes, and the filter when one is installed. -/
theorem callStep_sc (c : Call Cred) (s : Softc Cred × Globals) :
    (callStep c s).2.1.scCred = s.1.scCred ∧ (callStep c s).2.1.scFilter = c.filter?.getD s.1.scFilter := by
  cases c with
  | read a resid sched => exact tcpstatsRead_sc ..
  | ioctl a cmd =>
    cases cmd with
    | setFilter f =>
      by_cases hv : f.version = TSF_VERSION
      · simp [callStep, tcpstatsIoctl, Call.filter?, hv]
      · simp [callStep, tcpstatsIoctl, Call.filter?, hv]
    | _ => exact ⟨rfl, rfl⟩

theorem final_callStep (cs : List (Call Cred)) (s : Softc Cred × Globals) :
    (final callStep cs s).1.scCred = s.1.scCred ∧ (final callStep cs s).1.scFilter = filterAfter cs s.1.scFilter := by
  refine final_inv (I := fun cs (t : Softc Cred × Globals) =>
    t.1.scCred = s.1.scCred ∧ t.1.scFilter = filterAfter cs s.1.scFilter) ⟨rfl, rfl⟩ ?_ cs
  intro cs c ⟨hcred, hfilter⟩
  obtain ⟨hcred', hfilter'⟩ := callStep_sc c (final callStep cs s)
  refine ⟨hcred'.trans hcred, hfilter'.trans ?_⟩
  rw [hfilter, filterAfter, filterAfter, List.filterMap_append]
  cases hc : c.filter? with
  | none => simp [hc]
  | some f => simp [hc]

/-- What a read moves: records of a beginning of its table, under the filter of the descriptor. -/
theorem tcpstatsRead_moved (k : Kernel Cred) (tun : Tunables) (tcb : Tcbinfo Cred) (sched : Schedule) (resid : ℕ)
    (sc : Softc Cred) (g : Globals) : ∃ pre, pre <+: tcb.inpcbs ∧
      (tcpstatsRead k tun tcb sched resid sc g).moved =
        ((readEnv k tun tcb sched sc).recordsOf pre).flatMap TcpStatsRecord.bytes := by
  have none_moved : (tcpstatsRead k tun tcb sched resid sc g).moved = [] → ∃ pre, pre <+: tcb.inpcbs ∧
      (tcpstatsRead k tun tcb sched resid sc g).moved =
        ((readEnv k tun tcb sched sc).recordsOf pre).flatMap TcpStatsRecord.bytes :=
    fun h => ⟨[], List.nil_prefix, by rw [h]; rfl⟩
  rcases read_cases tun sched sc g with hd | href | hadm
  · exact none_moved (by rw [tcpstatsRead_done k tun tcb sched resid g hd])
  · exact none_moved (by rw [tcpstatsRead_refused k tcb resid href])
  · obtain ⟨exit, st, out⟩ := tcpstatsRead_outcome k tcb resid hadm
    obtain ⟨pre, hpre, hp⟩ := out.loop.prefix_of
    exact ⟨pre, hpre, by rw [out.moved, hp.moved, hp.records]⟩

/-- A call that delivers something leaves the descriptor finished, and did not find it so. -/
theorem callStep_delivers {c : Call Cred} {s : Softc Cred × Globals} (h : (callStep c s).1.delivers = true) :
    s.1.scDone = false ∧ (callStep c s).2.1.scDone = true ∧ c.isReset = false := by
  cases c with
  | ioctl a cmd => cases h
  | read a resid sched =>
    obtain ⟨sc, g⟩ := s
    rcases read_cases a.tun sched sc g with hd | href | hadm
    · rw [callStep, tcpstatsRead_done _ _ _ _ _ _ hd] at h
      cases h
    · rw [callStep, tcpstatsRead_refused _ _ _ href] at h
      cases h
    · obtain ⟨exit, st, out⟩ := tcpstatsRead_outcome a.kern a.tcb resid hadm
      refine ⟨hadm.unread, ?_, rfl⟩
      simp [callStep, out.softc, Softc.finish]

/-- Only a reset makes a finished descriptor deliver again. -/
theorem callStep_done {c : Call Cred} {s : Softc Cred × Globals} (h : s.1.scDone = true) (hc : c.isReset = false) :
    (callStep c s).2.1.scDone = true := by
  cases c with
  | read a resid sched => rw [callStep, tcpstatsRead_done _ _ _ _ _ _ h]; exact h
  | ioctl a cmd =>
    cases cmd with
    | reset => cases hc
    | setFilter f =>
      by_cases hv : f.version = TSF_VERSION
      · simpa [callStep, tcpstatsIoctl, hv] using h
      · simpa [callStep, tcpstatsIoctl, hv] using h
    | _ => exact h

/-- Among any calls on a descriptor, each read delivers records of a beginning of the table it finds, under the filter
that was installed last and with the eyes of the opener; and those that deliver anything are at most one more than the
resets. -/
theorem session_data (cs : List (Call Cred)) (s : Softc Cred × Globals) :
    (∀ (i : ℕ) (a : Around Cred) (resid : ℕ) (sched : Schedule), cs[i]? = some (.read a resid sched) →
      ∃ pre, pre <+: a.tcb.inpcbs ∧ (answers callStep cs s)[i]?.map Answer.moved = some
        (((readEnv a.kern a.tun a.tcb sched
          { s.1 with scFilter := filterAfter (cs.take i) s.1.scFilter }).recordsOf pre).flatMap TcpStatsRecord.bytes)) ∧
    (answers callStep cs s).countP Answer.delivers ≤ cs.countP Call.isReset + 1 := by
  refine ⟨fun i a resid sched hread => ?_, ?_⟩
  · obtain ⟨hcred, hfilter⟩ := final_callStep (cs.take i) s
    obtain ⟨pre, hpre, hmoved⟩ := tcpstatsRead_moved a.kern a.tun a.tcb sched resid
      (final callStep (cs.take i) s).1 (final callStep (cs.take i) s).2
    refine ⟨pre, hpre, ?_⟩
    rw [getElem?_answers, hread, Option.map_some, Option.map_some]
    refine congrArg some (hmoved.trans ?_)
    rw [readEnv, hcred, hfilter]
    rfl
  · -- what a finished descriptor still owes is one less
    have hcount : ∀ (cs : List (Call Cred)) (s : Softc Cred × Globals),
        (answers callStep cs s).countP Answer.delivers + s.1.scDone.toNat ≤ cs.countP Call.isReset + 1 := by
      intro cs
      induction cs with
      | nil =>
        intro s
        rw [answers, List.countP_nil, List.countP_nil, Nat.zero_add]
        exact Bool.toNat_le s.1.scDone
      | cons c cs ih =>
        intro s
        have hrest := ih (callStep c s).2
        have hone := Bool.toNat_le s.1.scDone
        rw [answers, List.countP_cons, List.countP_cons]
        cases hdelivers : (callStep c s).1.delivers with
        | true =>
          obtain ⟨hbefore, hafter, hreset⟩ := callStep_delivers hdelivers
          rw [hafter, Bool.toNat_true] at hrest
          rw [hbefore, hreset, Bool.toNat_false, if_pos rfl, if_neg Bool.false_ne_true]
          omega
        | false =>
          rw [if_neg Bool.false_ne_true]
          cases hreset : c.isReset with
          | true =>
            rw [if_pos rfl]
            omega
          | false =>
            rw [if_neg Bool.false_ne_true]
            cases hdone : s.1.scDone with
            | false =>
              rw [Bool.toNat_false]
              omega
            | true =>
              rw [callStep_done hdone hreset] at hrest
              exact hrest
    have := hcount cs s
    omega

/-! ### Descriptors side by side -/

/-- What the other descriptors have left behind matters only through the number of active readers. -/
theorem callStep_congr (c : Call Cred) (sc : Softc Cred) {g g' : Globals} (h : g.activeReaders = g'.activeReaders) :
    (callStep c (sc, g)).1 = (callStep c (sc, g')).1 ∧ (callStep c (sc, g)).2.1 = (callStep c (sc, g')).2.1 := by
  cases c with
  | ioctl a cmd => exact ⟨rfl, rfl⟩
  | read a resid sched =>
    have hlimit : tooManyReaders a.tun g = tooManyReaders a.tun g' := by rw [tooManyReaders, tooManyReaders, h]
    unfold callStep
    dsimp only
    unfold tcpstatsRead
    rw [hlimit]
    split_ifs <;> exact ⟨rfl, rfl⟩

theorem callStep_activeReaders (c : Call Cred) (sc : Softc Cred) (g : Globals) :
    g.activeReaders = (callStep c (sc, g)).2.2.activeReaders := by
  cases c with
  | ioctl a cmd => rfl
  | read a resid sched => exact (tcpstatsRead_activeReaders ..).symm

/-- Calls on many descriptors, one after the other in any order: each descriptor answers as if the others were not
there. -/
theorem descriptors_apart {Fd : Type} [DecidableEq Fd] (fd : Fd) (cs : List (Fd × Call Cred)) (scs : Fd → Softc Cred)
    (g : Globals) : answersOf callStep fd cs (scs, g) =
      answers callStep ((cs.filter fun c => c.1 = fd).map Prod.snd) (scs fd, g) :=
  answersOf_eq (R := fun g g' => g.activeReaders = g'.activeReaders) ⟨fun _ => rfl, Eq.symm, Eq.trans⟩
    (fun c sc _ _ h => callStep_congr c sc h) callStep_activeReaders fd cs (scs, g)

/-! ### The interval throttle -/

/-- A read that comes to the throttle: when it does, and the interval that it finds. -/
def Call.offered (c : Call Cred) (s : Softc Cred × Globals) : Option (Sbintime × UInt32) :=
  match c with
  | .read a _ sched =>
    if s.1.scDone || tooManyReaders a.tun s.2 then none else some (sched.now, a.tun.minReadIntervalMs)
  | .ioctl _ _ => none

/-- A read that is admitted. -/
def Call.admitted (c : Call Cred) (s : Softc Cred × Globals) : Option (Sbintime × UInt32) :=
  match c with
  | .read a _ sched =>
    if s.1.scDone || tooManyReaders a.tun s.2 || tooSoon a.tun s.1 sched.now then none
    else some (sched.now, a.tun.minReadIntervalMs)
  | .ioctl _ _ => none

theorem Call.offered_read (a : Around Cred) (resid : ℕ) (sched : Schedule) (s : Softc Cred × Globals) :
    (Call.read a resid sched).offered s =
      if s.1.scDone || tooManyReaders a.tun s.2 then none else some (sched.now, a.tun.minReadIntervalMs) := rfl

theorem Call.admitted_read (a : Around Cred) (resid : ℕ) (sched : Schedule) (s : Softc Cred × Globals) :
    (Call.read a resid sched).admitted s =
      if s.1.scDone || tooManyReaders a.tun s.2 || tooSoon a.tun s.1 sched.now then none
      else some (sched.now, a.tun.minReadIntervalMs) := rfl

/-- What some calls do one after the other. -/
def history {α : Type} (f : Call Cred → Softc Cred × Globals → Option α) :
    List (Call Cred) → Softc Cred × Globals → List α
  | [], _ => []
  | c :: cs, s => (f c s).toList ++ history f cs (callStep c s).2

/-- The second read comes too soon after the first. -/
def soonAfter (first second : Sbintime × UInt32) : Bool :=
  second.2 > 0 && first.1 != 0 && second.1 - first.1 < msTime second.2

/-- A call keeps the time of the last admitted read, or is the next one. -/
theorem callStep_lastRead (c : Call Cred) (s : Softc Cred × Globals) :
    (callStep c s).2.1.scLastRead = ((c.admitted s).map Prod.fst).getD s.1.scLastRead := by
  obtain ⟨sc, g⟩ := s
  cases c with
  | ioctl a cmd =>
    cases cmd with
    | setFilter f =>
      by_cases hv : f.version = TSF_VERSION
      · simp [callStep, tcpstatsIoctl, hv, Call.admitted]
      · simp [callStep, tcpstatsIoctl, hv, Call.admitted]
    | _ => rfl
  | read a resid sched =>
    unfold callStep Call.admitted
    dsimp only
    rcases read_cases a.tun sched sc g with hd | href | hadm
    · rw [tcpstatsRead_done _ _ _ _ _ _ hd, hd]
      rfl
    · rw [tcpstatsRead_refused _ _ _ href, href.unread]
      rcases href.limit with hl | hl
      · rw [hl]
        rfl
      · rw [hl, Bool.or_true]
        rfl
    · obtain ⟨exit, st, out⟩ := tcpstatsRead_outcome a.kern a.tcb resid hadm
      rw [out.softc, hadm.unread, hadm.readers, hadm.interval]
      rfl

/-- The descriptor's throttle is a throttle: it lets through what comes to it, but for what comes too soon. -/
theorem admitted_eq_pass (cs : List (Call Cred)) (s : Softc Cred × Globals) {last : Sbintime × UInt32}
    (h : last.1 = s.1.scLastRead) :
    history Call.admitted cs s = Throttle.pass soonAfter (some last) (history Call.offered cs s) := by
  induction cs generalizing s last with
  | nil => rfl
  | cons c cs ih =>
    have hlast := callStep_lastRead c s
    rw [history, history]
    cases c with
    | ioctl a cmd => exact ih _ (h.trans hlast.symm)
    | read a resid sched =>
      rw [Call.admitted_read] at hlast
      rw [Call.admitted_read, Call.offered_read]
      cases hstop : s.1.scDone || tooManyReaders a.tun s.2 with
      | true =>
        rw [hstop, Bool.true_or, if_pos rfl] at hlast
        rw [Bool.true_or, if_pos rfl]
        exact ih _ (h.trans hlast.symm)
      | false =>
        have hsoon : tooSoon a.tun s.1 sched.now = soonAfter last (sched.now, a.tun.minReadIntervalMs) := by
          rw [tooSoon, soonAfter, h]
        rw [hstop, Bool.false_or, hsoon] at hlast
        rw [Bool.false_or, hsoon, if_neg Bool.false_ne_true]
        cases hs : soonAfter last (sched.now, a.tun.minReadIntervalMs) with
        | true =>
          rw [hs, if_pos rfl] at hlast
          rw [if_pos rfl, Option.toList_some, List.singleton_append, Throttle.pass_cons_soon hs]
          exact ih _ (h.trans hlast.symm)
        | false =>
          rw [hs, if_neg Bool.false_ne_true] at hlast
          rw [if_neg Bool.false_ne_true, Option.toList_some, List.singleton_append, List.singleton_append,
            Throttle.pass_cons_late (by simpa using hs)]
          exact congrArg _ (ih _ hlast.symm)

/-- A clock that runs, and not for longer than a sign bit can tell. -/
def Running (t : Sbintime) : Prop := 0 < t.toInt ∧ t.toInt < 2 ^ 62

/-- What a running clock is to a throttle: what is not too soon is late enough. -/
theorem le_of_not_soonAfter {first second : Sbintime × UInt32} (hfirst : Running first.1) (hsecond : Running second.1)
    (hpos : 0 < second.2) (h : soonAfter first second = false) :
    (second.2.toNat : ℤ) * 4294967 ≤ second.1.toInt - first.1.toInt := by
  have hne : first.1 ≠ 0 := by
    intro h0
    rw [h0] at hfirst
    exact absurd hfirst.1 (by decide)
  have hlate : ¬ second.1 - first.1 < msTime second.2 := by
    simpa [soonAfter, hpos, hne] using h
  rw [Int64.lt_iff_toInt_lt, toInt_msTime, Int64.toInt_sub] at hlate
  obtain ⟨h0, h1⟩ := hfirst
  obtain ⟨h2, h3⟩ := hsecond
  rw [Int.bmod_eq_of_le (by omega) (by omega)] at hlate
  omega

/-- What is offered comes from a call. -/
theorem exists_of_mem_offered {cs : List (Call Cred)} {s : Softc Cred × Globals} {o : Sbintime × UInt32}
    (h : o ∈ history Call.offered cs s) :
    ∃ a resid sched, .read a resid sched ∈ cs ∧ o = (sched.now, a.tun.minReadIntervalMs) := by
  induction cs generalizing s with
  | nil => cases h
  | cons c cs ih =>
    rcases List.mem_append.mp h with hhead | hrest
    · cases c with
      | ioctl a cmd => cases hhead
      | read a resid sched =>
        rw [Call.offered_read] at hhead
        split at hhead
        case isTrue => cases hhead
        case isFalse => exact ⟨a, resid, sched, List.mem_cons_self, List.mem_singleton.mp hhead⟩
    · obtain ⟨a, resid, sched, hmem, ho⟩ := ih hrest
      exact ⟨a, resid, sched, List.mem_cons_of_mem _ hmem, ho⟩

/-- On a descriptor that has not been read before, whatever is done to it, resets and new filters included: while the
interval is never below `m` milliseconds, `n + 1` admitted reads take at least `n` times that long. -/
theorem reads_spaced (cs : List (Call Cred)) (s : Softc Cred × Globals) (m : UInt32) (hm : 0 < m)
    (hfresh : s.1.scLastRead = 0)
    (hreads : ∀ a resid sched, Call.read a resid sched ∈ cs → m ≤ a.tun.minReadIntervalMs ∧ Running sched.now)
    (i n : ℕ) (h : i + n < (history Call.admitted cs s).length) :
    (n : ℤ) * (m.toNat * 4294967) ≤
      (history Call.admitted cs s)[i + n].1.toInt - (history Call.admitted cs s)[i].1.toInt := by
  have hlast : ((0, 0) : Sbintime × UInt32).1 = s.1.scLastRead := hfresh.symm
  have hpass := admitted_eq_pass cs s hlast
  have hoffered : ∀ o ∈ history Call.admitted cs s, m ≤ o.2 ∧ Running o.1 := by
    intro o ho
    rw [hpass] at ho
    obtain ⟨a, resid, sched, hmem, rfl⟩ := exists_of_mem_offered ((Throttle.pass_sublist _ _).mem ho)
    exact hreads a resid sched hmem
  have hchain : (history Call.admitted cs s).IsChain fun a b => soonAfter a b = false := by
    have := @Throttle.isChain_pass _ soonAfter (some (0, 0)) (history Call.offered cs s)
    rw [← hpass] at this
    exact this.tail
  have hspaced : ((history Call.admitted cs s).map fun o => o.1.toInt).IsChain fun t t' =>
      (m.toNat : ℤ) * 4294967 ≤ t' - t := by
    rw [List.isChain_map]
    refine hchain.imp_of_mem_imp fun a b ha hb hsoon => ?_
    obtain ⟨hle, hrun⟩ := hoffered b hb
    have hlate := le_of_not_soonAfter (hoffered a ha).2 hrun (UInt32.lt_of_lt_of_le hm hle) hsoon
    have := UInt32.le_iff_toNat_le.mp hle
    omega
  have := Throttle.spaced_of_isChain hspaced (i := i) (n := n) (by simpa using h)
  simpa using this

/-- Two reads, a second apart, with a reset and a read that comes too soon in between, under an interval of 100 ms. -/
def Sample.impatient : List (Call ℕ) :=
  let a : Around ℕ := ⟨kern, { Tunables.default with minReadIntervalMs := 100 }, two⟩
  [.read a 640 still, .ioctl a .reset, .read a 640 still, .read a 640 { still with now := SBT_1S * 2 }]

theorem reads_spaced_impatient :
    ((history Call.admitted Sample.impatient (Sample.fresh .default, Sample.glob)).map fun o => o.1.toInt) =
        [2 ^ 32, 2 ^ 33] ∧
      ∃ (h₀ : 0 < (history Call.admitted Sample.impatient (Sample.fresh .default, Sample.glob)).length)
        (h₁ : 0 + 1 < (history Call.admitted Sample.impatient (Sample.fresh .default, Sample.glob)).length),
        ((1 : ℕ) : ℤ) * ((100 : UInt32).toNat * 4294967) ≤
          (history Call.admitted Sample.impatient (Sample.fresh .default, Sample.glob))[0 + 1].1.toInt -
            (history Call.admitted Sample.impatient (Sample.fresh .default, Sample.glob))[0].1.toInt := by
  refine ⟨by decide +kernel, by decide +kernel, by decide +kernel, ?_⟩
  refine reads_spaced Sample.impatient _ 100 (by decide) rfl ?_ 0 1 _
  intro a resid sched hmem
  simp only [Sample.impatient, List.mem_cons, Call.read.injEq, reduceCtorEq, List.not_mem_nil, or_false, false_or] at hmem
  rcases hmem with ⟨rfl, -, rfl⟩ | ⟨rfl, -, rfl⟩ | ⟨rfl, -, rfl⟩
  · exact ⟨by decide, by decide, by decide⟩
  · exact ⟨by decide, by decide, by decide⟩
  · exact ⟨by decide, by decide, by decide⟩

end TcpStats
