import TcpStats.Device.ReadSpec
import TcpStats.Lib.Run

/-!
# A read and `TCPSTATS_SET_FILTER`

A read of a descriptor on which other threads set filters meanwhile: each iteration of the
loop is a step, and so is each ioctl. The field mask is cached when the read begins, the
rest of the filter is looked at anew in every iteration. The records of a read are those of
one filter if no filter is set, while the loop runs and there is room for a record, that lets
through a connection still to be visited which the filter before it does not (`one_filter`).
-/

namespace TcpStats

open Scan Transition

variable {Cred : Type}

/-- What a read runs against. -/
structure ReadArgs (Cred : Type) where
  kern : Kernel Cred
  tun : Tunables
  tcb : Tcbinfo Cred
  sched : Schedule
  resid : ℕ
  glob : Globals

/-- How far the read has come. -/
inductive ReadPhase (Cred : Type) where
  /-- `tcpstats_read` is called. -/
  | entering
  /-- Between two iterations, with the cached field mask and the connections to come. -/
  | looping (fieldMask : UInt32) (rest : List (Inpcb Cred)) (st : ReadState)
  | finished (error : Option Errno) (st : ReadState)

/-- The descriptor and the read. -/
structure Race (Cred : Type) where
  sc : Softc Cred
  read : ReadPhase Cred

/-- What happens next. -/
inductive RaceEvent where
  | setFilter (f : TcpstatsFilter)
  /-- The read goes on. -/
  | go
  deriving DecidableEq

/-- What the loop runs against with a cached field mask. -/
def ReadArgs.env (a : ReadArgs Cred) (sc : Softc Cred) (fieldMask : UInt32) : ReadEnv Cred :=
  { readEnv a.kern a.tun a.tcb a.sched sc with fieldMask }

/-- The next step of the read. -/
def goRead (a : ReadArgs Cred) (s : Race Cred) : Option (Race Cred) :=
  match s.read with
  | .entering =>
    if s.sc.scDone then some { s with read := .finished none (readStart a.resid) }
    else if tooManyReaders a.tun a.glob then some { s with read := .finished (some .EBUSY) (readStart a.resid) }
    else if tooSoon a.tun s.sc a.sched.now then
      some { s with read := .finished (some .EBUSY) (readStart a.resid) }
    else some ⟨{ s.sc with scLastRead := a.sched.now },
      .looping (fieldGroups s.sc.scFilter) a.tcb.inpcbs (readStart a.resid)⟩
  | .looping _ [] st => some ⟨{ s.sc with scDone := true }, .finished none st.inpEnd⟩
  | .looping fieldMask (inp :: rest) st =>
    match readBody (a.env s.sc fieldMask) inp st with
    | (.next, st) => some { s with read := .looping fieldMask rest st }
    | (.stop e, st) => some ⟨{ s.sc with scDone := true }, .finished (exitCode (some e)) st⟩
  | .finished _ _ => none

/-- An event, where it can happen. -/
def raceStep (a : ReadArgs Cred) (s : Race Cred) : RaceEvent → Option (Race Cred)
  | .setFilter f => some { s with sc := (tcpstatsIoctl a.tcb (.setFilter f) s.sc).2.1 }
  | .go => goRead a s

/-- The step relation. -/
def RaceStep (a : ReadArgs Cred) (s : Race Cred) (e : RaceEvent) (s' : Race Cred) : Prop :=
  raceStep a s e = some s'

/-! ### What a step does -/

variable {a : ReadArgs Cred}

/-- All that a step can do. -/
inductive RaceMove (a : ReadArgs Cred) (s : Race Cred) (e : RaceEvent) (s' : Race Cred) : Prop where
  /-- The ioctl stores the filter, unless it is of another version. -/
  | setFilter (f : TcpstatsFilter) : e = .setFilter f → s'.read = s.read → s'.sc.scCred = s.sc.scCred →
      s'.sc.scFilter = s.sc.scFilter ∨ f.version = TSF_VERSION ∧ s'.sc.scFilter = f → RaceMove a s e s'
  /-- The read returns without having begun. -/
  | refuse (error : Option Errno) : e = .go → s.read = .entering → s'.sc = s.sc →
      s'.read = .finished error (readStart a.resid) → RaceMove a s e s'
  /-- The read begins. -/
  | enter : e = .go → s.read = .entering → s'.sc.scFilter = s.sc.scFilter → s'.sc.scCred = s.sc.scCred →
      s'.read = .looping (fieldGroups s.sc.scFilter) a.tcb.inpcbs (readStart a.resid) → RaceMove a s e s'
  /-- The loop goes on. -/
  | next (fieldMask : UInt32) (inp : Inpcb Cred) (rest : List (Inpcb Cred)) (st st' : ReadState) : e = .go →
      s.read = .looping fieldMask (inp :: rest) st → readBody (a.env s.sc fieldMask) inp st = (.next, st') →
      s'.sc = s.sc → s'.read = .looping fieldMask rest st' → RaceMove a s e s'
  /-- The loop ends; the last iteration has delivered nothing. -/
  | leave (fieldMask : UInt32) (rest : List (Inpcb Cred)) (st st' : ReadState) (error : Option Errno) : e = .go →
      s.read = .looping fieldMask rest st → st'.records = st.records →
      s'.sc.scCred = s.sc.scCred → s'.sc.scFilter = s.sc.scFilter → s'.read = .finished error st' →
      RaceMove a s e s'

/-- An iteration that stops the loop delivers no record. -/
theorem Iteration.stop_records {env : ReadEnv Cred} {inp : Inpcb Cred} {st st' : ReadState} {exit : Exit}
    (h : Iteration env inp st (.stop exit) st') : st'.records = st.records := by
  cases h with
  | full _ _ heq => rw [heq]; simp
  | check _ _ _ _ heq => rw [heq]; simp
  | skip _ _ _ _ _ hnext => cases hnext
  | fault _ _ _ _ _ _ _ heq => rw [heq]; simp
  | emit _ _ _ _ _ hnext => cases hnext

theorem raceStep_move {s s' : Race Cred} {e : RaceEvent} (h : RaceStep a s e s') : RaceMove a s e s' := by
  unfold RaceStep raceStep at h
  cases e with
  | setFilter f =>
    obtain rfl := Option.some.inj h
    refine .setFilter f rfl rfl ?_ ?_
    · dsimp only [tcpstatsIoctl]
      split_ifs <;> rfl
    · dsimp only [tcpstatsIoctl]
      split_ifs with hv
      · exact .inl rfl
      · exact .inr ⟨of_not_not hv, rfl⟩
  | go =>
    obtain ⟨sc, read⟩ := s
    dsimp only [goRead] at h
    cases read with
    | entering =>
      dsimp only at h
      split_ifs at h
      · obtain rfl := Option.some.inj h
        exact .refuse _ rfl rfl rfl rfl
      · obtain rfl := Option.some.inj h
        exact .refuse _ rfl rfl rfl rfl
      · obtain rfl := Option.some.inj h
        exact .refuse _ rfl rfl rfl rfl
      · obtain rfl := Option.some.inj h
        exact .enter rfl rfl rfl rfl rfl
    | looping fieldMask rest st =>
      rcases rest with _ | ⟨inp, rest⟩
      · obtain rfl := Option.some.inj h
        exact .leave fieldMask [] st st.inpEnd _ rfl rfl rfl rfl rfl rfl
      · rcases hb : readBody (a.env sc fieldMask) inp st with ⟨c, st'⟩
        dsimp only at h
        rw [hb] at h
        cases c with
        | next =>
          obtain rfl := Option.some.inj h
          exact .next fieldMask inp rest st st' rfl rfl hb rfl rfl
        | stop exit =>
          obtain rfl := Option.some.inj h
          exact .leave fieldMask (inp :: rest) st st' _ rfl rfl (readBody_iteration hb).stop_records
            rfl rfl rfl
    | finished error st => cases h

/-! ### A read that is left alone -/

/-- The loop, an iteration a step. -/
theorem loop_alone (sc : Softc Cred) (rest : List (Inpcb Cred)) (st : ReadState) :
    ∃ n, Run (RaceStep a) ⟨sc, .looping (fieldGroups sc.scFilter) rest st⟩ (List.replicate n .go)
      ⟨{ sc with scDone := true },
        .finished (exitCode (readLoop (readEnv a.kern a.tun a.tcb a.sched sc) rest st).1)
          (readLoop (readEnv a.kern a.tun a.tcb a.sched sc) rest st).2⟩ := by
  have henv : a.env sc (fieldGroups sc.scFilter) = readEnv a.kern a.tun a.tcb a.sched sc := rfl
  induction rest generalizing st with
  | nil => exact ⟨1, .single rfl⟩
  | cons inp rest ih =>
    rcases hb : readBody (readEnv a.kern a.tun a.tcb a.sched sc) inp st with ⟨c, st'⟩
    cases c with
    | next =>
      obtain ⟨n, run⟩ := ih st'
      have hstep : RaceStep a ⟨sc, .looping (fieldGroups sc.scFilter) (inp :: rest) st⟩ .go
          ⟨sc, .looping (fieldGroups sc.scFilter) rest st'⟩ := by
        unfold RaceStep raceStep goRead
        dsimp only
        rw [henv, hb]
      refine ⟨n + 1, ?_⟩
      rw [readLoop, scan_cons_next hb]
      exact .cons hstep run
    | stop e =>
      refine ⟨1, .single ?_⟩
      unfold RaceStep raceStep goRead
      dsimp only
      rw [readLoop, scan_cons_stop hb, henv, hb]

/-- Without ioctls the steps of the read come to what `tcpstats_read` returns. -/
theorem read_alone (a : ReadArgs Cred) (sc : Softc Cred) :
    let r := tcpstatsRead a.kern a.tun a.tcb a.sched a.resid sc a.glob
    ∃ n st, Run (RaceStep a) ⟨sc, .entering⟩ (List.replicate n .go) ⟨r.sc, .finished r.error st⟩ ∧
      st.records = r.records ∧ st.uio.moved = r.moved := by
  intro r
  rcases read_cases a.tun a.sched sc a.glob with hdone | href | hadm
  · have hr : r = _ := tcpstatsRead_done a.kern a.tun a.tcb a.sched a.resid a.glob hdone
    rw [hr]
    refine ⟨1, readStart a.resid, .single ?_, rfl, rfl⟩
    simp [RaceStep, raceStep, goRead, hdone]
  · have hr : r = _ := tcpstatsRead_refused a.kern a.tcb a.resid href
    rw [hr]
    refine ⟨1, readStart a.resid, .single ?_, rfl, rfl⟩
    rcases href.limit with hl | hl
    · simp [RaceStep, raceStep, goRead, href.unread, hl]
    · simp [RaceStep, raceStep, goRead, href.unread, hl]
  · obtain ⟨exit, st, out⟩ := tcpstatsRead_outcome a.kern a.tcb a.resid hadm
    obtain ⟨n, run⟩ := loop_alone (a := a) { sc with scLastRead := a.sched.now } a.tcb.inpcbs (readStart a.resid)
    have henter : RaceStep a ⟨sc, .entering⟩ .go ⟨{ sc with scLastRead := a.sched.now },
        .looping (fieldGroups sc.scFilter) a.tcb.inpcbs (readStart a.resid)⟩ := by
      simp [RaceStep, raceStep, goRead, hadm.unread, hadm.readers, hadm.interval]
    refine ⟨n + 1, st, ?_, out.records.symm, out.moved.symm⟩
    rw [show r.sc = _ from out.softc, show r.error = _ from out.error]
    have hloop : readLoop (readEnv a.kern a.tun a.tcb a.sched { sc with scLastRead := a.sched.now })
        a.tcb.inpcbs (readStart a.resid) = (exit, st) := out.run
    rw [hloop] at run
    exact .cons henter run

/-! ### One filter -/

/-- The records that the read has delivered. -/
def ReadPhase.records : ReadPhase Cred → List TcpStatsRecord
  | .entering => []
  | .looping _ _ st => st.records
  | .finished _ st => st.records

/-- The read has not returned. -/
def ReadPhase.running : ReadPhase Cred → Bool
  | .finished _ _ => false
  | _ => true

/-- A connection passes the stages under a filter. -/
def Fits (a : ReadArgs Cred) (cred : Cred) (f : TcpstatsFilter) (inp : Inpcb Cred) : Prop :=
  (filterStages a.kern cred a.tcb.ipiGencnt f inp).1 = none

/-- A record is that of a connection that fits a filter, filled with the filter's field groups. -/
def FilledUnder (a : ReadArgs Cred) (cred : Cred) (f : TcpstatsFilter) (r : TcpStatsRecord) : Prop :=
  ∃ inp ∈ a.tcb.inpcbs, Fits a cred f inp ∧
    ∃ n, r = freshRecord inp (fieldGroups f) a.sched.now a.kern.tick (a.sched.ticks n)

/-- A filter is the descriptor's at some moment of the read. -/
def InForce (a : ReadArgs Cred) (sc₀ : Softc Cred) (es : List RaceEvent) (f : TcpstatsFilter) : Prop :=
  ∃ pre s, pre <+: es ∧ Run (RaceStep a) ⟨sc₀, .entering⟩ pre s ∧ s.read.running = true ∧ s.sc.scFilter = f

/-- The records delivered are all those of one filter, in force at some moment of the read. -/
def OneFilter (a : ReadArgs Cred) (sc₀ : Softc Cred) (es : List RaceEvent) (s : Race Cred) : Prop :=
  ∃ f, InForce a sc₀ es f ∧ ∀ r ∈ s.read.records, FilledUnder a sc₀.scCred f r

/-- An ioctl that comes while the loop runs does no harm if there is no room for another record, if
its filter lets through none of the connections still to be visited that the filter before it does
not, or if it has the cached field groups and the records delivered so far are records of it. -/
def Harmless (a : ReadArgs Cred) (s : Race Cred) : RaceEvent → Prop
  | .go => True
  | .setFilter f => f.version = TSF_VERSION → ∀ fieldMask rest st, s.read = .looping fieldMask rest st →
      (TCP_STATS_RECORD_SIZE ≤ st.uio.resid →
          ∀ inp ∈ rest, Fits a s.sc.scCred f inp → Fits a s.sc.scCred s.sc.scFilter inp) ∨
        fieldGroups f = fieldMask ∧ ∀ r ∈ st.records, FilledUnder a s.sc.scCred f r

theorem InForce.snoc {sc₀ : Softc Cred} {es : List RaceEvent} {f : TcpstatsFilter} (h : InForce a sc₀ es f)
    (e : RaceEvent) : InForce a sc₀ (es ++ [e]) f := by
  obtain ⟨pre, s, hpre, hrest⟩ := h
  exact ⟨pre, s, hpre.trans (List.prefix_append es [e]), hrest⟩

theorem inForce_of_run {sc₀ : Softc Cred} {es : List RaceEvent} {s : Race Cred}
    (run : Run (RaceStep a) ⟨sc₀, .entering⟩ es s) (h : s.read.running = true) :
    InForce a sc₀ es s.sc.scFilter := ⟨es, s, List.prefix_refl _, run, h, rfl⟩

/-- A filter that the whole read so far is a read of: it has the cached field groups, it lets
through what the filter in force does as long as there is room for a record, and the records are
records of it. -/
structure Serves (a : ReadArgs Cred) (cred : Cred) (current : TcpstatsFilter) (fieldMask : UInt32)
    (rest : List (Inpcb Cred)) (st : ReadState) (f : TcpstatsFilter) : Prop where
  mask : fieldGroups f = fieldMask
  rest : TCP_STATS_RECORD_SIZE ≤ st.uio.resid → ∀ inp ∈ rest, Fits a cred current inp → Fits a cred f inp
  records : ∀ r ∈ st.records, FilledUnder a cred f r

/-- The next iteration delivers at most the record of a connection that fits. -/
theorem Serves.next {sc : Softc Cred} {fieldMask : UInt32} {inp : Inpcb Cred} {rest : List (Inpcb Cred)}
    {st st' : ReadState} {f : TcpstatsFilter}
    (h : Serves a sc.scCred sc.scFilter fieldMask (inp :: rest) st f) (hinp : inp ∈ a.tcb.inpcbs)
    (hb : readBody (a.env sc fieldMask) inp st = (.next, st')) :
    Serves a sc.scCred sc.scFilter fieldMask rest st' f := by
  cases readBody_iteration hb with
  | full _ hstop => cases hstop
  | check _ _ _ hstop => cases hstop
  | fault _ _ _ _ _ _ hstop => cases hstop
  | skip why examined hroom _ _ _ heq =>
    refine ⟨h.mask, fun _ x hx => h.rest hroom x (List.mem_cons_of_mem _ hx), ?_⟩
    rw [heq]
    simpa using h.records
  | emit examined hroom _ hf _ _ heq =>
    refine ⟨h.mask, fun _ x hx => h.rest hroom x (List.mem_cons_of_mem _ hx), ?_⟩
    have hcur : Fits a sc.scCred sc.scFilter inp := congrArg Prod.fst hf
    intro r hr
    rw [heq] at hr
    simp only [emit_records, look_records, visit_records, inpNext_records, List.mem_append,
      List.mem_singleton] at hr
    rcases hr with hr | rfl
    · exact h.records r hr
    · refine ⟨inp, hinp, h.rest hroom inp (List.mem_cons_self ..) hcur, st.records.length, ?_⟩
      rw [h.mask]
      rfl

/-- What holds of a read on its way. -/
structure OnTheWay (a : ReadArgs Cred) (sc₀ : Softc Cred) (es : List RaceEvent) (s : Race Cred) : Prop where
  run : Run (RaceStep a) ⟨sc₀, .entering⟩ es s
  cred : s.sc.scCred = sc₀.scCred
  one : OneFilter a sc₀ es s
  looping : ∀ fieldMask rest st, s.read = .looping fieldMask rest st →
    rest <:+ a.tcb.inpcbs ∧ ∃ f, InForce a sc₀ es f ∧ Serves a s.sc.scCred s.sc.scFilter fieldMask rest st f

theorem OneFilter.snoc {sc₀ : Softc Cred} {es : List RaceEvent} {s s' : Race Cred}
    (h : OneFilter a sc₀ es s)
    (e : RaceEvent) (hr : s'.read.records = s.read.records) : OneFilter a sc₀ (es ++ [e]) s' := by
  obtain ⟨f, hf, hrec⟩ := h
  exact ⟨f, hf.snoc e, hr ▸ hrec⟩

/-- After an ioctl that does no harm there still is a filter that serves the whole read. -/
theorem Harmless.serves {sc₀ : Softc Cred} {es : List RaceEvent} {s s' : Race Cred} {f g : TcpstatsFilter}
    {fieldMask : UInt32} {rest : List (Inpcb Cred)} {st : ReadState} (hsafe : Harmless a s (.setFilter f))
    (hv : f.version = TSF_VERSION) (hloop : s.read = .looping fieldMask rest st)
    (run : Run (RaceStep a) ⟨sc₀, .entering⟩ es s') (hread : s'.read = s.read) (hf : s'.sc.scFilter = f)
    (hg : InForce a sc₀ es g) (hserves : Serves a s.sc.scCred s.sc.scFilter fieldMask rest st g) :
    ∃ g, InForce a sc₀ es g ∧ Serves a s.sc.scCred f fieldMask rest st g := by
  rcases hsafe hv fieldMask rest st hloop with hnarrow | ⟨hmask, hrec⟩
  · exact ⟨g, hg, hserves.mask,
      fun hroom inp hinp hfit => hserves.rest hroom inp hinp (hnarrow hroom inp hinp hfit), hserves.records⟩
  · have hnow := inForce_of_run run (by rw [hread, hloop]; rfl)
    exact ⟨f, hf ▸ hnow, hmask, fun _ _ _ hfit => hfit, hrec⟩

theorem OnTheWay.step {sc₀ : Softc Cred} {es : List RaceEvent} {s s' : Race Cred} {e : RaceEvent}
    (h : OnTheWay a sc₀ es s) (hstep : RaceStep a s e s') (hsafe : Harmless a s e) :
    OnTheWay a sc₀ (es ++ [e]) s' := by
  have run : Run (RaceStep a) ⟨sc₀, .entering⟩ (es ++ [e]) s' := .snoc h.run hstep
  cases raceStep_move hstep with
  | setFilter f he hread hcred hfilter =>
    refine ⟨run, hcred.trans h.cred, h.one.snoc e (by rw [hread]), fun fieldMask rest st hloop => ?_⟩
    rw [hread] at hloop
    obtain ⟨hrest, g, hg, hserves⟩ := h.looping fieldMask rest st hloop
    refine ⟨hrest, ?_⟩
    rw [hcred]
    rcases hfilter with hsame | ⟨hv, hset⟩
    · rw [hsame]
      exact ⟨g, hg.snoc e, hserves⟩
    · rw [hset]
      exact Harmless.serves (he ▸ hsafe) hv hloop run hread hset (hg.snoc e) hserves
  | refuse error _ hin hsc hread =>
    refine ⟨run, by rw [hsc, h.cred], h.one.snoc e (by rw [hread, hin]; rfl), fun fieldMask rest st hloop => ?_⟩
    rw [hread] at hloop
    cases hloop
  | enter _ hin hfilter hcred hread =>
    refine ⟨run, hcred.trans h.cred, h.one.snoc e (by rw [hread, hin]; rfl), fun fieldMask rest st hloop => ?_⟩
    rw [hread] at hloop
    cases hloop
    refine ⟨List.suffix_refl _, s'.sc.scFilter, inForce_of_run run (by rw [hread]; rfl), ?_⟩
    exact ⟨by rw [hfilter], fun _ _ _ hfit => hfit, fun r hr => absurd hr List.not_mem_nil⟩
  | next fieldMask inp rest st st' _ hin hb hsc hread =>
    obtain ⟨hrest, f, hf, hserves⟩ := h.looping fieldMask (inp :: rest) st hin
    have hnext := hserves.next (hrest.subset (List.mem_cons_self ..)) hb
    refine ⟨run, by rw [hsc, h.cred], ⟨f, hf.snoc e, ?_⟩, fun mask left now hloop => ?_⟩
    · rw [hread, ← h.cred]
      exact hnext.records
    · rw [hread] at hloop
      cases hloop
      rw [hsc]
      exact ⟨(List.suffix_cons inp rest).trans hrest, f, hf.snoc e, hnext⟩
  | leave fieldMask rest st st' error _ hin hrec hcred _ hread =>
    refine ⟨run, hcred.trans h.cred, h.one.snoc e (by rw [hread, hin]; exact hrec), fun mask left now hloop => ?_⟩
    rw [hread] at hloop
    cases hloop

/-- A read delivers the records of one filter, when no ioctl does harm while it runs. -/
theorem one_filter {sc₀ : Softc Cred} {es : List RaceEvent} {s : Race Cred}
    (run : Run (restrict (RaceStep a) (Harmless a)) ⟨sc₀, .entering⟩ es s) : OneFilter a sc₀ es s := by
  have onTheWay : OnTheWay a sc₀ es s := by
    refine run.inv_trace (I := OnTheWay a sc₀) ?_ fun ms u e v h hstep => h.step hstep.1 hstep.2
    refine ⟨.nil _, rfl, ?_, fun fieldMask rest st hloop => nomatch hloop⟩
    exact ⟨sc₀.scFilter, inForce_of_run (.nil _) rfl, fun r hr => absurd hr List.not_mem_nil⟩
  exact onTheWay.one

/-! ### Two connections -/

instance (a : ReadArgs Cred) (cred : Cred) (f : TcpstatsFilter) (inp : Inpcb Cred) :
    Decidable (Fits a cred f inp) := inferInstanceAs (Decidable (_ = none))

/-- A step, unless it is an ioctl whose filter lets through more of the connections to come. -/
def narrowingStep (a : ReadArgs Cred) (s : Race Cred) (e : RaceEvent) : Option (Race Cred) :=
  match e, s.read with
  | .setFilter f, .looping _ rest _ =>
    if ∀ inp ∈ rest, Fits a s.sc.scCred f inp → Fits a s.sc.scCred s.sc.scFilter inp then raceStep a s e
    else none
  | _, _ => raceStep a s e

theorem narrowingStep_harmless {s s' : Race Cred} {e : RaceEvent} (h : narrowingStep a s e = some s') :
    restrict (RaceStep a) (Harmless a) s e s' := by
  cases e with
  | go => exact ⟨h, trivial⟩
  | setFilter f =>
    obtain ⟨sc, read⟩ := s
    cases read with
    | entering => exact ⟨h, fun _ _ _ _ hloop => nomatch hloop⟩
    | finished error st => exact ⟨h, fun _ _ _ _ hloop => nomatch hloop⟩
    | looping fieldMask rest st =>
      unfold narrowingStep at h
      dsimp only at h
      split_ifs at h with hnarrow
      refine ⟨h, fun _ mask left now hloop => .inl fun _ => ?_⟩
      cases hloop
      exact hnarrow

namespace Sample

/-- A read of a table of an IPv4 connection and an IPv6 one. -/
def dual : ReadArgs ℕ where
  kern := kern
  tun := .default
  tcb := table [inpcb 1 INP_IPV4 5, inpcb 2 INP_IPV6 6]
  sched := still
  resid := 700
  glob := glob

def ipv4Only : TcpstatsFilter := { TcpstatsFilter.default with flags := TSF_IPV4_ONLY }

def ipv6Only : TcpstatsFilter := { TcpstatsFilter.default with flags := TSF_IPV6_ONLY }

/-- A filter is set after the first of the two connections. -/
def between (f : TcpstatsFilter) : List RaceEvent := [.go, .go, .setFilter f, .go, .go]

end Sample

/-- `IPV4_ONLY` set in between takes the second connection away. -/
theorem one_filter_narrowed : ∃ s,
    Run (restrict (RaceStep Sample.dual) (Harmless Sample.dual)) ⟨Sample.fresh .default, .entering⟩
      (Sample.between Sample.ipv4Only) s ∧
    s.read.running = false ∧ s.read.records.length = 1 ∧
      OneFilter Sample.dual (Sample.fresh .default) (Sample.between Sample.ipv4Only) s := by
  have hrun : (replay (narrowingStep Sample.dual) (Sample.between Sample.ipv4Only)
      ⟨Sample.fresh .default, .entering⟩).any (fun s => !s.read.running && s.read.records.length = 1) = true := by
    decide +kernel
  obtain ⟨s, hs, h⟩ := (Option.any_eq_true _ _).mp hrun
  simp only [Bool.and_eq_true, Bool.not_eq_true', decide_eq_true_eq] at h
  have run := replay_run (fun _ _ _ => narrowingStep_harmless) hs
  exact ⟨s, run, h.1, h.2, one_filter run⟩

/-- The filter is the one of the beginning or one that was set. -/
theorem filter_of_run {sc₀ : Softc Cred} {es : List RaceEvent} {s : Race Cred}
    (run : Run (RaceStep a) ⟨sc₀, .entering⟩ es s) :
    s.sc.scFilter = sc₀.scFilter ∨ .setFilter s.sc.scFilter ∈ es := by
  refine run.inv_trace (I := fun es s => s.sc.scFilter = sc₀.scFilter ∨ .setFilter s.sc.scFilter ∈ es) (.inl rfl) ?_
  intro ms u e v h hstep
  have hsame : v.sc.scFilter = u.sc.scFilter →
      v.sc.scFilter = sc₀.scFilter ∨ .setFilter v.sc.scFilter ∈ ms ++ [e] := by
    intro heq
    rw [heq]
    exact h.imp_right (List.mem_append_left [e])
  cases raceStep_move hstep with
  | setFilter f he _ _ hfilter =>
    rcases hfilter with heq | ⟨-, hset⟩
    · exact hsame heq
    · right
      rw [hset, he]
      simp
  | refuse _ _ _ hsc _ => exact hsame (by rw [hsc])
  | enter _ _ hfilter _ _ => exact hsame hfilter
  | next _ _ _ _ _ _ _ _ hsc _ => exact hsame (by rw [hsc])
  | leave _ _ _ _ _ _ _ _ _ hfilter _ => exact hsame hfilter

/-- After `IPV4_ONLY` and the IPv4 connection, `IPV6_ONLY` lets the IPv6 one through. -/
theorem two_filters : ∃ s,
    Run (RaceStep Sample.dual) ⟨Sample.fresh Sample.ipv4Only, .entering⟩ (Sample.between Sample.ipv6Only) s ∧
      s.read.running = false ∧
      ¬ OneFilter Sample.dual (Sample.fresh Sample.ipv4Only) (Sample.between Sample.ipv6Only) s := by
  have hrun : (replay (raceStep Sample.dual) (Sample.between Sample.ipv6Only)
      ⟨Sample.fresh Sample.ipv4Only, .entering⟩).any (fun s =>
        !s.read.running && s.read.records.map TcpStatsRecord.tsrAf = [AF_INET, AF_INET6]) = true := by
    decide +kernel
  obtain ⟨s, hs, h⟩ := (Option.any_eq_true _ _).mp hrun
  simp only [Bool.and_eq_true, Bool.not_eq_true', decide_eq_true_eq] at h
  refine ⟨s, replay_run (fun _ _ _ h => h) hs, h.1, ?_⟩
  rintro ⟨f, ⟨pre, u, hpre, hpast, -, rfl⟩, hone⟩
  obtain ⟨first, tail, hrec, hfirst, htail⟩ := List.map_eq_cons_iff.mp h.2
  obtain ⟨second, rfl, hsecond⟩ := List.map_eq_singleton_iff.mp htail
  rw [hrec] at hone
  obtain ⟨inp, hinp, hfit, n, hfill⟩ := hone first (by simp)
  obtain ⟨inp', hinp', hfit', n', hfill'⟩ := hone second (by simp)
  rw [hfill, freshRecord_af] at hfirst
  rw [hfill', freshRecord_af] at hsecond
  rcases filter_of_run hpast with hentry | hset
  · rw [hentry] at hfit'
    have : ∀ inp ∈ Sample.dual.tcb.inpcbs, Fits Sample.dual 0 Sample.ipv4Only inp →
        inp.hasVflag INP_IPV6 = false := by decide
    rw [this inp' hinp' hfit'] at hsecond
    cases hsecond
  · have hsix : u.sc.scFilter = Sample.ipv6Only := by
      have := hpre.subset hset
      simpa [Sample.between] using this
    rw [hsix] at hfit
    have : ∀ inp ∈ Sample.dual.tcb.inpcbs, Fits Sample.dual 0 Sample.ipv6Only inp →
        inp.hasVflag INP_IPV6 = true := by decide
    rw [this inp hinp hfit] at hfirst
    cases hfirst

end TcpStats
