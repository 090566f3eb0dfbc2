import TcpStats.Client.Layout
import TcpStats.Device.Callers
import TcpStats.Device.Descriptor
import TcpStats.Filter.WellFormed

/-!
# Full output

`/dev/tcpstats-full` and the directive `format=full` are meant to have all fields filled,
as `fields=all` has. What they set, `sc_full` and the format of the filter, is read nowhere:
the loop goes by the field mask. So the bytes are those of `fields=all` exactly as long as
every selected connection has nothing to say in the five field groups that the default mask
lacks (`fullOutput_iff`).
-/

namespace TcpStats

open CString Scan Fallible

variable {Cred : Type}

/-! ### Records with and without the other groups -/

/-- A timer of which nothing is reported: it does not run, or less than a millisecond of the
remaining time is left in 32 bits. -/
def TimerBlank (timer now : Sbintime) : Prop :=
  timer = SBT_MAX ∨ timer = 0 ∨ ((timer - now) / SBT_1MS).toInt32 = 0

/-- Nothing is reported of any timer. -/
def TimersBlank (timers : Vector Sbintime 5) (now : Sbintime) : Prop :=
  ∀ i : Fin 5, TimerBlank (timers.get i) now

/-- A connection with nothing to report in the groups that are not filled by default. -/
structure Bare (tp : Tcpcb) (now : Sbintime) (tick : Int32) (ticks : UInt32) : Prop where
  sequences : tp.sndNxt = 0 ∧ tp.sndUna = 0 ∧ tp.sndMax = 0 ∧ tp.rcvNxt = 0 ∧ tp.rcvAdv = 0
  names : (∀ name ∈ tp.ccAlgo, ofArray name = []) ∧ ∀ name ∈ tp.tFb, ofArray name = []
  counters : tp.tSndrexmitpack = 0 ∧ tp.tRcvoopack = 0 ∧ tp.tSndzerowin = 0 ∧ tp.tDupacks = 0 ∧
    tp.rcvNumsacks = 0
  ecn : tp.tFlags2 &&& TF2_ECN_PERMIT = 0 ∧ tp.tScep = 0 ∧ tp.tRcep = 0
  dsack : tp.tDsackBytes = 0 ∧ tp.tDsackPack = 0
  tlp : tp.tSndtlppack = 0 ∧ tp.tSndtlpbyte = 0
  timers : TimersBlank tp.tTimers now
  /-- Data arrived less than a millisecond ago. -/
  received : (ticks - tp.tRcvtime) * tick.toUInt32 < 1000

theorem timerMs_eq_zero_iff {timer now : Sbintime} : timerMs timer now = 0 ↔ TimerBlank timer now := by
  unfold timerMs TimerBlank
  split_ifs with h
  · simpa using h.imp_right .inl
  · rw [not_or] at h
    simp [h.1, h.2]

theorem strlcpy_eq_empty_iff {name : CStr} : strlcpy 16 name = .empty 16 ↔ ofArray name = [] := by
  constructor
  · intro h
    have hstr : (ofArray name).take 15 = [] := congrArg CharBuf.str h
    simpa using hstr
  · intro h
    have hstr : (strlcpy 16 name).str = (CharBuf.empty 16).str := by
      simp only [strlcpy, CharBuf.empty, h]
      rfl
    exact CharBuf.ext hstr

theorem copied_eq_empty_iff {name : Option CStr} :
    (name.map (strlcpy 16)).getD (.empty 16) = .empty 16 ↔ ∀ n ∈ name, ofArray n = [] := by
  rcases name with _ | n
  · simp
  · simp [strlcpy_eq_empty_iff]

/-- Both of the bits include the first. -/
theorem ecn_eq_zero_iff {flags scep : UInt32} :
    (if flags &&& TF2_ECN_PERMIT = 0 then (0 : UInt32) else 1) = 0 ∧
        (if flags &&& (TF2_ECN_PERMIT ||| TF2_ACE_PERMIT) = TF2_ECN_PERMIT ||| TF2_ACE_PERMIT then scep - 5
          else scep) = 0 ↔
      flags &&& TF2_ECN_PERMIT = 0 ∧ scep = 0 := by
  by_cases hecn : flags &&& TF2_ECN_PERMIT = 0
  · have hboth : flags &&& (TF2_ECN_PERMIT ||| TF2_ACE_PERMIT) ≠ TF2_ECN_PERMIT ||| TF2_ACE_PERMIT := by
      intro h
      have hbit : flags &&& (TF2_ECN_PERMIT ||| TF2_ACE_PERMIT) &&& TF2_ECN_PERMIT = 0 := by
        rw [UInt32.and_assoc]
        exact hecn
      rw [h] at hbit
      exact absurd hbit (by decide)
    simp [hecn, hboth]
  · simp [hecn]

theorem sinceMs_eq_zero_iff {x : UInt32} : (x / 1000).toInt32 = 0 ↔ x < 1000 := by
  have hzero : (x / 1000).toInt32 = 0 ↔ x / 1000 = 0 :=
    ⟨fun h => congrArg Int32.toUInt32 h, fun h => by rw [h]; rfl⟩
  rw [hzero, ← UInt32.toNat_inj, UInt32.lt_iff_toNat_lt]
  simp

/-- The groups that are filled by default. -/
def fillDefault (tp : Tcpcb) (so : Option Socket) (tick : Int32) (r : TcpStatsRecord) : TcpStatsRecord :=
  fillBuffers so (fillCongestion tp (fillState tp (fillRtt tp tick r)))

/-- The other groups. -/
def fillOthers (tp : Tcpcb) (now : Sbintime) (tick : Int32) (ticks : UInt32) (r : TcpStatsRecord) :
    TcpStatsRecord :=
  fillTimers tp now tick ticks (fillEcn tp (fillCounters tp (fillNames tp (fillSequences tp r))))

section Groups

variable {inp : Inpcb Cred} {tp : Tcpcb} (now : Sbintime) (tick : Int32) (ticks : UInt32)

theorem freshRecord_default (htp : inp.tcpcb = some tp) (hstate : tp.tState ≠ TcpState.LISTEN) :
    freshRecord inp TSR_FIELDS_DEFAULT now tick ticks =
      fillDefault tp inp.inpSocket tick (tcpstatsFillIdentity .zero inp (some tp)) := by
  unfold freshRecord tcpstatsFillRecord
  rw [htp]
  exact if_neg hstate

theorem freshRecord_all (htp : inp.tcpcb = some tp) (hstate : tp.tState ≠ TcpState.LISTEN) :
    freshRecord inp TSR_FIELDS_ALL now tick ticks = fillOthers tp now tick ticks
      (fillDefault tp inp.inpSocket tick (tcpstatsFillIdentity .zero inp (some tp))) := by
  unfold freshRecord tcpstatsFillRecord
  rw [htp]
  refine (if_neg hstate).trans ?_
  rcases inp.inpSocket with _ | so <;> rfl

theorem tcpstatsFillIdentity_identity (tp : Option Tcpcb) :
    (tcpstatsFillIdentity .zero inp tp).identity = tcpstatsFillIdentity .zero inp tp := by
  unfold tcpstatsFillIdentity
  rcases tp with _ | tp <;> rcases inp.inpSocket with _ | so <;> cases inp.hasVflag INP_IPV6 <;> rfl

theorem fillOthers_eq_iff (so : Option Socket) (r : TcpStatsRecord) :
    fillOthers tp now tick ticks (fillDefault tp so tick r.identity) = fillDefault tp so tick r.identity ↔
      Bare tp now tick ticks := by
  rcases so with _ | so
  all_goals
    simp only [fillOthers, fillTimers, fillEcn, fillCounters, fillNames, fillSequences, fillDefault, fillBuffers,
      fillCongestion, fillState, fillRtt, TcpStatsRecord.identity, TcpStatsRecord.zero, TcpStatsRecord.mk.injEq,
      true_and, and_true, timerMs_eq_zero_iff, copied_eq_empty_iff, sinceMs_eq_zero_iff]
    constructor
    · rintro ⟨hcc, hstack, hnxt, huna, hmax, hrnxt, hradv, hrexmit, hooo, hzero, hdup, hsack, hecn, hscep, hrcep,
        hdbytes, hdpack, htlp, htlpbytes, hrexmt, hpersist, hkeep, h2msl, hdelack, hrcv⟩
      obtain ⟨hpermit, hscep⟩ := ecn_eq_zero_iff.mp ⟨hecn, hscep⟩
      refine ⟨⟨hnxt, huna, hmax, hrnxt, hradv⟩, ⟨hcc, hstack⟩, ⟨hrexmit, hooo, hzero, hdup, hsack⟩,
        ⟨hpermit, hscep, hrcep⟩, ⟨hdbytes, hdpack⟩, ⟨htlp, htlpbytes⟩, ?_, hrcv⟩
      rintro ⟨i, hi⟩
      obtain rfl | rfl | rfl | rfl | rfl : i = 0 ∨ i = 1 ∨ i = 2 ∨ i = 3 ∨ i = 4 := by omega
      exacts [hrexmt, hpersist, hkeep, h2msl, hdelack]
    · rintro ⟨⟨hnxt, huna, hmax, hrnxt, hradv⟩, ⟨hcc, hstack⟩, ⟨hrexmit, hooo, hzero, hdup, hsack⟩,
        ⟨hpermit, hscep, hrcep⟩, ⟨hdbytes, hdpack⟩, ⟨htlp, htlpbytes⟩, htimers, hrcv⟩
      obtain ⟨hecn, hscep⟩ := ecn_eq_zero_iff.mpr ⟨hpermit, hscep⟩
      exact ⟨hcc, hstack, hnxt, huna, hmax, hrnxt, hradv, hrexmit, hooo, hzero, hdup, hsack, hecn, hscep, hrcep,
        hdbytes, hdpack, htlp, htlpbytes, htimers 0, htimers 1, htimers 2, htimers 3, htimers 4, hrcv⟩

/-- The records with all groups and with the default ones, of any connection. -/
theorem freshRecord_eq_iff (inp : Inpcb Cred) :
    freshRecord inp TSR_FIELDS_DEFAULT now tick ticks = freshRecord inp TSR_FIELDS_ALL now tick ticks ↔
      ∀ tp, inp.tcpcb = some tp → tp.tState ≠ TcpState.LISTEN → Bare tp now tick ticks := by
  rcases htp : inp.tcpcb with _ | tp
  · simp [freshRecord, tcpstatsFillRecord, htp]
  by_cases hstate : tp.tState = TcpState.LISTEN
  · simp [freshRecord, tcpstatsFillRecord, htp, hstate]
  rw [freshRecord_default now tick ticks htp hstate, freshRecord_all now tick ticks htp hstate,
    ← tcpstatsFillIdentity_identity, eq_comm, fillOthers_eq_iff]
  simp [hstate]

end Groups

/-! ### Two reads side by side -/

/-- Two loops that decide alike which connections to report and when to stop. -/
structure Alike (env env' : ReadEnv Cred) : Prop where
  sched : env.sched = env'.sched
  deadline : env.deadline = env'.deadline
  passes : ∀ inp, env.passes inp = env'.passes inp

/-- States of two loops that have come equally far. -/
structure Abreast (st st' : ReadState) : Prop where
  room : st.uio.resid = st'.uio.resid
  count : st.records.length = st'.records.length
  visited : st.nsockets = st'.nsockets

theorem Alike.check {env env' : ReadEnv Cred} (h : Alike env env') (n : ℕ) :
    periodicCheck env n = periodicCheck env' n := by
  simp only [periodicCheck, h.sched, h.deadline]

/-- One iteration of each. -/
theorem Alike.step {env env' : ReadEnv Cred} (h : Alike env env') (inp : Inpcb Cred) (st st' : ReadState)
    (ha : Abreast st st') :
    (readBody env inp st).1 = (readBody env' inp st').1 ∧
      Abreast (readBody env inp st).2 (readBody env' inp st').2 := by
  have hpasses := h.passes inp
  unfold ReadEnv.passes at hpasses
  by_cases hroom : st'.uio.resid < TCP_STATS_RECORD_SIZE
  · rw [readBody, if_pos (by exact ha.room ▸ hroom), readBody, if_pos (by exact hroom)]
    exact ⟨rfl, ha.room, ha.count, ha.visited⟩
  rw [readBody, if_neg (by exact ha.room ▸ hroom), readBody, if_neg (by exact hroom)]
  simp only [visit_nsockets, inpNext_nsockets, ha.visited, h.check]
  rcases periodicCheck env' (st'.nsockets + 1) with _ | e
  swap
  · exact ⟨rfl, ha.room, ha.count, congrArg (· + 1) ha.visited⟩
  rcases hf : filterStages env.kern env.cred env.gencnt env.filter inp with ⟨_ | why, examined⟩
  · rcases hf' : filterStages env'.kern env'.cred env'.gencnt env'.filter inp with ⟨_ | why', examined'⟩
    · simp only [emitRecord, look_records, visit_records, inpNext_records, h.sched, ha.count]
      rcases env'.sched.uiomoveError st'.records.length with _ | e
      · refine ⟨rfl, ?_, ?_, ?_⟩
        · simp [uiomove, ha.room]
        · simp [ha.count]
        · simp [ha.visited]
      · exact ⟨rfl, ha.room, ha.count, congrArg (· + 1) ha.visited⟩
    · simp [hf, hf'] at hpasses
  · rcases hf' : filterStages env'.kern env'.cred env'.gencnt env'.filter inp with ⟨_ | why', examined'⟩
    · simp [hf, hf'] at hpasses
    · exact ⟨rfl, ha.room, ha.count, congrArg (· + 1) ha.visited⟩

/-- The whole loops. -/
theorem Alike.loop {env env' : ReadEnv Cred} (h : Alike env env') (inpcbs : List (Inpcb Cred)) (resid : ℕ) :
    (readLoop env inpcbs (readStart resid)).2.records.length =
      (readLoop env' inpcbs (readStart resid)).2.records.length := by
  obtain ⟨hexit, hst⟩ := scan_sim h.step inpcbs (readStart resid) (readStart resid) ⟨rfl, rfl, rfl⟩
  unfold readLoop
  rcases hs : scan (readBody env) inpcbs (readStart resid) with ⟨_ | e, st⟩
  · rcases hs' : scan (readBody env') inpcbs (readStart resid) with ⟨_ | e', st'⟩
    · rw [hs, hs'] at hst
      exact hst.count
    · rw [hs, hs'] at hexit
      cases hexit
  · rcases hs' : scan (readBody env') inpcbs (readStart resid) with ⟨_ | e', st'⟩
    · rw [hs, hs'] at hexit
      cases hexit
    · rw [hs, hs'] at hst
      exact hst.count

/-- What an admitted read returns is the bytes of as many records as it has counted. -/
theorem Outcome.moved_take {env : ReadEnv Cred} {resid : ℕ} {inpcbs : List (Inpcb Cred)} {sc : Softc Cred}
    {r : ReadResult Cred} {exit : Option Exit} {st : ReadState} (h : Outcome env resid inpcbs sc r exit st) :
    r.moved = ((env.recordsOf inpcbs).take st.records.length).flatMap TcpStatsRecord.bytes := by
  obtain ⟨pre, ⟨rest, rfl⟩, hp⟩ := h.loop.prefix_of
  obtain ⟨more, hmore⟩ := recordsOf_append env pre rest
  rw [h.moved, hp.moved, hmore, hp.records, List.take_left]

/-- Two reads that decide alike return the bytes of equally many records. -/
theorem reads_alike (k : Kernel Cred) (tun : Tunables) (tcb : Tcbinfo Cred) (sched : Schedule) (resid : ℕ)
    {sc sc' : Softc Cred} (g : Globals) (hdone : sc.scDone = sc'.scDone) (hlast : sc.scLastRead = sc'.scLastRead)
    (h : Alike (readEnv k tun tcb sched sc) (readEnv k tun tcb sched sc')) :
    ∃ n, (tcpstatsRead k tun tcb sched resid sc g).moved =
        (((readEnv k tun tcb sched sc).recordsOf tcb.inpcbs).take n).flatMap TcpStatsRecord.bytes ∧
      (tcpstatsRead k tun tcb sched resid sc' g).moved =
        (((readEnv k tun tcb sched sc').recordsOf tcb.inpcbs).take n).flatMap TcpStatsRecord.bytes := by
  have hsoon : tooSoon tun sc sched.now = tooSoon tun sc' sched.now := by simp only [tooSoon, hlast]
  rcases read_cases tun sched sc g with hd | href | hadm
  · refine ⟨0, ?_, ?_⟩
    · rw [tcpstatsRead_done k tun tcb sched resid g hd]
      rfl
    · rw [tcpstatsRead_done k tun tcb sched resid g (hdone ▸ hd)]
      rfl
  · refine ⟨0, ?_, ?_⟩
    · rw [tcpstatsRead_refused k tcb resid href]
      rfl
    · rw [tcpstatsRead_refused k tcb resid ⟨hdone ▸ href.unread, hsoon ▸ href.limit⟩]
      rfl
  · obtain ⟨exit, st, out⟩ := tcpstatsRead_outcome k tcb resid hadm
    have hadm' : Admitted tun sched sc' g := ⟨hdone ▸ hadm.unread, hadm.readers, hsoon ▸ hadm.interval⟩
    obtain ⟨exit', st', out'⟩ := tcpstatsRead_outcome k tcb resid hadm'
    have hcount := h.loop tcb.inpcbs resid
    rw [out.run, out'.run] at hcount
    exact ⟨st.records.length, out.moved_take, hcount ▸ out'.moved_take⟩

/-! ### The same filter with all fields -/

/-- Reads of two descriptors at one instant return the same bytes, whatever the limits, the buffer
and the rest of what the kernel answers. -/
def SameOutput (k : Kernel Cred) (tcb : Tcbinfo Cred) (now : Sbintime) (ticks : ℕ → UInt32)
    (sc sc' : Softc Cred) : Prop :=
  ∀ tun sched resid g, sched.now = now → sched.ticks = ticks →
    (tcpstatsRead k tun tcb sched resid sc g).moved = (tcpstatsRead k tun tcb sched resid sc' g).moved

/-- Every connection that the filter selects is bare when its turn comes, or not filled at all. -/
def AllBare (k : Kernel Cred) (tcb : Tcbinfo Cred) (cred : Cred) (now : Sbintime) (ticks : ℕ → UInt32)
    (f : TcpstatsFilter) : Prop :=
  ∀ n inp, (selected k tcb (reader cred f))[n]? = some inp →
    ∀ tp, inp.tcpcb = some tp → tp.tState ≠ TcpState.LISTEN → Bare tp now k.tick (ticks n)

/-- What is to be printed plays no part in the selection. -/
theorem selected_iff_of_fields {k : Kernel Cred} {cred : Cred} {gencnt : UInt64} {f : TcpstatsFilter}
    {inp : Inpcb Cred} (fieldMask format : UInt32) :
    Selected k cred gencnt { f with fieldMask, format } inp ↔ Selected k cred gencnt f inp :=
  ⟨fun h => ⟨h.1, h.2, h.3, h.4, h.5, h.6, h.7, h.8, h.9⟩, fun h => ⟨h.1, h.2, h.3, h.4, h.5, h.6, h.7, h.8, h.9⟩⟩

section Widened

variable (k : Kernel Cred) (tcb : Tcbinfo Cred) (cred : Cred) {f : TcpstatsFilter} (format : UInt32)
  (full full' : Bool)

theorem alike_widened (tun : Tunables) (sched : Schedule) (hl : f.localPrefixV6 ≤ 128)
    (hr : f.remotePrefixV6 ≤ 128) :
    Alike (readEnv k tun tcb sched ⟨cred, false, f, full, 0⟩)
      (readEnv k tun tcb sched ⟨cred, false, { f with fieldMask := TSR_FIELDS_ALL, format }, full', 0⟩) where
  sched := rfl
  deadline := rfl
  passes inp := by
    rw [Bool.eq_iff_iff, ReadEnv.passes, ReadEnv.passes, Option.isNone_iff_eq_none, Option.isNone_iff_eq_none]
    have hwide : (filterStages k cred tcb.ipiGencnt { f with fieldMask := TSR_FIELDS_ALL, format } inp).1 = none ↔
        _ := filterStages_none_iff hl hr
    exact (filterStages_none_iff hl hr).trans ((selected_iff_of_fields _ _).symm.trans hwide.symm)

theorem recordsOf_widened (tun : Tunables) (sched : Schedule) (hmask : f.fieldMask = TSR_FIELDS_DEFAULT)
    (hl : f.localPrefixV6 ≤ 128) (hr : f.remotePrefixV6 ≤ 128) :
    (readEnv k tun tcb sched ⟨cred, false, f, full, 0⟩).recordsOf tcb.inpcbs =
        (readEnv k tun tcb sched ⟨cred, false, { f with fieldMask := TSR_FIELDS_ALL, format }, full', 0⟩).recordsOf
          tcb.inpcbs ↔
      AllBare k tcb cred sched.now sched.ticks f := by
  have hsel : selected k tcb ⟨cred, false, { f with fieldMask := TSR_FIELDS_ALL, format }, full', 0⟩ =
      selected k tcb (reader cred f) := by
    classical
    exact List.filter_congr fun inp _ => decide_eq_decide.mpr (selected_iff_of_fields _ _)
  have hdefault : fieldGroups f = TSR_FIELDS_DEFAULT := by
    rw [fieldGroups, hmask]
    rfl
  rw [recordsOf_eq_selectedRecords hl hr, recordsOf_eq_selectedRecords hl hr, selectedRecords, selectedRecords, hsel]
  show (selected k tcb (reader cred f)).mapIdx _ = _ ↔ _
  rw [List.mapIdx_eq_mapIdx_iff]
  constructor
  · intro h n inp hn
    obtain ⟨hlt, rfl⟩ := List.getElem?_eq_some_iff.mp hn
    have := h n hlt
    dsimp only at this
    rw [hdefault] at this
    exact (freshRecord_eq_iff _ _ _ _).mp this
  · intro h n hlt
    dsimp only
    rw [hdefault]
    exact (freshRecord_eq_iff _ _ _ _).mpr (h n _ (List.getElem?_eq_getElem hlt))

/-- A descriptor whose filter has the default fields, against one with all of them. -/
theorem sameOutput_iff (now : Sbintime) (ticks : ℕ → UInt32) (hmask : f.fieldMask = TSR_FIELDS_DEFAULT)
    (hl : f.localPrefixV6 ≤ 128) (hr : f.remotePrefixV6 ≤ 128) :
    SameOutput k tcb now ticks ⟨cred, false, f, full, 0⟩
        ⟨cred, false, { f with fieldMask := TSR_FIELDS_ALL, format }, full', 0⟩ ↔
      AllBare k tcb cred now ticks f := by
  constructor
  · intro h
    -- a read without a deadline, with nothing that interrupts it and room for all
    let tun : Tunables := { Tunables.default with maxReadDurationMs := 0 }
    let sched : Schedule := { Sample.still with now, ticks }
    have hquiet : sched.Quiet (readDeadline tun sched.now) tcb.inpcbs.length :=
      ⟨fun _ _ => rfl, fun _ _ => .inl rfl, fun _ _ => rfl⟩
    have hall := h tun sched (TCP_STATS_RECORD_SIZE * tcb.inpcbs.length) Sample.glob rfl rfl
    have hadm : ∀ f' full', Admitted tun sched (⟨cred, false, f', full', 0⟩ : Softc Cred) Sample.glob :=
      fun _ _ => ⟨rfl, rfl, rfl⟩
    rw [← readAll, ← readAll, readAll_eq k (hadm _ _) hquiet, readAll_eq k (hadm _ _) hquiet] at hall
    exact (recordsOf_widened k tcb cred format full full' tun sched hmask hl hr).mp (flatMap_bytes_injective hall)
  · intro h tun sched resid g hnow hticks
    have halike := alike_widened k tcb cred format full full' tun sched hl hr
    obtain ⟨n, hmoved, hmoved'⟩ := reads_alike k tun tcb sched resid g (by rfl) (by rfl) halike
    subst hnow hticks
    rw [hmoved, hmoved', (recordsOf_widened k tcb cred format full full' tun sched hmask hl hr).mpr h]

end Widened

/-! ### Filter strings -/

/-- Only one directive writes the field mask. -/
theorem Effect.fieldMask {token : CStr} {f f' : TcpstatsFilter} (he : Effect token f f')
    (hkey : directiveKey token ≠ cstr "fields") : f'.fieldMask = f.fieldMask := by
  cases he with
  | ipv4Only _ _ hf => rw [hf]
  | ipv6Only _ _ hf => rw [hf]
  | exclude value _ _ h =>
    obtain ⟨-, mask, -, rfl⟩ := tsfParseExcludeList_iff.mp h
    rfl
  | format value _ _ h =>
    obtain ⟨format, -, rfl⟩ := tsfParseFormat_iff.mp h
    rfl
  | fields value hk => exact absurd hk hkey
  | includeState value _ _ h =>
    obtain ⟨-, -, mask, -, -, rfl⟩ := tsfParseIncludeStateList_iff.mp h
    rfl
  | localPort value ports flags _ _ _ hf => rw [hf]
  | remotePort value ports flags _ _ _ hf => rw [hf]
  | localAddr value _ _ h =>
    cases (tsfParseAddr_iff.mp h).2 with
    | localV6 _ _ _ _ _ hf => rw [hf]
    | remoteV6 _ _ _ _ _ hf => rw [hf]
    | localV4 _ _ _ _ _ hf => rw [hf]
    | remoteV4 _ _ _ _ _ hf => rw [hf]
  | remoteAddr value _ _ h =>
    cases (tsfParseAddr_iff.mp h).2 with
    | localV6 _ _ _ _ _ hf => rw [hf]
    | remoteV6 _ _ _ _ _ hf => rw [hf]
    | localV4 _ _ _ _ _ hf => rw [hf]
    | remoteV4 _ _ _ _ _ hf => rw [hf]

/-- Directives without it leave the default fields. -/
theorem fieldMask_of_parseDirectives {tokens : List CStr} {f : TcpstatsFilter}
    (h : parseDirectives tokens .default = .ok f) (hkeys : ∀ token ∈ tokens, directiveKey token ≠ cstr "fields") :
    f.fieldMask = TSR_FIELDS_DEFAULT := by
  refine parseDirectives_inv (I := fun pre f => (∀ token ∈ pre, directiveKey token ≠ cstr "fields") →
    f.fieldMask = TSR_FIELDS_DEFAULT) h (fun _ => rfl) ?_ hkeys
  intro pre token f f' hI he hpre
  rw [he.fieldMask (hpre token (by simp))]
  exact hI fun token hmem => hpre token (by simp [hmem])

/-- What the two words say. -/
theorem tsfParseDirective_full (f : TcpstatsFilter) :
    tsfParseDirective (cstr "format=full") f = .ok { f with format := TSF_FORMAT_FULL } := rfl

theorem tsfParseDirective_all (f : TcpstatsFilter) :
    tsfParseDirective (cstr "fields=all") f = .ok { f with fieldMask := TSR_FIELDS_ALL } := rfl

/-- A string is accepted with the one word behind it whenever it is with the other, and then the
filters differ in what the words say. -/
theorem parse_all_of_full {s : CStr} {f : TcpstatsFilter} (hs : 0 ∉ s)
    (h : tsfParseFilterString (s ++ cstr " format=full") = .ok f) :
    ∃ g, parseDirectives (directives s) .default = .ok g ∧ f = { g with format := TSF_FORMAT_FULL } ∧
      tsfParseFilterString (s ++ cstr " fields=all") = .ok { g with fieldMask := TSR_FIELDS_ALL } := by
  have hfull : directives (s ++ cstr " format=full") = directives s ++ [cstr "format=full"] :=
    directives_append hs (by decide) (by decide) (by decide +kernel)
  have hall : directives (s ++ cstr " fields=all") = directives s ++ [cstr "fields=all"] :=
    directives_append hs (by decide) (by decide) (by decide +kernel)
  have hzero : ∀ w, 0 ∉ w → (s ++ w).head? ≠ some 0 := fun w hw hhead =>
    (List.mem_append.mp (List.mem_of_head? hhead)).elim hs hw
  obtain ⟨hlen, hprint, hmany, hdir, hvalid⟩ := (tsfParseFilterString_ok_iff (hzero _ (by decide))).mp h
  rw [hfull, List.length_append, List.length_singleton] at hmany
  rw [hfull] at hdir
  obtain ⟨g, hg, hword⟩ := parseDirectives_append.mp hdir
  obtain ⟨f', hf', hword⟩ := bind_eq_ok.mp hword
  rw [tsfParseDirective_full] at hf'
  obtain rfl := Except.ok.inj hf'
  obtain rfl := Except.ok.inj hword
  refine ⟨g, hg, rfl, (tsfParseFilterString_ok_iff (hzero _ (by decide))).mpr ⟨?_, ?_, ?_, ?_, hvalid⟩⟩
  · have hle : (cstr " fields=all").length ≤ (cstr " format=full").length := by decide
    rw [List.length_append] at hlen ⊢
    omega
  · rw [List.find?_append, Option.or_eq_none_iff] at hprint ⊢
    exact ⟨hprint.1, by decide⟩
  · rw [hall, List.length_append, List.length_singleton]
    exact hmany
  · rw [hall]
    exact parseDirectives_append.mpr ⟨g, hg, bind_eq_ok.mpr ⟨_, tsfParseDirective_all g, rfl⟩⟩

/-! ### The two ways to ask for everything -/

/-- What is read from `/dev/tcpstats-full`, and through a profile with `format=full`, is what is read
with `fields=all` exactly if every selected connection that is filled is bare. -/
theorem fullOutput_iff (k : Kernel Cred) (tcb : Tcbinfo Cred) (cred : Cred) (now : Sbintime)
    (ticks : ℕ → UInt32) :
    (∀ tun fwrite cdevpriv g sc g', tcpstatsOpen tun .tcpstatsFull fwrite cred cdevpriv g = (.ok sc, g') →
      ∃ all, tsfParseFilterString (cstr "fields=all") = .ok all ∧
        (SameOutput k tcb now ticks sc ((OpenVia.profile all).softc cred) ↔
          AllBare k tcb cred now ticks .default)) ∧
    ∀ s f, 0 ∉ s → (∀ token ∈ directives s, directiveKey token ≠ cstr "fields") →
      tsfParseFilterString (s ++ cstr " format=full") = .ok f →
      ∃ all, tsfParseFilterString (s ++ cstr " fields=all") = .ok all ∧
        (SameOutput k tcb now ticks ((OpenVia.profile f).softc cred) ((OpenVia.profile all).softc cred) ↔
          AllBare k tcb cred now ticks f) := by
  constructor
  · intro tun fwrite cdevpriv g sc g' hopen
    refine ⟨{ TcpstatsFilter.default with fieldMask := TSR_FIELDS_ALL }, by decide, ?_⟩
    obtain rfl : sc = (OpenVia.static .tcpstatsFull).softc cred := by
      unfold tcpstatsOpen at hopen
      split_ifs at hopen
      · cases (Prod.mk.inj hopen).1
      · cases (Prod.mk.inj hopen).1
      · rcases cdevpriv with _ | e
        · exact (Except.ok.inj (Prod.mk.inj hopen).1).symm
        · cases (Prod.mk.inj hopen).1
    exact sameOutput_iff k tcb cred TSF_FORMAT_COMPACT true _ now ticks rfl (by decide) (by decide)
  · intro s f hs hkeys h
    have hformed := wellFormed_of_parse h
    obtain ⟨g, hg, rfl, hall⟩ := parse_all_of_full hs h
    have hmask : g.fieldMask = TSR_FIELDS_DEFAULT := fieldMask_of_parseDirectives hg hkeys
    exact ⟨_, hall, sameOutput_iff k tcb cred g.format _ _ now ticks hmask hformed.localAddr.prefix_le
      hformed.remoteAddr.prefix_le⟩

/-- An established connection in which nothing has happened but for the next sequence number. -/
def Sample.sending (sndNxt : UInt32) : Inpcb ℕ :=
  { Sample.inpcb 1 INP_IPV4 5 with
    tcpcb := some { Sample.tcpcb TcpState.ESTABLISHED with sndNxt } }

/-- The sequence number of a connection is missing in what both ways to ask for everything return. -/
theorem full_lacks_sequences :
    let bytes : Softc ℕ → List UInt8 := fun sc =>
      (tcpstatsRead Sample.kern .default (Sample.table [Sample.sending 1]) Sample.still 320 sc Sample.glob).moved
    ∃ sc g full all, tcpstatsOpen .default .tcpstatsFull false 0 none Sample.glob = (.ok sc, g) ∧
      tsfParseFilterString (cstr "format=full") = .ok full ∧
      tsfParseFilterString (cstr "fields=all") = .ok all ∧
      bytes sc ≠ bytes ((OpenVia.profile all).softc 0) ∧
      bytes ((OpenVia.profile full).softc 0) ≠ bytes ((OpenVia.profile all).softc 0) := by
  refine ⟨_, _, { TcpstatsFilter.default with format := TSF_FORMAT_FULL },
    { TcpstatsFilter.default with fieldMask := TSR_FIELDS_ALL }, rfl, by decide, by decide, ?_, ?_⟩
  · decide +kernel
  · decide +kernel

/-- A connection that has done nothing yet, within a millisecond of its last data, makes no difference. -/
theorem fullOutput_iff_idle :
    ∃ f all, tsfParseFilterString (cstr "local_port=443" ++ cstr " format=full") = .ok f ∧
      tsfParseFilterString (cstr "local_port=443" ++ cstr " fields=all") = .ok all ∧
      SameOutput Sample.kern (Sample.table [Sample.sending 0]) SBT_1S (fun _ => 0)
        ((OpenVia.profile f).softc 0) ((OpenVia.profile all).softc 0) := by
  have hbare : Bare { Sample.tcpcb TcpState.ESTABLISHED with sndNxt := 0 } SBT_1S 1000 0 := by
    refine ⟨⟨rfl, rfl, rfl, rfl, rfl⟩, ⟨nofun, nofun⟩, ⟨rfl, rfl, rfl, rfl, rfl⟩, ⟨by decide, rfl, rfl⟩, ⟨rfl, rfl⟩,
      ⟨rfl, rfl⟩, fun i => .inr (.inl ?_), by decide⟩
    change (Vector.replicate 5 (0 : Sbintime))[i] = 0
    simp
  obtain ⟨f, hf⟩ : ∃ f, tsfParseFilterString (cstr "local_port=443" ++ cstr " format=full") = .ok f := ⟨_, rfl⟩
  obtain ⟨all, hall, hiff⟩ := (fullOutput_iff Sample.kern (Sample.table [Sample.sending 0]) 0 SBT_1S
    (fun _ => 0)).2 (cstr "local_port=443") f (by decide) (by decide) hf
  refine ⟨f, all, hf, hall, hiff.mpr ?_⟩
  intro n inp hn tp htp _
  have hmem := List.filter_subset_self _ (List.mem_of_getElem? hn)
  obtain rfl := List.mem_singleton.mp hmem
  obtain rfl := Option.some.inj htp
  exact hbare

end TcpStats
