import TcpStats.Device.ReadSpec
import TcpStats.Lib.Machine

/-!
# A descriptor over several calls

What a process sees that reads and resets one descriptor again and again. A read marks
the descriptor finished however it ends, so that the ones after it return nothing until
`TCPSTATS_RESET`: the data end after the first buffer (`reads_deliver_first`), and a read
that the deadline cuts short ends them too (`cut_short`), while one that is refused leaves
them to be read. Connections that the opener may not see have no influence on any of it
(`answers_eq_of_visible_eq`).
-/

namespace TcpStats

open Machine

variable {Cred : Type}

/-! ### Calls -/

/-- A call on a descriptor. -/
inductive FdOp where
  /-- `read` of `resid` bytes, with what the kernel answers meanwhile. -/
  | read (resid : ℕ) (sched : Schedule)
  /-- `ioctl(TCPSTATS_RESET)`. -/
  | reset

/-- What a call returns: the error, none for success, and the bytes. -/
abbrev Reply := Option Errno × List UInt8

/-- What a call works on. -/
structure FdState (Cred : Type) where
  sc : Softc Cred
  glob : Globals

/-- A call on a descriptor, over a fixed table. -/
def fdStep (k : Kernel Cred) (tun : Tunables) (tcb : Tcbinfo Cred) : FdOp → FdState Cred →
    Reply × FdState Cred
  | .read resid sched, s =>
    let r := tcpstatsRead k tun tcb sched resid s.sc s.glob
    ((r.error, r.moved), ⟨r.sc, r.glob⟩)
  | .reset, s =>
    let (error, sc, _) := tcpstatsIoctl tcb .reset s.sc
    ((error, []), ⟨sc, s.glob⟩)

/-! ### Records as bytes -/

theorem flatMap_bytes_take (n : ℕ) (rs : List TcpStatsRecord) :
    (rs.take n).flatMap TcpStatsRecord.bytes =
      (rs.flatMap TcpStatsRecord.bytes).take (TCP_STATS_RECORD_SIZE * n) := by
  induction n generalizing rs with
  | zero => simp
  | succ n ih =>
    cases rs with
    | nil => simp
    | cons r rs =>
      have : TCP_STATS_RECORD_SIZE * (n + 1) = r.bytes.length + TCP_STATS_RECORD_SIZE * n := by
        rw [TcpStatsRecord.length_bytes, Nat.mul_succ, Nat.add_comm]
      rw [List.take_succ_cons, List.flatMap_cons, List.flatMap_cons, this, List.take_length_add_append, ih]

/-- What an admitted and quiet read answers. -/
theorem tcpstatsRead_quiet (k : Kernel Cred) {tun : Tunables} {tcb : Tcbinfo Cred} {sched : Schedule}
    (resid : ℕ) {sc : Softc Cred} {g : Globals} (hadm : Admitted tun sched sc g)
    (hq : sched.Quiet (readDeadline tun sched.now) tcb.inpcbs.length) :
    (tcpstatsRead k tun tcb sched resid sc g).error = none ∧
      (tcpstatsRead k tun tcb sched resid sc g).moved =
        (((readEnv k tun tcb sched sc).recordsOf tcb.inpcbs).take
          (resid / TCP_STATS_RECORD_SIZE)).flatMap TcpStatsRecord.bytes ∧
      (tcpstatsRead k tun tcb sched resid sc g).sc = sc.finish sched.now := by
  obtain ⟨exit, st, out⟩ := tcpstatsRead_outcome k tcb resid hadm
  obtain ⟨hexit, htake⟩ := out.loop.quiet hq
  obtain ⟨pre, -, hp⟩ := out.loop.prefix_of
  refine ⟨out.error.trans hexit, ?_, out.softc⟩
  rw [out.moved, hp.moved, htake]

/-! ### Reading on -/

/-- What a process puts together that reads until a read returns nothing. -/
def untilEof (rs : List Reply) : List UInt8 := (rs.takeWhile (· ≠ (none, []))).flatMap Prod.snd

/-- The bytes of a read of a buffer with room for everything. -/
def readAll (k : Kernel Cred) (tun : Tunables) (tcb : Tcbinfo Cred) (sched : Schedule) (sc : Softc Cred)
    (g : Globals) : List UInt8 :=
  (tcpstatsRead k tun tcb sched (TCP_STATS_RECORD_SIZE * tcb.inpcbs.length) sc g).moved

theorem readAll_eq (k : Kernel Cred) {tun : Tunables} {tcb : Tcbinfo Cred} {sched : Schedule}
    {sc : Softc Cred} {g : Globals} (hadm : Admitted tun sched sc g)
    (hq : sched.Quiet (readDeadline tun sched.now) tcb.inpcbs.length) :
    readAll k tun tcb sched sc g =
      ((readEnv k tun tcb sched sc).recordsOf tcb.inpcbs).flatMap TcpStatsRecord.bytes := by
  rw [readAll, (tcpstatsRead_quiet k _ hadm hq).2.1, Nat.mul_div_cancel_left _ (by decide),
    List.take_of_length_le (length_recordsOf_le _ _)]

/-- Once a descriptor is finished, reads return nothing. -/
theorem answers_done (k : Kernel Cred) (tun : Tunables) (tcb : Tcbinfo Cred) (reads : List (ℕ × Schedule))
    {s : FdState Cred} (h : s.sc.scDone = true) :
    answers (fdStep k tun tcb) (reads.map fun r => .read r.1 r.2) s =
      List.replicate reads.length (none, []) := by
  rw [answers_const (I := fun s => s.sc.scDone = true) (o := (none, [])) ?_ h, List.length_map]
  intro op hop s hs
  obtain ⟨r, -, rfl⟩ := List.mem_map.mp hop
  simp [fdStep, tcpstatsRead_done k tun tcb r.2 r.1 s.glob hs, hs]

/-- The data that reads of a descriptor deliver end after the first one: they are the
records that fit into its buffer, all of the records exactly if they all fit. -/
theorem reads_deliver_first (k : Kernel Cred) (tun : Tunables) (tcb : Tcbinfo Cred) (sc : Softc Cred)
    (g : Globals) (size : ℕ) (sched : Schedule) (more : List (ℕ × Schedule))
    (hadm : Admitted tun sched sc g)
    (hq : sched.Quiet (readDeadline tun sched.now) tcb.inpcbs.length) :
    let replies := answers (fdStep k tun tcb) (((size, sched) :: more).map fun r => .read r.1 r.2) ⟨sc, g⟩
    untilEof replies =
        (readAll k tun tcb sched sc g).take (TCP_STATS_RECORD_SIZE * (size / TCP_STATS_RECORD_SIZE)) ∧
      replies.tail = List.replicate more.length (none, []) ∧
      (untilEof replies = readAll k tun tcb sched sc g ↔ (readAll k tun tcb sched sc g).length ≤ size) := by
  intro replies
  obtain ⟨herr, hmoved, hsc⟩ := tcpstatsRead_quiet k size hadm hq
  have hall := readAll_eq k hadm hq
  have hrest : answers (fdStep k tun tcb) (more.map fun r => .read r.1 r.2)
      (fdStep k tun tcb (.read size sched) ⟨sc, g⟩).2 = List.replicate more.length (none, []) :=
    answers_done k tun tcb more (by simp [fdStep, hsc, Softc.finish])
  have hreplies : replies =
      (none, (tcpstatsRead k tun tcb sched size sc g).moved) :: List.replicate more.length (none, []) := by
    show (fdStep k tun tcb (.read size sched) ⟨sc, g⟩).1 :: answers _ _ _ = _
    rw [hrest]
    simp [fdStep, herr]
  have huntil : untilEof replies =
      (readAll k tun tcb sched sc g).take (TCP_STATS_RECORD_SIZE * (size / TCP_STATS_RECORD_SIZE)) := by
    rw [hall, ← flatMap_bytes_take, ← hmoved, hreplies, untilEof]
    rcases (tcpstatsRead k tun tcb sched size sc g).moved with _ | ⟨b, bs⟩
    · simp
    · simp
  refine ⟨huntil, by rw [hreplies]; rfl, ?_⟩
  have hlen : (readAll k tun tcb sched sc g).length =
      TCP_STATS_RECORD_SIZE * ((readEnv k tun tcb sched sc).recordsOf tcb.inpcbs).length := by
    rw [hall, length_flatMap_bytes]
  rw [huntil, List.take_eq_self_iff, hlen, Nat.mul_le_mul_left_iff (by decide),
    Nat.le_div_iff_mul_le (by decide), Nat.mul_comm]

/-- Three reads of one record each, on a table of two connections, miss the second one. -/
theorem reads_lose_second : untilEof (answers (fdStep Sample.kern .default Sample.two)
      [.read 320 Sample.still, .read 320 Sample.still, .read 320 Sample.still]
      ⟨Sample.fresh .default, Sample.glob⟩) ≠
    readAll Sample.kern .default Sample.two Sample.still (Sample.fresh .default) Sample.glob := by
  decide +kernel

/-- One read of two records delivers them both. -/
theorem reads_deliver_first_two :
    untilEof (answers (fdStep Sample.kern .default Sample.two)
      [.read 700 Sample.still, .read 320 Sample.still] ⟨Sample.fresh .default, Sample.glob⟩) =
    readAll Sample.kern .default Sample.two Sample.still (Sample.fresh .default) Sample.glob :=
  (reads_deliver_first Sample.kern .default Sample.two (Sample.fresh .default) Sample.glob 700
    Sample.still [(320, Sample.still)] ⟨rfl, rfl, rfl⟩ (Sample.still_quiet _)).2.2.mpr (by decide +kernel)

/-! ### Reads that end early -/

/-- The loop of the read is left by an exit. -/
def ExitTaken (k : Kernel Cred) (tun : Tunables) (tcb : Tcbinfo Cred) (sched : Schedule) (resid : ℕ)
    (sc : Softc Cred) (e : Exit) : Prop :=
  (readLoop (readEnv k tun tcb sched sc) tcb.inpcbs (readStart resid)).1 = some e

instance (k : Kernel Cred) (tun : Tunables) (tcb : Tcbinfo Cred) (sched : Schedule) (resid : ℕ)
    (sc : Softc Cred) (e : Exit) : Decidable (ExitTaken k tun tcb sched resid sc e) :=
  inferInstanceAs (Decidable (_ = _))

theorem Outcome.exit_eq {k : Kernel Cred} {tun : Tunables} {tcb : Tcbinfo Cred} {sched : Schedule}
    {resid : ℕ} {sc : Softc Cred} {r : ReadResult Cred} {exit : Option Exit} {st : ReadState} {e : Exit}
    (h : Outcome (readEnv k tun tcb sched sc) resid tcb.inpcbs sc r exit st)
    (he : ExitTaken k tun tcb sched resid sc e) : exit = some e := by
  rw [ExitTaken, h.run] at he
  exact he

/-- The periodic check is not about the buffer. -/
theorem periodicCheck_ne_full (env : ReadEnv Cred) (n : ℕ) : periodicCheck env n ≠ some .full := by
  simp only [periodicCheck]
  split_ifs <;> simp

/-- A read that the deadline does not cut short, with room for a record, does not report the
end of the data while there is a connection to report. -/
theorem tcpstatsRead_not_eof (k : Kernel Cred) {tun : Tunables} {tcb : Tcbinfo Cred} {sched : Schedule}
    {resid : ℕ} {sc : Softc Cred} {g : Globals} (hadm : Admitted tun sched sc g)
    (hroom : TCP_STATS_RECORD_SIZE ≤ resid) (hdl : ¬ ExitTaken k tun tcb sched resid sc .timedOut)
    (hsome : ∃ inp ∈ tcb.inpcbs, (readEnv k tun tcb sched sc).passes inp = true) :
    ¬ ((tcpstatsRead k tun tcb sched resid sc g).error = none ∧
      (tcpstatsRead k tun tcb sched resid sc g).moved = []) := by
  rintro ⟨herr, hmoved⟩
  obtain ⟨exit, st, out⟩ := tcpstatsRead_outcome k tcb resid hadm
  rw [out.error] at herr
  obtain ⟨pre, -, hp⟩ := out.loop.prefix_of
  have hnone : st.records.length = 0 := by
    have hlen := length_flatMap_bytes st.records
    rw [← hp.moved, ← out.moved, hmoved, List.length_nil] at hlen
    have := Nat.mul_eq_zero.mp hlen.symm
    exact this.resolve_left (by decide)
  have hrun := out.run
  cases out.loop with
  | finished hp =>
    obtain ⟨inp, hmem, hpass⟩ := hsome
    have : 0 < (tcb.inpcbs.filter (readEnv k tun tcb sched sc).passes).length :=
      List.length_pos_of_mem (List.mem_filter.mpr ⟨hmem, hpass⟩)
    rw [hp.records, ReadEnv.recordsOf, List.length_mapIdx] at hnone
    omega
  | @stopped _ _ _ _ e _ hp hs =>
    cases hs with
    | full hfull =>
      have := hp.room
      rw [hnone] at this
      omega
    | check hc =>
      cases e with
      | full => exact periodicCheck_ne_full _ _ hc
      | timedOut => exact hdl (by rw [ExitTaken, hrun])
      | failed e => cases herr
    | fault _ _ => cases herr

/-- What becomes of a read that ends early. One that is refused leaves the data to be read:
the next that is admitted does not report their end while there is something to report. One
that the deadline stops succeeds with the records so far and ends the data: reads return
nothing until `TCPSTATS_RESET`, which makes the descriptor as good as fresh. One that a
signal or a failed copy-out stops returns the error. -/
theorem early_end (k : Kernel Cred) (tun : Tunables) (tcb : Tcbinfo Cred) (sched : Schedule)
    (resid : ℕ) (sc : Softc Cred) (g : Globals) :
    let r := tcpstatsRead k tun tcb sched resid sc g
    (Refused tun sched sc g →
      r.error = some .EBUSY ∧ r.sc = sc ∧
        ∀ tun' tcb' sched' resid' g', Admitted tun' sched' r.sc g' → TCP_STATS_RECORD_SIZE ≤ resid' →
          ¬ ExitTaken k tun' tcb' sched' resid' r.sc .timedOut →
          (∃ inp ∈ tcb'.inpcbs, (readEnv k tun' tcb' sched' r.sc).passes inp = true) →
          ¬ ((tcpstatsRead k tun' tcb' sched' resid' r.sc g').error = none ∧
            (tcpstatsRead k tun' tcb' sched' resid' r.sc g').moved = [])) ∧
      (Admitted tun sched sc g → ExitTaken k tun tcb sched resid sc .timedOut →
        r.error = none ∧
          (∃ pre, pre <+: tcb.inpcbs ∧
            r.moved = ((readEnv k tun tcb sched sc).recordsOf pre).flatMap TcpStatsRecord.bytes) ∧
          (∀ tun' tcb' sched' resid' g', (tcpstatsRead k tun' tcb' sched' resid' r.sc g').error = none ∧
            (tcpstatsRead k tun' tcb' sched' resid' r.sc g').moved = []) ∧
          (tcpstatsIoctl tcb .reset r.sc).2.1 = { sc with scDone := false, scLastRead := sched.now }) ∧
      ∀ e, Admitted tun sched sc g → ExitTaken k tun tcb sched resid sc (.failed e) →
        r.error = some e := by
  intro r
  refine ⟨?_, ?_, ?_⟩
  · intro href
    have hr : r = ⟨some .EBUSY, [], [], [], sc, g⟩ := tcpstatsRead_refused k tcb resid href
    rw [hr]
    refine ⟨rfl, rfl, ?_⟩
    intro tun' tcb' sched' resid' g' hadm hroom hdl hsome
    exact tcpstatsRead_not_eof k hadm hroom hdl hsome
  · intro hadm hdl
    obtain ⟨exit, st, out⟩ := tcpstatsRead_outcome k tcb resid hadm
    obtain rfl := out.exit_eq hdl
    obtain ⟨pre, hpre, hp⟩ := out.loop.prefix_of
    have hsc : r.sc = sc.finish sched.now := out.softc
    refine ⟨out.error, ⟨pre, hpre, ?_⟩, ?_, ?_⟩
    · rw [← hp.records, ← hp.moved]
      exact out.moved
    · intro tun' tcb' sched' resid' g'
      rw [tcpstatsRead_done k tun' tcb' sched' resid' g' (by rw [hsc]; rfl)]
      exact ⟨rfl, rfl⟩
    · rw [hsc]
      rfl
  · intro e hadm he
    obtain ⟨exit, st, out⟩ := tcpstatsRead_outcome k tcb resid hadm
    obtain rfl := out.exit_eq he
    exact out.error

/-- A table of 1024 connections newer than the snapshot and an older one behind them. -/
def Sample.long : Tcbinfo ℕ :=
  table (List.replicate TSF_CHECK_INTERVAL (inpcb 1 INP_IPV4 8) ++ [inpcb 1 INP_IPV4 5])

/-- A clock that is past the deadline at the first check. -/
def Sample.late : Schedule := { still with checkTime := fun _ => SBT_1S * 100 }

/-- A read that the deadline stops before the last connection, and the read after it, which
reports the end of the data. -/
theorem deadline_ends_data :
    let r := tcpstatsRead Sample.kern .default Sample.long Sample.late 640 (Sample.fresh .default) Sample.glob
    let r' := tcpstatsRead Sample.kern .default Sample.long Sample.still 640 r.sc Sample.glob
    ExitTaken Sample.kern .default Sample.long Sample.late 640 (Sample.fresh .default) .timedOut ∧
      (readEnv Sample.kern .default Sample.long Sample.late (Sample.fresh .default)).passes
        (Sample.inpcb 1 INP_IPV4 5) = true ∧
      r.records = [] ∧ r'.error = none ∧ r'.moved = [] := by
  decide +kernel

/-- After that read nothing more is delivered, whatever the table holds. -/
theorem early_end_long : ∀ tun' tcb' sched' resid' g',
    (tcpstatsRead Sample.kern tun' tcb' sched' resid'
      (tcpstatsRead Sample.kern .default Sample.long Sample.late 640 (Sample.fresh .default)
        Sample.glob).sc g').moved = [] := by
  intro tun' tcb' sched' resid' g'
  have hit : ExitTaken Sample.kern .default Sample.long Sample.late 640 (Sample.fresh .default)
      .timedOut := by
    decide +kernel
  have ends := (early_end Sample.kern .default Sample.long Sample.late 640 (Sample.fresh .default)
    Sample.glob).2.1 ⟨rfl, rfl, rfl⟩ hit
  exact (ends.2.2.1 tun' tcb' sched' resid' g').2

/-! ### What the opener may not see -/

/-- The connections of a table that a credential may see. -/
def Tcbinfo.visible (k : Kernel Cred) (cred : Cred) (tcb : Tcbinfo Cred) : List (Inpcb Cred) :=
  tcb.inpcbs.filter fun inp => k.crCanseeinpcb cred inp = 0

/-- The selected connections are among the visible ones. -/
theorem selected_eq_visible_filter (k : Kernel Cred) (tcb : Tcbinfo Cred) (sc : Softc Cred) :
    ∃ p : Inpcb Cred → Bool, (∀ tcb' : Tcbinfo Cred, tcb'.ipiGencnt = tcb.ipiGencnt →
      selected k tcb' sc = (tcb'.visible k sc.scCred).filter p) := by
  classical
  refine ⟨fun inp => Selected k sc.scCred tcb.ipiGencnt sc.scFilter inp, fun tcb' hgen => ?_⟩
  rw [selected, Tcbinfo.visible, List.filter_filter, hgen]
  refine List.filter_congr fun inp _ => ?_
  by_cases h : Selected k sc.scCred tcb.ipiGencnt sc.scFilter inp
  · simp [h, h.visible]
  · simp [h]

/-- The records of two tables with the same visible connections. -/
theorem selectedRecords_eq_of_visible_eq {k : Kernel Cred} {t₁ t₂ : Tcbinfo Cred} (sched : Schedule)
    {sc : Softc Cred} (hvis : t₁.visible k sc.scCred = t₂.visible k sc.scCred)
    (hgen : t₁.ipiGencnt = t₂.ipiGencnt) :
    selectedRecords k t₁ sched sc = selectedRecords k t₂ sched sc := by
  obtain ⟨p, hp⟩ := selected_eq_visible_filter k t₂ sc
  rw [selectedRecords, selectedRecords, hp t₁ hgen, hp t₂ rfl, hvis]

/-- A read leaves the number of active readers as it was. -/
theorem tcpstatsRead_activeReaders (k : Kernel Cred) (tun : Tunables) (tcb : Tcbinfo Cred)
    (sched : Schedule) (resid : ℕ) (sc : Softc Cred) (g : Globals) :
    (tcpstatsRead k tun tcb sched resid sc g).glob.activeReaders = g.activeReaders := by
  unfold tcpstatsRead
  split_ifs <;> rfl

/-- One read, over two tables with the same visible connections. -/
theorem tcpstatsRead_eq_of_visible_eq {k : Kernel Cred} {tun : Tunables} {t₁ t₂ : Tcbinfo Cred}
    {sched : Schedule} {sc : Softc Cred} {g g' : Globals} (resid : ℕ)
    (hvis : t₁.visible k sc.scCred = t₂.visible k sc.scCred) (hgen : t₁.ipiGencnt = t₂.ipiGencnt)
    (hl : sc.scFilter.localPrefixV6 ≤ 128) (hr : sc.scFilter.remotePrefixV6 ≤ 128)
    (hg : g.activeReaders = g'.activeReaders)
    (hq₁ : sched.Quiet (readDeadline tun sched.now) t₁.inpcbs.length)
    (hq₂ : sched.Quiet (readDeadline tun sched.now) t₂.inpcbs.length) :
    (tcpstatsRead k tun t₁ sched resid sc g).error = (tcpstatsRead k tun t₂ sched resid sc g').error ∧
      (tcpstatsRead k tun t₁ sched resid sc g).moved = (tcpstatsRead k tun t₂ sched resid sc g').moved ∧
      (tcpstatsRead k tun t₁ sched resid sc g).sc = (tcpstatsRead k tun t₂ sched resid sc g').sc := by
  have hlimit : tooManyReaders tun g = tooManyReaders tun g' := by
    rw [tooManyReaders, tooManyReaders, hg]
  rcases read_cases tun sched sc g with hd | href | hadm
  · simp [tcpstatsRead_done k tun _ sched resid _ hd]
  · have href' : Refused tun sched sc g' := ⟨href.unread, hlimit ▸ href.limit⟩
    simp [tcpstatsRead_refused k _ resid href, tcpstatsRead_refused k _ resid href']
  · have hadm' : Admitted tun sched sc g' := ⟨hadm.unread, hlimit ▸ hadm.readers, hadm.interval⟩
    obtain ⟨herr, hmoved, hsc⟩ := tcpstatsRead_quiet k resid hadm hq₁
    obtain ⟨herr', hmoved', hsc'⟩ := tcpstatsRead_quiet k resid hadm' hq₂
    rw [recordsOf_eq_selectedRecords hl hr, selectedRecords_eq_of_visible_eq sched hvis hgen] at hmoved
    rw [recordsOf_eq_selectedRecords hl hr] at hmoved'
    exact ⟨herr.trans herr'.symm, hmoved.trans hmoved'.symm, hsc.trans hsc'.symm⟩

/-- Nothing a read does changes whose descriptor it is, or the filter. -/
theorem tcpstatsRead_sc (k : Kernel Cred) (tun : Tunables) (tcb : Tcbinfo Cred) (sched : Schedule)
    (resid : ℕ) (sc : Softc Cred) (g : Globals) :
    (tcpstatsRead k tun tcb sched resid sc g).sc.scCred = sc.scCred ∧
      (tcpstatsRead k tun tcb sched resid sc g).sc.scFilter = sc.scFilter := by
  unfold tcpstatsRead
  split_ifs <;> exact ⟨rfl, rfl⟩

/-- Two states of one descriptor that differ in the counters of the module only. -/
structure SameFd (cred : Cred) (f : TcpstatsFilter) (s t : FdState Cred) : Prop where
  sc : s.sc = t.sc
  readers : s.glob.activeReaders = t.glob.activeReaders
  owner : s.sc.scCred = cred
  filt : s.sc.scFilter = f

/-- One call, over two tables with the same visible connections. -/
theorem fdStep_congr {k : Kernel Cred} {tun : Tunables} {t₁ t₂ : Tcbinfo Cred} {cred : Cred}
    {f : TcpstatsFilter} (hvis : t₁.visible k cred = t₂.visible k cred)
    (hgen : t₁.ipiGencnt = t₂.ipiGencnt) (hl : f.localPrefixV6 ≤ 128) (hr : f.remotePrefixV6 ≤ 128)
    {op : FdOp}
    (hq : ∀ resid sched, op = .read resid sched →
      sched.Quiet (readDeadline tun sched.now) t₁.inpcbs.length ∧
        sched.Quiet (readDeadline tun sched.now) t₂.inpcbs.length)
    {s t : FdState Cred} (h : SameFd cred f s t) :
    (fdStep k tun t₁ op s).1 = (fdStep k tun t₂ op t).1 ∧
      SameFd cred f (fdStep k tun t₁ op s).2 (fdStep k tun t₂ op t).2 := by
  obtain ⟨sc, g⟩ := s
  obtain ⟨sc', g'⟩ := t
  obtain ⟨hsc, hg, howner, hfilt⟩ := h
  dsimp only at hsc hg howner hfilt
  subst hsc howner hfilt
  cases op with
  | reset => exact ⟨rfl, rfl, hg, rfl, rfl⟩
  | read resid sched =>
    obtain ⟨hq₁, hq₂⟩ := hq resid sched rfl
    obtain ⟨herr, hmoved, hsc⟩ := tcpstatsRead_eq_of_visible_eq resid hvis hgen hl hr hg hq₁ hq₂
    obtain ⟨howner, hfilt⟩ := tcpstatsRead_sc k tun t₁ sched resid sc g
    refine ⟨?_, hsc, ?_, howner, hfilt⟩
    · simp only [fdStep, herr, hmoved]
    · simp only [fdStep, tcpstatsRead_activeReaders, hg]

/-- Connections that the opener may not see have no influence on what its calls return. -/
theorem answers_eq_of_visible_eq (k : Kernel Cred) (tun : Tunables) (t₁ t₂ : Tcbinfo Cred)
    (sc : Softc Cred) (g : Globals) (ops : List FdOp)
    (hvis : t₁.visible k sc.scCred = t₂.visible k sc.scCred) (hgen : t₁.ipiGencnt = t₂.ipiGencnt)
    (hl : sc.scFilter.localPrefixV6 ≤ 128) (hr : sc.scFilter.remotePrefixV6 ≤ 128)
    (hq : ∀ resid sched, FdOp.read resid sched ∈ ops →
      sched.Quiet (readDeadline tun sched.now) t₁.inpcbs.length ∧
        sched.Quiet (readDeadline tun sched.now) t₂.inpcbs.length) :
    answers (fdStep k tun t₁) ops ⟨sc, g⟩ = answers (fdStep k tun t₂) ops ⟨sc, g⟩ := by
  refine answers_congr (SameFd sc.scCred sc.scFilter) ?_ ⟨rfl, rfl, rfl, rfl⟩
  intro op hop s t hst
  refine fdStep_congr hvis hgen hl hr ?_ hst
  rintro resid sched rfl
  exact hq resid sched hop

/-- Credential 2 sees one connection of the sample, and not whether there is another. -/
theorem answers_eq_without_hidden :
    answers (fdStep Sample.kern .default Sample.two)
        [.read 320 Sample.still, .reset, .read 640 Sample.still]
        ⟨{ Sample.fresh .default with scCred := 2 }, Sample.glob⟩ =
      answers (fdStep Sample.kern .default (Sample.table [Sample.inpcb 2 INP_IPV4 6]))
        [.read 320 Sample.still, .reset, .read 640 Sample.still]
        ⟨{ Sample.fresh .default with scCred := 2 }, Sample.glob⟩ := by
  refine answers_eq_of_visible_eq Sample.kern .default Sample.two _ _ _ _ (by decide) (by decide) (by decide)
    (by decide) ?_
  rintro resid sched hmem
  simp only [List.mem_cons, List.not_mem_nil, or_false, FdOp.read.injEq, reduceCtorEq, false_or] at hmem
  rcases hmem with ⟨-, rfl⟩ | ⟨-, rfl⟩
  · exact ⟨Sample.still_quiet _, Sample.still_quiet _⟩
  · exact ⟨Sample.still_quiet _, Sample.still_quiet _⟩

end TcpStats
