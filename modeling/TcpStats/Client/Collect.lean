import TcpStats.Client.Kld
import TcpStats.Device.Descriptor

/-!
# Collecting from the device

`collect_from_kld` of `freebsd.rs`: it opens the device, asks for the number of
connections, sizes a buffer by it and makes one read. The kernel stops when the buffer is
full, so the collector has every connection exactly if the buffer it chose has room for
them (`collectFromKld_complete_iff`): the table may have grown past the headroom between
the two calls.
-/

namespace TcpStats.Client

variable {Cred : Type}

/-- `TCPSTATS_VERSION_CMD`, `_IOR('T', 1, struct tcpstats_version)`. -/
def TCPSTATS_VERSION_CMD : UInt64 := 0x40105401

/-- The size of the buffer for a hint: 20% and 64 records of headroom, at least 64 KB. -/
def bufferCapacity (hint : ℕ) : ℕ := max ((hint + hint / 5 + 64) * TCP_STATS_RECORD_SIZE) (64 * 1024)

/-- What the collector finds: how the opens of the devices go, apart from the limits of the
module; the table at the `ioctl` and at the `read`; the counters of the module at the open
and at the read; and what the kernel answers during the read. -/
structure World (Cred : Type) where
  kern : Kernel Cred
  tun : Tunables
  cred : Cred
  openError : StaticDev → Option Errno
  globOpen : Globals
  tcbIoctl : Tcbinfo Cred
  globRead : Globals
  tcbRead : Tcbinfo Cred
  sched : Schedule

/-- `/dev/tcpstats-full`, or else `/dev/tcpstats`. -/
def openDevice (w : World Cred) : Except CollectError (Softc Cred) :=
  match tcpstatsOpen w.tun .tcpstatsFull false w.cred (w.openError .tcpstatsFull) w.globOpen with
  | (.ok sc, _) => .ok sc
  | (.error _, g) =>
    match tcpstatsOpen w.tun .tcpstats false w.cred (w.openError .tcpstats) g with
    | (.ok sc, _) => .ok sc
    | (.error e, _) => .error (.deviceOpen "/dev/tcpstats-full or /dev/tcpstats" e)

/-- The version `ioctl` and the check of the protocol version. -/
def checkVersion (w : World Cred) (sc : Softc Cred) : Except CollectError (Softc Cred × TcpstatsVersion) :=
  match tcpstatsIoctl w.tcbIoctl .version sc with
  | (some e, _, _) => .error (.ioctl TCPSTATS_VERSION_CMD e)
  | (none, sc, ver) =>
    let ver := ver.getD ⟨0, 0, 0, 0⟩
    if ver.protocolVersion ≠ TCP_STATS_VERSION then
      .error (.versionMismatch TCP_STATS_VERSION ver.protocolVersion)
    else .ok (sc, ver)

/-- `collect_from_kld`: the records, and their number as a pseudo-generation. -/
def collectFromKld (w : World Cred) : Except CollectError (List RawSocketRecord × UInt64) := do
  let sc ← openDevice w
  let (sc, ver) ← checkVersion w sc
  let capacity := bufferCapacity ver.recordCountHint.toNat
  let r := tcpstatsRead w.kern w.tun w.tcbRead w.sched capacity sc w.globRead
  match r.error with
  | some e => .error (.deviceRead e)
  | none => do
    let records ← parseKldRecords r.moved
    pure (records, records.length.toUInt64)

/-! ### What is there to collect -/

/-- The connections in the snapshot of the read that the opener may see. -/
def reportable (w : World Cred) : List (Inpcb Cred) :=
  w.tcbRead.inpcbs.filter fun inp =>
    decide (inp.inpGencnt ≤ w.tcbRead.ipiGencnt) && w.kern.crCanseeinpcb w.cred inp == 0

/-- The entry of a connection whose record is the `n`-th of the read. -/
def entry (w : World Cred) (n : ℕ) (inp : Inpcb Cred) : RawSocketRecord :=
  decode (freshRecord inp TSR_FIELDS_DEFAULT w.sched.now w.kern.tick (w.sched.ticks n))

/-- A fresh descriptor selects every connection. -/
theorem passes_default (env : ReadEnv Cred) (h : env.filter = .default) (inp : Inpcb Cred) :
    env.passes inp = (decide (inp.inpGencnt ≤ env.gencnt) && env.kern.crCanseeinpcb env.cred inp == 0) := by
  have hno : ∀ bit, TcpstatsFilter.default.has bit = false := by
    intro bit
    simp [TcpstatsFilter.has, TcpstatsFilter.default]
  rw [Bool.eq_iff_iff, ReadEnv.passes, Option.isNone_iff_eq_none, filterStages_none_iff_stages, h]
  have hstate : stateStage .default inp = true := stateStage_iff.mpr fun _ _ => .inl rfl
  simp [ipVersionStage, hstate, localPortStage, remotePortStage, portStage, localAddrStage,
    remoteAddrStage, addrStage, hno]

/-- What an open that succeeds leaves: a fresh descriptor of the opener. -/
theorem tcpstatsOpen_ok {tun : Tunables} {dev : StaticDev} {fwrite : Bool} {cred : Cred}
    {cdevpriv : Option Errno} {g g' : Globals} {sc : Softc Cred}
    (h : tcpstatsOpen tun dev fwrite cred cdevpriv g = (.ok sc, g')) :
    sc.scCred = cred ∧ sc.scDone = false ∧ sc.scFilter = .default ∧ sc.scLastRead = 0 := by
  unfold tcpstatsOpen at h
  split_ifs at h
  · simp at h
  · simp at h
  · rcases cdevpriv with _ | e
    · simp only [Prod.mk.injEq, Except.ok.injEq] at h
      obtain ⟨rfl, -⟩ := h
      exact ⟨rfl, rfl, rfl, rfl⟩
    · simp at h

theorem openDevice_ok {w : World Cred} {sc : Softc Cred} (h : openDevice w = .ok sc) :
    sc.scCred = w.cred ∧ sc.scDone = false ∧ sc.scFilter = .default ∧ sc.scLastRead = 0 := by
  unfold openDevice at h
  rcases hfull : tcpstatsOpen w.tun .tcpstatsFull false w.cred (w.openError .tcpstatsFull) w.globOpen
    with ⟨_ | sc', g⟩
  · rcases hplain : tcpstatsOpen w.tun .tcpstats false w.cred (w.openError .tcpstats) g with ⟨e | sc', g'⟩
    · simp [hfull, hplain] at h
    · simp only [hfull, hplain, Except.ok.injEq] at h
      subst h
      exact tcpstatsOpen_ok hplain
  · simp only [hfull, Except.ok.injEq] at h
    subst h
    exact tcpstatsOpen_ok hfull

/-- The version check of this module succeeds, and hints at the number of connections. -/
theorem checkVersion_eq (w : World Cred) (sc : Softc Cred) :
    checkVersion w sc =
      .ok (sc, ⟨TCP_STATS_VERSION, TCP_STATS_RECORD_SIZE.toUInt32, w.tcbIoctl.ipiCount, 0⟩) := by
  simp [checkVersion, tcpstatsIoctl]

/-- A collection that goes well has the entries that fit into its buffer. -/
theorem collectFromKld_ok {w : World Cred}
    (hq : w.sched.Quiet (readDeadline w.tun w.sched.now) w.tcbRead.inpcbs.length)
    (sc : Softc Cred) (hopen : openDevice w = .ok sc) (hadm : Admitted w.tun w.sched sc w.globRead) :
    ∃ generation, collectFromKld w =
      .ok (((reportable w).mapIdx (entry w)).take
        (bufferCapacity w.tcbIoctl.ipiCount.toNat / TCP_STATS_RECORD_SIZE), generation) := by
  obtain ⟨hcred, -, hfilt, -⟩ := openDevice_ok hopen
  set env := readEnv w.kern w.tun w.tcbRead w.sched sc with henv
  obtain ⟨herr, hmoved, -⟩ :=
    tcpstatsRead_quiet w.kern (bufferCapacity w.tcbIoctl.ipiCount.toNat) hadm hq
  have hpass : w.tcbRead.inpcbs.filter env.passes = reportable w := by
    refine List.filter_congr fun inp _ => ?_
    rw [passes_default env hfilt, henv, ← hcred]
    rfl
  have hmask : env.fieldMask = TSR_FIELDS_DEFAULT := by
    simp [henv, readEnv, hfilt, TcpstatsFilter.default]
  have hentry : ∀ n inp, decode (env.record n inp) = entry w n inp := by
    intro n inp
    rw [ReadEnv.record, hmask]
    rfl
  have hentries : (env.recordsOf w.tcbRead.inpcbs).map decode = (reportable w).mapIdx (entry w) := by
    rw [ReadEnv.recordsOf, hpass]
    refine List.ext_getElem (by simp) fun i _ _ => ?_
    simp [hentry]
  have hversion : ∀ n, ∀ r ∈ (env.recordsOf w.tcbRead.inpcbs).take n,
      r.tsrVersion = TCP_STATS_VERSION := by
    intro n r hr
    obtain ⟨i, hi, rfl⟩ := List.mem_mapIdx.mp (List.mem_of_mem_take hr)
    exact freshRecord_version _ _ _ _ _
  refine ⟨(((reportable w).mapIdx (entry w)).take
    (bufferCapacity w.tcbIoctl.ipiCount.toNat / TCP_STATS_RECORD_SIZE)).length.toUInt64, ?_⟩
  simp only [collectFromKld, hopen, checkVersion_eq, bind, Except.bind, herr, hmoved]
  rw [parseKldRecords_flatMap (hversion _), List.map_take, hentries]
  rfl

/-- A collection that returns records has opened a device and been admitted to read it. -/
theorem openDevice_of_collect {w : World Cred} {out : List RawSocketRecord × UInt64}
    (h : collectFromKld w = .ok out) :
    ∃ sc, openDevice w = .ok sc ∧ Admitted w.tun w.sched sc w.globRead := by
  rcases hopen : openDevice w with e | sc
  · simp [collectFromKld, hopen, bind, Except.bind] at h
  refine ⟨sc, rfl, ?_⟩
  rcases read_cases w.tun w.sched sc w.globRead with hd | href | hadm
  · rw [(openDevice_ok hopen).2.1] at hd
    cases hd
  · simp [collectFromKld, hopen, checkVersion_eq, bind, Except.bind,
      tcpstatsRead_refused w.kern w.tcbRead _ href] at h
  · exact hadm

/-- The number of records that the buffer for a hint has room for. -/
theorem bufferCapacity_div (hint : ℕ) :
    bufferCapacity hint / TCP_STATS_RECORD_SIZE = max (hint + hint / 5 + 64) 204 := by
  unfold bufferCapacity TCP_STATS_RECORD_SIZE
  omega

/-- A collection that nothing interrupts has the entries that the buffer chosen from the hint has room for. -/
theorem collectFromKld_take {w : World Cred} {records : List RawSocketRecord} {generation : UInt64}
    (hq : w.sched.Quiet (readDeadline w.tun w.sched.now) w.tcbRead.inpcbs.length)
    (hok : collectFromKld w = .ok (records, generation)) :
    records = ((reportable w).mapIdx (entry w)).take
      (max (w.tcbIoctl.ipiCount.toNat + w.tcbIoctl.ipiCount.toNat / 5 + 64) 204) := by
  obtain ⟨sc, hopen, hadm⟩ := openDevice_of_collect hok
  obtain ⟨generation', hcollect⟩ := collectFromKld_ok hq sc hopen hadm
  rw [hok, Except.ok.injEq, Prod.mk.injEq] at hcollect
  rw [hcollect.1, bufferCapacity_div]

/-- A collection that nothing interrupts has an entry for every connection exactly if these
are no more than the buffer chosen from the hint has room for. -/
theorem collectFromKld_complete_iff (w : World Cred) (records : List RawSocketRecord)
    (generation : UInt64)
    (hq : w.sched.Quiet (readDeadline w.tun w.sched.now) w.tcbRead.inpcbs.length)
    (hok : collectFromKld w = .ok (records, generation)) :
    records = (reportable w).mapIdx (entry w) ↔
      (reportable w).length ≤
        max (w.tcbIoctl.ipiCount.toNat + w.tcbIoctl.ipiCount.toNat / 5 + 64) 204 := by
  rw [collectFromKld_take hq hok, List.take_eq_self_iff, List.length_mapIdx]

/-- A world in which the table grows between the hint and the read. -/
def growing (before after : ℕ) : World ℕ where
  kern := Sample.kern
  tun := .default
  cred := 0
  openError _ := none
  globOpen := Sample.glob
  tcbIoctl := Sample.table (List.replicate before (Sample.inpcb 1 INP_IPV4 5))
  globRead := Sample.glob
  tcbRead := Sample.table (List.replicate after (Sample.inpcb 1 INP_IPV4 5))
  sched := Sample.still

theorem growing_collects (before after : ℕ) : ∃ generation,
    collectFromKld (growing before after) =
      .ok (((reportable (growing before after)).mapIdx (entry (growing before after))).take
        (bufferCapacity (growing before after).tcbIoctl.ipiCount.toNat / TCP_STATS_RECORD_SIZE),
        generation) :=
  collectFromKld_ok (Sample.still_quiet _) { Sample.fresh .default with scFull := true } rfl
    ⟨rfl, rfl, rfl⟩

/-- With a table that has not grown, everything is collected. -/
theorem collectFromKld_complete_small : ∃ records generation,
    collectFromKld (growing 2 2) = .ok (records, generation) ∧
      records = (reportable (growing 2 2)).mapIdx (entry (growing 2 2)) := by
  obtain ⟨generation, h⟩ := growing_collects 2 2
  exact ⟨_, generation, h,
    (collectFromKld_complete_iff (growing 2 2) _ generation (Sample.still_quiet _) h).mpr (by decide)⟩

/-- A table that has grown from nothing to 205 connections loses one of them, and the
collector reports success. -/
theorem collectFromKld_loses_one : ∃ records generation,
    collectFromKld (growing 0 205) = .ok (records, generation) ∧
      (growing 0 205).sched.Quiet (readDeadline (growing 0 205).tun (growing 0 205).sched.now)
        (growing 0 205).tcbRead.inpcbs.length ∧
      records.length = 204 ∧ (reportable (growing 0 205)).length = 205 := by
  obtain ⟨generation, h⟩ := growing_collects 0 205
  have hall : (reportable (growing 0 205)).length = 205 := by decide +kernel
  refine ⟨_, generation, h, Sample.still_quiet _, ?_, hall⟩
  rw [List.length_take, List.length_mapIdx, hall, bufferCapacity_div]
  decide

end TcpStats.Client
