import TcpStats.Client.Batch
import TcpStats.Client.Collect
import TcpStats.Client.KernFile

/-!
# The reader

`tcpstats-reader` on FreeBSD, from the connections of the kernel to the batches that it writes. A pass of its loop
collects the connections from the device, joins them with the files of `kern.file` and builds a batch. A value of `sysctl`
is read in two calls, with some room for it to grow in between, and what has outgrown it is refused as a whole
(`readSysctl_eq_ok_iff`). So a batch says of each connection what the kernel has, with the first process of a file table
that is never cut off, but that a connection without a socket is given a file of address 0 (`batch_exact`). The batches are numbered from 1, without a gap, and `--count` of them are written
unless a pass fails (`mainLoop_eq`).
-/

namespace TcpStats.Client

open CString

variable {Cred IoError : Type}

/-! ### `collect` -/

/-- The files that `kern.file` lists, none if it cannot be read. -/
def listedFiles (enomem : IoError) (kernFile : Node IoError) : List Xfile :=
  match readSysctl enomem "kern.file" kernFile with
  | .ok buf => xfiles buf
  | .error _ => []

/-- `build_pid_map`, with fuel for the loop of the parser. -/
def buildPidMap (fuel : ℕ) (enomem : IoError) (kernFile : Node IoError) :
    Option (Except (Panic.Stop CollectError ⊕ SysctlError IoError) PidMap) :=
  match readSysctl enomem "kern.file" kernFile with
  | .error e => some (.error (.inr e))
  | .ok buf => (parseKernFile fuel buf).map (Except.mapError .inl)

/-- `CollectionResult`. -/
structure CollectionResult where
  records : List RawSocketRecord
  generation : UInt64
  collectionDurationNs : UInt64

/-- `collect` of `freebsd.rs`, with fuel, where it takes so many nanoseconds. -/
def collect (fuel : ℕ) (w : World Cred) (enomem : IoError) (kernFile : Node IoError) (elapsed : UInt64) :
    Option (Except CollectError CollectionResult) :=
  match collectFromKld w with
  | .error e => some (.error e)
  | .ok (records, generation) => (buildPidMap fuel enomem kernFile).map fun pidMap =>
    .ok ⟨enrichWithPidMapping pidMap records, generation, elapsed⟩

/-- A message with the process of a socket, if one is known. -/
def TcpSocketRecord.ownedBy (m : TcpSocketRecord) : Option (Int32 × Int32) → TcpSocketRecord
  | none => m
  | some (pid, fd) => { m with pid := some pid, fd := some fd, sources := [5, 6] }

@[simp] theorem TcpSocketRecord.ownedBy_state (m : TcpSocketRecord) (owner : Option (Int32 × Int32)) :
    (m.ownedBy owner).state = m.state := by
  cases owner <;> rfl

theorem rawToProto_ownedBy {raw : RawSocketRecord} (h : raw.sources = [DATA_SOURCE_FREEBSD_KLD])
    (owner : Int32 × Int32) : rawToProto (raw.ownedBy owner) = (rawToProto raw).ownedBy (some owner) := by
  rw [RawSocketRecord.ownedBy, h]
  rfl

/-- The message of a record of the device, joined with the files. -/
theorem rawToProto_joinPid {map : PidMap} {files : List Xfile} (hmap : ∀ addr, map[addr]? = firstOwner files addr)
    {r : TcpStats.TcpStatsRecord} (h : r.Filled) :
    rawToProto (joinPid map (decode r)) = r.message.ownedBy (firstOwner files r.tsrSoAddr) := by
  have hid : (decode r).socketId = some r.tsrSoAddr := by
    rw [decode, ofBytes_bytes]
    rfl
  have hsources : (decode r).sources = [DATA_SOURCE_FREEBSD_KLD] := rfl
  rw [joinPid_some map hid, hmap]
  cases firstOwner files r.tsrSoAddr with
  | none => exact rawToProto_decode h
  | some owner =>
    rw [← rawToProto_decode h]
    exact rawToProto_ownedBy hsources owner

/-- `collect` comes to `r`. -/
def Collects (w : World Cred) (enomem : IoError) (kernFile : Node IoError) (elapsed : UInt64)
    (r : Except CollectError CollectionResult) : Prop :=
  ∃ fuel, collect fuel w enomem kernFile elapsed = some r

/-- Without a file the join changes nothing. -/
theorem joinPid_empty (rec : RawSocketRecord) : joinPid ∅ rec = rec := by
  unfold joinPid
  cases rec.socketId <;> simp

/-- The map is that of the files that are listed, and it is not for want of fuel that there is none. -/
theorem buildPidMap_spec (enomem : IoError) (kernFile : Node IoError)
    (hsize : ∀ buf, kernFile.value = .ok buf → buf.length < 2 ^ 63) :
    ∃ (pidMap : Except (Panic.Stop CollectError ⊕ SysctlError IoError) PidMap) (map : PidMap),
      (∀ r, (∃ fuel, buildPidMap fuel enomem kernFile = some r) ↔ r = pidMap) ∧
      (∀ raw, enrichWithPidMapping pidMap raw = raw.map (joinPid map)) ∧
      ∀ addr, map[addr]? = firstOwner (listedFiles enomem kernFile) addr := by
  unfold buildPidMap listedFiles
  rcases hread : readSysctl enomem "kern.file" kernFile with e | buf
  · refine ⟨.error (.inr e), ∅, fun r => by simp [eq_comm], fun raw => ?_, fun addr => by simp [firstOwner]⟩
    exact (List.map_id raw).symm.trans (List.map_congr_left fun rec _ => (joinPid_empty rec).symm)
  · obtain ⟨map, hparse, hmap⟩ := parseKernFile_ok ⟨buf, hsize buf (readSysctl_eq_ok_iff.mp hread).1⟩
    refine ⟨.ok map, map, fun r => ?_, fun raw => rfl, hmap⟩
    simp only [Option.map_eq_some_iff]
    constructor
    · rintro ⟨fuel, r', hr', rfl⟩
      rw [(hparse r').mp ⟨fuel, hr'⟩]
      rfl
    · rintro rfl
      obtain ⟨fuel, hfuel⟩ := (hparse (.ok map)).mpr rfl
      exact ⟨fuel, .ok map, hfuel, rfl⟩

/-! ### A batch -/

/-- The record of a connection that is the `n`-th to be reported. -/
def record (w : World Cred) (n : ℕ) (inp : Inpcb Cred) : TcpStats.TcpStatsRecord :=
  freshRecord inp TSR_FIELDS_DEFAULT w.sched.now w.kern.tick (w.sched.ticks n)

/-- Once the device has been read without an interruption and with room for everything, `collect` comes to a result: the
records of the connections that the opener may see in the snapshot, in the order of the table, joined with the files. -/
theorem collect_exact (w : World Cred) (enomem : IoError) (kernFile : Node IoError) (elapsed : UInt64)
    {raw : List RawSocketRecord} {generation : UInt64}
    (hq : w.sched.Quiet (readDeadline w.tun w.sched.now) w.tcbRead.inpcbs.length)
    (hok : collectFromKld w = .ok (raw, generation))
    (hroom : (reportable w).length ≤
      max (w.tcbIoctl.ipiCount.toNat + w.tcbIoctl.ipiCount.toNat / 5 + 64) 204)
    (hsize : ∀ buf, kernFile.value = .ok buf → buf.length < 2 ^ 63) :
    ∃ (result : CollectionResult) (map : PidMap),
      (∀ r, Collects w enomem kernFile elapsed r ↔ r = .ok result) ∧
      result.records = ((reportable w).mapIdx (record w)).map (fun r => joinPid map (decode r)) ∧
      ∀ addr, map[addr]? = firstOwner (listedFiles enomem kernFile) addr := by
  obtain ⟨pidMap, map, hpid, hjoin, hmap⟩ := buildPidMap_spec enomem kernFile hsize
  have hraw : raw = (reportable w).mapIdx (entry w) :=
    (collectFromKld_take hq hok).trans (List.take_of_length_le (by rwa [List.length_mapIdx]))
  have hdecode : raw = ((reportable w).mapIdx (record w)).map decode := by
    refine hraw.trans (List.ext_getElem (by simp) fun n _ _ => ?_)
    rw [List.getElem_map, List.getElem_mapIdx, List.getElem_mapIdx]
    rfl
  refine ⟨⟨enrichWithPidMapping pidMap raw, generation, elapsed⟩, map, fun r => ?_, ?_, hmap⟩
  · unfold Collects collect
    simp only [hok, Option.map_eq_some_iff]
    constructor
    · rintro ⟨fuel, pidMap', hfuel, rfl⟩
      rw [(hpid pidMap').mp ⟨fuel, hfuel⟩]
    · rintro rfl
      obtain ⟨fuel, hfuel⟩ := (hpid pidMap).mpr rfl
      exact ⟨fuel, pidMap, hfuel, rfl⟩
  · rw [hjoin, hdecode, List.map_map]
    rfl

/-- The process and the descriptor of the first file that has the socket of a connection open. -/
def socketOwner (files : List Xfile) (inp : Inpcb Cred) : Option (Int32 × Int32) :=
  inp.inpSocket.bind fun so => firstOwner files so.addr

theorem record_soAddr (w : World Cred) (n : ℕ) (inp : Inpcb Cred) :
    (record w n inp).tsrSoAddr = (inp.inpSocket.map Socket.addr).getD 0 := by
  have hid := congrArg TcpStats.TcpStatsRecord.tsrSoAddr
    (identity_tcpstatsFillRecord .zero inp inp.tcpcb TSR_FIELDS_DEFAULT w.sched.now w.kern.tick (w.sched.ticks n))
  refine hid.trans ?_
  unfold tcpstatsFillIdentity
  rcases inp.tcpcb with _ | tp <;> rcases inp.inpSocket with _ | so <;> cases inp.hasVflag INP_IPV6 <;> rfl

/-- The message of a connection names the process of its socket, unless there is no socket and a file of address 0. -/
theorem message_ownedBy_iff (w : World Cred) (n : ℕ) (inp : Inpcb Cred) (files : List Xfile) :
    (record w n inp).message.ownedBy (firstOwner files (record w n inp).tsrSoAddr) =
        (record w n inp).message.ownedBy (socketOwner files inp) ↔
      (inp.inpSocket = none → firstOwner files 0 = none) := by
  rw [record_soAddr, socketOwner]
  rcases inp.inpSocket with _ | so
  · rw [Option.map_none, Option.getD_none, Option.bind_none]
    rcases firstOwner files 0 with _ | owner
    · exact iff_of_true rfl fun _ => rfl
    · refine iff_of_false (fun h => ?_) (fun h => absurd (h rfl) (Option.some_ne_none _))
      have hpid : some owner.1 = none := congrArg TcpSocketRecord.pid h
      cases hpid
  · exact iff_of_true rfl fun h => absurd h (Option.some_ne_none _)

/-- The batch that is built from such a result has a message of every such connection, and its summary counts their states as
the kernel has them. The message is that of the connection, with the process and the descriptor of the first file that has
its socket open, exactly unless the connection has no socket and there is a file of address 0. -/
theorem batch_exact (w : World Cred) (enomem : IoError) (kernFile : Node IoError) (elapsed : UInt64)
    {raw : List RawSocketRecord} {generation : UInt64}
    (hq : w.sched.Quiet (readDeadline w.tun w.sched.now) w.tcbRead.inpcbs.length)
    (hok : collectFromKld w = .ok (raw, generation))
    (hroom : (reportable w).length ≤
      max (w.tcbIoctl.ipiCount.toNat + w.tcbIoctl.ipiCount.toNat / 5 + 64) 204)
    (hnames : ∀ inp ∈ reportable w, TcpStats.TcpStatsRecord.AsciiNames inp)
    (hsize : ∀ buf, kernFile.value = .ok buf → buf.length < 2 ^ 63) :
    ∃ result, (∀ r, Collects w enomem kernFile elapsed r ↔ r = .ok result) ∧
      ∀ (host : Host) (batchSequence : UInt64) (intervalMs : UInt32),
        let batch := buildBatch .freebsd host result.records result.generation result.collectionDurationNs
          batchSequence intervalMs
        batch.records.length = (reportable w).length ∧
        (∀ n inp, (reportable w)[n]? = some inp →
          (batch.records[n]? = some ((record w n inp).message.ownedBy (socketOwner (listedFiles enomem kernFile) inp)) ↔
            (inp.inpSocket = none → firstOwner (listedFiles enomem kernFile) 0 = none))) ∧
        ∃ summary, batch.summary = some summary ∧
          Summarises ((reportable w).map fun inp => reportedState inp.tcpcb + 1) summary := by
  obtain ⟨result, map, hcollects, hrecords, hmap⟩ := collect_exact w enomem kernFile elapsed hq hok hroom hsize
  refine ⟨result, hcollects, fun host batchSequence intervalMs => ?_⟩
  have hmessages : result.records.map rawToProto = ((reportable w).mapIdx (record w)).map (fun r =>
      r.message.ownedBy (firstOwner (listedFiles enomem kernFile) r.tsrSoAddr)) := by
    rw [hrecords, List.map_map]
    refine List.map_congr_left fun r hr => rawToProto_joinPid hmap ?_
    obtain ⟨n, hn, rfl⟩ := List.mem_mapIdx.mp hr
    exact TcpStats.TcpStatsRecord.freshRecord_filled (hnames _ (List.getElem_mem hn)) ..
  have hstates : (result.records.map rawToProto).map TcpSocketRecord.state =
      (reportable w).map fun inp => reportedState inp.tcpcb + 1 := by
    rw [hmessages]
    refine List.ext_getElem (by simp) fun n _ _ => ?_
    simp only [List.getElem_mapIdx, List.getElem_map, TcpSocketRecord.ownedBy_state]
    exact congrArg (· + 1) (freshRecord_state ..)
  refine ⟨?_, fun n inp hinp => ?_, _, rfl, ?_⟩
  · exact (congrArg List.length hmessages).trans (by simp)
  · have hmessage : (result.records.map rawToProto)[n]? = some ((record w n inp).message.ownedBy
        (firstOwner (listedFiles enomem kernFile) (record w n inp).tsrSoAddr)) := by
      rw [hmessages, List.getElem?_map, List.getElem?_mapIdx, hinp]
      rfl
    exact (iff_of_eq (congrArg (· = _) hmessage)).trans (Option.some_inj.trans (message_ownedBy_iff w n inp _))
  · rw [← hstates]
    exact summarises_records host _ intervalMs

/-- A connection whose socket is at an address. -/
def Sample.connection (addr : UInt64) : Inpcb ℕ :=
  { TcpStats.Sample.inpcb 1 INP_IPV4 5 with inpSocket := some ⟨addr, none, 0, 0, 0, 0⟩ }

/-- Two connections with sockets. -/
def Sample.connected : World ℕ :=
  { growing 2 2 with tcbRead := TcpStats.Sample.table [Sample.connection 0x1000, Sample.connection 0x2000] }

/-- A file table of one entry, that can be read: process 42 has the socket at 0x2000 open, as its descriptor 7. -/
def Sample.kernFile : Node Unit where
  size := .ok 48
  value := .ok (Bytes.le64 48 ++ Bytes.le32 42 ++ Bytes.le32 0 ++ Bytes.le32 7 ++ Bytes.le32 0 ++ Bytes.le16 DTYPE_SOCKET ++
    List.replicate 14 0 ++ Bytes.le64 0x2000)

theorem batch_exact_two : ∃ result, Collects Sample.connected () Sample.kernFile 0 (.ok result) ∧
    (buildBatch .freebsd ⟨none, none, none, none⟩ result.records result.generation result.collectionDurationNs 1
      1000).records.map (fun m => (m.socketId, m.pid, m.fd)) =
        [(some 0x1000, none, none), (some 0x2000, some 42, some 7)] := by
  obtain ⟨generation, hok⟩ := collectFromKld_ok (w := Sample.connected) (Sample.still_quiet _)
    { Sample.fresh .default with scFull := true } rfl ⟨rfl, rfl, rfl⟩
  have hlisted : reportable Sample.connected = [Sample.connection 0x1000, Sample.connection 0x2000] := rfl
  obtain ⟨result, hcollects, hbatch⟩ := batch_exact Sample.connected () Sample.kernFile 0 (Sample.still_quiet _) hok
    (by decide) (fun inp hinp tp htp => by
      rw [hlisted] at hinp
      rcases List.mem_pair.mp hinp with rfl | rfl <;> cases htp) (fun buf hbuf => by
      cases hbuf
      decide)
  refine ⟨result, (hcollects _).mpr rfl, ?_⟩
  obtain ⟨hlen, hmessage, -⟩ := hbatch ⟨none, none, none, none⟩ 1 1000
  have hfirst := (hmessage 0 _ rfl).mpr fun h => by cases h
  have hsecond := (hmessage 1 _ rfl).mpr fun h => by cases h
  obtain ⟨m, m', hpair⟩ := List.length_eq_two.mp hlen
  rw [hpair] at hfirst hsecond ⊢
  cases hfirst
  cases hsecond
  decide

/-! ### The loop of `main` -/

/-- What a pass of the loop comes upon: the collection, what is asked of the system for the batch, and whether the batch can
be written and flushed. -/
structure Pass where
  collected : Except CollectError CollectionResult
  host : Host
  emit : Bool
  flush : Bool

/-- How `main` returns. -/
inductive Ended where
  | ok
  | error (context : String)
  deriving DecidableEq

/-- The batch of a pass. -/
def Pass.batch (p : Pass) (platform : Platform) (intervalMs : UInt32) (sequence : UInt64) (result : CollectionResult) :
    BatchMessage :=
  buildBatch platform p.host result.records result.generation result.collectionDurationNs sequence intervalMs

/-- The loop of `main`, from a sequence number on: the batches that are written, and how `main` returns if it has. -/
def mainLoop (platform : Platform) (count : UInt64) (intervalMs : UInt32) :
    UInt64 → List Pass → List BatchMessage × Option Ended
  | _, [] => ([], none)
  | sequence, p :: ps =>
    let sequence := sequence + 1
    match p.collected with
    | .error _ => ([], some (.error "failed to collect TCP sockets"))
    | .ok result =>
      let batch := p.batch platform intervalMs sequence result
      if !p.emit then ([], some (.error "failed to write output"))
      else if !p.flush then ([], some (.error "failed to flush output"))
      else if count > 0 && sequence ≥ count then ([batch], some .ok)
      else
        let rest := mainLoop platform count intervalMs sequence ps
        (batch :: rest.1, rest.2)

/-- What goes wrong in a pass, if something does. -/
def Pass.failure (p : Pass) : Option Ended :=
  match p.collected with
  | .error _ => some (.error "failed to collect TCP sockets")
  | .ok _ =>
    if !p.emit then some (.error "failed to write output")
    else if !p.flush then some (.error "failed to flush output")
    else none

/-- The batch of a pass in which nothing goes wrong, with its number. -/
def Pass.written (platform : Platform) (intervalMs : UInt32) (sequence : ℕ) (p : Pass) : Option BatchMessage :=
  match p.collected with
  | .error _ => none
  | .ok result => some (p.batch platform intervalMs (.ofNat sequence) result)

/-- The passes before the first in which something goes wrong. -/
def goodPasses (ps : List Pass) : List Pass := ps.takeWhile fun p => p.failure.isNone

section

variable (platform : Platform) (count : UInt64) (intervalMs : UInt32)

theorem mainLoop_bad {p : Pass} {ps : List Pass} {e : Ended} (sequence : UInt64) (h : p.failure = some e) :
    mainLoop platform count intervalMs sequence (p :: ps) = ([], some e) := by
  unfold Pass.failure at h
  unfold mainLoop
  rcases hcollected : p.collected with _ | result <;> simp only [hcollected] at h ⊢
  · rw [h]
  · split_ifs at h ⊢ <;> rw [h]

theorem mainLoop_good {p : Pass} (ps : List Pass) (sequence : UInt64) (h : p.failure = none) :
    ∃ batch, p.written platform intervalMs (sequence + 1).toNat = some batch ∧
      mainLoop platform count intervalMs sequence (p :: ps) =
        if count > 0 && sequence + 1 ≥ count then ([batch], some .ok)
        else (batch :: (mainLoop platform count intervalMs (sequence + 1) ps).1,
          (mainLoop platform count intervalMs (sequence + 1) ps).2) := by
  unfold Pass.failure at h
  unfold Pass.written
  rw [mainLoop]
  rcases hcollected : p.collected with _ | result <;> simp only [hcollected] at h ⊢
  · cases h
  · refine ⟨_, rfl, ?_⟩
    split_ifs at h with hemit hflush
    rw [if_neg hemit, if_neg hflush, UInt64.ofNat_toNat]

/-- The loop, from where it has written `n` batches. -/
theorem mainLoop_from (n : ℕ) (ps : List Pass) (hlen : n + ps.length < 2 ^ 64)
    (hcount : count.toNat = 0 ∨ n < count.toNat) :
    let good := goodPasses ps
    let left := if count.toNat = 0 then good.length else min (count.toNat - n) good.length
    (mainLoop platform count intervalMs (.ofNat n) ps).1.map some =
        (good.take left).mapIdx (fun i p => p.written platform intervalMs (n + i + 1)) ∧
      (mainLoop platform count intervalMs (.ofNat n) ps).2 =
        if count.toNat ≠ 0 ∧ count.toNat ≤ n + good.length then some .ok
        else (ps.drop good.length).head?.bind Pass.failure := by
  induction ps generalizing n with
  | nil =>
    have hlt : count.toNat ≠ 0 → n < count.toNat := by omega
    simpa [goodPasses, mainLoop] using hlt
  | cons p ps ih =>
    rw [List.length_cons] at hlen
    rcases hfailure : p.failure with _ | e
    · -- the pass is good, and the last or not
      have hgood : goodPasses (p :: ps) = p :: goodPasses ps := by simp [goodPasses, hfailure]
      have hnext : UInt64.ofNat n + 1 = .ofNat (n + 1) := (UInt64.ofNat_add n 1).symm
      have hword : (UInt64.ofNat (n + 1)).toNat = n + 1 := UInt64.toNat_ofNat_of_lt' (by
        have : UInt64.size = 2 ^ 64 := rfl
        omega)
      obtain ⟨batch, hwritten, hloop⟩ := mainLoop_good platform count intervalMs ps (.ofNat n) hfailure
      rw [hnext, hword] at hwritten
      rw [hnext] at hloop
      have hlast : (count > 0 && UInt64.ofNat (n + 1) ≥ count) = true ↔ count.toNat = n + 1 := by
        rw [Bool.and_eq_true, decide_eq_true_iff, decide_eq_true_iff, gt_iff_lt, ge_iff_le, UInt64.lt_iff_toNat_lt,
          UInt64.le_iff_toNat_le, hword, UInt64.toNat_zero]
        omega
      rw [hloop]
      by_cases hend : count.toNat = n + 1
      · have hleft : (if count.toNat = 0 then (p :: goodPasses ps).length
            else min (count.toNat - n) (p :: goodPasses ps).length) = 1 := by
          rw [List.length_cons]
          split_ifs <;> omega
        have hfull : count.toNat ≠ 0 ∧ count.toNat ≤ n + (p :: goodPasses ps).length := by
          rw [List.length_cons]
          omega
        simp only [if_pos (hlast.mpr hend), hgood, hleft, if_pos hfull]
        exact ⟨by simp [hwritten], trivial⟩
      · obtain ⟨hbatches, hended⟩ := ih (n + 1) (by omega) (by omega)
        have hleft : (if count.toNat = 0 then (p :: goodPasses ps).length
            else min (count.toNat - n) (p :: goodPasses ps).length) =
            (if count.toNat = 0 then (goodPasses ps).length
              else min (count.toNat - (n + 1)) (goodPasses ps).length) + 1 := by
          rw [List.length_cons]
          split_ifs <;> omega
        have hsum : n + (p :: goodPasses ps).length = n + 1 + (goodPasses ps).length := by
          rw [List.length_cons]
          omega
        simp only [if_neg (mt hlast.mp hend), hgood, hleft, hsum, List.map_cons, hbatches, hended, List.take_succ_cons,
          List.mapIdx_cons]
        refine ⟨?_, rfl⟩
        simp [hwritten, Nat.add_right_comm, ← Nat.add_assoc]
    · have hgood : goodPasses (p :: ps) = [] := by simp [goodPasses, hfailure]
      have hlt : ¬ (count.toNat ≠ 0 ∧ count.toNat ≤ n) := by omega
      rw [mainLoop_bad platform count intervalMs _ hfailure]
      simp only [hgood, List.length_nil, Nat.add_zero, if_neg hlt]
      simp [hfailure]

/-- The batches that are written, one for each good pass up to the first bad one or the last that was asked for, are numbered
from 1 without a gap. `main` returns when it has written as many as it was asked for, or else with what went wrong. -/
theorem mainLoop_eq (ps : List Pass) (hlen : ps.length < 2 ^ 64) :
    let good := goodPasses ps
    let written := if count = 0 then good.length else min count.toNat good.length
    (mainLoop platform count intervalMs 0 ps).1.map some =
        (good.take written).mapIdx (fun i p => p.written platform intervalMs (i + 1)) ∧
      (mainLoop platform count intervalMs 0 ps).2 =
        if count ≠ 0 ∧ count.toNat ≤ good.length then some .ok
        else (ps.drop good.length).head?.bind Pass.failure := by
  have hzero : count = 0 ↔ count.toNat = 0 := by rw [← UInt64.toNat_inj, UInt64.toNat_zero]
  have h := mainLoop_from platform count intervalMs 0 ps (by omega) (by omega)
  simp only [Nat.zero_add, Nat.sub_zero, ← hzero, ne_eq] at h
  exact h

end

/-- A pass in which there is nothing to collect. -/
def Sample.idlePass : Pass := ⟨.ok ⟨[], 0, 0⟩, ⟨none, none, none, none⟩, true, true⟩

/-- Two batches are asked for, and written with the numbers 1 and 2. -/
theorem mainLoop_eq_two :
    (mainLoop .freebsd 2 1000 0 [Sample.idlePass, Sample.idlePass, Sample.idlePass]).1.map (fun batch =>
        batch.metadata.map CollectionMetadata.batchSequence) = [some 1, some 2] ∧
      (mainLoop .freebsd 2 1000 0 [Sample.idlePass, Sample.idlePass, Sample.idlePass]).2 = some .ok := by
  obtain ⟨hbatches, hended⟩ := mainLoop_eq .freebsd 2 1000 [Sample.idlePass, Sample.idlePass, Sample.idlePass] (by decide)
  refine ⟨?_, hended.trans (by decide)⟩
  have hnumbers := congrArg (List.map fun batch : Option BatchMessage =>
    batch.bind fun batch => batch.metadata.map CollectionMetadata.batchSequence) hbatches
  rw [List.map_map] at hnumbers
  exact hnumbers.trans (by decide)

end TcpStats.Client
