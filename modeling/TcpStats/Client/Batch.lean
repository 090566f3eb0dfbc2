import Mathlib.Data.UInt
import TcpStats.Client.Proto
import TcpStats.Client.Sysctl
import TcpStats.Lib.Binary64
import TcpStats.Lib.Tally

/-!
# Batches

The messages that `convert.rs` builds from a collection: the records one by one, what it says of the collection, and a
summary with the number of sockets in each state. The states are counted in a map in the order of their numbers. The
counts are those of the records (`summarises_records`), they add up to the number of all of them, and the order in which
the records were collected shows nowhere in the summary (`buildSummaryFromRecords_perm`).
-/

namespace TcpStats.Client

open CString Tally

/-! ### Messages -/

/-- `StateBucket`. -/
structure StateBucket where
  state : Int32
  count : UInt32
  deriving DecidableEq

/-- `SystemSummary`; a `double` as the number that it is. -/
structure SystemSummary where
  timestampNs : UInt64
  intervalMs : UInt32
  totalSockets : UInt32
  stateCounts : List StateBucket
  deltaConnAttempts : Option UInt64 := none
  deltaAccepts : Option UInt64 := none
  deltaConnects : Option UInt64 := none
  deltaDrops : Option UInt64 := none
  deltaSndTotalPackets : Option UInt64 := none
  deltaSndBytes : Option UInt64 := none
  deltaSndRexmitPackets : Option UInt64 := none
  deltaSndRexmitBytes : Option UInt64 := none
  deltaRcvTotalPackets : Option UInt64 := none
  deltaRcvBytes : Option UInt64 := none
  deltaRcvDupPackets : Option UInt64 := none
  deltaRcvBadsum : Option UInt64 := none
  retransmitRate : Option ℚ := none
  duplicateRate : Option ℚ := none

/-- The platform that the program is built for. -/
inductive Platform where
  | macos
  | freebsd
  | other

/-- The number of a platform in `Platform`. -/
def Platform.number : Platform → Int32
  | macos => 1
  | freebsd => 2
  | other => 0

/-- The numbers of its sources in `DataSource`. -/
def Platform.dataSources : Platform → List Int32
  | macos => [1]
  | freebsd => [5, 6]
  | other => []

/-- `CollectionMetadata`. -/
structure CollectionMetadata where
  timestampNs : UInt64
  hostname : CStr
  platform : Int32
  osVersion : CStr
  intervalMs : UInt32
  scheduleName : CStr
  dataSources : List Int32
  collectionDurationNs : UInt64
  pcblistGeneration : Option UInt64
  batchSequence : UInt64
  toolVersion : CStr

/-- `BatchMessage`. -/
structure BatchMessage where
  metadata : Option CollectionMetadata
  records : List TcpSocketRecord
  summary : Option SystemSummary

/-- What is asked of the system while a batch is built. A time is in nanoseconds since the epoch, if it is not before. -/
structure Host where
  metadataTime : Option ℕ
  summaryTime : Option ℕ
  hostname : Option CStr
  osVersion : Option CStr

/-- The time in a message. -/
def timestamp (time : Option ℕ) : UInt64 := (time.map UInt64.ofNat).getD 0

/-- `build_metadata`. -/
def buildMetadata (platform : Platform) (host : Host) (generation collectionDurationNs : UInt64) (_recordCount : UInt32)
    (batchSequence : UInt64) (intervalMs : UInt32) : CollectionMetadata where
  timestampNs := timestamp host.metadataTime
  hostname := host.hostname.getD (cstr "unknown")
  platform := platform.number
  osVersion := host.osVersion.getD (cstr "unknown")
  intervalMs := intervalMs
  scheduleName := []
  dataSources := platform.dataSources
  collectionDurationNs := collectionDurationNs
  pcblistGeneration := some generation
  batchSequence := batchSequence
  toolVersion := cstr "tcpstats-reader 0.1.0"

/-- `build_summary_from_records`. -/
def buildSummaryFromRecords (host : Host) (records : List TcpSocketRecord) (intervalMs : UInt32) : SystemSummary :=
  let stateMap : Tally Int32 UInt32 := tally TcpSocketRecord.state (fun _ => 1) records
  { timestampNs := timestamp host.summaryTime
    intervalMs := intervalMs
    totalSockets := .ofNat records.length
    stateCounts := stateMap.entries.map fun (state, count) => ⟨state, count⟩ }

/-- `a as f64 / b as f64`, if there is something to divide by. -/
def rate (a b : UInt64) : Option ℚ := if b > 0 then some (Binary64.div (Binary64.ofWord a) (Binary64.ofWord b)) else none

/-- `build_summary_with_sys_stats`. -/
def buildSummaryWithSysStats (host : Host) (records : List TcpSocketRecord) (intervalMs : UInt32)
    (sysStats : TcpSysStats) : SystemSummary :=
  { buildSummaryFromRecords host records intervalMs with
    deltaConnAttempts := some sysStats.connattempt
    deltaAccepts := some sysStats.accepts
    deltaConnects := some sysStats.connects
    deltaDrops := some sysStats.drops
    deltaSndTotalPackets := some sysStats.sndtotal
    deltaSndBytes := some sysStats.sndbyte
    deltaSndRexmitPackets := some sysStats.sndrexmitpack
    deltaSndRexmitBytes := some sysStats.sndrexmitbyte
    deltaRcvTotalPackets := some sysStats.rcvtotal
    deltaRcvBytes := some sysStats.rcvbyte
    deltaRcvDupPackets := some sysStats.rcvduppack
    deltaRcvBadsum := some sysStats.rcvbadsum
    retransmitRate := rate sysStats.sndrexmitpack sysStats.sndtotal
    duplicateRate := rate sysStats.rcvduppack sysStats.rcvtotal }

/-- `build_batch`. -/
def buildBatch (platform : Platform) (host : Host) (rawRecords : List RawSocketRecord)
    (generation collectionDurationNs batchSequence : UInt64) (intervalMs : UInt32) : BatchMessage :=
  let protoRecords := rawRecords.map rawToProto
  { metadata := some (buildMetadata platform host generation collectionDurationNs (.ofNat protoRecords.length)
      batchSequence intervalMs)
    records := protoRecords
    summary := some (buildSummaryFromRecords host protoRecords intervalMs) }

/-- `build_batch_with_sys_stats`. -/
def buildBatchWithSysStats (platform : Platform) (host : Host) (rawRecords : List RawSocketRecord)
    (generation collectionDurationNs batchSequence : UInt64) (intervalMs : UInt32) (sysStats : TcpSysStats) :
    BatchMessage :=
  let protoRecords := rawRecords.map rawToProto
  { metadata := some (buildMetadata platform host generation collectionDurationNs (.ofNat protoRecords.length)
      batchSequence intervalMs)
    records := protoRecords
    summary := some (buildSummaryWithSysStats host protoRecords intervalMs sysStats) }

/-! ### What a summary says -/

/-- A summary of sockets in these states: a bucket for each state that occurs, in the order of the states, with how often
it does. -/
structure Summarises (states : List Int32) (s : SystemSummary) : Prop where
  total : s.totalSockets = .ofNat states.length
  ordered : s.stateCounts.Pairwise fun a b => a.state < b.state
  counts : ∀ b, b ∈ s.stateCounts ↔ b.state ∈ states ∧ b.count = .ofNat (states.count b.state)
  sum : (s.stateCounts.map StateBucket.count).sum = s.totalSockets

theorem ofNat_succ32 (n : ℕ) : UInt32.ofNat (n + 1) = UInt32.ofNat n + 1 := UInt32.ofNat_add n 1

theorem summarises_records (host : Host) (records : List TcpSocketRecord) (intervalMs : UInt32) :
    Summarises (records.map TcpSocketRecord.state) (buildSummaryFromRecords host records intervalMs) where
  total := by rw [List.length_map]; rfl
  ordered := List.pairwise_map.mpr (tally TcpSocketRecord.state (fun _ => 1) records).ordered
  counts := by
    rintro ⟨state, count⟩
    have hcount : (tally TcpSocketRecord.state (fun _ => (1 : UInt32)) records).get state =
        .ofNat ((records.map TcpSocketRecord.state).count state) := by
      rw [List.count, List.countP_map]
      exact get_count TcpSocketRecord.state UInt32.ofNat rfl ofNat_succ32 records fun r => beq_iff_eq
    have hmem : (⟨state, count⟩ : StateBucket) ∈ (buildSummaryFromRecords host records intervalMs).stateCounts ↔
        (state, count) ∈ (tally TcpSocketRecord.state (fun _ => (1 : UInt32)) records).entries := by
      refine List.mem_map.trans ⟨?_, fun h => ⟨_, h, rfl⟩⟩
      rintro ⟨e, he, heq⟩
      cases heq
      exact he
    rw [hmem, mem_entries_iff, mem_keys_tally, hcount, List.mem_map]
  sum := by
    have hsum := sum_tally TcpSocketRecord.state (fun _ => (1 : UInt32)) records
    rw [sum_const UInt32.ofNat rfl ofNat_succ32] at hsum
    refine Eq.trans (congrArg List.sum ?_) hsum
    exact List.map_map

/-- The order of the records shows nowhere in the summary. -/
theorem buildSummaryFromRecords_perm (host : Host) {records records' : List TcpSocketRecord}
    (h : records.Perm records') (intervalMs : UInt32) :
    buildSummaryFromRecords host records intervalMs = buildSummaryFromRecords host records' intervalMs := by
  unfold buildSummaryFromRecords
  rw [tally_perm _ _ h, h.length_eq]

end TcpStats.Client
