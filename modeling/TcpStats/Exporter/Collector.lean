import TcpStats.Client.Reader
import TcpStats.Exporter.Metrics

/-!
# The collector

`collector.rs` of the exporter counts the records of a collection by the names of their states, and adds the counters of
the system. So what the exporter writes is, from end to end, what the kernel has: how many of the connections that it may
see are in each state, and the counters at their places (`snapshot_exact`).
-/

namespace TcpStats.Exporter

open CString Client Tally Exposition

variable {Cred IoError : Type}

/-- `state_name`. -/
def stateName (state : Int32) : CStr :=
  match state.toInt with
  | 0 => cstr "CLOSED"
  | 1 => cstr "LISTEN"
  | 2 => cstr "SYN_SENT"
  | 3 => cstr "SYN_RECEIVED"
  | 4 => cstr "ESTABLISHED"
  | 5 => cstr "CLOSE_WAIT"
  | 6 => cstr "FIN_WAIT_1"
  | 7 => cstr "CLOSING"
  | 8 => cstr "LAST_ACK"
  | 9 => cstr "FIN_WAIT_2"
  | 10 => cstr "TIME_WAIT"
  | _ => cstr "UNKNOWN"

/-- The name of the state of a record. -/
def recordState (rec : RawSocketRecord) : CStr := stateName (rec.state.getD (-1))

/-- How many records there are for each name, in the order of the names. -/
def countStates (records : List RawSocketRecord) : List (CStr × UInt64) :=
  (tally recordState (fun _ => (1 : UInt64)) records).entries

/-- `collect`, with the collection of the records, the counters of the system and the time it takes. -/
def collect (result : Except CollectError CollectionResult) (sysStats : Except (SysctlError IoError) TcpSysStats)
    (durationSecs : ℚ) : Except (CollectError ⊕ SysctlError IoError) Snapshot :=
  match result with
  | .error e => .error (.inl e)
  | .ok result =>
    let stateCounts := countStates result.records
    match sysStats with
    | .error e => .error (.inr e)
    | .ok sysStats => .ok ⟨.ofNat result.records.length, stateCounts, sysStats, durationSecs⟩

theorem ofNat_succ64 (n : ℕ) : UInt64.ofNat (n + 1) = UInt64.ofNat n + 1 := UInt64.ofNat_add n 1

/-- The counts are those of the names that occur. -/
theorem mem_countStates {records : List RawSocketRecord} {name : CStr} {count : UInt64} :
    (name, count) ∈ countStates records ↔ (∃ rec ∈ records, recordState rec = name) ∧
      count = .ofNat (records.countP fun rec => recordState rec = name) := by
  rw [countStates, mem_entries_iff, mem_keys_tally,
    get_count recordState UInt64.ofNat rfl ofNat_succ64 records fun rec => decide_eq_true_iff]

theorem stateName_plain (state : Int32) : Plain (stateName state) := by
  unfold Plain stateName
  split <;> decide

/-- The names in a snapshot are those that `state_name` gives. -/
theorem collect_plain {result : Except CollectError CollectionResult} {sysStats : Except (SysctlError IoError) TcpSysStats}
    {durationSecs : ℚ} {snapshot : Snapshot} (h : collect result sysStats durationSecs = .ok snapshot) :
    ∀ c ∈ snapshot.stateCounts, Plain c.1 := by
  rcases result with e | result
  · cases h
  rcases sysStats with e | sysStats
  · cases h
  cases h
  rintro ⟨name, count⟩ hmem
  obtain ⟨⟨rec, -, rfl⟩, -⟩ := mem_countStates.mp hmem
  exact stateName_plain _

/-! ### Names of states -/

/-- The state that the kernel has a connection in; one without a `tcpcb` is closed. -/
def kernelState (inp : Inpcb Cred) : TcpState := (inp.tcpcb.map Tcpcb.tState).getD .CLOSED

/-- The name of a state of the kernel. -/
def nameOf (s : TcpState) : CStr := stateName (Int32.ofNat s.code)

theorem nameOf_inj {s t : TcpState} (h : nameOf s = nameOf t) : s = t := by
  cases s <;> cases t <;> first | rfl | exact absurd h (by decide)

theorem recordState_decode (r : TcpStats.TcpStatsRecord) : recordState (decode r) = stateName r.tsrState := by
  rw [decode, ofBytes_bytes]
  rfl

theorem joinPid_state (map : PidMap) (rec : RawSocketRecord) : (joinPid map rec).state = rec.state := by
  unfold joinPid
  split
  · split <;> rfl
  · rfl

/-- The name under which a connection is counted. -/
theorem recordState_record (w : World Cred) (map : PidMap) (n : ℕ) (inp : Inpcb Cred) :
    recordState (joinPid map (decode (record w n inp))) = nameOf (kernelState inp) := by
  rw [recordState, joinPid_state, ← recordState, recordState_decode, record, freshRecord_state]
  unfold reportedState kernelState
  cases inp.tcpcb <;> rfl

/-! ### From end to end -/

/-- How many connections that the exporter may see are in a state. -/
def inState (w : World Cred) (s : TcpState) : ℕ := (reportable w).countP fun inp => decide (kernelState inp = s)

/-- The counters of the system at their places in an array of the kernel. -/
def sysStatsOf (words : List UInt64) : TcpSysStats where
  connattempt := words.getD 0 0
  accepts := words.getD 1 0
  connects := words.getD 2 0
  drops := words.getD 3 0
  sndtotal := words.getD 11 0
  sndbyte := words.getD 13 0
  sndrexmitpack := words.getD 16 0
  sndrexmitbyte := words.getD 17 0
  rcvtotal := words.getD 24 0
  rcvbyte := words.getD 26 0
  rcvduppack := words.getD 28 0
  rcvbadsum := words.getD 33 0

theorem tcpStats_words (words : List UInt64) : tcpStats (words.flatMap Bytes.le64) = sysStatsOf words := by
  simp only [tcpStats, readU64At_words, sysStatsOf]

/-- Once the device has been read without an interruption and with room for everything, and the counters of the system have
been read, there is a snapshot: of each state in which there is a connection it has the number of them under the name of the
state, and of no other; and a reader of the text that is written of it gets all of it. -/
theorem snapshot_exact (w : World Cred) (enomem : IoError) (kernFile stats : Node IoError) (elapsed : UInt64)
    {raw : List RawSocketRecord} {generation : UInt64} {words : List UInt64}
    (hq : w.sched.Quiet (readDeadline w.tun w.sched.now) w.tcbRead.inpcbs.length)
    (hok : collectFromKld w = .ok (raw, generation))
    (hroom : (reportable w).length ≤
      max (w.tcbIoctl.ipiCount.toNat + w.tcbIoctl.ipiCount.toNat / 5 + 64) 204)
    (hsize : ∀ buf, kernFile.value = .ok buf → buf.length < 2 ^ 63)
    (hstats : readSysctl enomem "net.inet.tcp.stats" stats = .ok (words.flatMap Bytes.le64)) (durationSecs : ℚ) :
    ∃ result snapshot, (∀ r, Collects w enomem kernFile elapsed r ↔ r = .ok result) ∧
      collect (.ok result) (readTcpStats enomem stats) durationSecs = .ok snapshot ∧
      snapshot.totalSockets = .ofNat (reportable w).length ∧ snapshot.sysStats = sysStatsOf words ∧
      (∀ name count, (name, count) ∈ snapshot.stateCounts ↔
        ∃ s : TcpState, name = nameOf s ∧ 0 < inState w s ∧ count = .ofNat (inState w s)) ∧
      ∀ httpRequests latency, read (render snapshot httpRequests latency) =
        some (families snapshot httpRequests latency) := by
  obtain ⟨result, map, hcollects, hrecords, -⟩ := collect_exact w enomem kernFile elapsed hq hok hroom hsize
  have hread : readTcpStats enomem stats = .ok (sysStatsOf words) := by
    rw [readTcpStats, hstats, ← tcpStats_words]
    rfl
  have hnames : result.records.map recordState = (reportable w).map fun inp => nameOf (kernelState inp) := by
    rw [hrecords]
    refine List.ext_getElem (by simp) fun n _ _ => ?_
    simp only [List.getElem_map, List.getElem_mapIdx]
    exact recordState_record ..
  have hcount : ∀ s : TcpState, result.records.countP (fun rec => recordState rec = nameOf s) = inState w s := by
    intro s
    calc result.records.countP (fun rec => recordState rec = nameOf s)
        = (result.records.map recordState).countP (fun name => name = nameOf s) := by
          rw [List.countP_map]
          rfl
      _ = (reportable w).countP (fun inp => nameOf (kernelState inp) = nameOf s) := by
          rw [hnames, List.countP_map]
          rfl
      _ = inState w s := List.countP_congr fun inp _ => by
          simp only [decide_eq_true_iff]
          exact ⟨nameOf_inj, congrArg nameOf⟩
  have hoccurs : ∀ name, (∃ rec ∈ result.records, recordState rec = name) ↔
      ∃ s : TcpState, name = nameOf s ∧ 0 < inState w s := by
    intro name
    rw [← List.mem_map, hnames, List.mem_map]
    constructor
    · rintro ⟨inp, hinp, rfl⟩
      exact ⟨kernelState inp, rfl, List.countP_pos_iff.mpr ⟨inp, hinp, decide_eq_true rfl⟩⟩
    · rintro ⟨s, rfl, hpos⟩
      obtain ⟨inp, hinp, hstate⟩ := List.countP_pos_iff.mp hpos
      exact ⟨inp, hinp, congrArg nameOf (of_decide_eq_true hstate)⟩
  have hstates : ∀ name count, (name, count) ∈ countStates result.records ↔
      ∃ s : TcpState, name = nameOf s ∧ 0 < inState w s ∧ count = .ofNat (inState w s) := by
    intro name count
    rw [mem_countStates, hoccurs]
    constructor
    · rintro ⟨⟨s, rfl, hpos⟩, hc⟩
      exact ⟨s, rfl, hpos, by rw [hc, hcount]⟩
    · rintro ⟨s, rfl, hpos, hc⟩
      exact ⟨⟨s, rfl, hpos⟩, by rw [hc, hcount]⟩
  have hsnapshot : collect (.ok result) (readTcpStats enomem stats) durationSecs =
      .ok ⟨.ofNat result.records.length, countStates result.records, sysStatsOf words, durationSecs⟩ := by
    rw [hread]
    rfl
  refine ⟨result, _, hcollects, hsnapshot, ?_, rfl, hstates, read_render (collect_plain hsnapshot)⟩
  simp [hrecords]

/-- Two counters of the system. -/
def Sample.stats : Node Unit := ⟨.ok 16, .ok ([3, 4].flatMap Bytes.le64)⟩

theorem snapshot_exact_two : ∃ result snapshot, Collects (growing 2 2) () Client.Sample.kernFile 0 (.ok result) ∧
    collect (.ok result) (readTcpStats () Sample.stats) 0 = .ok snapshot ∧ snapshot.totalSockets = 2 ∧
      (nameOf .CLOSED, 2) ∈ snapshot.stateCounts := by
  obtain ⟨generation, hok⟩ := growing_collects 2 2
  obtain ⟨result, snapshot, hcollects, hsnapshot, htotal, -, hstates, -⟩ := snapshot_exact (growing 2 2) ()
    Client.Sample.kernFile Sample.stats 0 (Sample.still_quiet _) hok (by decide) (fun buf hbuf => by
      cases hbuf
      decide)
    (show readSysctl () _ Sample.stats = .ok ([3, 4].flatMap Bytes.le64) from rfl) 0
  refine ⟨result, snapshot, (hcollects _).mpr rfl, hsnapshot, htotal.trans (by decide), ?_⟩
  exact (hstates _ _).mpr ⟨.CLOSED, rfl, by decide, by decide⟩

end TcpStats.Exporter
