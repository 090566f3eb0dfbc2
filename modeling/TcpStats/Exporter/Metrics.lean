import TcpStats.Client.Sysctl
import TcpStats.Lib.Binary64
import TcpStats.Lib.Exposition
import TcpStats.Lib.Items

/-!
# Metrics

`metrics.rs` of the exporter writes a snapshot and two numbers of its own as text, block by block. The text is that of
families of metrics (`render_eq`), and a reader of such texts gets them back whole (`read_render`). Nothing is lost on the
way but the digits of the latency behind the sixth: texts of different snapshots differ (`render_inj`).
-/

namespace TcpStats.Exporter

open CString Exposition Client

/-- `Snapshot`, of `collector.rs`; a `double` as the number that it is. -/
structure Snapshot where
  totalSockets : UInt64
  stateCounts : List (CStr × UInt64)
  sysStats : TcpSysStats
  durationSecs : ℚ

/-! ### Writing -/

/-- A number as `{}` prints it. -/
def number (n : UInt64) : CStr := decimal n.toNat

/-- The nearest number of millionths. -/
def millionths (q : ℚ) : ℕ := (Binary64.roundEven (q * 10 ^ 6)).toNat

/-- Six digits of a number below a million. -/
def sixDigits (n : ℕ) : CStr := List.replicate (6 - (decimal n).length) (chr '0') ++ decimal n

/-- A number that is not negative, as `{:.6}` prints it. -/
def fixed6 (q : ℚ) : CStr := decimal (millionths q / 10 ^ 6) ++ chr '.' :: sixDigits (millionths q % 10 ^ 6)

/-- `push_metric_u64`. -/
def pushMetricU64 (out name : CStr) (val : UInt64) : CStr := out ++ (name ++ chr ' ' :: number val ++ [chr '\n'])

/-- `push_metric_f64`. -/
def pushMetricF64 (out name : CStr) (val : ℚ) : CStr := out ++ (name ++ chr ' ' :: fixed6 val ++ [chr '\n'])

/-- `push_counter_block`. -/
def pushCounterBlock (out name help : CStr) (val : UInt64) : CStr :=
  let out := out ++ (cstr "# HELP " ++ name ++ chr ' ' :: help ++ [chr '\n'])
  let out := out ++ (cstr "# TYPE " ++ name ++ cstr " counter\n")
  let out := pushMetricU64 out name val
  out ++ [chr '\n']

/-- The labels of a state. -/
def stateLabels (state : CStr) : CStr := cstr "\x7bstate=\"" ++ state ++ cstr "\"\x7d"

/-- The loop over the states. -/
def pushStates (out : CStr) (counts : List (CStr × UInt64)) : CStr :=
  counts.foldl (fun out (state, count) =>
    out ++ (cstr "tcpstats_sockets_by_state" ++ stateLabels state ++ chr ' ' :: number count ++ [chr '\n'])) out

/-- `render`, up to the counters of the system. -/
def renderOwn (snapshot : Snapshot) (httpRequests : UInt64) (latencySecs : ℚ) : CStr :=
  let out : CStr := []
  -- exporter self-metrics
  let out := out ++ cstr "# HELP tcpstats_exporter_up Exporter liveness indicator\n"
  let out := out ++ cstr "# TYPE tcpstats_exporter_up gauge\n"
  let out := out ++ cstr "tcpstats_exporter_up 1\n"
  let out := out ++ [chr '\n']
  let out := out ++ cstr "# HELP tcpstats_exporter_http_requests_total Total HTTP requests handled\n"
  let out := out ++ cstr "# TYPE tcpstats_exporter_http_requests_total counter\n"
  let out := pushMetricU64 out (cstr "tcpstats_exporter_http_requests_total") httpRequests
  let out := out ++ [chr '\n']
  let out := out ++ cstr "# HELP tcpstats_exporter_collection_latency_seconds Most recent collection latency\n"
  let out := out ++ cstr "# TYPE tcpstats_exporter_collection_latency_seconds gauge\n"
  let out := pushMetricF64 out (cstr "tcpstats_exporter_collection_latency_seconds") latencySecs
  let out := out ++ [chr '\n']
  -- socket counts
  let out := out ++ cstr "# HELP tcpstats_sockets_total Total TCP sockets observed\n"
  let out := out ++ cstr "# TYPE tcpstats_sockets_total gauge\n"
  let out := pushMetricU64 out (cstr "tcpstats_sockets_total") snapshot.totalSockets
  let out := out ++ [chr '\n']
  let out := out ++ cstr "# HELP tcpstats_sockets_by_state Count of TCP sockets per state\n"
  let out := out ++ cstr "# TYPE tcpstats_sockets_by_state gauge\n"
  let out := pushStates out snapshot.stateCounts
  out ++ [chr '\n']

/-- `render`. -/
def render (snapshot : Snapshot) (httpRequests : UInt64) (latencySecs : ℚ) : CStr :=
  let out := renderOwn snapshot httpRequests latencySecs
  let sys := snapshot.sysStats
  let out := pushCounterBlock out (cstr "tcpstats_sys_connection_attempts_total")
    (cstr "Connection attempts (tcps_connattempt)") sys.connattempt
  let out := pushCounterBlock out (cstr "tcpstats_sys_accepts_total")
    (cstr "Connections accepted (tcps_accepts)") sys.accepts
  let out := pushCounterBlock out (cstr "tcpstats_sys_connects_total")
    (cstr "Connections established (tcps_connects)") sys.connects
  let out := pushCounterBlock out (cstr "tcpstats_sys_drops_total")
    (cstr "Connections dropped (tcps_drops)") sys.drops
  let out := pushCounterBlock out (cstr "tcpstats_sys_sent_packets_total")
    (cstr "Total packets sent (tcps_sndtotal)") sys.sndtotal
  let out := pushCounterBlock out (cstr "tcpstats_sys_sent_bytes_total")
    (cstr "Total bytes sent (tcps_sndbyte)") sys.sndbyte
  let out := pushCounterBlock out (cstr "tcpstats_sys_retransmit_packets_total")
    (cstr "Retransmitted packets (tcps_sndrexmitpack)") sys.sndrexmitpack
  let out := pushCounterBlock out (cstr "tcpstats_sys_retransmit_bytes_total")
    (cstr "Retransmitted bytes (tcps_sndrexmitbyte)") sys.sndrexmitbyte
  let out := pushCounterBlock out (cstr "tcpstats_sys_received_packets_total")
    (cstr "Total packets received (tcps_rcvtotal)") sys.rcvtotal
  let out := pushCounterBlock out (cstr "tcpstats_sys_received_bytes_total")
    (cstr "Total bytes received (tcps_rcvbyte)") sys.rcvbyte
  let out := pushCounterBlock out (cstr "tcpstats_sys_duplicate_packets_total")
    (cstr "Duplicate packets received (tcps_rcvduppack)") sys.rcvduppack
  pushCounterBlock out (cstr "tcpstats_sys_bad_checksum_total")
    (cstr "Bad checksum packets (tcps_rcvbadsum)") sys.rcvbadsum

/-! ### Families -/

/-- A family of one sample. -/
def single (name help type value : CStr) : Family := ⟨name, help, type, [⟨[], value⟩]⟩

/-- The families of the counters of the system. -/
def counterFamilies (sys : TcpSysStats) : List Family := [
  single (cstr "tcpstats_sys_connection_attempts_total") (cstr "Connection attempts (tcps_connattempt)")
    (cstr "counter") (number sys.connattempt),
  single (cstr "tcpstats_sys_accepts_total") (cstr "Connections accepted (tcps_accepts)")
    (cstr "counter") (number sys.accepts),
  single (cstr "tcpstats_sys_connects_total") (cstr "Connections established (tcps_connects)")
    (cstr "counter") (number sys.connects),
  single (cstr "tcpstats_sys_drops_total") (cstr "Connections dropped (tcps_drops)")
    (cstr "counter") (number sys.drops),
  single (cstr "tcpstats_sys_sent_packets_total") (cstr "Total packets sent (tcps_sndtotal)")
    (cstr "counter") (number sys.sndtotal),
  single (cstr "tcpstats_sys_sent_bytes_total") (cstr "Total bytes sent (tcps_sndbyte)")
    (cstr "counter") (number sys.sndbyte),
  single (cstr "tcpstats_sys_retransmit_packets_total") (cstr "Retransmitted packets (tcps_sndrexmitpack)")
    (cstr "counter") (number sys.sndrexmitpack),
  single (cstr "tcpstats_sys_retransmit_bytes_total") (cstr "Retransmitted bytes (tcps_sndrexmitbyte)")
    (cstr "counter") (number sys.sndrexmitbyte),
  single (cstr "tcpstats_sys_received_packets_total") (cstr "Total packets received (tcps_rcvtotal)")
    (cstr "counter") (number sys.rcvtotal),
  single (cstr "tcpstats_sys_received_bytes_total") (cstr "Total bytes received (tcps_rcvbyte)")
    (cstr "counter") (number sys.rcvbyte),
  single (cstr "tcpstats_sys_duplicate_packets_total") (cstr "Duplicate packets received (tcps_rcvduppack)")
    (cstr "counter") (number sys.rcvduppack),
  single (cstr "tcpstats_sys_bad_checksum_total") (cstr "Bad checksum packets (tcps_rcvbadsum)")
    (cstr "counter") (number sys.rcvbadsum)]

/-- The family of the states. -/
def stateFamily (counts : List (CStr × UInt64)) : Family where
  name := cstr "tcpstats_sockets_by_state"
  help := cstr "Count of TCP sockets per state"
  type := cstr "gauge"
  samples := counts.map fun (state, count) => ⟨stateLabels state, number count⟩

/-- The families of a snapshot. -/
def families (snapshot : Snapshot) (httpRequests : UInt64) (latencySecs : ℚ) : List Family := [
  single (cstr "tcpstats_exporter_up") (cstr "Exporter liveness indicator") (cstr "gauge") (cstr "1"),
  single (cstr "tcpstats_exporter_http_requests_total") (cstr "Total HTTP requests handled") (cstr "counter")
    (number httpRequests),
  single (cstr "tcpstats_exporter_collection_latency_seconds") (cstr "Most recent collection latency") (cstr "gauge")
    (fixed6 latencySecs),
  single (cstr "tcpstats_sockets_total") (cstr "Total TCP sockets observed") (cstr "gauge")
    (number snapshot.totalSockets),
  stateFamily snapshot.stateCounts] ++ counterFamilies snapshot.sysStats

theorem pushCounterBlock_eq (out name help : CStr) (val : UInt64) :
    pushCounterBlock out name help val = out ++ (single name help (cstr "counter") (number val)).text := by
  have htype : cstr " counter\n" = chr ' ' :: cstr "counter" ++ [chr '\n'] := by
    repeat rw [cstr_ofList]
    rfl
  simp [pushCounterBlock, pushMetricU64, single, Family.text, Family.lines, unlines, Sample.line, htype]

theorem pushStates_eq (out : CStr) (counts : List (CStr × UInt64)) :
    pushStates out counts = out ++ unlines ((stateFamily counts).samples.map (Sample.line (stateFamily counts).name)) := by
  induction counts generalizing out with
  | nil => simp [pushStates, stateFamily, unlines]
  | cons c counts ih =>
    rw [pushStates, List.foldl_cons]
    refine (ih _).trans ?_
    simp [stateFamily, unlines, Sample.line]

/-- A block is put together as it comes: two lines, the samples and a newline. -/
theorem block_eq (help type samples : CStr) (f : Family)
    (hhead : help ++ type = unlines [cstr "# HELP " ++ f.name ++ chr ' ' :: f.help, cstr "# TYPE " ++ f.name ++ chr ' ' :: f.type])
    (hsamples : samples = unlines (f.samples.map (Sample.line f.name))) (out : CStr) :
    out ++ help ++ type ++ samples ++ [chr '\n'] = out ++ f.text := by
  have hblank : ([chr '\n'] : CStr) = unlines [[]] := rfl
  rw [List.append_assoc out help, hhead, hsamples, hblank, Family.text, Family.lines]
  simp only [unlines, List.flatMap_cons, List.flatMap_append, List.flatMap_nil, List.append_nil, List.append_assoc,
    List.cons_append]

theorem single_block (help type name helpText typeText value : CStr)
    (hhead : help ++ type = unlines [cstr "# HELP " ++ name ++ chr ' ' :: helpText, cstr "# TYPE " ++ name ++ chr ' ' :: typeText])
    (out : CStr) : out ++ help ++ type ++ (name ++ chr ' ' :: value ++ [chr '\n']) ++ [chr '\n'] =
      out ++ (single name helpText typeText value).text :=
  block_eq help type _ (single name helpText typeText value) hhead (by simp [single, unlines, Sample.line]) out

theorem renderOwn_eq (snapshot : Snapshot) (httpRequests : UInt64) (latencySecs : ℚ) :
    renderOwn snapshot httpRequests latencySecs ++ (counterFamilies snapshot.sysStats).flatMap Family.text =
      (families snapshot httpRequests latencySecs).flatMap Family.text := by
  have hup := block_eq (cstr "# HELP tcpstats_exporter_up Exporter liveness indicator\n")
    (cstr "# TYPE tcpstats_exporter_up gauge\n") (cstr "tcpstats_exporter_up 1\n")
    (single (cstr "tcpstats_exporter_up") (cstr "Exporter liveness indicator") (cstr "gauge") (cstr "1"))
    (by
      dsimp only [single]
      repeat rw [cstr_ofList]
      rfl)
    (by
      dsimp only [single]
      repeat rw [cstr_ofList]
      rfl)
  have hrequests := single_block (cstr "# HELP tcpstats_exporter_http_requests_total Total HTTP requests handled\n")
    (cstr "# TYPE tcpstats_exporter_http_requests_total counter\n") (cstr "tcpstats_exporter_http_requests_total")
    (cstr "Total HTTP requests handled") (cstr "counter") (number httpRequests)
    (by
      repeat rw [cstr_ofList]
      rfl)
  have hlatency := single_block
    (cstr "# HELP tcpstats_exporter_collection_latency_seconds Most recent collection latency\n")
    (cstr "# TYPE tcpstats_exporter_collection_latency_seconds gauge\n")
    (cstr "tcpstats_exporter_collection_latency_seconds") (cstr "Most recent collection latency") (cstr "gauge")
    (fixed6 latencySecs)
    (by
      repeat rw [cstr_ofList]
      rfl)
  have htotal := single_block (cstr "# HELP tcpstats_sockets_total Total TCP sockets observed\n")
    (cstr "# TYPE tcpstats_sockets_total gauge\n") (cstr "tcpstats_sockets_total") (cstr "Total TCP sockets observed")
    (cstr "gauge") (number snapshot.totalSockets)
    (by
      repeat rw [cstr_ofList]
      rfl)
  have hstates := block_eq (cstr "# HELP tcpstats_sockets_by_state Count of TCP sockets per state\n")
    (cstr "# TYPE tcpstats_sockets_by_state gauge\n") _ (stateFamily snapshot.stateCounts)
    (by
      dsimp only [stateFamily]
      repeat rw [cstr_ofList]
      rfl) rfl
  simp only [renderOwn, pushStates_eq, pushMetricU64, pushMetricF64]
  rw [hup, hrequests, hlatency, htotal, hstates]
  simp only [families, List.flatMap_append, List.flatMap_cons, List.flatMap_nil, List.append_nil, List.nil_append,
    List.append_assoc]

/-- What is written is the text of the families. -/
theorem render_eq (snapshot : Snapshot) (httpRequests : UInt64) (latencySecs : ℚ) :
    render snapshot httpRequests latencySecs = (families snapshot httpRequests latencySecs).flatMap Family.text := by
  rw [← renderOwn_eq]
  simp only [render, pushCounterBlock_eq, counterFamilies, List.flatMap_cons, List.flatMap_nil, List.append_nil,
    List.append_assoc]

/-! ### Reading back -/

/-- A name that labels can hold as it is. -/
def Plain (name : CStr) : Prop := chr ' ' ∉ name ∧ chr '\n' ∉ name

theorem notMem_decimal {c : UInt8} (hc : ¬ (chr '0' ≤ c ∧ c ≤ chr '9')) (n : ℕ) : c ∉ decimal n := fun h => hc (mem_decimal h)

theorem newline_notMem_number (n : UInt64) : chr '\n' ∉ number n := notMem_decimal (by decide) _

theorem newline_notMem_fixed6 (q : ℚ) : chr '\n' ∉ fixed6 q := by
  have hzero : chr '\n' ≠ chr '0' := by decide
  have hpoint : chr '\n' ≠ chr '.' := by decide
  have hdigits : ∀ n, chr '\n' ∉ decimal n := notMem_decimal (by decide)
  simp only [fixed6, sixDigits, List.mem_append, List.mem_cons, List.mem_replicate, hdigits, hpoint, hzero, false_or,
    and_false, not_false_iff]

theorem single_proper {value : CStr} (hvalue : chr '\n' ∉ value) : (⟨[], value⟩ : Sample).Proper where
  labels := ⟨List.not_mem_nil, List.not_mem_nil⟩
  value := hvalue

theorem stateLabels_proper {state : CStr} (h : Plain state) (count : UInt64) :
    (⟨stateLabels state, number count⟩ : Sample).Proper where
  labels := by
    have hspace : chr ' ' ∉ cstr "\x7bstate=\"" ∧ chr ' ' ∉ cstr "\"\x7d" := by decide
    have hnewline : chr '\n' ∉ cstr "\x7bstate=\"" ∧ chr '\n' ∉ cstr "\"\x7d" := by decide
    simp [stateLabels, hspace, hnewline, h.1, h.2]
  value := newline_notMem_number count

/-- The name of a family is one word without a brace, and what it says of itself is on one line. -/
structure Heading (f : Family) : Prop where
  ne_nil : f.name ≠ []
  word : ∀ c ∈ f.name, isWhitespace c = false ∧ c ≠ chr '#' ∧ c ≠ chr '\x7b' ∧ c ≠ chr '\x7d'
  help : ∀ c ∈ f.help, c ≠ chr '\n' ∧ c ≠ chr '\r'
  type : ∀ c ∈ f.type, c ≠ chr '\n' ∧ c ≠ chr '\r'

/-- This can be seen from the characters. -/
theorem heading_of_chars {name help type : List Char} (samples : List Sample) (hne : name ≠ [])
    (hword : name.all (fun c => decide
      (isWhitespace (chr c) = false ∧ chr c ≠ chr '#' ∧ chr c ≠ chr '\x7b' ∧ chr c ≠ chr '\x7d')) = true)
    (hhelp : help.all (fun c => decide (chr c ≠ chr '\n' ∧ chr c ≠ chr '\r')) = true)
    (htype : type.all (fun c => decide (chr c ≠ chr '\n' ∧ chr c ≠ chr '\r')) = true) :
    Heading ⟨cstr (String.ofList name), cstr (String.ofList help), cstr (String.ofList type), samples⟩ where
  ne_nil := by
    rw [cstr_ofList]
    exact List.map_eq_nil_iff.not.mpr hne
  word := forall_cstr hword
  help := forall_cstr hhelp
  type := forall_cstr htype

/-- No white space in its name. -/
theorem Heading.notMem_name {f : Family} (h : Heading f) {c : UInt8} (hc : isWhitespace c = true) : c ∉ f.name := by
  intro hmem
  rw [(h.word c hmem).1] at hc
  cases hc

theorem Heading.head {f : Family} (h : Heading f) : f.name.head? ≠ some (chr '#') := fun hhead =>
  (h.word _ (List.mem_of_head? hhead)).2.1 rfl

theorem families_heading (snapshot : Snapshot) (httpRequests : UInt64) (latencySecs : ℚ) :
    ∀ f ∈ families snapshot httpRequests latencySecs, Heading f := by
  simp only [families, counterFamilies, List.cons_append, List.nil_append, List.forall_mem_cons, List.not_mem_nil,
    false_implies, implies_true, and_true]
  refine ⟨?_, ?_, ?_, ?_, ?_, ?_, ?_, ?_, ?_, ?_, ?_, ?_, ?_, ?_, ?_, ?_, ?_⟩
  all_goals exact heading_of_chars _ (by decide) (by decide) (by decide) (by decide)

/-- What holds of each kind of sample. -/
theorem forall_samples {P : Sample → Prop} {snapshot : Snapshot} {httpRequests : UInt64} {latencySecs : ℚ}
    (hone : P ⟨[], cstr "1"⟩) (hnumber : ∀ n, P ⟨[], number n⟩) (hlatency : P ⟨[], fixed6 latencySecs⟩)
    (hstates : ∀ c ∈ snapshot.stateCounts, P ⟨stateLabels c.1, number c.2⟩) :
    ∀ f ∈ families snapshot httpRequests latencySecs, ∀ s ∈ f.samples, P s := by
  have hstate : ∀ s ∈ (stateFamily snapshot.stateCounts).samples, P s := List.forall_mem_map.mpr hstates
  simp only [families, counterFamilies, single, List.cons_append, List.nil_append, List.forall_mem_cons, List.not_mem_nil,
    false_implies, implies_true, and_true, true_and, hone, hnumber, hlatency]
  exact hstate

theorem families_proper {snapshot : Snapshot} (h : ∀ c ∈ snapshot.stateCounts, Plain c.1) (httpRequests : UInt64)
    (latencySecs : ℚ) : ∀ f ∈ families snapshot httpRequests latencySecs, f.Proper := by
  intro f hf
  have hf' := families_heading snapshot httpRequests latencySecs f hf
  have hsamples := forall_samples (single_proper (by decide)) (fun n => single_proper (newline_notMem_number n))
    (single_proper (newline_notMem_fixed6 latencySecs)) (fun c hc => stateLabels_proper (h c hc) c.2) f hf
  exact ⟨⟨hf'.notMem_name rfl, hf'.notMem_name rfl⟩, ⟨hf'.ne_nil, hf'.head⟩, fun h => (hf'.help _ h).1 rfl,
    fun h => (hf'.type _ h).1 rfl, hsamples⟩

/-- The text is read as the families of the snapshot. -/
theorem read_render {snapshot : Snapshot} (h : ∀ c ∈ snapshot.stateCounts, Plain c.1) (httpRequests : UInt64)
    (latencySecs : ℚ) : read (render snapshot httpRequests latencySecs) =
      some (families snapshot httpRequests latencySecs) := by
  rw [render_eq]
  exact read_text (families_proper h httpRequests latencySecs)

/-! ### Nothing is lost -/

theorem number_inj {m n : UInt64} : number m = number n ↔ m = n :=
  ⟨fun h => UInt64.toNat_inj.mp (decimal_inj h), congrArg number⟩

/-- Zeros in front of a number do not change it. -/
theorem foldl_sixDigits (n : ℕ) : (sixDigits n).foldl (fun val c => val * 10 + (c - chr '0').toNat) 0 = n := by
  have hzeros : ∀ k, (List.replicate k (chr '0')).foldl (fun val c => val * 10 + (c - chr '0').toNat) 0 = 0 := by
    intro k
    induction k with
    | zero => rfl
    | succ k ih => exact ih
  rw [sixDigits, List.foldl_append, hzeros]
  exact foldl_decimal n

theorem sixDigits_inj {m n : ℕ} (h : sixDigits m = sixDigits n) : m = n := by
  rw [← foldl_sixDigits m, h, foldl_sixDigits]

theorem fixed6_inj {p q : ℚ} (h : fixed6 p = fixed6 q) : millionths p = millionths q := by
  have hpoint : ∀ n, chr '.' ∉ decimal n := notMem_decimal (by decide)
  have hwhole := congrArg (before (chr '.')) h
  have hpart := congrArg (after (chr '.')) h
  rw [fixed6, fixed6, before_append (hpoint _), before_append (hpoint _)] at hwhole
  rw [fixed6, fixed6, after_append (hpoint _), after_append (hpoint _), Option.some.injEq] at hpart
  rw [← Nat.div_add_mod (millionths p) (10 ^ 6), decimal_inj hwhole, sixDigits_inj hpart, Nat.div_add_mod]

theorem stateFamily_inj {counts counts' : List (CStr × UInt64)} (h : stateFamily counts = stateFamily counts') :
    counts = counts' := by
  refine List.map_injective_iff.mpr ?_ (congrArg Family.samples h)
  rintro ⟨state, count⟩ ⟨state', count'⟩ heq
  obtain ⟨hlabels, hvalue⟩ := Sample.mk.inj heq
  rw [stateLabels, stateLabels, List.append_assoc, List.append_assoc] at hlabels
  rw [List.append_cancel_right (List.append_cancel_left hlabels), number_inj.mp hvalue]

/-- The text says all there is to say about the snapshot, the number of requests and the latency up to its millionths. -/
theorem render_inj {s s' : Snapshot} {httpRequests httpRequests' : UInt64} {latency latency' : ℚ}
    (h : ∀ c ∈ s.stateCounts, Plain c.1) (h' : ∀ c ∈ s'.stateCounts, Plain c.1)
    (heq : render s httpRequests latency = render s' httpRequests' latency') :
    s.totalSockets = s'.totalSockets ∧ s.stateCounts = s'.stateCounts ∧ s.sysStats = s'.sysStats ∧
      httpRequests = httpRequests' ∧ millionths latency = millionths latency' := by
  have hread := congrArg read heq
  rw [read_render h, read_render h', Option.some.injEq] at hread
  obtain ⟨total, counts, ⟨⟩, duration⟩ := s
  obtain ⟨total', counts', ⟨⟩, duration'⟩ := s'
  simp only [families, counterFamilies, single, List.cons_append, List.nil_append, List.cons.injEq, Family.mk.injEq,
    Sample.mk.injEq, true_and, and_true, number_inj] at hread
  obtain ⟨hrequests, hlatency, htotal, hstates, hsys⟩ := hread
  refine ⟨htotal, stateFamily_inj hstates, ?_, hrequests, fixed6_inj hlatency⟩
  simpa only [TcpSysStats.mk.injEq] using hsys

end TcpStats.Exporter
