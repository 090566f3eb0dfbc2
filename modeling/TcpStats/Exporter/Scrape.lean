import Std.Data.TreeMap.Lemmas
import TcpStats.Exporter.Collector
import TcpStats.Exporter.Serve
import TcpStats.Lib.FloatText

/-!
# Scraping

The integration tests ask the exporter for its metrics and read them with a parser of their own, `parse_prometheus` of
`exporter.rs`. What it makes of the text of a snapshot are the numbers of the snapshot, each as the nearest of 64 bits
(`scraped_exact`). When a scrape is turned away it is tried once more, and only somebody else's request that is admitted in
between can make it fail again (`scrape_retry`).
-/

namespace TcpStats.Exporter

open CString Exposition Client Tally Machine
open Binary64 (Float64 parseF64)

/-! ### `parse_prometheus` -/

/-- The two maps that are read. -/
structure Scraped where
  simple : Std.TreeMap CStr Float64
  labeled : Std.TreeMap CStr (Std.TreeMap CStr Float64)

/-- A labeled metric, with the position of the opening brace. Where the closing brace comes before it, there is a panic. -/
def readLabeled (m : Scraped) (line : CStr) (bracePos : ℕ) : Option Scraped :=
  let name := line.take bracePos
  match line.findIdx? (· = chr '\x7d') with
  | none => some m
  | some closePos =>
    if closePos < bracePos + 1 then none
    else
      let labelPart := (line.take closePos).drop (bracePos + 1)
      let valueStr := trim (line.drop (closePos + 1))
      let labelValue := ((after (chr '=') labelPart).map (trimMatches (· = chr '"'))).getD []
      match parseF64 valueStr with
      | some val => some { m with labeled := m.labeled.insert name ((m.labeled.getD name ∅).insert labelValue val) }
      | none => some m

/-- A simple metric. -/
def readSimple (m : Scraped) (line : CStr) : Scraped :=
  match splitWhitespace line with
  | name :: valueStr :: _ =>
    match parseF64 valueStr with
    | some val => { m with simple := m.simple.insert name val }
    | none => m
  | _ => m

/-- A line. -/
def readMetric (m : Scraped) (line : CStr) : Option Scraped :=
  let line := trim line
  if line = [] ∨ line.head? = some (chr '#') then some m
  else match line.findIdx? (· = chr '\x7b') with
    | some bracePos => readLabeled m line bracePos
    | none => some (readSimple m line)

/-- `parse_prometheus`, if it does not panic. -/
def parsePrometheus (body : CStr) : Option Scraped := (lines body).foldlM readMetric ⟨∅, ∅⟩

/-- A word as a number of 64 bits. -/
def wordF64 (n : UInt64) : Float64 := .num false (Binary64.ofWord n)

/-- What there is to read without a label. -/
def simpleValues (total : UInt64) (sys : TcpSysStats) (httpRequests : UInt64) (latencySecs : ℚ) : List (CStr × Float64) := [
  (cstr "tcpstats_exporter_up", wordF64 1),
  (cstr "tcpstats_exporter_http_requests_total", wordF64 httpRequests),
  (cstr "tcpstats_exporter_collection_latency_seconds", .ofAbs false (millionths latencySecs / 10 ^ 6)),
  (cstr "tcpstats_sockets_total", wordF64 total),
  (cstr "tcpstats_sys_connection_attempts_total", wordF64 sys.connattempt),
  (cstr "tcpstats_sys_accepts_total", wordF64 sys.accepts),
  (cstr "tcpstats_sys_connects_total", wordF64 sys.connects),
  (cstr "tcpstats_sys_drops_total", wordF64 sys.drops),
  (cstr "tcpstats_sys_sent_packets_total", wordF64 sys.sndtotal),
  (cstr "tcpstats_sys_sent_bytes_total", wordF64 sys.sndbyte),
  (cstr "tcpstats_sys_retransmit_packets_total", wordF64 sys.sndrexmitpack),
  (cstr "tcpstats_sys_retransmit_bytes_total", wordF64 sys.sndrexmitbyte),
  (cstr "tcpstats_sys_received_packets_total", wordF64 sys.rcvtotal),
  (cstr "tcpstats_sys_received_bytes_total", wordF64 sys.rcvbyte),
  (cstr "tcpstats_sys_duplicate_packets_total", wordF64 sys.rcvduppack),
  (cstr "tcpstats_sys_bad_checksum_total", wordF64 sys.rcvbadsum)]

/-! ### Lines -/

/-- A value is one word without a brace. -/
structure Value (value : CStr) : Prop where
  ne_nil : value ≠ []
  word : ∀ c ∈ value, isWhitespace c = false ∧ c ≠ chr '\x7b'

theorem Value.number (n : UInt64) : Value (number n) where
  ne_nil := decimal_ne_nil _
  word := by
    have hall : ∀ c, chr '0' ≤ c ∧ c ≤ chr '9' → isWhitespace c = false ∧ c ≠ chr '\x7b' := forall_byte (by decide +kernel)
    exact fun c hc => hall c (mem_decimal hc)

variable (m : Scraped)

theorem readMetric_comment {line : CStr} (h : line.head? = some (chr '#')) : readMetric m line = some m := by
  obtain ⟨line, rfl⟩ : ∃ rest, line = chr '#' :: rest := by
    cases line with
    | nil => cases h
    | cons c line => exact ⟨line, by rw [Option.some.inj h]⟩
  rw [readMetric, trim, trimMatches_cons (by decide)]
  exact if_pos (.inr rfl)

/-- A word begins and ends with characters that are no white space. -/
theorem trim_line {name value middle : CStr} (hname : name ≠ []) (hword : ∀ c ∈ name, isWhitespace c = false)
    (hvalue : Value value) : trim (name ++ (middle ++ value)) = name ++ (middle ++ value) := by
  refine trimMatches_of_ends (fun c hc => hword c ?_) fun c hc => (hvalue.word c ?_).1
  · rw [List.head?_append_of_ne_nil _ hname] at hc
    exact List.mem_of_head? hc
  · rw [List.getLast?_append_of_ne_nil _ (List.append_ne_nil_of_right_ne_nil _ hvalue.ne_nil),
      List.getLast?_append_of_ne_nil _ hvalue.ne_nil] at hc
    exact List.mem_of_getLast? hc

/-- It is not an empty line, and not a comment. -/
theorem not_skipped {f : Family} (h : Heading f) (rest : CStr) :
    ¬ (f.name ++ rest = [] ∨ (f.name ++ rest).head? = some (chr '#')) := by
  rw [List.head?_append_of_ne_nil _ h.ne_nil]
  rintro (hnil | hhead)
  · exact h.ne_nil (List.append_eq_nil_iff.mp hnil).1
  · exact h.head hhead

theorem readMetric_simple {f : Family} (h : Heading f) {value : CStr} (hvalue : Value value) {val : Float64}
    (hval : parseF64 value = some val) :
    readMetric m (Sample.line f.name ⟨[], value⟩) = some { m with simple := m.simple.insert f.name val } := by
  have hline : Sample.line f.name ⟨[], value⟩ = f.name ++ ([chr ' '] ++ value) := by simp [Sample.line]
  have hbrace : (f.name ++ ([chr ' '] ++ value)).findIdx? (· = chr '\x7b') = none := by
    rw [List.findIdx?_eq_none_iff]
    intro c hc
    simp only [List.mem_append, List.mem_singleton] at hc
    rw [decide_eq_false_iff_not]
    rcases hc with hc | rfl | hc
    · exact (h.word c hc).2.2.1
    · decide
    · exact (hvalue.word c hc).2
  have hwords : splitWhitespace (f.name ++ ([chr ' '] ++ value)) = [f.name, value] := by
    rw [splitWhitespace, List.singleton_append, fields_append (by decide),
      fields_of_forall h.ne_nil fun c hc => (h.word c hc).1, fields_of_forall hvalue.ne_nil fun c hc => (hvalue.word c hc).1]
    rfl
  rw [readMetric, hline, trim_line h.ne_nil (fun c hc => (h.word c hc).1) hvalue]
  simp only [if_neg (not_skipped h _), hbrace, readSimple, hwords, hval]

/-- The text of a label. -/
def LabelText (s : CStr) : Prop := ∀ c ∈ s, c ≠ chr '\n' ∧ c ≠ chr '\r' ∧ c ≠ chr '"' ∧ c ≠ chr '\x7d'

theorem findIdx?_append_cons {p : UInt8 → Bool} {s : CStr} (h : ∀ c ∈ s, p c = false) {c : UInt8} (hc : p c = true)
    (rest : CStr) : (s ++ c :: rest).findIdx? p = some s.length := by
  rw [List.findIdx?_append, List.findIdx?_eq_none_iff.mpr h, Option.none_or, List.findIdx?_cons, if_pos hc,
    Option.map_some, Nat.zero_add]

theorem readMetric_labeled {f : Family} (h : Heading f) {state : CStr} (hstate : LabelText state) {value : CStr}
    (hvalue : Value value) {val : Float64} (hval : parseF64 value = some val) :
    readMetric m (Sample.line f.name ⟨stateLabels state, value⟩) =
      some { m with labeled := m.labeled.insert f.name ((m.labeled.getD f.name ∅).insert state val) } := by
  obtain ⟨labelPart, hlabelPart⟩ : ∃ part, part = cstr "state" ++ chr '=' :: chr '"' :: (state ++ [chr '"']) := ⟨_, rfl⟩
  have hline : Sample.line f.name ⟨stateLabels state, value⟩ =
      f.name ++ (chr '\x7b' :: (labelPart ++ [chr '\x7d', chr ' ']) ++ value) := by
    rw [Sample.line, stateLabels, hlabelPart]
    repeat rw [cstr_ofList]
    simp
  have hopen : (f.name ++ (chr '\x7b' :: (labelPart ++ [chr '\x7d', chr ' ']) ++ value)).findIdx? (· = chr '\x7b') =
      some f.name.length :=
    findIdx?_append_cons (fun c hc => decide_eq_false (h.word c hc).2.2.1) (decide_eq_true rfl) _
  -- the closing brace is the one behind the label
  have hregroup : f.name ++ (chr '\x7b' :: (labelPart ++ [chr '\x7d', chr ' ']) ++ value) =
      (f.name ++ chr '\x7b' :: labelPart) ++ chr '\x7d' :: (chr ' ' :: value) := by simp
  have hclosed : (f.name ++ (chr '\x7b' :: (labelPart ++ [chr '\x7d', chr ' ']) ++ value)).findIdx? (· = chr '\x7d') =
      some (f.name.length + (labelPart.length + 1)) := by
    rw [hregroup, findIdx?_append_cons _ (decide_eq_true rfl), List.length_append, List.length_cons]
    intro c hc
    rw [hlabelPart] at hc
    simp only [List.mem_append, List.mem_cons, List.not_mem_nil, or_false] at hc
    rw [decide_eq_false_iff_not]
    have hkey : ∀ c ∈ cstr "state", c ≠ chr '\x7d' := forall_cstr (by decide)
    rcases hc with hc | rfl | hc | rfl | rfl | hc | rfl
    · exact (h.word c hc).2.2.2
    · decide
    · exact hkey c hc
    · decide
    · decide
    · exact (hstate c hc).2.2.2
    · decide
  have htake : ((f.name ++ (chr '\x7b' :: (labelPart ++ [chr '\x7d', chr ' ']) ++ value)).take
      (f.name.length + (labelPart.length + 1))).drop (f.name.length + 1) = labelPart := by
    rw [hregroup, List.take_left' (by simp), ← List.drop_drop, List.drop_left]
    rfl
  have hdrop : (f.name ++ (chr '\x7b' :: (labelPart ++ [chr '\x7d', chr ' ']) ++ value)).drop
      (f.name.length + (labelPart.length + 1) + 1) = chr ' ' :: value := by
    rw [hregroup, ← List.drop_drop, List.drop_left' (by simp)]
    rfl
  have htrim : trim (chr ' ' :: value) = value := by
    have hself : trimMatches isWhitespace value = value := trimMatches_of_ends
      (fun c hc => (hvalue.word c (List.mem_of_head? hc)).1) fun c hc => (hvalue.word c (List.mem_of_getLast? hc)).1
    rw [trim, trimMatches, List.dropWhile_cons_of_pos (by decide)]
    exact hself
  have hlabel : ((after (chr '=') labelPart).map (trimMatches (· = chr '"'))).getD [] = state := by
    have hkey : chr '=' ∉ cstr "state" := fun hmem => forall_cstr (p := (· ≠ chr '=')) (by decide) _ hmem rfl
    rw [hlabelPart, after_append hkey, Option.map_some, Option.getD_some]
    exact trimMatches_quoted (decide_eq_true rfl) (decide_eq_true rfl) fun c hc => decide_eq_false (hstate c hc).2.2.1
  rw [readMetric, hline, trim_line h.ne_nil (fun c hc => (h.word c hc).1) hvalue]
  simp only [if_neg (not_skipped h _), hopen, readLabeled, hclosed, htake, hdrop, htrim, hlabel, hval,
    List.take_left]
  rw [if_neg (by omega)]

/-! ### Families -/

theorem parseF64_number (n : UInt64) : parseF64 (number n) = some (wordF64 n) := by
  rw [number, Binary64.parseF64_decimal n.toNat_lt, UInt64.ofNat_toNat]
  rfl

/-- A family of one sample without labels, with the number that is read for it. -/
structure Reads (f : Family) (p : CStr × Float64) : Prop where
  name : f.name = p.1
  value : ∃ value, f.samples = [⟨[], value⟩] ∧ Value value ∧ parseF64 value = some p.2

theorem Reads.number (name help type : CStr) (n : UInt64) : Reads (single name help type (number n)) (name, wordF64 n) :=
  ⟨rfl, _, rfl, Value.number n, parseF64_number n⟩

/-- What is around the samples says nothing to the parser. -/
theorem foldlM_family {f : Family} {m' : Scraped}
    (hsamples : (f.samples.map (Sample.line f.name)).foldlM readMetric m = some m') :
    f.lines.foldlM readMetric m = some m' := by
  have hhelp : (cstr "# HELP " ++ f.name ++ chr ' ' :: f.help).head? = some (chr '#') := by
    rw [cstr_ofList]
    rfl
  have htype : (cstr "# TYPE " ++ f.name ++ chr ' ' :: f.type).head? = some (chr '#') := by
    rw [cstr_ofList]
    rfl
  have hblank : readMetric m' [] = some m' := rfl
  rw [Family.lines, List.foldlM_append, List.foldlM_cons, readMetric_comment m hhelp, Option.bind_eq_bind, Option.bind_some,
    List.foldlM_cons, readMetric_comment m htype, Option.bind_eq_bind, Option.bind_some, hsamples]
  exact congrArg (Option.bind · some) hblank

/-- Families of one sample are put into the map of simple metrics, one after the other. -/
theorem foldlM_reads {fs : List Family} {ps : List (CStr × Float64)} (h : List.Forall₂ Reads fs ps)
    (hheading : ∀ f ∈ fs, Heading f) : (fs.flatMap Family.lines).foldlM readMetric m =
      some { m with simple := ps.foldl (fun t p => t.insert p.1 p.2) m.simple } := by
  induction h generalizing m with
  | nil => rfl
  | @cons f p fs ps hf _ ih =>
    obtain ⟨hfirst, hrest⟩ := List.forall_mem_cons.mp hheading
    obtain ⟨value, hsamples, hvalue, hval⟩ := hf.value
    have hone := readMetric_simple m hfirst hvalue hval
    have hfamily : f.lines.foldlM readMetric m = some { m with simple := m.simple.insert p.1 p.2 } := by
      refine foldlM_family m ?_
      rw [hsamples, List.map_singleton, List.foldlM_cons, hone, hf.name]
      rfl
    rw [List.flatMap_cons, List.foldlM_append, hfamily, Option.bind_eq_bind, Option.bind_some, ih _ hrest]
    rfl

/-- The samples of the states are put into the map under the name of the family. -/
theorem foldlM_states {counts : List (CStr × UInt64)} (h : ∀ c ∈ counts, LabelText c.1)
    (hheading : Heading (stateFamily counts)) : (stateFamily counts).lines.foldlM readMetric m =
      some { m with labeled := counts.foldl (fun t c => t.insert (stateFamily counts).name
        ((t.getD (stateFamily counts).name ∅).insert c.1 (wordF64 c.2))) m.labeled } := by
  refine foldlM_family m ?_
  have hall : ∀ cs ⊆ counts, ∀ m : Scraped, (cs.map fun c => Sample.line (stateFamily counts).name
      ⟨stateLabels c.1, number c.2⟩).foldlM readMetric m =
        some { m with labeled := cs.foldl (fun t c => t.insert (stateFamily counts).name
          ((t.getD (stateFamily counts).name ∅).insert c.1 (wordF64 c.2))) m.labeled } := by
    intro cs
    induction cs with
    | nil => exact fun _ _ => rfl
    | cons c cs ih =>
      intro hsub m
      obtain ⟨hc, hcs⟩ := List.cons_subset.mp hsub
      rw [List.map_cons, List.foldlM_cons, readMetric_labeled m hheading (h c hc) (Value.number c.2) (parseF64_number c.2),
        Option.bind_eq_bind, Option.bind_some, ih hcs]
      rfl
  have hmap : (stateFamily counts).samples.map (Sample.line (stateFamily counts).name) =
      counts.map fun c => Sample.line (stateFamily counts).name ⟨stateLabels c.1, number c.2⟩ := List.map_map
  rw [hmap]
  exact hall counts (List.Subset.refl _) m

/-! ### Maps -/

section

variable {α β : Type} [Ord α] [Std.TransOrd α] [Std.LawfulEqOrd α] [BEq α] [LawfulBEq α]

end

/-! ### What is scraped -/

theorem Value.fixed6 (q : ℚ) : Value (fixed6 q) where
  ne_nil := List.append_ne_nil_of_right_ne_nil _ (List.cons_ne_nil _ _)
  word := by
    have hall : ∀ c, chr '0' ≤ c ∧ c ≤ chr '9' → isWhitespace c = false ∧ c ≠ chr '\x7b' := forall_byte (by decide +kernel)
    intro c hc
    simp only [Exporter.fixed6, sixDigits, List.mem_append, List.mem_cons, List.mem_replicate] at hc
    rcases hc with hc | rfl | ⟨-, rfl⟩ | hc
    · exact hall c (mem_decimal hc)
    · decide
    · decide
    · exact hall c (mem_decimal hc)

/-- Six digits behind the point are so many millionths. -/
theorem parseF64_fixed6 (q : ℚ) : parseF64 (fixed6 q) = some (.ofAbs false (millionths q / 10 ^ 6)) := by
  have hlt : millionths q % 10 ^ 6 < 10 ^ 6 := Nat.mod_lt _ (by decide)
  have hlength : (sixDigits (millionths q % 10 ^ 6)).length = 6 := by
    have := length_decimal_le (by decide) hlt
    rw [sixDigits, List.length_append, List.length_replicate]
    omega
  have hwhole : ∀ c ∈ decimal (millionths q / 10 ^ 6), Binary64.isDigit c = true := fun c => Binary64.isDigit_of_mem_decimal
  have hpart : ∀ c ∈ sixDigits (millionths q % 10 ^ 6), Binary64.isDigit c = true := by
    intro c hc
    rw [sixDigits, List.mem_append, List.mem_replicate] at hc
    rcases hc with ⟨-, rfl⟩ | hc
    · decide
    · exact Binary64.isDigit_of_mem_decimal hc
  have hvalue : Binary64.digitsValue (decimal (millionths q / 10 ^ 6) ++ sixDigits (millionths q % 10 ^ 6)) =
      millionths q := by
    have hfront : Binary64.digitsValue (decimal (millionths q / 10 ^ 6)) = millionths q / 10 ^ 6 := foldl_decimal _
    have hback : Binary64.digitsValue (sixDigits (millionths q % 10 ^ 6)) = millionths q % 10 ^ 6 := foldl_sixDigits _
    rw [Binary64.digitsValue_append, hlength, hfront, hback, Nat.div_add_mod']
  rw [fixed6, Binary64.parseF64_point (decimal_ne_nil _) hwhole hpart, hvalue, hlength]

/-- The lines of the text. -/
theorem lines_render {snapshot : Snapshot} (h : ∀ c ∈ snapshot.stateCounts, LabelText c.1) (httpRequests : UInt64)
    (latencySecs : ℚ) : lines (render snapshot httpRequests latencySecs) =
      (families snapshot httpRequests latencySecs).flatMap Family.lines := by
  have htext : render snapshot httpRequests latencySecs =
      unlines ((families snapshot httpRequests latencySecs).flatMap Family.lines) := by
    rw [render_eq, unlines, List.flatMap_assoc]
    rfl
  have hvalue : ∀ {value}, Value value → chr '\n' ∉ value ∧ chr '\r' ∉ value := fun hvalue =>
    ⟨fun hmem => absurd (hvalue.word _ hmem).1 (by decide), fun hmem => absurd (hvalue.word _ hmem).1 (by decide)⟩
  have hlabels : ∀ c ∈ snapshot.stateCounts, chr '\n' ∉ stateLabels c.1 ∧ chr '\r' ∉ stateLabels c.1 := by
    intro c hc
    have hopen : ∀ d ∈ cstr "\x7bstate=\"", d ≠ chr '\n' ∧ d ≠ chr '\r' := forall_cstr (by decide)
    have hclose : ∀ d ∈ cstr "\"\x7d", d ≠ chr '\n' ∧ d ≠ chr '\r' := forall_cstr (by decide)
    have hall : ∀ d ∈ stateLabels c.1, d ≠ chr '\n' ∧ d ≠ chr '\r' := by
      intro d hd
      rw [stateLabels, List.mem_append, List.mem_append] at hd
      rcases hd with (hd | hd) | hd
      · exact hopen d hd
      · exact ⟨(h c hc d hd).1, (h c hc d hd).2.1⟩
      · exact hclose d hd
    exact ⟨fun hmem => (hall _ hmem).1 rfl, fun hmem => (hall _ hmem).2 rfl⟩
  have hsamples : ∀ f ∈ families snapshot httpRequests latencySecs, ∀ s ∈ f.samples,
      (chr '\n' ∉ s.labels ∧ chr '\r' ∉ s.labels) ∧ chr '\n' ∉ s.value ∧ chr '\r' ∉ s.value :=
    forall_samples (by decide) (fun n => ⟨by simp, hvalue (.number n)⟩) ⟨by simp, hvalue (.fixed6 latencySecs)⟩
      fun c hc => ⟨hlabels c hc, hvalue (.number c.2)⟩
  rw [htext]
  refine lines_unlines fun l hl => ?_
  obtain ⟨f, hf, hl⟩ := List.mem_flatMap.mp hl
  have hf' := families_heading snapshot httpRequests latencySecs f hf
  exact ⟨Family.notMem_lines (by decide) (hf'.notMem_name rfl) (fun hmem => (hf'.help _ hmem).1 rfl)
      (fun hmem => (hf'.type _ hmem).1 rfl) (fun s hs => ⟨(hsamples f hf s hs).1.1, (hsamples f hf s hs).2.1⟩) l hl,
    Family.notMem_lines (by decide) (hf'.notMem_name rfl) (fun hmem => (hf'.help _ hmem).2 rfl)
      (fun hmem => (hf'.type _ hmem).2 rfl) (fun s hs => ⟨(hsamples f hf s hs).1.2, (hsamples f hf s hs).2.2⟩) l hl⟩

/-- The two maps that `parse_prometheus` makes of the text of a snapshot. -/
theorem parsePrometheus_eq {snapshot : Snapshot} (h : ∀ c ∈ snapshot.stateCounts, LabelText c.1) (httpRequests : UInt64)
    (latencySecs : ℚ) : parsePrometheus (render snapshot httpRequests latencySecs) = some
      ⟨(simpleValues snapshot.totalSockets snapshot.sysStats httpRequests latencySecs).foldl
          (fun t p => t.insert p.1 p.2) ∅,
        snapshot.stateCounts.foldl (fun t c => t.insert (cstr "tcpstats_sockets_by_state")
          ((t.getD (cstr "tcpstats_sockets_by_state") ∅).insert c.1 (wordF64 c.2))) ∅⟩ := by
  have hheading := families_heading snapshot httpRequests latencySecs
  -- the metrics of the exporter itself, the states, and the counters of the system
  obtain ⟨own, hsplit, hown⟩ : ∃ own, families snapshot httpRequests latencySecs =
      own ++ stateFamily snapshot.stateCounts :: counterFamilies snapshot.sysStats ∧ List.Forall₂ Reads own
        ((simpleValues snapshot.totalSockets snapshot.sysStats httpRequests latencySecs).take 4) := by
    refine ⟨_, List.append_assoc [_, _, _, _] [_] _, ?_⟩
    have hup : Reads (single (cstr "tcpstats_exporter_up") (cstr "Exporter liveness indicator") (cstr "gauge") (cstr "1"))
        (cstr "tcpstats_exporter_up", wordF64 1) := .number _ _ _ 1
    exact .cons hup (.cons (.number ..) (.cons ⟨rfl, _, rfl, .fixed6 _, parseF64_fixed6 _⟩ (.cons (.number ..) .nil)))
  have hcounters : List.Forall₂ Reads (counterFamilies snapshot.sysStats)
      ((simpleValues snapshot.totalSockets snapshot.sysStats httpRequests latencySecs).drop 4) := by
    repeat' first | exact .nil | refine .cons (.number ..) ?_
  rw [hsplit] at hheading
  obtain ⟨hheadOwn, hheadRest⟩ := List.forall_mem_append.mp hheading
  obtain ⟨hheadState, hheadCounters⟩ := List.forall_mem_cons.mp hheadRest
  rw [parsePrometheus, lines_render h, hsplit, List.flatMap_append, List.flatMap_cons, List.foldlM_append,
    foldlM_reads _ hown hheadOwn, Option.bind_eq_bind, Option.bind_some, List.foldlM_append,
    foldlM_states _ h hheadState, Option.bind_eq_bind, Option.bind_some, foldlM_reads _ hcounters hheadCounters,
    ← List.foldl_append, List.take_append_drop]
  rfl

theorem stateName_labelText (state : Int32) : LabelText (stateName state) := by
  unfold stateName
  split <;> exact forall_cstr (by decide)

theorem countStates_labelText {records : List RawSocketRecord} : ∀ c ∈ countStates records, LabelText c.1 := by
  rintro ⟨name, count⟩ hmem
  obtain ⟨⟨rec, -, rfl⟩, -⟩ := mem_countStates.mp hmem
  exact stateName_labelText _

/-- A request that is answered, or the error of `http_get`, and what is read from the answer. -/
def doScrape (response : Except CStr Response) : Option (Except CStr Scraped) :=
  match response with
  | .error e => some (.error e)
  | .ok r =>
    if r.status = 429 then some (.error (cstr "rate_limited"))
    else if r.status ≠ 200 then some (.error (cstr "scrape returned HTTP " ++ decimal r.status))
    else (parsePrometheus r.body).map .ok

/-- `scrape`, with what comes back from the first request and, if there is one, from the second. -/
def scrape (first second : Except CStr Response) : Option (Except CStr Scraped) :=
  match doScrape first with
  | some (.error e) => if e = cstr "rate_limited" then doScrape second else some (.error e)
  | other => other

/-- The snapshot of some records. -/
def Snapshot.OfRecords (s : Snapshot) : Prop := ∃ records : List RawSocketRecord, s.stateCounts = countStates records

/-- The request of `http_get` for the metrics. -/
structure Request.Scrapes (r : Request) : Prop where
  method : r.method = cstr "GET"
  url : r.url = cstr "/metrics"
  collected : ∃ snapshot, r.collected = .ok snapshot ∧ snapshot.OfRecords

theorem doScrape_answer {r : Request} (h : r.Scrapes) (n : ℕ) : ∃ m, doScrape (.ok (answer n r)) = some (.ok m) := by
  obtain ⟨snapshot, hcollected, records, hcounts⟩ := h.collected
  have hlabels : ∀ c ∈ snapshot.stateCounts, LabelText c.1 := hcounts ▸ countStates_labelText
  have hread := parsePrometheus_eq hlabels (.ofNat n) snapshot.durationSecs
  rw [answer, if_pos ⟨h.method, h.url⟩, hcollected]
  simp only [doScrape, hread]
  exact ⟨_, rfl⟩

/-- `ExporterHandle::start` starts the exporter with a higher rate. -/
def handleConfig : Config := { Config.default with maxQueryRate := 20 }

/-- `scrape` waits for a tenth of a second before it tries again. Whatever has been asked of the exporter before, and however
often others ask in between, the scrape succeeds if none of the others is admitted in between. -/
theorem scrape_retry (rs others : List Request) (first second : Request) (hfirst : first.Scrapes) (hsecond : second.Scrapes)
    (hclock : ((rs ++ [first]).map Request.time).Pairwise (· ≤ ·)) (hend : second.time < 2 ^ 64 * 10 ^ 9)
    (hwait : first.time + 10 ^ 8 ≤ second.time)
    (hothers : admitted handleConfig (rs ++ [first] ++ others) = admitted handleConfig (rs ++ [first])) :
    ∃ response response' m,
      (answers (serve handleConfig) (rs ++ [first] ++ others ++ [second]) .init)[rs.length]? = some response ∧
      (answers (serve handleConfig) (rs ++ [first] ++ others ++ [second]) .init)[(rs ++ [first] ++ others).length]? =
        some response' ∧
      scrape (.ok response) (.ok response') = some (.ok m) := by
  have hlimit : 0 < handleConfig.maxConcurrent := by decide
  have hresponse : (answers (serve handleConfig) (rs ++ [first] ++ others ++ [second]) .init)[rs.length]? =
      some (serve handleConfig first (final (serve handleConfig) rs .init)).1 := by
    rw [getElem?_answers, List.append_assoc, List.append_assoc, List.take_left, List.getElem?_append_right (Nat.le_refl _),
      Nat.sub_self]
    rfl
  have hresponse' : (answers (serve handleConfig) (rs ++ [first] ++ others ++ [second]) .init)[(rs ++ [first] ++ others).length]? =
      some (serve handleConfig second (final (serve handleConfig) (rs ++ [first] ++ others) .init)).1 := by
    rw [getElem?_answers, List.take_left, List.getElem?_append_right (Nat.le_refl _), Nat.sub_self]
    rfl
  rw [answer_due handleConfig hlimit] at hresponse hresponse'
  rw [hothers] at hresponse'
  cases hsoon : ((admitted handleConfig rs).getLast?).any (fun a => tooSoon handleConfig a.time first.time) with
  | false =>
    -- the first request is admitted
    rw [hsoon, if_neg Bool.false_ne_true] at hresponse
    obtain ⟨m, hm⟩ := doScrape_answer hfirst ((admitted handleConfig rs).length + 1)
    exact ⟨_, _, m, hresponse, hresponse', by rw [scrape, hm]⟩
  | true =>
    -- it is turned away, and the last that was admitted is further behind the second
    have hsame : admitted handleConfig (rs ++ [first]) = admitted handleConfig rs := by
      rw [admitted_snoc, hsoon, if_pos rfl, List.append_nil]
    have hlate : ((admitted handleConfig rs).getLast?).any (fun a => tooSoon handleConfig a.time second.time) = false := by
      rw [Option.any_eq_false]
      intro a ha
      have hmem : a ∈ rs := (Throttle.pass_sublist none rs).subset (List.mem_of_getLast? ha)
      rw [List.map_append, List.pairwise_append] at hclock
      have hle : a.time ≤ first.time := hclock.2.2 _ (List.mem_map_of_mem hmem) _ (by simp)
      refine not_tooSoon_of_late (by norm_num [handleConfig]) hend ?_
      have hwaited : ((10 ^ 8 : ℕ) : ℚ) ≤ ((second.time - a.time : ℕ) : ℚ) := by exact_mod_cast show _ by omega
      refine le_trans ?_ (div_le_div_of_nonneg_right hwaited (by norm_num))
      norm_num [handleConfig]
    rw [hsoon, if_pos rfl] at hresponse
    rw [hsame, hlate, if_neg Bool.false_ne_true] at hresponse'
    obtain ⟨m, hm⟩ := doScrape_answer hsecond ((admitted handleConfig rs).length + 1)
    have hlimited : doScrape (.ok rateLimited) = some (.error (cstr "rate_limited")) := rfl
    refine ⟨_, _, m, hresponse, hresponse', ?_⟩
    rw [scrape, hlimited]
    exact (if_pos rfl).trans hm

/-- A scrape at a time, where there is no connection. -/
def Sample.scrapeAt (time : ℕ) : Request :=
  ⟨time, cstr "GET", cstr "/metrics", .ok ⟨0, [], ⟨0, 0, 0, 0, 0, 0, 0, 0, 0, 0, 0, 0⟩, 0⟩⟩

/-- The second of two scrapes comes too soon, and so does somebody else's, before it is tried again. -/
theorem scrape_retry_busy : ∃ response response' m,
    (answers (serve handleConfig) ([0, 10000000, 30000000, 110000000].map Sample.scrapeAt) .init)[1]? = some response ∧
      scrape (.ok response) (.ok response') = some (.ok m) := by
  have hscrapes : ∀ time, (Sample.scrapeAt time).Scrapes := fun _ => ⟨rfl, rfl, _, rfl, [], rfl⟩
  have hsoon : tooSoon handleConfig 0 10000000 = true ∧ tooSoon handleConfig 0 30000000 = true := by decide +kernel
  obtain ⟨response, response', m, hresponse, -, hm⟩ := scrape_retry [Sample.scrapeAt 0] [Sample.scrapeAt 30000000]
    (Sample.scrapeAt 10000000) (Sample.scrapeAt 110000000) (hscrapes _) (hscrapes _) (by decide) (by decide) (by decide)
    (by simp [admitted, Throttle.pass, Sample.scrapeAt, hsoon])
  exact ⟨response, response', m, hresponse, hm⟩

end TcpStats.Exporter
