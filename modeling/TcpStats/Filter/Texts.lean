import Mathlib.Data.List.Induction
import TcpStats.Filter.Spelling
import TcpStats.Filter.Ipv6Grammar

/-!
# Which filters have a text

The filters of accepted strings are well formed, have no flag but those of the keys and one of the two formats, and no
bits beyond the prefix in an IPv6 network, unless the prefix length is 0. Nothing else holds of all of them: a filter of
which this holds is said in at most ten words and 511 bytes, and those are accepted as that filter
(`sayable_iff`).
-/

namespace TcpStats

open CString Fallible

/-! ### Filters that can be said -/

/-- The flags that the directives set. -/
def KEY_FLAGS : UInt32 := 0x0007F000

namespace TcpstatsFilter

/-- What holds of the filters of accepted strings. -/
structure Sayable (f : TcpstatsFilter) : Prop extends f.WellFormed where
  known : f.flags &&& ~~~KEY_FLAGS = 0
  formats : f.format = TSF_FORMAT_COMPACT ∨ f.format = TSF_FORMAT_FULL
  networks : ∀ e, f.prefixV6 e = 0 ∨ (f.addrV6 e).HostBitsZero (f.prefixV6 e).toNat

variable (f : TcpstatsFilter)

/-- What the filter says under a key. -/
def said : Key → Option Directive
  | .ipv4Only => if f.has TSF_IPV4_ONLY then some .ipv4Only else none
  | .ipv6Only => if f.has TSF_IPV6_ONLY then some .ipv6Only else none
  | .exclude => if f.has TSF_STATE_INCLUDE_MODE ∨ f.stateMask = 0xFFFF then none else some (.exclude f.stateMask)
  | .includeState => if f.has TSF_STATE_INCLUDE_MODE then some (.includeState f.stateMask) else none
  | .format => some (.format f.format)
  | .fields => some (.fields f.fieldMask)
  | .ports e => if f.has (Key.ports e).bit then some (.ports e (f.ports e)) else none
  | .addr e =>
    if f.has (Key.addr e).bit then
      if f.maskV4 e = ⟨0⟩ then some (.addrV6 e (f.addrV6 e) (f.prefixV6 e))
      else some (.addrV4 e (f.addrV4 e) (f.maskV4 e))
    else none

/-- All that it says. -/
def clauses : List Directive := Key.all.filterMap f.said

/-- A text for it: its words with a blank before each. -/
def text : CStr := f.clauses.flatMap fun d => chr ' ' :: d.word

variable {f}

theorem said_key {key : Key} {d : Directive} (h : f.said key = some d) : d.key = key := by
  cases key with
  | ipv4Only => obtain ⟨-, h⟩ := Option.ite_none_right_eq_some.mp h; obtain rfl := Option.some.inj h; rfl
  | ipv6Only => obtain ⟨-, h⟩ := Option.ite_none_right_eq_some.mp h; obtain rfl := Option.some.inj h; rfl
  | exclude => obtain ⟨-, h⟩ := Option.ite_none_left_eq_some.mp h; obtain rfl := Option.some.inj h; rfl
  | includeState => obtain ⟨-, h⟩ := Option.ite_none_right_eq_some.mp h; obtain rfl := Option.some.inj h; rfl
  | format => obtain rfl := Option.some.inj h; rfl
  | fields => obtain rfl := Option.some.inj h; rfl
  | ports e => obtain ⟨-, h⟩ := Option.ite_none_right_eq_some.mp h; obtain rfl := Option.some.inj h; rfl
  | addr e =>
    obtain ⟨-, h⟩ := Option.ite_none_right_eq_some.mp h
    split at h
    · obtain rfl := Option.some.inj h; rfl
    · obtain rfl := Option.some.inj h; rfl

theorem mem_clauses {d : Directive} : d ∈ f.clauses ↔ f.said d.key = some d := by
  rw [clauses, List.mem_filterMap]
  constructor
  · rintro ⟨key, -, hsaid⟩
    rwa [said_key hsaid]
  · exact fun h => ⟨d.key, d.key.mem_all, h⟩

end TcpstatsFilter

/-! ### The clauses of a filter -/

theorem TcpstatsFilter.Formed.addr {f : TcpstatsFilter} (hf : f.Formed) (e : Endpoint) :
    AddrFormed (f.addrV4 e) (f.maskV4 e) (f.addrV6 e) (f.prefixV6 e) (f.has (Key.addr e).bit) := by
  cases e
  · exact hf.localAddr
  · exact hf.remoteAddr

theorem TcpstatsFilter.Formed.ports {f : TcpstatsFilter} (hf : f.Formed) (e : Endpoint) :
    PortsFormed (f.ports e) (f.has (Key.ports e).bit) := by
  cases e
  · exact hf.localPorts
  · exact hf.remotePorts

namespace TcpstatsFilter

variable {f : TcpstatsFilter}

/-- A flag is said if it is set. -/
theorem isSome_said {key : Key} (h : key.bit ≠ 0) : (f.said key).isSome = true ↔ f.has key.bit = true := by
  cases key with
  | ipv4Only => simp [said, Key.bit]
  | ipv6Only => simp [said, Key.bit]
  | exclude => exact absurd rfl h
  | includeState => simp [said, Key.bit]
  | format => exact absurd rfl h
  | fields => exact absurd rfl h
  | ports e => simp [said]
  | addr e =>
    rw [said]
    split_ifs with hbit hmask
    · simp [hbit]
    · simp [hbit]
    · simp [hbit]

/-- What is said of a filter that can be said is proper. -/
theorem Sayable.proper (h : f.Sayable) {d : Directive} (hd : d ∈ f.clauses) : d.Proper := by
  have hsaid := mem_clauses.mp hd
  revert hsaid
  generalize d.key = key
  intro hsaid
  cases key with
  | ipv4Only =>
    obtain ⟨-, hsaid⟩ := Option.ite_none_right_eq_some.mp hsaid
    obtain rfl := Option.some.inj hsaid
    trivial
  | ipv6Only =>
    obtain ⟨-, hsaid⟩ := Option.ite_none_right_eq_some.mp hsaid
    obtain rfl := Option.some.inj hsaid
    trivial
  | exclude =>
    obtain ⟨hnot, hsaid⟩ := Option.ite_none_left_eq_some.mp hsaid
    obtain ⟨hmode, hmask⟩ := not_or.mp hnot
    obtain rfl := Option.some.inj hsaid
    exact ⟨hmask, h.states.excluded (Bool.not_eq_true _ ▸ hmode)⟩
  | includeState =>
    obtain ⟨hmode, hsaid⟩ := Option.ite_none_right_eq_some.mp hsaid
    obtain rfl := Option.some.inj hsaid
    exact h.states.included hmode
  | format =>
    obtain rfl := Option.some.inj hsaid
    exact h.formats
  | fields =>
    obtain rfl := Option.some.inj hsaid
    exact h.fieldMask
  | ports e =>
    obtain ⟨hbit, hsaid⟩ := Option.ite_none_right_eq_some.mp hsaid
    obtain rfl := Option.some.inj hsaid
    have hports := h.toFormed.ports e
    rwa [hbit] at hports
  | addr e =>
    have haddr := h.toFormed.addr e
    obtain ⟨hbit, hsaid⟩ := Option.ite_none_right_eq_some.mp hsaid
    split at hsaid
    · obtain rfl := Option.some.inj hsaid
      exact ⟨haddr.prefix_le, h.networks e⟩
    · obtain rfl := Option.some.inj hsaid
      exact ⟨haddr.prefixMask, haddr.network⟩

/-- No two of the clauses are incompatible. -/
theorem clauses_compatible : f.clauses.Pairwise Directive.Compatible := by
  have hkeys : Key.all.Pairwise fun key key' => key.bit &&& key'.guard = 0 := by decide
  refine List.pairwise_filterMap.mpr (hkeys.imp fun {key key'} hbit d hd d' hd' => ?_)
  obtain rfl := said_key hd
  obtain rfl := said_key hd'
  refine ⟨hbit, fun hinclude => ?_⟩
  rw [hinclude] at hd'
  obtain ⟨hmode, -⟩ := Option.ite_none_right_eq_some.mp hd'
  cases d with
  | exclude kept =>
    obtain ⟨hnot, -⟩ := Option.ite_none_left_eq_some.mp hd
    exact absurd (.inl hmode) hnot
  | _ => rfl

/-- Each part is said once. -/
theorem clauses_apart (p : Part) : f.clauses.Pairwise fun d d' => d.key.part = some p → d'.key.part ≠ some p := by
  have hkeys : Key.all.Pairwise fun key key' => key.part.isSome → key.part = key'.part →
      key = .exclude ∧ key' = .includeState := by decide
  refine List.pairwise_filterMap.mpr (hkeys.imp fun {key key'} hsame d hd d' hd' hp hp' => ?_)
  obtain rfl := said_key hd
  obtain rfl := said_key hd'
  obtain ⟨hexclude, hinclude⟩ := hsame (by rw [hp]; rfl) (hp.trans hp'.symm)
  rw [hexclude] at hd
  rw [hinclude] at hd'
  obtain ⟨hmode, -⟩ := Option.ite_none_right_eq_some.mp hd'
  obtain ⟨hnot, -⟩ := Option.ite_none_left_eq_some.mp hd
  exact hnot (.inl hmode)

theorem part_meaning {d : Directive} {p : Part} (hd : f.said d.key = some d) (hp : d.key.part = some p) :
    (meaning f.clauses).part p = (TcpstatsFilter.default.apply d).part p :=
  part_foldl_of_mem (clauses_apart p) (mem_clauses.mpr hd) hp _

/-- A part that is not said is that of the default filter. -/
theorem part_meaning_unsaid {p : Part} (h : ∀ key, key.part = some p → f.said key = none) :
    (meaning f.clauses).part p = TcpstatsFilter.default.part p := by
  refine part_foldl_of_ne (fun d hd hp => ?_) _
  have hsaid := mem_clauses.mp hd
  rw [h _ hp] at hsaid
  cases hsaid

end TcpstatsFilter

theorem version_meaning (ds : List Directive) : (meaning ds).version = TSF_VERSION := by
  have happly : ∀ (f : TcpstatsFilter) (d : Directive), (f.apply d).version = f.version := by
    intro f d
    unfold TcpstatsFilter.apply
    split <;> rfl
  have hrun : ∀ f : TcpstatsFilter, (ds.foldl TcpstatsFilter.apply f).version = f.version := by
    induction ds with
    | nil => exact fun _ => rfl
    | cons d ds ih => exact fun f => (ih _).trans (happly f d)
  exact hrun _

namespace TcpstatsFilter

variable {f : TcpstatsFilter}

theorem Sayable.flags_meaning (h : f.Sayable) : (meaning f.clauses).flags = f.flags := by
  have hcases : ∀ i < 32, (∃ key ∈ Key.all, key.bit ≠ 0 ∧ key.bit = Bits.single32 i) ∨
      Bits.single32 i = ~~~KEY_FLAGS &&& Bits.single32 i ∧ ∀ key ∈ Key.all, key.bit &&& Bits.single32 i = 0 := by
    decide +kernel
  refine Bits.eq_of_single32 fun i hi => ?_
  have hmeaning := has_meaning f.clauses (Bits.single32 i)
  rw [has, bne_iff_ne] at hmeaning
  rw [hmeaning]
  rcases hcases i hi with ⟨key, -, hne, hkey⟩ | ⟨hrest, hnone⟩
  · rw [← hkey, ← bne_iff_ne, ← has, ← isSome_said hne]
    simp only [Key.bit_and_iff hne]
    constructor
    · rintro ⟨d, hd, rfl⟩
      rw [mem_clauses.mp hd]
      rfl
    · intro hsome
      obtain ⟨d, hd⟩ := Option.isSome_iff_exists.mp hsome
      obtain rfl := said_key hd
      exact ⟨d, mem_clauses.mpr hd, rfl⟩
  · constructor
    · rintro ⟨d, -, hbit⟩
      exact absurd (hnone _ d.key.mem_all) hbit
    · intro hbit
      rw [hrest, ← UInt32.and_assoc, h.known, UInt32.zero_and] at hbit
      exact absurd rfl hbit

theorem Sayable.part_meaning (h : f.Sayable) (p : Part) : (meaning f.clauses).part p = f.part p := by
  cases p with
  | states =>
    by_cases hmode : f.has TSF_STATE_INCLUDE_MODE = true
    · exact @TcpstatsFilter.part_meaning f (.includeState f.stateMask) .states (if_pos hmode) rfl
    · by_cases hmask : f.stateMask = 0xFFFF
      · refine (part_meaning_unsaid fun key hkey => ?_).trans hmask.symm
        cases key with
        | exclude => exact if_pos (.inr hmask)
        | includeState => exact if_neg hmode
        | _ => cases hkey
      · refine (@TcpstatsFilter.part_meaning f (.exclude f.stateMask) .states (if_neg ?_) rfl).trans ?_
        · exact not_or.mpr ⟨hmode, hmask⟩
        · exact (UInt16.and_comm ..).trans UInt16.and_neg_one
  | format => exact @TcpstatsFilter.part_meaning f (.format f.format) .format rfl rfl
  | fields => exact @TcpstatsFilter.part_meaning f (.fields f.fieldMask) .fields rfl rfl
  | ports e =>
    by_cases hbit : f.has (Key.ports e).bit = true
    · refine (@TcpstatsFilter.part_meaning f (.ports e (f.ports e)) (.ports e) (if_pos hbit) rfl).trans ?_
      cases e <;> rfl
    · refine (part_meaning_unsaid fun key hkey => ?_).trans ?_
      · cases key with
        | ports e' =>
          obtain rfl : e' = e := by simpa [Key.part] using hkey
          exact if_neg hbit
        | _ => cases hkey
      · refine Eq.trans ?_ (h.toFormed.ports_unset (Bool.not_eq_true _ ▸ hbit)).symm
        cases e <;> rfl
  | addr e =>
    have haddr := h.toFormed.addr e
    have hpart : f.part (.addr e) = (f.addrV4 e, f.maskV4 e, f.addrV6 e, f.prefixV6 e) := rfl
    by_cases hbit : f.has (Key.addr e).bit = true
    · by_cases hmask : f.maskV4 e = ⟨0⟩
      · have hzero : f.addrV4 e = ⟨0⟩ := by
          have hnet := haddr.network
          rw [hmask] at hnet
          exact congrArg InAddr.mk ((UInt32.and_neg_one (a := (f.addrV4 e).sAddr)).symm.trans hnet)
        refine (@TcpstatsFilter.part_meaning f (.addrV6 e (f.addrV6 e) (f.prefixV6 e)) (.addr e) ?_ rfl).trans ?_
        · exact (if_pos hbit).trans (if_pos hmask)
        · rw [hpart, hzero, hmask]
          cases e <;> rfl
      · obtain ⟨h6, hpfx⟩ : f.addrV6 e = .unspecified ∧ f.prefixV6 e = 0 :=
          haddr.oneFamily.resolve_left fun h4 => hmask h4.2
        refine (@TcpstatsFilter.part_meaning f (.addrV4 e (f.addrV4 e) (f.maskV4 e)) (.addr e) ?_ rfl).trans ?_
        · exact (if_pos hbit).trans (if_neg hmask)
        · rw [hpart, h6, hpfx]
          cases e <;> rfl
    · refine (part_meaning_unsaid fun key hkey => ?_).trans ?_
      · cases key with
        | addr e' =>
          obtain rfl : e' = e := by simpa [Key.part] using hkey
          exact if_neg hbit
        | _ => cases hkey
      · obtain ⟨h4, hmask, h6, hpfx⟩ := haddr.unset (Bool.not_eq_true _ ▸ hbit)
        rw [hpart, h4, hmask, h6, hpfx]
        cases e <;> rfl

/-- The clauses of a filter that can be said mean the filter. -/
theorem Sayable.meaning_clauses (h : f.Sayable) : meaning f.clauses = f :=
  ext_part ((version_meaning _).trans h.version.symm) h.flags_meaning h.part_meaning

theorem Sayable.families (h : f.Sayable) : FamiliesAgree f.clauses := by
  have h4only : .ipv4Only ∈ f.clauses → f.has TSF_IPV4_ONLY = true := by
    intro hmem
    exact (Option.ite_none_right_eq_some.mp (mem_clauses.mp hmem)).1
  have h6only : .ipv6Only ∈ f.clauses → f.has TSF_IPV6_ONLY = true := by
    intro hmem
    exact (Option.ite_none_right_eq_some.mp (mem_clauses.mp hmem)).1
  refine ⟨fun hboth => h.onlyOne ⟨h4only hboth.1, h6only hboth.2⟩, fun h6 e addr mask hmem => ?_, fun h4 e addr pfx hmem => ?_⟩
  · obtain ⟨-, hsaid⟩ := Option.ite_none_right_eq_some.mp (mem_clauses.mp hmem)
    obtain ⟨hl, hr⟩ := h.v6Only (h6only h6)
    split at hsaid
    · cases hsaid
    · cases hsaid
      cases e
      · exact hl
      · exact hr
  · obtain ⟨-, hsaid⟩ := Option.ite_none_right_eq_some.mp (mem_clauses.mp hmem)
    obtain ⟨hl, hr⟩ := h.v4Only (h4only h4)
    split at hsaid
    · cases hsaid
      cases e
      · exact hl
      · exact hr
    · cases hsaid

end TcpstatsFilter

/-! ### Texts -/

/-- Words with a blank before each are the words of their text. -/
theorem directives_words {ds : List Directive} :
    directives (ds.flatMap fun d => chr ' ' :: d.word) = ds.map Directive.word := by
  have hword : ∀ d : Directive, 0 ∉ d.word ∧ d.word ≠ [] ∧ ∀ c ∈ d.word, isBlank c = false := by
    intro d
    have hname : ∀ key ∈ Key.all, key.name ≠ [] := by decide
    refine ⟨fun h => ?_, ?_, fun c hc => (Directive.of_isPlain (Directive.isPlain_of_mem_word hc)).2.1⟩
    · exact (Directive.of_isPlain (Directive.isPlain_of_mem_word h)).2.2 rfl
    · rw [Directive.word]
      cases d.value with
      | none => exact hname _ d.key.mem_all
      | some value => exact List.append_ne_nil_of_left_ne_nil (hname _ d.key.mem_all) _
  have hzero : ∀ ds : List Directive, 0 ∉ ds.flatMap fun d => chr ' ' :: d.word := by
    intro ds h
    obtain ⟨d, -, hd⟩ := List.mem_flatMap.mp h
    rcases List.mem_cons.mp hd with hd | hd
    · exact absurd hd (by decide)
    · exact (hword d).1 hd
  induction ds using List.reverseRecOn with
  | nil => rfl
  | append_singleton ds d ih =>
    obtain ⟨h0, hne, hblank⟩ := hword d
    rw [List.flatMap_append, List.map_append, List.flatMap_singleton, directives_append (hzero ds) (ofArray_of_notMem h0)
      hne hblank, ih]
    rfl

/-- The length of a text, clause by clause. -/
theorem length_flatMap_filterMap {α β γ : Type} (g : α → Option β) (h : β → List γ) (l : List α) :
    ((l.filterMap g).flatMap h).length = (l.map fun a => ((g a).map fun b => (h b).length).getD 0).sum := by
  induction l with
  | nil => rfl
  | cons a l ih =>
    rcases hg : g a with _ | b
    · rw [List.filterMap_cons_none hg, ih, List.map_cons, List.sum_cons, hg]
      simp
    · rw [List.filterMap_cons_some hg, List.flatMap_cons, List.length_append, ih, List.map_cons, List.sum_cons, hg]
      rfl

namespace TcpstatsFilter

variable (f : TcpstatsFilter)

/-- The bytes that a key takes in the text. -/
def cost (key : Key) : ℕ := ((f.said key).map fun d => (chr ' ' :: d.word).length).getD 0

theorem cost_le (key : Key) : f.cost key ≤ key.name.length + key.room + 2 := by
  rw [cost]
  rcases hsaid : f.said key with _ | d
  · exact Nat.zero_le _
  · obtain rfl := said_key hsaid
    exact Nat.succ_le_succ d.length_word_le

/-- `exclude` and `include_state` are not said both. -/
theorem cost_states_le : f.cost .exclude + f.cost .includeState ≤ 122 := by
  have hexclude : f.cost .exclude ≤ 116 := (f.cost_le .exclude).trans (by decide)
  have hinclude : f.cost .includeState ≤ 122 := (f.cost_le .includeState).trans (by decide)
  by_cases hmode : f.has TSF_STATE_INCLUDE_MODE = true
  · have hnone : f.said .exclude = none := if_pos (.inl hmode)
    have hzero : f.cost .exclude = 0 := by rw [cost, hnone]; rfl
    omega
  · have hnone : f.said .includeState = none := if_neg hmode
    have hzero : f.cost .includeState = 0 := by rw [cost, hnone]; rfl
    omega

theorem length_text_le : f.text.length ≤ TSF_PARSE_MAXLEN - 1 := by
  have hlen : f.text.length = (Key.all.map f.cost).sum := length_flatMap_filterMap _ _ _
  have hstates := f.cost_states_le
  have h4only : f.cost .ipv4Only ≤ 11 := (f.cost_le .ipv4Only).trans (by decide)
  have h6only : f.cost .ipv6Only ≤ 11 := (f.cost_le .ipv6Only).trans (by decide)
  have hformat : f.cost .format ≤ 15 := (f.cost_le .format).trans (by decide)
  have hfields : f.cost .fields ≤ 81 := (f.cost_le .fields).trans (by decide)
  have hlport : f.cost (.ports .localEnd) ≤ 59 := (f.cost_le _).trans (by decide)
  have hrport : f.cost (.ports .remoteEnd) ≤ 60 := (f.cost_le _).trans (by decide)
  have hladdr : f.cost (.addr .localEnd) ≤ 56 := (f.cost_le _).trans (by decide)
  have hraddr : f.cost (.addr .remoteEnd) ≤ 57 := (f.cost_le _).trans (by decide)
  simp only [Key.all, List.map_cons, List.map_nil, List.sum_cons, List.sum_nil] at hlen
  rw [hlen, TSF_PARSE_MAXLEN]
  omega

variable {f}

/-- The text of a filter that can be said says its clauses. -/
theorem Sayable.textOf (h : f.Sayable) : TextOf f.text f.clauses := by
  refine ⟨.inr ⟨f.length_text_le, fun c hc => ?_⟩, ?_, ?_⟩
  · obtain ⟨d, -, hd⟩ := List.mem_flatMap.mp hc
    rcases List.mem_cons.mp hd with rfl | hd
    · decide
    · exact (Directive.of_isPlain (Directive.isPlain_of_mem_word hd)).1
  · exact (List.length_filterMap_le _ _).trans (by decide)
  · rw [text, directives_words, List.forall₂_map_left_iff, List.forall₂_same]
    exact fun d hd => Directive.reads (h.proper hd)

/-- It is accepted as the filter. -/
theorem Sayable.parse_text (h : f.Sayable) : tsfParseFilterString f.text = .ok f :=
  tsfParseFilterString_iff.mpr ⟨f.clauses, h.textOf, clauses_compatible, h.families, h.meaning_clauses.symm⟩

end TcpstatsFilter

/-! ### Accepted strings -/

/-- What every directive keeps holds of what they mean together. -/
theorem meaning_inv {I : TcpstatsFilter → Prop} {ds : List Directive} (init : I .default)
    (keep : ∀ d ∈ ds, ∀ f, I f → I (f.apply d)) : I (meaning ds) := by
  have hrun : ∀ (ds : List Directive) (f : TcpstatsFilter), (∀ d ∈ ds, ∀ f, I f → I (f.apply d)) → I f →
      I (ds.foldl TcpstatsFilter.apply f) := by
    intro ds
    induction ds with
    | nil => exact fun _ _ hf => hf
    | cons d ds ih =>
      intro f hkeep hf
      obtain ⟨hd, hds⟩ := List.forall_mem_cons.mp hkeep
      exact ih _ hds (hd f hf)
  exact hrun ds _ keep init

/-- An IPv6 network has no bits beyond its prefix, unless the prefix length is 0. -/
theorem tsfParseIpv6Addr_hostBitsZero {str : CStr} {addr : In6Addr} {pfx : UInt8}
    (h : tsfParseIpv6Addr str = .ok (addr, pfx)) : pfx = 0 ∨ addr.HostBitsZero pfx.toNat := by
  rcases slash_cases str with hslash | ⟨s, suffix, rfl, hslash⟩
  · obtain ⟨-, -, -, -, rfl⟩ := (tsfParseIpv6Addr_plain hslash).mp h
    exact .inr fun i hi hle => absurd hle (not_le.mpr hi)
  · obtain ⟨-, p, -, -, -, -, hp, -, hhost, rfl⟩ := (tsfParseIpv6Addr_withPrefix hslash).mp h
    have hnat : p.toUInt8.toNat = p := UInt8.toNat_ofNat_of_lt' (show p < 256 by omega)
    rw [hnat]
    exact hhost.imp_left fun h0 => by rw [h0]; rfl

/-- What the parser yields can be said. -/
theorem sayable_of_parse {input : CStr} {f : TcpstatsFilter} (h : tsfParseFilterString input = .ok f) :
    f.Sayable := by
  have hwell := wellFormed_of_parse h
  obtain ⟨ds, htext, -, -, rfl⟩ := tsfParseFilterString_iff.mp h
  refine ⟨hwell, ?_, ?_, ?_⟩
  · have hbit : ∀ key ∈ Key.all, key.bit &&& ~~~KEY_FLAGS = 0 := by decide
    refine meaning_inv (I := fun f => f.flags &&& ~~~KEY_FLAGS = 0) (by decide) fun d _ f hf => ?_
    rw [flags_apply, Bits.or_and_right32, hf, hbit _ d.key.mem_all, UInt32.or_zero]
  · have hformats : ∀ p ∈ tsfFormats, p.2 = TSF_FORMAT_COMPACT ∨ p.2 = TSF_FORMAT_FULL := by decide
    refine meaning_inv (I := fun f => f.part .format = TSF_FORMAT_COMPACT ∨ f.part .format = TSF_FORMAT_FULL)
      (.inl rfl) fun d hd f hf => ?_
    obtain ⟨token, -, hread⟩ := exists_token htext.reads hd
    by_cases hkey : d.key.part = some .format
    · cases hread with
      | format _ hmem => exact hformats _ hmem
      | _ => cases hkey
    · rw [part_apply_of_ne f hkey]
      exact hf
  · intro e
    refine meaning_inv (I := fun f => f.prefixV6 e = 0 ∨ (f.addrV6 e).HostBitsZero (f.prefixV6 e).toNat)
      (.inl (by cases e <;> rfl)) fun d hd f hf => ?_
    obtain ⟨token, -, hread⟩ := exists_token htext.reads hd
    cases hread with
    | addrV6 e' _ _ hparse =>
      have hnew := tsfParseIpv6Addr_hostBitsZero hparse
      cases e <;> cases e' <;> first | exact hnew | exact hf
    | ports e' _ _ _ => cases e <;> cases e' <;> exact hf
    | addrV4 e' _ _ _ => cases e <;> cases e' <;> exact hf
    | _ => cases e <;> exact hf

/-- The filters of accepted strings are just those that can be said, and each of them has a text that fits. -/
theorem sayable_iff (f : TcpstatsFilter) :
    (f.Sayable ↔ ∃ input, tsfParseFilterString input = .ok f) ∧
      (f.Sayable → tsfParseFilterString f.text = .ok f ∧ f.text.length ≤ TSF_PARSE_MAXLEN - 1 ∧
        (directives f.text).length ≤ 10) := by
  refine ⟨⟨fun h => ⟨_, h.parse_text⟩, fun ⟨_, h⟩ => sayable_of_parse h⟩, fun h => ⟨h.parse_text, f.length_text_le, ?_⟩⟩
  rw [h.textOf.reads.length_eq]
  exact List.length_filterMap_le _ _

end TcpStats
