import TcpStats.Filter.Language
import TcpStats.Filter.Ipv4
import TcpStats.Filter.Ipv6
import TcpStats.Lib.Items

/-!
# A text for every directive

Each value that a directive can have is written in one way at least: ports in decimal, states and field groups by the
first name that the tables have for them, IPv4 networks with dots and IPv6 networks with eight groups, both with their
prefix length. `Directive.word` is the directive in that spelling, and `Directive.reads` says that it is read as the
directive, for the values that are proper (`Directive.Proper`).
-/

namespace TcpStats

open CString Fallible

/-! ### Numbers -/

theorem digits_append {bad : UInt8 → ParseError} (s t : CStr) (val : ℕ) :
    digits bad (s ++ t) val = digits bad s val >>= digits bad t := by
  induction s generalizing val with
  | nil => rfl
  | cons c s ih =>
    rw [List.cons_append, digits, digits]
    split_ifs
    · exact ih _
    · rfl

theorem digits_decimal {bad : UInt8 → ParseError} (n : ℕ) : digits bad (decimal n) 0 = .ok n := by
  have hdigit : ∀ d < 10, isDigit (chr '0' + d.toUInt8) = true ∧ digitVal (chr '0' + d.toUInt8) = d := by decide
  induction n using Nat.strong_induction_on with
  | _ n ih =>
    by_cases hn : n < 10
    · obtain ⟨hok, hval⟩ := hdigit n hn
      rw [decimal_of_lt hn, digits, if_pos hok, hval, digits, Nat.zero_mul, Nat.zero_add]
    · obtain ⟨hok, hval⟩ := hdigit (n % 10) (Nat.mod_lt n (by decide))
      have hsnoc := decimal_snoc (show 0 < n / 10 by omega) (Nat.mod_lt n (by decide))
      rw [Nat.div_add_mod'] at hsnoc
      rw [hsnoc, digits_append, ih (n / 10) (by omega)]
      exact (if_pos hok).trans (by rw [hval, digits, Nat.div_add_mod'])

/-! ### Ports -/

/-- A port in decimal. -/
def portText (port : UInt16) : CStr := decimal (ntohs port).toNat

theorem tsfParsePortNumber_portText {port : UInt16} (h : port ≠ 0) : tsfParsePortNumber (portText port) = .ok port := by
  have hpos : 0 < (ntohs port).toNat := by
    refine Nat.pos_of_ne_zero fun h0 => htons_ne_zero h (UInt16.toNat_inj.mp h0)
  have hlt := (ntohs port).toNat_lt
  have hlen : (portText port).length ≤ 5 := length_decimal_le (by decide) (by omega)
  have hwhole : strnlen (portText port) 6 = (portText port).length := by
    rw [strnlen]
    omega
  have hback : (ntohs port).toNat.toUInt16 = ntohs port := UInt16.toNat_inj.mp (by simp)
  unfold tsfParsePortNumber
  dsimp only
  rw [hwhole, List.take_length, if_neg (show portText port ≠ [] from decimal_ne_nil _),
    if_neg fun hlead => head?_decimal hpos hlead.2, if_neg (by omega)]
  refine bind_eq_ok.mpr ⟨_, digits_decimal _, ?_⟩
  rw [if_neg hpos.ne', if_neg (by omega), hback, ntohs, htons_htons]

/-- Distinct ports are accepted as long as there are slots. -/
theorem portLoop_portText {ps : List UInt16} {count : ℕ} {ports : Vector UInt16 8} (hzero : 0 ∉ ps)
    (hroom : count + ps.length ≤ 8) (hnodup : (ports.toList.take count ++ ps).Nodup) :
    ∃ n slots, portLoop TSF_MAX_PORTS (ps.map portText) count ports = .ok (n, slots) := by
  induction ps generalizing count ports with
  | nil => exact ⟨count, ports, rfl⟩
  | cons p ps ih =>
    rw [List.length_cons] at hroom
    obtain ⟨hp, hzero⟩ := not_or.mp (List.mem_cons.not.mp hzero)
    have hnew : p ∉ ports.toList.take count := by
      intro hmem
      exact (List.nodup_append.mp hnodup).2.2 p hmem p List.mem_cons_self rfl
    have hlen : count < ports.toList.length := by simp; omega
    have htake : (ports.setIfInBounds count p).toList.take (count + 1) = ports.toList.take count ++ [p] := by
      rw [Vector.toList_setIfInBounds, List.take_succ_eq_append_getElem (by simpa using hlen),
        List.take_set_of_le (le_refl count)]
      simp
    obtain ⟨n, slots, hloop⟩ := @ih (count + 1) (ports.setIfInBounds count p) hzero (by omega) <| by
      rw [htake, List.append_assoc, List.singleton_append]
      exact hnodup
    refine ⟨n, slots, ite_error_eq_ok.mpr ⟨show ¬ count ≥ TSF_MAX_PORTS by rw [TSF_MAX_PORTS]; omega, ?_⟩⟩
    exact bind_eq_ok.mpr ⟨p, tsfParsePortNumber_portText (Ne.symm hp), ite_error_eq_ok.mpr ⟨hnew, hloop⟩⟩

theorem parsed_portText {ps parsed : List UInt16} (hzero : 0 ∉ ps)
    (h : List.Forall₂ (fun tok port => tsfParsePortNumber tok = .ok port) (ps.map portText) parsed) : parsed = ps := by
  induction ps generalizing parsed with
  | nil => exact List.forall₂_nil_left_iff.mp h
  | cons p ps ih =>
    obtain ⟨hp, hzero⟩ := not_or.mp (List.mem_cons.not.mp hzero)
    obtain ⟨q, qs, hq, hqs, rfl⟩ := List.forall₂_cons_left_iff.mp h
    rw [tsfParsePortNumber_portText (Ne.symm hp)] at hq
    rw [Except.ok.inj hq, ih hzero hqs]

/-- The ports of a list, up to the first unused slot, are read as that list. -/
theorem portLoop_slots {slots : Vector UInt16 8} {ps : List UInt16}
    (hslots : slots.toList = ps ++ List.replicate (8 - ps.length) 0) (hnodup : ps.Nodup) (hzero : 0 ∉ ps) :
    portLoop TSF_MAX_PORTS (ps.map portText) 0 (Vector.replicate 8 0) = .ok (ps.length, slots) := by
  have hlen : ps.length ≤ 8 := by
    have := congrArg List.length hslots
    simp only [Vector.length_toList, List.length_append, List.length_replicate] at this
    omega
  obtain ⟨n, slots', hloop⟩ := @portLoop_portText ps 0 (Vector.replicate 8 0) hzero (by omega) (by simpa using hnodup)
  obtain ⟨parsed, hparsed, hn, hlist⟩ := portLoop_ok (by decide) hloop
  rw [parsed_portText hzero hparsed, Nat.zero_add] at hn
  rw [parsed_portText hzero hparsed, hn, Vector.toList_replicate, List.drop_replicate, List.take_zero,
    List.nil_append, ← hslots] at hlist
  rw [hloop, hn, Vector.toList_inj.mp hlist]

/-! ### States -/

namespace TcpState

/-- The eleven states. -/
def all : List TcpState :=
  [CLOSED, LISTEN, SYN_SENT, SYN_RECEIVED, ESTABLISHED, CLOSE_WAIT, FIN_WAIT_1, CLOSING, LAST_ACK, FIN_WAIT_2, TIME_WAIT]

theorem mem_all (s : TcpState) : s ∈ all := by
  cases s <;> decide

theorem nodup_all : all.Nodup := by
  decide

/-- The first name that the table has for a state. -/
def text (s : TcpState) : CStr := ((tsfStateNames.find? (·.2 = s)).map Prod.fst).getD []

end TcpState

theorem tsfLookupState_text (s : TcpState) : tsfLookupState s.text = .ok s := by
  cases s <;> decide

theorem names_text (s t : TcpState) : Names s.text t ↔ s = t := tsfLookupState_ok (tsfLookupState_text s) t

theorem excludeLoop_text {ss : List TcpState} {seen mask : UInt16} (hnodup : ss.Nodup)
    (hnew : ∀ s ∈ ss, ¬ HasState seen s) : ∃ mask', excludeLoop (ss.map TcpState.text) seen mask = .ok mask' := by
  induction ss generalizing seen mask with
  | nil => exact ⟨mask, rfl⟩
  | cons s ss ih =>
    obtain ⟨hs, hnodup⟩ := List.nodup_cons.mp hnodup
    obtain ⟨hfirst, hnew⟩ := List.forall_mem_cons.mp hnew
    obtain ⟨mask', hloop⟩ := @ih (seen ||| s.bit) (mask &&& ~~~s.bit) hnodup fun t ht => by
      rw [hasState_add, not_or]
      exact ⟨hnew t ht, fun heq => hs (heq ▸ ht)⟩
    refine ⟨mask', bind_eq_ok.mpr ⟨s, tsfLookupState_text s, ite_error_eq_ok.mpr ⟨?_, hloop⟩⟩⟩
    simpa [HasState] using hfirst

theorem includeLoop_text {ss : List TcpState} {seen mask : UInt16} (hnodup : ss.Nodup)
    (hnew : ∀ s ∈ ss, ¬ HasState seen s) : ∃ mask', includeLoop (ss.map TcpState.text) seen mask = .ok mask' := by
  induction ss generalizing seen mask with
  | nil => exact ⟨mask, rfl⟩
  | cons s ss ih =>
    obtain ⟨hs, hnodup⟩ := List.nodup_cons.mp hnodup
    obtain ⟨hfirst, hnew⟩ := List.forall_mem_cons.mp hnew
    obtain ⟨mask', hloop⟩ := @ih (seen ||| s.bit) (mask ||| s.bit) hnodup fun t ht => by
      rw [hasState_add, not_or]
      exact ⟨hnew t ht, fun heq => hs (heq ▸ ht)⟩
    refine ⟨mask', bind_eq_ok.mpr ⟨s, tsfLookupState_text s, ite_error_eq_ok.mpr ⟨?_, hloop⟩⟩⟩
    simpa [HasState] using hfirst

/-- A state mask is its states and the bits that are no state's. -/
theorem eq_of_states {mask mask' : UInt16} (hstates : ∀ s, HasState mask s ↔ HasState mask' s)
    (hrest : mask &&& ~~~TCP_STATES = mask' &&& ~~~TCP_STATES) : mask = mask' := by
  have hcases : ∀ i < 16, (∃ s ∈ TcpState.all, s.bit = Bits.single16 i) ∨
      Bits.single16 i = ~~~TCP_STATES &&& Bits.single16 i := by decide
  refine Bits.eq_of_single16 fun i hi => ?_
  rcases hcases i hi with ⟨s, -, hs⟩ | hi
  · rw [← hs]
    exact hstates s
  · rw [hi, ← UInt16.and_assoc, ← UInt16.and_assoc, hrest]

/-- The states of a list in a value of `exclude` or `include_state`. -/
def statesText (ss : List TcpState) : CStr := joined (chr ',') (ss.map TcpState.text)

theorem fields_statesText (ss : List TcpState) : fields (· == chr ',') (statesText ss) = ss.map TcpState.text := by
  have hall : ∀ s ∈ TcpState.all, s.text ≠ [] ∧ chr ',' ∉ s.text := by decide
  refine fields_joined (fun item hitem => ?_) fun item hitem => ?_
  · obtain ⟨s, -, rfl⟩ := List.mem_map.mp hitem
    exact (hall s s.mem_all).1
  · obtain ⟨s, -, rfl⟩ := List.mem_map.mp hitem
    exact (hall s s.mem_all).2

/-- Excluding the states that are not in a mask leaves the mask. -/
theorem excludeLoop_kept {kept : UInt16} (h : kept &&& ~~~TCP_STATES = ~~~TCP_STATES) :
    excludeLoop ((TcpState.all.filter fun s => ¬ HasState kept s).map TcpState.text) 0 0xFFFF = .ok kept := by
  obtain ⟨mask, hloop⟩ := @excludeLoop_text (TcpState.all.filter fun s => ¬ HasState kept s) 0 0xFFFF
    (TcpState.nodup_all.filter _) fun s _ => not_hasState_zero s
  have hmask : mask = kept := by
    refine eq_of_states (fun s => ?_) ((excludeLoop_keeps hloop (by decide)).trans h.symm)
    rw [excludeLoop_ok hloop, and_iff_right (hasState_all s)]
    constructor
    · intro hnot
      by_contra hkept
      exact hnot _ (List.mem_map_of_mem (List.mem_filter.mpr ⟨s.mem_all, by simpa using hkept⟩)) ((names_text s s).mpr rfl)
    · intro hkept tok htok hname
      obtain ⟨t, ht, rfl⟩ := List.mem_map.mp htok
      obtain rfl := (names_text t s).mp hname
      simp [hkept] at ht
  rw [hloop, hmask]

/-- Including the states of a mask makes the mask. -/
theorem includeLoop_mask {mask : UInt16} (h : mask &&& ~~~TCP_STATES = 0) :
    includeLoop ((TcpState.all.filter (HasState mask ·)).map TcpState.text) 0 0 = .ok mask := by
  obtain ⟨mask', hloop⟩ := @includeLoop_text (TcpState.all.filter (HasState mask ·)) 0 0
    (TcpState.nodup_all.filter _) fun s _ => not_hasState_zero s
  have hmask : mask' = mask := by
    refine eq_of_states (fun s => ?_) ((includeLoop_keeps hloop (UInt16.zero_and ..)).trans h.symm)
    rw [includeLoop_ok hloop, or_iff_right (not_hasState_zero s)]
    constructor
    · rintro ⟨tok, htok, hname⟩
      obtain ⟨t, ht, rfl⟩ := List.mem_map.mp htok
      obtain rfl := (names_text t s).mp hname
      simpa using (List.mem_filter.mp ht).2
    · intro hs
      exact ⟨s.text, List.mem_map_of_mem (List.mem_filter.mpr ⟨s.mem_all, by simpa using hs⟩), (names_text s s).mpr rfl⟩
  rw [hloop, hmask]

/-! ### Fields and formats -/

/-- The groups of the table that stand for one bit each. -/
def namedGroups : List (CStr × UInt32) := tsfFieldGroups.take 10

theorem fieldLoop_names {gs : List (CStr × UInt32)} (h : gs ⊆ namedGroups) (mask : UInt32) :
    fieldLoop (gs.map Prod.fst) mask = .ok (gs.foldl (fun mask g => mask ||| g.2) mask) := by
  have hlookup : ∀ g ∈ namedGroups, tsfFieldGroups.lookup (lower g.1) = some g.2 := by decide
  induction gs generalizing mask with
  | nil => rfl
  | cons g gs ih =>
    obtain ⟨hg, hgs⟩ := List.cons_subset.mp h
    rw [List.map_cons, fieldLoop, hlookup g hg]
    exact ih hgs _

theorem foldl_or_test (gs : List (CStr × UInt32)) (mask b : UInt32) :
    gs.foldl (fun mask g => mask ||| g.2) mask &&& b ≠ 0 ↔ mask &&& b ≠ 0 ∨ ∃ g ∈ gs, g.2 &&& b ≠ 0 := by
  induction gs generalizing mask with
  | nil => simp
  | cons g gs ih =>
    rw [List.foldl_cons, ih, Bits.or_and_right32, Ne, UInt32.or_eq_zero_iff, not_and_or, or_assoc,
      List.exists_mem_cons_iff]

/-- The groups of a mask. -/
def groupsOf (mask : UInt32) : List (CStr × UInt32) := namedGroups.filter fun g => mask &&& g.2 ≠ 0

/-- The groups of a mask make the mask. -/
theorem fieldLoop_groupsOf {mask : UInt32} (h : mask &&& ~~~TSR_FIELDS_ALL = 0) :
    fieldLoop ((groupsOf mask).map Prod.fst) 0 = .ok mask := by
  have hone : ∀ i < 32, ∀ g ∈ namedGroups, g.2 &&& Bits.single32 i ≠ 0 → g.2 = Bits.single32 i := by decide +kernel
  have hcases : ∀ i < 32, (∃ g ∈ namedGroups, g.2 = Bits.single32 i) ∨
      Bits.single32 i = ~~~TSR_FIELDS_ALL &&& Bits.single32 i := by decide +kernel
  have hsub : groupsOf mask ⊆ namedGroups := List.filter_sublist.subset
  rw [fieldLoop_names hsub, Except.ok.injEq]
  refine Bits.eq_of_single32 fun i hi => ?_
  rw [foldl_or_test, or_iff_right (by simp)]
  constructor
  · rintro ⟨g, hg, hbit⟩
    obtain ⟨hmem, htest⟩ := List.mem_filter.mp hg
    rw [← hone i hi g hmem hbit]
    simpa using htest
  · intro hbit
    rcases hcases i hi with ⟨g, hg, heq⟩ | hi
    · rw [← heq] at hbit ⊢
      refine ⟨g, List.mem_filter.mpr ⟨hg, by simpa using hbit⟩, fun h0 => hbit ?_⟩
      rw [UInt32.and_self] at h0
      rw [h0, UInt32.and_zero]
    · rw [hi, ← UInt32.and_assoc, h, UInt32.zero_and] at hbit
      exact absurd rfl hbit

/-- The groups of a list in a value of `fields`. -/
def groupsText (gs : List (CStr × UInt32)) : CStr := joined (chr ',') (gs.map Prod.fst)

theorem fields_groupsText {gs : List (CStr × UInt32)} (h : gs ⊆ namedGroups) :
    fields (· == chr ',') (groupsText gs) = gs.map Prod.fst := by
  have hall : ∀ g ∈ namedGroups, g.1 ≠ [] ∧ chr ',' ∉ g.1 := by decide
  refine fields_joined (fun item hitem => ?_) fun item hitem => ?_
  · obtain ⟨g, hg, rfl⟩ := List.mem_map.mp hitem
    exact (hall g (h hg)).1
  · obtain ⟨g, hg, rfl⟩ := List.mem_map.mp hitem
    exact (hall g (h hg)).2

/-- The name of a format. -/
def formatText (format : UInt32) : CStr := ((tsfFormats.find? (·.2 = format)).map Prod.fst).getD []

/-! ### IPv4 networks -/

/-- `htonl` turns the bytes round, so that it loses none. -/
theorem htonl_inj {x y : UInt32} (h : htonl x = htonl y) : x = y := by
  have hbytes : ∀ z, Bytes.le32 (htonl z) = (Bytes.le32 z).reverse := le32_htonl
  have hrev : Bytes.le32 x = Bytes.le32 y := by
    have := congrArg Bytes.le32 h
    rwa [hbytes, hbytes, List.reverse_inj] at this
  rw [← UInt32.toNat_inj, ← Bytes.leNat_le32, hrev, Bytes.leNat_le32]

/-- The length of a prefix mask. -/
def maskLength (mask : InAddr) : ℕ := ((List.range 33).find? fun p => v4Mask p = mask).getD 32

theorem maskLength_of_isPrefixMask {mask : InAddr} (h : mask.IsPrefixMask) :
    maskLength mask ≤ 32 ∧ v4Mask (maskLength mask) = mask := by
  obtain ⟨p, hp, hvalue⟩ := h
  have hall : ∀ p < 33, (htonl (v4Mask p).sAddr).toNat = 2 ^ 32 - 2 ^ (32 - p) := by decide
  have hmask : v4Mask p = mask := by
    have hword : htonl (v4Mask p).sAddr = htonl mask.sAddr :=
      UInt32.toNat_inj.mp ((hall p (Nat.lt_succ_of_le hp)).trans hvalue.symm)
    exact congrArg InAddr.mk (htonl_inj hword)
  have hsome : ((List.range 33).find? fun p => v4Mask p = mask).isSome := by
    rw [List.find?_isSome]
    exact ⟨p, List.mem_range.mpr (Nat.lt_succ_of_le hp), by simpa using hmask⟩
  obtain ⟨q, hq⟩ := Option.isSome_iff_exists.mp hsome
  have hmem := List.mem_range.mp (List.mem_of_find?_eq_some hq)
  have hfound := List.find?_some hq
  rw [maskLength, hq, Option.getD_some]
  exact ⟨Nat.le_of_lt_succ hmem, by simpa using hfound⟩

/-- The octets of an address as they stand in memory. -/
def octetsOf (addr : InAddr) : List ℕ := (Bytes.le32 addr.sAddr).map UInt8.toNat

theorem octetsWord_octetsOf (addr : InAddr) : (⟨htonl (octetsWord (octetsOf addr))⟩ : InAddr) = addr := by
  obtain ⟨a, b, c, d, hbytes⟩ : ∃ a b c d, Bytes.le32 addr.sAddr = [a, b, c, d] := ⟨_, _, _, _, rfl⟩
  have hoctets : InAddr.octets ⟨htonl (octetsWord (octetsOf addr))⟩ = addr.octets := by
    rw [octetsOf, hbytes]
    refine (octets_octetsWord a b c d).trans ?_
    rw [← hbytes]
    rfl
  exact congrArg InAddr.mk (InAddr.word_ext_iff.mpr fun i _ => by rw [hoctets])

/-- A network as it is written. -/
def v4Text (addr mask : InAddr) : CStr := dotted (octetsOf addr) ++ chr '/' :: decimal (maskLength mask)

theorem tsfParseIpv4Addr_v4Text {addr mask : InAddr} (hmask : mask.IsPrefixMask)
    (hnet : addr.sAddr &&& ~~~mask.sAddr = 0) : tsfParseIpv4Addr (v4Text addr mask) = .ok (addr, mask) := by
  obtain ⟨hle, hlen⟩ := maskLength_of_isPrefixMask hmask
  have hbytes : ∀ v ∈ octetsOf addr, v ≤ 255 := by
    intro v hv
    obtain ⟨octet, -, rfl⟩ := List.mem_map.mp hv
    exact Nat.le_of_lt_succ octet.toNat_lt
  have hslash : chr '/' ∉ dotted (octetsOf addr) := notMem_dotted (by decide) (by decide) _
  refine tsfParseIpv4Addr_iff.mpr ⟨maskLength mask, octetsOf addr, ?_, ?_, (octetsWord_octetsOf addr).symm, hlen.symm, hnet⟩
  · rw [v4Prefix, v4Text, after_append hslash, before_append hslash]
    dsimp only
    rw [if_neg (not_le.mpr (length_dotted_lt rfl hbytes))]
    exact tsfParsePrefixLength_32_iff.mpr ⟨hle, rfl⟩
  · rw [v4Text, before_append hslash]
    exact parseOctets_iff.mpr ⟨octetsOf addr, rfl, hbytes, rfl, rfl⟩

/-! ### IPv6 networks -/

/-- The digits of a group, with leading zeros. -/
def groupDigitsOf (v : UInt16) : CStr :=
  [4096, 256, 16, 1].map fun place => (cstr "0123456789abcdef").getD (v.toNat / place % 16) 0

/-- A group of four digits. -/
def groupText (v : UInt16) : GroupText where
  digits := groupDigitsOf v
  nonempty := List.cons_ne_nil _ _
  short := Nat.le_refl 4
  hex := by
    have hall : ∀ n < 16, (hexVal ((cstr "0123456789abcdef").getD n 0)).isSome = true := by decide
    intro c hc
    obtain ⟨place, -, rfl⟩ := List.mem_map.mp hc
    exact hall _ (Nat.mod_lt _ (by decide))

theorem value_groupText (v : UInt16) : (groupText v).value = v := by
  have hdigit : ∀ n < 16, (hexVal ((cstr "0123456789abcdef").getD n 0)).getD 0 = n := by decide
  have hval : ∀ n, (hexVal ((cstr "0123456789abcdef").getD (n % 16) 0)).getD 0 = n % 16 :=
    fun n => hdigit _ (Nat.mod_lt n (by decide))
  have hlt := v.toNat_lt
  refine UInt16.toNat_inj.mp ?_
  simp only [GroupText.value, groupText, groupDigitsOf, hexFold, List.map_cons, List.map_nil, List.foldl_cons,
    List.foldl_nil, hval]
  rw [UInt16.toNat_ofNat_of_lt' (show _ < 65536 by omega)]
  omega

/-- A network as it is written. -/
def v6Text (addr : In6Addr) (pfx : UInt8) : CStr := colonText (addr.groups.map groupText) ++ chr '/' :: decimal pfx.toNat

theorem tsfParseIpv6Addr_v6Text {addr : In6Addr} {pfx : UInt8} (hle : pfx ≤ 128)
    (hhost : pfx = 0 ∨ addr.HostBitsZero pfx.toNat) : tsfParseIpv6Addr (v6Text addr pfx) = .ok (addr, pfx) := by
  have hspells : Spells (colonText (addr.groups.map groupText)) addr.groups := by
    have := Spells.full (addr.groups.map groupText) (by simp [In6Addr.groups])
    rwa [List.map_map, Function.comp_def, List.map_congr_left (fun v _ => value_groupText v), List.map_id'] at this
  obtain ⟨r, hformed, htext, hvalues, -⟩ := hspells.reading
  have hslash : chr '/' ∉ colonText (addr.groups.map groupText) := htext ▸ hformed.slash_notMem
  refine (tsfParseIpv6Addr_withPrefix hslash).mpr ⟨r, pfx.toNat, hformed, htext, ?_, hspells.length_lt,
    UInt8.le_iff_toNat_le.mp hle, rfl, hhost.imp_left (fun h => by rw [h]; rfl), by simp⟩
  rw [hvalues, addr.ofGroups_groups]

/-! ### Directives -/

namespace Directive

/-- The values that a directive can have. -/
def Proper : Directive → Prop
  | ipv4Only => True
  | ipv6Only => True
  | exclude kept => kept ≠ 0xFFFF ∧ kept &&& ~~~TCP_STATES = ~~~TCP_STATES
  | includeState mask => mask ≠ 0 ∧ mask &&& ~~~TCP_STATES = 0
  | format fmt => fmt = TSF_FORMAT_COMPACT ∨ fmt = TSF_FORMAT_FULL
  | fields mask => FieldsFormed mask
  | ports _ slots => PortsFormed slots true
  | addrV4 _ addr mask => mask.IsPrefixMask ∧ addr.sAddr &&& ~~~mask.sAddr = 0
  | addrV6 _ addr pfx => pfx ≤ 128 ∧ (pfx = 0 ∨ addr.HostBitsZero pfx.toNat)

/-- What stands behind the key, if anything. -/
def value : Directive → Option CStr
  | ipv4Only => none
  | ipv6Only => none
  | exclude kept => some (statesText (TcpState.all.filter fun s => ¬ HasState kept s))
  | includeState mask => some (statesText (TcpState.all.filter (HasState mask ·)))
  | format fmt => some (formatText fmt)
  | fields mask => some (groupsText (groupsOf mask))
  | ports _ slots => some (joined (chr ',') ((slots.toList.takeWhile (· ≠ 0)).map portText))
  | addrV4 _ addr mask => some (v4Text addr mask)
  | addrV6 _ addr pfx => some (v6Text addr pfx)

/-- The directive as it is written. -/
def word (d : Directive) : CStr :=
  match d.value with
  | none => d.key.name
  | some value => d.key.name ++ chr '=' :: value

theorem word_of_flag {d : Directive} (h : d.value = none) : directiveKey d.word = d.key.name ∧ directiveValue d.word = none := by
  have hname : ∀ key ∈ Key.all, chr '=' ∉ key.name ∧ lower key.name = key.name := by decide
  obtain ⟨hequals, hlower⟩ := hname d.key d.key.mem_all
  rw [word, h]
  exact ⟨(congrArg lower (before_of_notMem hequals)).trans hlower, after_eq_none_iff.mpr hequals⟩

theorem word_of_value {d : Directive} {value : CStr} (h : d.value = some value) (hne : value ≠ []) :
    Says d.word d.key value := by
  have hname : ∀ key ∈ Key.all, chr '=' ∉ key.name ∧ lower key.name = key.name := by decide
  obtain ⟨hequals, hlower⟩ := hname d.key d.key.mem_all
  rw [word, h]
  exact ⟨(congrArg lower (before_append hequals _)).trans hlower, after_append hequals _, hne⟩

theorem statesText_ne_nil {ss : List TcpState} (h : ss ≠ []) : statesText ss ≠ [] := by
  have hall : ∀ s ∈ TcpState.all, s.text ≠ [] := by decide
  refine joined_ne_nil (by simpa using h) fun item hitem => ?_
  obtain ⟨s, -, rfl⟩ := List.mem_map.mp hitem
  exact hall s s.mem_all

/-- A port list with its ports told apart from the unused slots. -/
theorem takeWhile_slots {slots : Vector UInt16 8} {ps : List UInt16}
    (hslots : slots.toList = ps ++ List.replicate (8 - ps.length) 0) (hzero : 0 ∉ ps) :
    slots.toList.takeWhile (· ≠ 0) = ps := by
  rw [hslots, List.takeWhile_append_of_pos, List.takeWhile_replicate_eq_filter]
  · simp
  · intro p hp
    simpa using fun h0 : p = 0 => hzero (h0 ▸ hp)

theorem fields_portTexts (ps : List UInt16) :
    CString.fields (· == chr ',') (joined (chr ',') (ps.map portText)) = ps.map portText := by
  refine fields_joined (fun item hitem => ?_) fun item hitem hcomma => ?_
  · obtain ⟨p, -, rfl⟩ := List.mem_map.mp hitem
    exact decimal_ne_nil _
  · obtain ⟨p, -, rfl⟩ := List.mem_map.mp hitem
    exact absurd (isDigit_of_mem_decimal hcomma) (by decide)

/-- What is written is read as the directive. -/
theorem reads {d : Directive} (h : d.Proper) : Reads d.word d := by
  cases d with
  | ipv4Only =>
    obtain ⟨hkey, hvalue⟩ := @word_of_flag ipv4Only rfl
    exact .ipv4Only hkey hvalue
  | ipv6Only =>
    obtain ⟨hkey, hvalue⟩ := @word_of_flag ipv6Only rfl
    exact .ipv6Only hkey hvalue
  | exclude kept =>
    obtain ⟨hsome, hrest⟩ := h
    have hloop := excludeLoop_kept hrest
    refine .exclude (@word_of_value (exclude kept) _ rfl (statesText_ne_nil fun hnil => hsome ?_)) ?_
    · rw [hnil] at hloop
      exact (Except.ok.inj hloop).symm
    · rw [fields_statesText]
      exact hloop
  | includeState mask =>
    obtain ⟨hsome, hrest⟩ := h
    have hloop := includeLoop_mask hrest
    refine .includeState (@word_of_value (includeState mask) _ rfl (statesText_ne_nil fun hnil => hsome ?_)) ?_ hsome
    · rw [hnil] at hloop
      exact (Except.ok.inj hloop).symm
    · rw [fields_statesText]
      exact hloop
  | format fmt =>
    have hname : formatText fmt ≠ [] ∧ (lower (formatText fmt), fmt) ∈ tsfFormats := by
      rcases h with rfl | rfl
      · decide
      · decide
    exact .format (@word_of_value (.format fmt) _ rfl hname.1) hname.2
  | fields mask =>
    have hloop := fieldLoop_groupsOf h.within
    have hfields := fields_groupsText (show groupsOf mask ⊆ namedGroups from List.filter_sublist.subset)
    refine .fields (@word_of_value (.fields mask) _ rfl fun hnil => h.nonzero ?_) ?_ h.nonzero
    · rw [← hfields, hnil] at hloop
      exact (Except.ok.inj hloop).symm
    · rw [hfields]
      exact hloop
  | ports e slots =>
    obtain ⟨ps, hslots, hnodup, hzero, hsome⟩ := h
    have hps : ps ≠ [] := hsome.mp rfl
    have htake := takeWhile_slots hslots hzero
    refine .ports e (@word_of_value (ports e slots) _ rfl ?_) ?_ (List.length_pos_iff.mpr hps)
    · rw [htake]
      refine joined_ne_nil (by simpa using hps) fun item hitem => ?_
      obtain ⟨p, -, rfl⟩ := List.mem_map.mp hitem
      exact decimal_ne_nil _
    · rw [htake, fields_portTexts]
      exact portLoop_slots hslots hnodup hzero
  | addrV4 e addr mask =>
    obtain ⟨hmask, hnet⟩ := h
    refine .addrV4 e (@word_of_value (addrV4 e addr mask) _ rfl (by simp [v4Text])) (fun hcolon => ?_)
      (tsfParseIpv4Addr_v4Text hmask hnet)
    rw [v4Text, List.mem_append, List.mem_cons] at hcolon
    rcases hcolon with hcolon | hcolon | hcolon
    · exact notMem_dotted (by decide) (by decide) _ hcolon
    · exact absurd hcolon (by decide)
    · exact absurd (isDigit_of_mem_decimal hcolon) (by decide)
  | addrV6 e addr pfx =>
    obtain ⟨hle, hhost⟩ := h
    refine .addrV6 e (@word_of_value (addrV6 e addr pfx) _ rfl (by simp [v6Text])) ?_ (tsfParseIpv6Addr_v6Text hle hhost)
    have hspells := Spells.full (addr.groups.map groupText) (by simp [In6Addr.groups])
    exact List.mem_append_left _ hspells.colon_mem

/-! ### The bytes of a word -/

/-- A byte that is printed, and no blank. -/
def isPlain (c : UInt8) : Bool := 0x21 ≤ c && c ≤ 0x7E

theorem of_isPlain {c : UInt8} : isPlain c = true → nonPrintable c = false ∧ isBlank c = false ∧ c ≠ 0 := by
  refine forall_byte (P := fun c => isPlain c = true → nonPrintable c = false ∧ isBlank c = false ∧ c ≠ 0) ?_ c
  decide +kernel

theorem isPlain_of_isDigit {c : UInt8} : isDigit c = true → isPlain c = true := by
  refine forall_byte (P := fun c => isDigit c = true → isPlain c = true) ?_ c
  decide +kernel

theorem isPlain_of_mem_decimal {n : ℕ} {c : UInt8} (h : c ∈ decimal n) : isPlain c = true :=
  isPlain_of_isDigit (isDigit_of_mem_decimal h)

theorem isPlain_of_mem_statesText {ss : List TcpState} {c : UInt8} (h : c ∈ statesText ss) : isPlain c = true := by
  have hall : ∀ s ∈ TcpState.all, ∀ c ∈ s.text, isPlain c = true := by decide +kernel
  rcases mem_joined h with rfl | ⟨item, hitem, hc⟩
  · decide
  · obtain ⟨s, -, rfl⟩ := List.mem_map.mp hitem
    exact hall s s.mem_all c hc

theorem isPlain_of_mem_word {d : Directive} {c : UInt8} (h : c ∈ d.word) : isPlain c = true := by
  have hname : ∀ key ∈ Key.all, ∀ c ∈ key.name, isPlain c = true := by decide +kernel
  have hvalue : ∀ value ∈ d.value, ∀ c ∈ value, isPlain c = true := by
    intro value hvalue c hc
    cases d with
    | ipv4Only => cases hvalue
    | ipv6Only => cases hvalue
    | exclude kept =>
      obtain rfl := Option.some.inj hvalue
      exact isPlain_of_mem_statesText hc
    | includeState mask =>
      obtain rfl := Option.some.inj hvalue
      exact isPlain_of_mem_statesText hc
    | format fmt =>
      obtain rfl := Option.some.inj hvalue
      have hall : ∀ f ∈ tsfFormats, ∀ c ∈ f.1, isPlain c = true := by decide +kernel
      rw [formatText] at hc
      rcases hfind : tsfFormats.find? (·.2 = fmt) with _ | f
      · rw [hfind] at hc
        cases hc
      · rw [hfind] at hc
        exact hall f (List.mem_of_find?_eq_some hfind) c hc
    | fields mask =>
      obtain rfl := Option.some.inj hvalue
      have hall : ∀ g ∈ namedGroups, ∀ c ∈ g.1, isPlain c = true := by decide +kernel
      rcases mem_joined hc with rfl | ⟨item, hitem, hc⟩
      · decide
      · obtain ⟨g, hg, rfl⟩ := List.mem_map.mp hitem
        exact hall g (List.mem_of_mem_filter hg) c hc
    | ports e slots =>
      obtain rfl := Option.some.inj hvalue
      rcases mem_joined hc with rfl | ⟨item, hitem, hc⟩
      · decide
      · obtain ⟨p, -, rfl⟩ := List.mem_map.mp hitem
        exact isPlain_of_mem_decimal hc
    | addrV4 e addr mask =>
      obtain rfl := Option.some.inj hvalue
      rw [v4Text, List.mem_append, List.mem_cons] at hc
      rcases hc with hc | rfl | hc
      · by_cases hdot : c = chr '.'
        · rw [hdot]
          decide
        · refine isPlain_of_isDigit (by_contra fun hdigit => notMem_dotted hdot ?_ _ hc)
          simpa using hdigit
      · decide
      · exact isPlain_of_mem_decimal hc
    | addrV6 e addr pfx =>
      obtain rfl := Option.some.inj hvalue
      have hall : ∀ n < 16, isPlain ((cstr "0123456789abcdef").getD n 0) = true := by decide
      rw [v6Text, List.mem_append, List.mem_cons] at hc
      rcases hc with hc | rfl | hc
      · rcases mem_joined hc with rfl | ⟨item, hitem, hc⟩
        · decide
        · obtain ⟨t, ht, rfl⟩ := List.mem_map.mp hitem
          obtain ⟨v, -, rfl⟩ := List.mem_map.mp ht
          obtain ⟨place, -, rfl⟩ := List.mem_map.mp hc
          exact hall _ (Nat.mod_lt _ (by decide))
      · decide
      · exact isPlain_of_mem_decimal hc
  rw [word] at h
  rcases hcase : d.value with _ | value
  · rw [hcase] at h
    exact hname _ d.key.mem_all c h
  · rw [hcase] at h
    rcases List.mem_append.mp h with h | h
    · exact hname _ d.key.mem_all c h
    · rcases List.mem_cons.mp h with rfl | h
      · decide
      · exact hvalue value hcase c h

end Directive

/-! ### The length of a word -/

theorem length_statesText_le (p : TcpState → Bool) : (statesText (TcpState.all.filter p)).length ≤ 107 := by
  have hall : ((TcpState.all.map TcpState.text).map fun item => item.length + 1).sum - 1 = 107 := by decide
  rw [← hall]
  exact length_joined_le_of_sublist _ (List.filter_sublist.map _)

theorem length_groupsText_le (mask : UInt32) : (groupsText (groupsOf mask)).length ≤ 73 := by
  have hall : ((namedGroups.map Prod.fst).map fun item => item.length + 1).sum - 1 = 73 := by decide
  rw [← hall]
  exact length_joined_le_of_sublist _ (List.filter_sublist.map _)

theorem length_formatText_le (format : UInt32) : (formatText format).length ≤ 7 := by
  have hall : ∀ f ∈ tsfFormats, f.1.length ≤ 7 := by decide
  rw [formatText]
  rcases hfind : tsfFormats.find? (·.2 = format) with _ | f
  · rw [hfind]
    exact Nat.zero_le 7
  · rw [hfind]
    exact hall f (List.mem_of_find?_eq_some hfind)

theorem length_portTexts_le (slots : Vector UInt16 8) :
    (joined (chr ',') ((slots.toList.takeWhile (· ≠ 0)).map portText)).length ≤ 47 := by
  have hshort : ∀ item ∈ (slots.toList.takeWhile (· ≠ 0)).map portText, item.length ≤ 5 := by
    intro item hitem
    obtain ⟨p, -, rfl⟩ := List.mem_map.mp hitem
    have := (ntohs p).toNat_lt
    exact length_decimal_le (by decide) (by omega)
  have hcount := (slots.toList.takeWhile_sublist fun p => decide (p ≠ 0)).length_le
  have hjoined := length_joined_le_of_forall (chr ',') hshort
  rw [Vector.length_toList] at hcount
  rw [List.length_map] at hjoined
  omega

theorem length_v4Text_le (addr mask : InAddr) : (v4Text addr mask).length ≤ 18 := by
  have hbytes : ∀ v ∈ octetsOf addr, v ≤ 255 := by
    intro v hv
    obtain ⟨octet, -, rfl⟩ := List.mem_map.mp hv
    exact Nat.le_of_lt_succ octet.toNat_lt
  have hdotted := length_dotted_lt (show (octetsOf addr).length = 4 from rfl) hbytes
  have hmask : maskLength mask < 33 := by
    rw [maskLength]
    rcases hfind : (List.range 33).find? fun p => v4Mask p = mask with _ | p
    · decide
    · exact List.mem_range.mp (List.mem_of_find?_eq_some hfind)
  have hdecimal := length_decimal_le (show 0 < 2 by decide) (show maskLength mask < 10 ^ 2 by omega)
  rw [v4Text, List.length_append, List.length_cons]
  omega

theorem length_v6Text_le (addr : In6Addr) (pfx : UInt8) : (v6Text addr pfx).length ≤ 44 := by
  have hcolons := length_colonText_le (addr.groups.map groupText)
  have hgroups : (addr.groups.map groupText).length = 8 := by simp [In6Addr.groups]
  have hpfx := pfx.toNat_lt
  have hdecimal := length_decimal_le (show 0 < 3 by decide) (show pfx.toNat < 10 ^ 3 by omega)
  rw [v6Text, List.length_append, List.length_cons]
  omega

/-- The longest value that is written behind a key. -/
def Key.room : Key → ℕ
  | ipv4Only => 0
  | ipv6Only => 0
  | exclude => 107
  | includeState => 107
  | format => 7
  | fields => 73
  | ports _ => 47
  | addr _ => 44

theorem Directive.length_word_le (d : Directive) : d.word.length ≤ d.key.name.length + d.key.room + 1 := by
  have hvalue : ∀ value, d.value = some value → value.length ≤ d.key.room := by
    intro value hvalue
    cases d with
    | ipv4Only => cases hvalue
    | ipv6Only => cases hvalue
    | exclude kept => exact Option.some.inj hvalue ▸ length_statesText_le _
    | includeState mask => exact Option.some.inj hvalue ▸ length_statesText_le _
    | format fmt => exact Option.some.inj hvalue ▸ length_formatText_le fmt
    | fields mask => exact Option.some.inj hvalue ▸ length_groupsText_le mask
    | ports e slots => exact Option.some.inj hvalue ▸ length_portTexts_le slots
    | addrV4 e addr mask => exact Option.some.inj hvalue ▸ (length_v4Text_le addr mask).trans (show 18 ≤ 44 by decide)
    | addrV6 e addr pfx => exact Option.some.inj hvalue ▸ length_v6Text_le addr pfx
  rw [word]
  rcases hcase : d.value with _ | value
  · exact Nat.le_add_right_of_le (Nat.le_add_right _ _)
  · have := hvalue value hcase
    rw [List.length_append, List.length_cons]
    omega

end TcpStats
