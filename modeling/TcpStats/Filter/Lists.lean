import TcpStats.Filter.Directive

/-!
# The lists of a filter string

What a string says under `local_port`, `remote_port`, `exclude` and `include_state`, in its
own terms (`Occurs`, `Lists`), and what becomes of it in the filter: the port slots hold the
ports whose decimal numbers are listed (`portsRead`), and the bits of the state mask are those
of the states that are selected (`stateMask_iff`).
-/

namespace TcpStats

open CString Fallible

/-! ### Keys and items -/

/-- A directive of the key occurs. -/
def Occurs (key : CStr) (tokens : List CStr) : Prop := ∃ token ∈ tokens, directiveKey token = key

/-- A token has the item in the list that is its value. -/
def HasItem (token item : CStr) : Prop :=
  ∃ value, directiveValue token = some value ∧ item ∈ fields (· == chr ',') value

/-- A directive of the key lists the item. -/
def Lists (key : CStr) (tokens : List CStr) (item : CStr) : Prop :=
  ∃ token ∈ tokens, directiveKey token = key ∧ HasItem token item

theorem occurs_snoc {key token : CStr} {tokens : List CStr} :
    Occurs key (tokens ++ [token]) ↔ Occurs key tokens ∨ directiveKey token = key := by
  simp [Occurs, or_and_right, exists_or]

theorem lists_snoc {key token item : CStr} {tokens : List CStr} :
    Lists key (tokens ++ [token]) item ↔ Lists key tokens item ∨ directiveKey token = key ∧ HasItem token item := by
  simp [Lists, or_and_right, exists_or]

theorem Lists.occurs {key item : CStr} {tokens : List CStr} (h : Lists key tokens item) :
    Occurs key tokens := by
  obtain ⟨token, htoken, hkey, -⟩ := h
  exact ⟨token, htoken, hkey⟩

/-- The keys that set a flag. -/
def flagKeys : List (CStr × UInt32) :=
  [(cstr "ipv4_only", TSF_IPV4_ONLY), (cstr "ipv6_only", TSF_IPV6_ONLY),
    (cstr "include_state", TSF_STATE_INCLUDE_MODE), (cstr "local_port", TSF_LOCAL_PORT_MATCH),
    (cstr "remote_port", TSF_REMOTE_PORT_MATCH), (cstr "local_addr", TSF_LOCAL_ADDR_MATCH),
    (cstr "remote_addr", TSF_REMOTE_ADDR_MATCH)]

theorem keyBit_mem (key : CStr) :
    (key, keyBit key) ∈ flagKeys ∨ keyBit key = 0 ∧ ∀ p ∈ flagKeys, key ≠ p.1 := by
  unfold keyBit
  split_ifs with h4 h6 hin hlp hrp hla hra
  · exact .inl (by rw [h4]; decide)
  · exact .inl (by rw [h6]; decide)
  · exact .inl (by rw [hin]; decide)
  · exact .inl (by rw [hlp]; decide)
  · exact .inl (by rw [hrp]; decide)
  · exact .inl (by rw [hla]; decide)
  · exact .inl (by rw [hra]; decide)
  · exact .inr ⟨rfl, by simp [flagKeys, h4, h6, hin, hlp, hrp, hla, hra]⟩

/-- Each sets its own. -/
theorem keyBit_iff {name key : CStr} {bit : UInt32} (h : (name, bit) ∈ flagKeys) :
    keyBit key &&& bit ≠ 0 ↔ key = name := by
  have apart : ∀ p ∈ flagKeys, ∀ q ∈ flagKeys, p.2 &&& q.2 ≠ 0 ↔ p.1 = q.1 := by decide
  rcases keyBit_mem key with hkey | ⟨hzero, hnone⟩
  · exact apart _ hkey _ h
  · rw [hzero, UInt32.zero_and]
    exact ⟨fun hne => absurd rfl hne, fun heq => absurd heq (hnone _ h)⟩

/-- A directive sets the flag of its key. -/
theorem Effect.has {token : CStr} {f f' : TcpstatsFilter} (he : Effect token f f') {name : CStr}
    {bit : UInt32}
    (h : (name, bit) ∈ flagKeys) : f'.has bit = true ↔ f.has bit = true ∨ directiveKey token = name := by
  rw [TcpstatsFilter.has, he.flags, flags_or_has, Bool.or_eq_true, ← keyBit_iff h, bne_iff_ne, bne_iff_ne,
    TcpstatsFilter.has, bne_iff_ne]

/-- A flag is set exactly if its key occurs. -/
theorem has_iff_occurs {input : CStr} {f : TcpstatsFilter} (hf : tsfParseFilterString input = .ok f)
    (name : CStr) {bit : UInt32} (h : (name, bit) ∈ flagKeys) :
    f.has bit = true ↔ Occurs name (directives input) := by
  rw [has_iff hf]
  simp only [keyBit_iff h, Occurs]

/-! ### Ports -/

/-- The two bytes exchanged twice. -/
theorem htons_htons (x : UInt16) : htons (htons x) = x := by
  refine UInt16.toBitVec_inj.mp (BitVec.eq_of_getLsbD_eq fun i hi => ?_)
  by_cases hlow : i < 8
  · have hmid : 8 + i < 16 := by omega
    have hover : ¬ 8 + i < 8 := by omega
    have hbeyond : x.toBitVec.getLsbD (8 + (8 + i)) = false := BitVec.getLsbD_of_ge _ _ (by omega)
    simpa [htons, hlow, hmid, hover, hbeyond] using (BitVec.getLsbD_eq_getElem hi).symm
  · have hmid : i - 8 < 8 := by omega
    have hback : 8 + (i - 8) = i := by omega
    have hhigh : ¬ 8 + i < 16 := by omega
    have hbeyond : x.toBitVec.getLsbD (8 + (8 + i)) = false := BitVec.getLsbD_of_ge _ _ (by omega)
    simp [htons, hi, hlow, hmid, hback, hhigh, hbeyond]

theorem htons_ne_zero {x : UInt16} (h : x ≠ 0) : htons x ≠ 0 := by
  intro h0
  rw [← htons_htons x, h0] at h
  exact h rfl

theorem digitVal_lt {c : UInt8} (h : isDigit c = true) : digitVal c < 10 := by
  obtain ⟨hlow, hhigh⟩ := Bool.and_eq_true_iff.mp h
  have hlow : chr '0' ≤ c := decide_eq_true_eq.mp hlow
  have hhigh : c.toNat ≤ 57 := decide_eq_true_eq.mp hhigh
  rw [digitVal, UInt8.toNat_sub_of_le _ _ hlow, show (chr '0').toNat = 48 from rfl]
  omega

theorem chr_digitVal (c : UInt8) : chr '0' + (digitVal c).toUInt8 = c := by
  rw [digitVal, Nat.toUInt8_eq, UInt8.ofNat_toNat, UInt8.add_comm, UInt8.sub_add_cancel]

/-- Digits that are accepted are those of the value, after the digits read before. -/
theorem digits_ok {bad : UInt8 → ParseError} {str : CStr} {n val : ℕ} (hn : 0 < n)
    (h : digits bad str n = .ok val) : decimal n ++ str = decimal val := by
  induction str generalizing n with
  | nil =>
    obtain rfl := Except.ok.inj h
    exact List.append_nil _
  | cons c cs ih =>
    rw [digits] at h
    split at h
    case isFalse => cases h
    case isTrue hdigit =>
      have hval := digitVal_lt hdigit
      have := ih (by omega) h
      rw [decimal_snoc hn hval, chr_digitVal, List.append_assoc, List.singleton_append] at this
      exact this

/-- Digits that are accepted are those of the value, when a leading zero stands alone. -/
theorem decimal_of_digits {bad : UInt8 → ParseError} {str : CStr} {val : ℕ} (hne : str ≠ [])
    (hlead : ¬ (1 < str.length ∧ str.head? = some (chr '0'))) (h : digits bad str 0 = .ok val) :
    str = decimal val := by
  obtain ⟨c, cs, rfl⟩ := List.exists_cons_of_ne_nil hne
  rw [digits] at h
  split at h
  case isFalse => cases h
  case isTrue hdigit =>
    have hlt := digitVal_lt hdigit
    rw [Nat.zero_mul, Nat.zero_add] at h
    by_cases hfirst : digitVal c = 0
    · have hc : c = chr '0' := by rw [← chr_digitVal c, hfirst]; rfl
      have hcs : cs = [] := by
        by_contra hmore
        have := List.length_pos_iff.mpr hmore
        exact hlead ⟨by simpa using this, by rw [hc]; rfl⟩
      rw [hcs, hfirst] at h
      obtain rfl := Except.ok.inj h
      rw [hc, hcs]
      rfl
    · have := digits_ok (by omega) h
      rw [decimal_of_lt hlt, chr_digitVal, List.singleton_append] at this
      exact this

/-- A port that is accepted is written in decimal, and is not 0. -/
theorem tsfParsePortNumber_ok {str : CStr} {port : UInt16} (h : tsfParsePortNumber str = .ok port) :
    port ≠ 0 ∧ str = decimal (ntohs port).toNat := by
  unfold tsfParsePortNumber at h
  dsimp only at h
  obtain ⟨hempty, h⟩ := ite_error_eq_ok.mp h
  obtain ⟨hlead, h⟩ := ite_error_eq_ok.mp h
  obtain ⟨hlong, h⟩ := ite_error_eq_ok.mp h
  obtain ⟨val, hdigits, h⟩ := bind_eq_ok.mp h
  obtain ⟨hzero, h⟩ := ite_error_eq_ok.mp h
  obtain ⟨hlarge, h⟩ := ite_error_eq_ok.mp h
  obtain rfl := Except.ok.inj h
  have hval : val.toUInt16.toNat = val := UInt16.toNat_ofNat_of_lt' (show val < 65536 by omega)
  refine ⟨htons_ne_zero fun h0 => hzero ?_, ?_⟩
  · rw [← hval, h0]
    rfl
  rw [ntohs, htons_htons, hval]
  -- the whole string is looked at
  have hlen : strnlen str 6 = str.length := by unfold strnlen at *; omega
  rw [hlen, List.take_length] at hdigits
  rw [hlen] at hlead
  exact decimal_of_digits hempty hlead hdigits

/-- The loop leaves the slots before `count` and those it does not reach alone, and fills the ones
in between with the ports of its tokens. -/
theorem portLoop_ok {maxports : ℕ} {toks : List CStr} {count n : ℕ} {ports ports' : Vector UInt16 8}
    (hmax : maxports ≤ 8) (h : portLoop maxports toks count ports = .ok (n, ports')) :
    ∃ parsed, List.Forall₂ (fun tok port => tsfParsePortNumber tok = .ok port) toks parsed ∧
      n = count + parsed.length ∧
      ports'.toList = ports.toList.take count ++ parsed ++ ports.toList.drop n := by
  induction toks generalizing count ports with
  | nil =>
    obtain ⟨rfl, rfl⟩ := Prod.mk.inj (Except.ok.inj h)
    exact ⟨[], .nil, rfl, by simp⟩
  | cons tok toks ih =>
    obtain ⟨hroom, h⟩ := ite_error_eq_ok.mp h
    obtain ⟨port, hport, h⟩ := bind_eq_ok.mp h
    obtain ⟨-, h⟩ := ite_error_eq_ok.mp h
    obtain ⟨parsed, hparsed, hn, hlist⟩ := ih h
    refine ⟨port :: parsed, .cons hport hparsed, by rw [hn, List.length_cons]; omega, ?_⟩
    have hlen : count < ports.toList.length := by simp; omega
    have htake : (ports.toList.set count port).take (count + 1) = ports.toList.take count ++ [port] := by
      rw [List.take_succ_eq_append_getElem (by simpa using hlen), List.take_set_of_le (le_refl count)]
      simp
    rw [hlist, Vector.toList_setIfInBounds, htake, List.drop_set_of_lt (by omega), List.append_assoc,
      List.append_assoc, List.append_assoc, List.singleton_append, List.cons_append]

/-- A port is stored only if it is not there yet. -/
theorem portLoop_nodup {maxports : ℕ} {toks : List CStr} {count n : ℕ} {ports ports' : Vector UInt16 8}
    (hmax : maxports ≤ 8) (h : portLoop maxports toks count ports = .ok (n, ports'))
    (hnodup : (ports.toList.take count).Nodup) : (ports'.toList.take n).Nodup := by
  induction toks generalizing count ports with
  | nil =>
    obtain ⟨rfl, rfl⟩ := Prod.mk.inj (Except.ok.inj h)
    exact hnodup
  | cons tok toks ih =>
    obtain ⟨hroom, h⟩ := ite_error_eq_ok.mp h
    obtain ⟨port, -, h⟩ := bind_eq_ok.mp h
    obtain ⟨hnew, h⟩ := ite_error_eq_ok.mp h
    refine ih h ?_
    have hlen : count < ports.toList.length := by simp; omega
    rw [Vector.toList_setIfInBounds, List.take_succ_eq_append_getElem (by simpa using hlen),
      List.take_set_of_le (le_refl count), List.getElem_set_self]
    exact List.nodup_append.mpr ⟨hnodup, List.nodup_singleton port, fun p hp q hq heq =>
      hnew (List.mem_singleton.mp hq ▸ heq ▸ hp)⟩

/-- An accepted port list fills the first slots with distinct ports, none of which is 0. -/
theorem tsfParsePortList_list {value : CStr} {ports ports' : Vector UInt16 8} {flags bit flags' : UInt32}
    (h : tsfParsePortList value ports TSF_MAX_PORTS flags bit = .ok (ports', flags')) :
    ∃ parsed, parsed ≠ [] ∧ (∀ port ∈ parsed, port ≠ 0) ∧ parsed.Nodup ∧
      List.Forall₂ (fun tok port => tsfParsePortNumber tok = .ok port) (fields (· == chr ',') value) parsed ∧
      ports'.toList = parsed ++ ports.toList.drop parsed.length := by
  obtain ⟨-, -, count, hcount, hloop⟩ := tsfParsePortList_iff.mp h
  obtain ⟨parsed, hparsed, hn, hlist⟩ := portLoop_ok (by decide) hloop
  rw [Nat.zero_add] at hn
  refine ⟨parsed, ?_, ?_, ?_, hparsed, by simpa [hn] using hlist⟩
  · rintro rfl
    exact absurd hn (Nat.ne_of_gt hcount)
  · intro port hport
    obtain ⟨i, hi, rfl⟩ := List.getElem_of_mem hport
    have := hparsed.get (by rw [hparsed.length_eq]; exact hi) hi
    exact (tsfParsePortNumber_ok this).1
  · have hnodup := portLoop_nodup (by decide) hloop (by simp)
    rwa [hlist, hn, List.take_zero, List.nil_append, List.take_left' rfl] at hnodup

/-- An accepted port list begins with a port. -/
theorem tsfParsePortList_head {value : CStr} {ports ports' : Vector UInt16 8} {flags bit flags' : UInt32}
    (h : tsfParsePortList value ports TSF_MAX_PORTS flags bit = .ok (ports', flags')) : firstPort ports' ≠ 0 := by
  obtain ⟨parsed, hne, hzero, -, -, hlist⟩ := tsfParsePortList_list h
  obtain ⟨port, more, rfl⟩ := List.exists_cons_of_ne_nil hne
  have hfirst : firstPort ports' = port := by
    have := congrArg List.head? hlist
    simpa [firstPort, List.head?_eq_getElem?] using this
  rw [hfirst]
  exact hzero port (List.mem_cons_self ..)

/-- What a directive does to the port slots of a key and flag. -/
inductive PortEffect (key : CStr) (bit : UInt32) (token : CStr) (f : TcpstatsFilter)
    (ports ports' : Vector UInt16 8) : Prop where
  | keep : directiveKey token ≠ key → ports' = ports → PortEffect key bit token f ports ports'
  | fill (value : CStr) (flags : UInt32) : directiveKey token = key → directiveValue token = some value →
      tsfParsePortList value ports TSF_MAX_PORTS f.flags bit = .ok (ports', flags) →
      PortEffect key bit token f ports ports'

/-- A port list is written by its own directive only. -/
theorem Effect.ports {token : CStr} {f f' : TcpstatsFilter} (h : Effect token f f') :
    PortEffect (cstr "local_port") TSF_LOCAL_PORT_MATCH token f f.localPorts f'.localPorts ∧
      PortEffect (cstr "remote_port") TSF_REMOTE_PORT_MATCH token f f.remotePorts f'.remotePorts := by
  have other : ∀ {name : CStr}, directiveKey token = name → name ≠ cstr "local_port" → name ≠ cstr "remote_port" →
      f'.localPorts = f.localPorts → f'.remotePorts = f.remotePorts →
      PortEffect (cstr "local_port") TSF_LOCAL_PORT_MATCH token f f.localPorts f'.localPorts ∧
        PortEffect (cstr "remote_port") TSF_REMOTE_PORT_MATCH token f f.remotePorts f'.remotePorts :=
    fun hk hl hr hlocal hremote => ⟨.keep (hk ▸ hl) hlocal, .keep (hk ▸ hr) hremote⟩
  cases h with
  | ipv4Only hk _ hf =>
    subst hf
    exact other hk (by decide) (by decide) rfl rfl
  | ipv6Only hk _ hf =>
    subst hf
    exact other hk (by decide) (by decide) rfl rfl
  | exclude value hk _ h =>
    obtain ⟨-, mask, -, rfl⟩ := tsfParseExcludeList_iff.mp h
    exact other hk (by decide) (by decide) rfl rfl
  | format value hk _ h =>
    obtain ⟨format, -, rfl⟩ := tsfParseFormat_iff.mp h
    exact other hk (by decide) (by decide) rfl rfl
  | fields value hk _ h =>
    obtain ⟨mask, -, -, rfl⟩ := tsfParseFieldList_iff.mp h
    exact other hk (by decide) (by decide) rfl rfl
  | includeState value hk _ h =>
    obtain ⟨-, -, mask, -, -, rfl⟩ := tsfParseIncludeStateList_iff.mp h
    exact other hk (by decide) (by decide) rfl rfl
  | localPort value ports flags hk hv h hf =>
    subst hf
    exact ⟨.fill value flags hk hv h, .keep (by rw [hk]; decide) rfl⟩
  | remotePort value ports flags hk hv h hf =>
    subst hf
    exact ⟨.keep (by rw [hk]; decide) rfl, .fill value flags hk hv h⟩
  | localAddr value hk _ h =>
    obtain ⟨-, hl, hr, -⟩ := (tsfParseAddr_iff.mp h).2.keeps
    exact other hk (by decide) (by decide) hl hr
  | remoteAddr value hk _ h =>
    obtain ⟨-, hl, hr, -⟩ := (tsfParseAddr_iff.mp h).2.keeps
    exact other hk (by decide) (by decide) hl hr

/-- The port slots hold what a string says under a key: nothing, or the ports listed, before the
first unused slot. -/
structure PortsRead (key : CStr) (tokens : List CStr) (ports : Vector UInt16 8) : Prop where
  unused : ¬ Occurs key tokens → ports = Vector.replicate 8 0
  head : Occurs key tokens → firstPort ports ≠ 0
  listed : ∀ port, port ∈ ports.toList.takeWhile (· ≠ 0) ↔ Lists key tokens (decimal (ntohs port).toNat)

theorem decimal_ntohs_inj {p q : UInt16} (h : decimal (ntohs p).toNat = decimal (ntohs q).toNat) :
    p = q := by
  have : htons p = htons q := UInt16.toNat_inj.mp (decimal_inj h)
  rw [← htons_htons p, this, htons_htons]

/-- The ports of accepted tokens are those whose decimal numbers are among them. -/
theorem mem_parsed {toks : List CStr} {parsed : List UInt16}
    (h : List.Forall₂ (fun tok port => tsfParsePortNumber tok = .ok port) toks parsed) (port : UInt16) :
    port ∈ parsed ↔ decimal (ntohs port).toNat ∈ toks := by
  induction h with
  | nil => simp
  | @cons tok p _ _ hp _ ih =>
    obtain ⟨-, hdecimal⟩ := tsfParsePortNumber_ok hp
    rw [List.mem_cons, List.mem_cons, ih, hdecimal]
    exact or_congr_left ⟨fun heq => by rw [heq], decimal_ntohs_inj⟩

theorem PortsRead.nil (key : CStr) : PortsRead key [] (Vector.replicate 8 0) where
  unused _ := rfl
  head := by simp [Occurs]
  listed port := by simp [Lists, Vector.toList_replicate, List.replicate]

/-- What a directive keeps. -/
theorem PortsRead.step {key token : CStr} {bit : UInt32} {tokens : List CStr} {f : TcpstatsFilter}
    {ports ports' : Vector UInt16 8} (h : PortsRead key tokens ports) (hbit : f.has bit = true ↔ Occurs key tokens)
    (he : PortEffect key bit token f ports ports') : PortsRead key (tokens ++ [token]) ports' := by
  cases he with
  | keep hkey hports =>
    subst hports
    have hoccurs : Occurs key (tokens ++ [token]) ↔ Occurs key tokens := by simp [occurs_snoc, hkey]
    refine ⟨fun hno => h.unused (hoccurs.not.mp hno), fun hs => h.head (hoccurs.mp hs), fun port => ?_⟩
    rw [h.listed, lists_snoc]
    simp [hkey]
  | fill value flags hkey hvalue hlist =>
    have hno : ¬ Occurs key tokens := by
      rw [← hbit, TcpstatsFilter.has, (tsfParsePortList_iff.mp hlist).1]
      simp
    refine ⟨fun hnot => absurd (occurs_snoc.mpr (.inr hkey)) hnot, fun _ => tsfParsePortList_head hlist,
      fun port => ?_⟩
    obtain ⟨parsed, -, hzero, -, hparsed, hslots⟩ := tsfParsePortList_list hlist
    have hfirst : ports'.toList.takeWhile (· ≠ 0) = parsed := by
      rw [hslots, h.unused hno, List.takeWhile_append_of_pos (by simpa using hzero), Vector.toList_replicate,
        List.drop_replicate, List.takeWhile_replicate_eq_filter]
      simp
    rw [hfirst, mem_parsed hparsed, lists_snoc]
    constructor
    · exact fun hmem => .inr ⟨hkey, value, hvalue, hmem⟩
    · rintro (hold | ⟨-, value', hvalue', hmem⟩)
      · exact absurd hold.occurs hno
      · rw [hvalue, Option.some.injEq] at hvalue'
        exact hvalue' ▸ hmem

/-- The port slots of an accepted string. -/
theorem portsRead {input : CStr} {f : TcpstatsFilter} (h : tsfParseFilterString input = .ok f) :
    PortsRead (cstr "local_port") (directives input) f.localPorts ∧
      PortsRead (cstr "remote_port") (directives input) f.remotePorts := by
  have hl : (cstr "local_port", TSF_LOCAL_PORT_MATCH) ∈ flagKeys := by decide
  have hr : (cstr "remote_port", TSF_REMOTE_PORT_MATCH) ∈ flagKeys := by decide
  have inv := parseDirectives_inv (I := fun pre f =>
    ((f.has TSF_LOCAL_PORT_MATCH = true ↔ Occurs (cstr "local_port") pre) ∧
      PortsRead (cstr "local_port") pre f.localPorts) ∧
    (f.has TSF_REMOTE_PORT_MATCH = true ↔ Occurs (cstr "remote_port") pre) ∧
      PortsRead (cstr "remote_port") pre f.remotePorts) (tsfParseFilterString_directives h) ?_ ?_
  · exact ⟨inv.1.2, inv.2.2⟩
  · refine ⟨⟨?_, .nil _⟩, ?_, .nil _⟩
    · simp [Occurs, TcpstatsFilter.has, TcpstatsFilter.default]
    · simp [Occurs, TcpstatsFilter.has, TcpstatsFilter.default]
  · rintro pre token f f' ⟨⟨hlbit, hlread⟩, hrbit, hrread⟩ he
    obtain ⟨hlocal, hremote⟩ := he.ports
    refine ⟨⟨?_, hlread.step hlbit hlocal⟩, ?_, hrread.step hrbit hremote⟩
    · rw [he.has hl, occurs_snoc, hlbit]
    · rw [he.has hr, occurs_snoc, hrbit]

/-- A port flag is set only with a port in the first slot. -/
theorem ports_head {input : CStr} {f : TcpstatsFilter} (h : tsfParseFilterString input = .ok f) :
    (f.has TSF_LOCAL_PORT_MATCH = true → firstPort f.localPorts ≠ 0) ∧
      (f.has TSF_REMOTE_PORT_MATCH = true → firstPort f.remotePorts ≠ 0) := by
  obtain ⟨hlocal, hremote⟩ := portsRead h
  constructor
  · rw [has_iff_occurs h (cstr "local_port") (by decide)]
    exact hlocal.head
  · rw [has_iff_occurs h (cstr "remote_port") (by decide)]
    exact hremote.head

/-! ### States -/

/-- A token is a name of the state, in any case. -/
def Names (token : CStr) (s : TcpState) : Prop := (lower token, s) ∈ tsfStateNames

/-- A name that is found is the name of one state. -/
theorem tsfLookupState_ok {token : CStr} {s : TcpState} (h : tsfLookupState token = .ok s) (t : TcpState) :
    Names token t ↔ s = t := by
  have short : ∀ p ∈ tsfStateNames, p.1.length < 31 := by decide
  have unique : ∀ p ∈ tsfStateNames, ∀ q ∈ tsfStateNames, p.1 = q.1 → p.2 = q.2 := by decide
  unfold tsfLookupState at h
  split at h
  case h_2 => cases h
  case h_1 state hlookup =>
    obtain rfl := Except.ok.inj h
    obtain ⟨before, after, hsplit, -⟩ := List.lookup_eq_some_iff.mp hlookup
    have hmem : (lower (token.take 31), state) ∈ tsfStateNames := by rw [hsplit]; simp
    have hwhole : token.take 31 = token := by
      have := short _ hmem
      simp only [lower, List.length_map, List.length_take] at this
      exact List.take_of_length_le (by omega)
    rw [hwhole] at hmem
    constructor
    · exact fun hname => unique _ hmem _ hname rfl
    · rintro rfl
      exact hmem

/-- The state is in the mask. -/
def HasState (mask : UInt16) (s : TcpState) : Prop := mask &&& s.bit ≠ 0

instance (mask : UInt16) (s : TcpState) : Decidable (HasState mask s) := inferInstanceAs (Decidable (_ ≠ _))

theorem hasState_all (s : TcpState) : HasState 0xFFFF s := by
  cases s <;> decide

theorem not_hasState_zero (s : TcpState) : ¬ HasState 0 s := by
  simp [HasState]

theorem hasState_add (mask : UInt16) (s t : TcpState) :
    HasState (mask ||| s.bit) t ↔ HasState mask t ∨ s = t := by
  have hbit : s.bit &&& t.bit = 0 ↔ s ≠ t := by cases s <;> cases t <;> decide
  rw [HasState, Bits.or_and_right16, Ne, UInt16.or_eq_zero_iff, hbit, not_and_or, not_not, HasState]

theorem hasState_remove (mask : UInt16) (s t : TcpState) :
    HasState (mask &&& ~~~s.bit) t ↔ HasState mask t ∧ s ≠ t := by
  have hbit : ~~~s.bit &&& t.bit = if s = t then 0 else t.bit := by cases s <;> cases t <;> decide
  rw [HasState, UInt16.and_assoc, hbit]
  by_cases heq : s = t
  · simp [heq]
  · simp [heq, HasState]

theorem excludeLoop_ok {toks : List CStr} {seen mask mask' : UInt16}
    (h : excludeLoop toks seen mask = .ok mask')
    (t : TcpState) : HasState mask' t ↔ HasState mask t ∧ ∀ tok ∈ toks, ¬ Names tok t := by
  induction toks generalizing seen mask with
  | nil =>
    obtain rfl := Except.ok.inj h
    simp
  | cons tok toks ih =>
    obtain ⟨s, hs, h⟩ := bind_eq_ok.mp h
    obtain ⟨-, h⟩ := ite_error_eq_ok.mp h
    rw [ih h, hasState_remove, List.forall_mem_cons, tsfLookupState_ok hs, and_assoc]

theorem includeLoop_ok {toks : List CStr} {seen mask mask' : UInt16}
    (h : includeLoop toks seen mask = .ok mask')
    (t : TcpState) : HasState mask' t ↔ HasState mask t ∨ ∃ tok ∈ toks, Names tok t := by
  induction toks generalizing seen mask with
  | nil =>
    obtain rfl := Except.ok.inj h
    simp
  | cons tok toks ih =>
    obtain ⟨s, hs, h⟩ := bind_eq_ok.mp h
    obtain ⟨-, h⟩ := ite_error_eq_ok.mp h
    rw [ih h, hasState_add, List.exists_mem_cons_iff, tsfLookupState_ok hs, or_assoc]

/-- What a directive does to the states selected. -/
inductive StateEffect (token : CStr) (f f' : TcpstatsFilter) : Prop where
  | keep : directiveKey token ≠ cstr "exclude" → directiveKey token ≠ cstr "include_state" →
      f'.stateMask = f.stateMask → StateEffect token f f'
  | exclude : directiveKey token = cstr "exclude" → f.has TSF_STATE_INCLUDE_MODE = false →
      (∀ s, HasState f'.stateMask s ↔ HasState f.stateMask s ∧ ∀ item, HasItem token item → ¬ Names item s) →
      StateEffect token f f'
  | includeState : directiveKey token = cstr "include_state" → f.has TSF_STATE_INCLUDE_MODE = false →
      (∀ s, HasState f'.stateMask s ↔ ∃ item, HasItem token item ∧ Names item s) → StateEffect token f f'

theorem hasItem_iff {token value item : CStr} (h : directiveValue token = some value) :
    HasItem token item ↔ item ∈ fields (· == chr ',') value := by
  simp [HasItem, h]

theorem Effect.states {token : CStr} {f f' : TcpstatsFilter} (h : Effect token f f') :
    StateEffect token f f' := by
  have other : ∀ {name : CStr}, directiveKey token = name → name ≠ cstr "exclude" → name ≠ cstr "include_state" →
      f'.stateMask = f.stateMask → StateEffect token f f' :=
    fun hk hex hin hmask => .keep (hk ▸ hex) (hk ▸ hin) hmask
  cases h with
  | ipv4Only hk _ hf =>
    subst hf
    exact other hk (by decide) (by decide) rfl
  | ipv6Only hk _ hf =>
    subst hf
    exact other hk (by decide) (by decide) rfl
  | exclude value hk hv h =>
    obtain ⟨hmode, mask, hloop, rfl⟩ := tsfParseExcludeList_iff.mp h
    refine .exclude hk hmode fun s => ?_
    simp only [hasItem_iff hv]
    exact excludeLoop_ok hloop s
  | format value hk _ h =>
    obtain ⟨format, -, rfl⟩ := tsfParseFormat_iff.mp h
    exact other hk (by decide) (by decide) rfl
  | fields value hk _ h =>
    obtain ⟨mask, -, -, rfl⟩ := tsfParseFieldList_iff.mp h
    exact other hk (by decide) (by decide) rfl
  | includeState value hk hv h =>
    obtain ⟨-, hmode, mask, -, hloop, rfl⟩ := tsfParseIncludeStateList_iff.mp h
    refine .includeState hk hmode fun s => ?_
    simp only [hasItem_iff hv]
    rw [includeLoop_ok hloop s]
    simp [not_hasState_zero]
  | localPort value ports flags hk _ _ hf =>
    subst hf
    exact other hk (by decide) (by decide) rfl
  | remotePort value ports flags hk _ _ hf =>
    subst hf
    exact other hk (by decide) (by decide) rfl
  | localAddr value hk _ h =>
    exact other hk (by decide) (by decide) (tsfParseAddr_iff.mp h).2.keeps.2.2.2
  | remoteAddr value hk _ h =>
    exact other hk (by decide) (by decide) (tsfParseAddr_iff.mp h).2.keeps.2.2.2

/-- The states that a string selects: those named in `include_state` if it occurs, and if not
those named in no `exclude`. -/
structure StateSelected (tokens : List CStr) (s : TcpState) : Prop where
  included : Occurs (cstr "include_state") tokens → ∃ item, Lists (cstr "include_state") tokens item ∧ Names item s
  notExcluded : ¬ Occurs (cstr "include_state") tokens → ∀ item, Lists (cstr "exclude") tokens item → ¬ Names item s

/-- What a directive keeps. -/
theorem StateEffect.step {token : CStr} {tokens : List CStr} {f f' : TcpstatsFilter}
    (hmode : f.has TSF_STATE_INCLUDE_MODE = true ↔ Occurs (cstr "include_state") tokens)
    (h : ∀ s, HasState f.stateMask s ↔ StateSelected tokens s) (he : StateEffect token f f') (s : TcpState) :
    HasState f'.stateMask s ↔ StateSelected (tokens ++ [token]) s := by
  cases he with
  | keep hex hin hmask =>
    have hoccurs : Occurs (cstr "include_state") (tokens ++ [token]) ↔ Occurs (cstr "include_state") tokens := by
      simp [occurs_snoc, hin]
    rw [hmask, h]
    constructor
    · rintro ⟨hinc, hexc⟩
      refine ⟨fun hs => ?_, fun hs => ?_⟩
      · simpa [lists_snoc, hin] using hinc (hoccurs.mp hs)
      · simpa [lists_snoc, hex] using hexc (hoccurs.not.mp hs)
    · rintro ⟨hinc, hexc⟩
      refine ⟨fun hs => ?_, fun hs => ?_⟩
      · simpa [lists_snoc, hin] using hinc (hoccurs.mpr hs)
      · simpa [lists_snoc, hex] using hexc (hoccurs.not.mpr hs)
  | exclude hkey hoff hmask =>
    have hno : ¬ Occurs (cstr "include_state") tokens := by rw [← hmode, hoff]; decide
    have hno' : ¬ Occurs (cstr "include_state") (tokens ++ [token]) := by
      rw [occurs_snoc, hkey]
      exact fun hor => hor.elim hno (by decide)
    rw [hmask, h]
    constructor
    · rintro ⟨hsel, hitem⟩
      refine ⟨fun hs => absurd hs hno', fun _ item hlist => ?_⟩
      rcases lists_snoc.mp hlist with hold | ⟨-, hnew⟩
      · exact hsel.notExcluded hno item hold
      · exact hitem item hnew
    · intro hsel
      have hall := hsel.notExcluded hno'
      refine ⟨⟨fun hs => absurd hs hno, fun _ item hold => ?_⟩, fun item hnew => ?_⟩
      · exact hall item (lists_snoc.mpr (.inl hold))
      · exact hall item (lists_snoc.mpr (.inr ⟨hkey, hnew⟩))
  | includeState hkey hoff hmask =>
    have hno : ¬ Occurs (cstr "include_state") tokens := by rw [← hmode, hoff]; decide
    have hoccurs : Occurs (cstr "include_state") (tokens ++ [token]) := occurs_snoc.mpr (.inr hkey)
    rw [hmask]
    constructor
    · rintro ⟨item, hnew, hname⟩
      exact ⟨fun _ => ⟨item, lists_snoc.mpr (.inr ⟨hkey, hnew⟩), hname⟩, fun hnot => absurd hoccurs hnot⟩
    · intro hsel
      obtain ⟨item, hlist, hname⟩ := hsel.included hoccurs
      rcases lists_snoc.mp hlist with hold | ⟨-, hnew⟩
      · exact absurd hold.occurs hno
      · exact ⟨item, hnew, hname⟩

/-- The state mask of an accepted string. -/
theorem stateMask_iff {input : CStr} {f : TcpstatsFilter} (h : tsfParseFilterString input = .ok f)
    (s : TcpState) :
    HasState f.stateMask s ↔ StateSelected (directives input) s := by
  have hkey : (cstr "include_state", TSF_STATE_INCLUDE_MODE) ∈ flagKeys := by decide
  have inv := parseDirectives_inv (I := fun pre f =>
    (f.has TSF_STATE_INCLUDE_MODE = true ↔ Occurs (cstr "include_state") pre) ∧
      ∀ s, HasState f.stateMask s ↔ StateSelected pre s) (tsfParseFilterString_directives h) ?_ ?_
  · exact inv.2 s
  · constructor
    · simp [Occurs, TcpstatsFilter.has, TcpstatsFilter.default]
    · intro s
      refine iff_of_true (hasState_all s) ⟨?_, ?_⟩
      · simp [Occurs]
      · simp [Lists]
  · rintro pre token f f' ⟨hmode, hstates⟩ he
    refine ⟨?_, fun s => he.states.step hmode hstates s⟩
    rw [he.has hkey, occurs_snoc, hmode]

end TcpStats
