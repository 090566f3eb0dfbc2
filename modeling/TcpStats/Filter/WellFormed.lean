import TcpStats.Filter.Lists

/-!
# Accepted filters are well formed

What holds of every filter that the parser accepts (`WellFormed`), whatever the directives
and their order. The part that each directive keeps is `Formed`; the check across the
directives adds the rest. `tsfParseFilterStringOut` is the function as its C callers have
it, with a result and a filter to be written: it leaves that filter alone when it fails
(`tsfParseFilterStringOut_wellFormed`).
-/

namespace TcpStats

open CString Fallible

/-! ### The parts of a filter -/

/-- The slots of a port list: distinct ports and then unused slots, with a port exactly if the
flag of the list is set. -/
def PortsFormed (ports : Vector UInt16 8) (flag : Bool) : Prop :=
  ∃ parsed : List UInt16, ports.toList = parsed ++ List.replicate (8 - parsed.length) 0 ∧
    parsed.Nodup ∧ 0 ∉ parsed ∧ (flag = true ↔ parsed ≠ [])

/-- The mask of the first `p` bits of an address, for some `p`; `htonl` is its own inverse. -/
def InAddr.IsPrefixMask (mask : InAddr) : Prop :=
  ∃ p ≤ 32, (htonl mask.sAddr).toNat = 2 ^ 32 - 2 ^ (32 - p)

/-- The address fields of a direction. -/
structure AddrFormed (v4 mask : InAddr) (v6 : In6Addr) (pfx : UInt8) (flag : Bool) : Prop where
  prefixMask : mask.IsPrefixMask
  network : v4.sAddr &&& ~~~mask.sAddr = 0
  prefix_le : pfx ≤ 128
  unset : flag = false → v4 = ⟨0⟩ ∧ mask = ⟨0⟩ ∧ v6 = .unspecified ∧ pfx = 0
  oneFamily : v4 = ⟨0⟩ ∧ mask = ⟨0⟩ ∨ v6 = .unspecified ∧ pfx = 0

/-- The bits of the eleven states. -/
def TCP_STATES : UInt16 := 0x07FF

/-- A state mask: some of the states in include mode, and else everything but some of them. -/
structure StatesFormed (mask : UInt16) (includeMode : Bool) : Prop where
  included : includeMode = true → mask ≠ 0 ∧ mask &&& ~~~TCP_STATES = 0
  excluded : includeMode = false → mask &&& ~~~TCP_STATES = ~~~TCP_STATES

/-- A field mask: some of the groups. -/
structure FieldsFormed (mask : UInt32) : Prop where
  nonzero : mask ≠ 0
  within : mask &&& ~~~TSR_FIELDS_ALL = 0

namespace TcpstatsFilter

/-- What every directive keeps. -/
structure Formed (f : TcpstatsFilter) : Prop where
  version : f.version = TSF_VERSION
  localPorts : PortsFormed f.localPorts (f.has TSF_LOCAL_PORT_MATCH)
  remotePorts : PortsFormed f.remotePorts (f.has TSF_REMOTE_PORT_MATCH)
  localAddr : AddrFormed f.localAddrV4 f.localMaskV4 f.localAddrV6 f.localPrefixV6
    (f.has TSF_LOCAL_ADDR_MATCH)
  remoteAddr : AddrFormed f.remoteAddrV4 f.remoteMaskV4 f.remoteAddrV6 f.remotePrefixV6
    (f.has TSF_REMOTE_ADDR_MATCH)
  states : StatesFormed f.stateMask (f.has TSF_STATE_INCLUDE_MODE)
  fieldMask : FieldsFormed f.fieldMask

/-- A filter that agrees with itself. -/
structure WellFormed (f : TcpstatsFilter) : Prop extends f.Formed where
  onlyOne : ¬ (f.has TSF_IPV4_ONLY = true ∧ f.has TSF_IPV6_ONLY = true)
  v6Only : f.has TSF_IPV6_ONLY = true → f.localAddrV4 = ⟨0⟩ ∧ f.remoteAddrV4 = ⟨0⟩
  v4Only : f.has TSF_IPV4_ONLY = true → f.localAddrV6 = .unspecified ∧ f.remoteAddrV6 = .unspecified

end TcpstatsFilter

/-! ### Ports -/

/-- An accepted port list fills unused slots. -/
theorem PortsFormed.fill {value : CStr} {ports ports' : Vector UInt16 8} {flags bit flags' : UInt32}
    (hf : PortsFormed ports false)
    (h : tsfParsePortList value ports TSF_MAX_PORTS flags bit = .ok (ports', flags')) : PortsFormed ports' true := by
  obtain ⟨before, hslots, -, -, hbefore⟩ := hf
  obtain rfl : before = [] := by simpa using hbefore
  obtain ⟨parsed, hne, hzero, hnodup, -, hlist⟩ := tsfParsePortList_list h
  refine ⟨parsed, ?_, hnodup, fun h0 => hzero 0 h0 rfl, iff_of_true rfl hne⟩
  rw [hlist, hslots, List.nil_append, List.length_nil, List.drop_replicate, Nat.sub_zero]

/-! ### States and fields -/

theorem excludeLoop_keeps {toks : List CStr} {seen mask mask' : UInt16}
    (h : excludeLoop toks seen mask = .ok mask') (hmask : mask &&& ~~~TCP_STATES = ~~~TCP_STATES) :
    mask' &&& ~~~TCP_STATES = ~~~TCP_STATES := by
  induction toks generalizing seen mask with
  | nil =>
    obtain rfl := Except.ok.inj h
    exact hmask
  | cons tok toks ih =>
    obtain ⟨s, -, h⟩ := bind_eq_ok.mp h
    obtain ⟨-, h⟩ := ite_error_eq_ok.mp h
    have hbit : ~~~s.bit &&& ~~~TCP_STATES = ~~~TCP_STATES := by cases s <;> decide
    exact ih h (by rw [UInt16.and_assoc, hbit, hmask])

theorem includeLoop_keeps {toks : List CStr} {seen mask mask' : UInt16}
    (h : includeLoop toks seen mask = .ok mask') (hmask : mask &&& ~~~TCP_STATES = 0) :
    mask' &&& ~~~TCP_STATES = 0 := by
  induction toks generalizing seen mask with
  | nil =>
    obtain rfl := Except.ok.inj h
    exact hmask
  | cons tok toks ih =>
    obtain ⟨s, -, h⟩ := bind_eq_ok.mp h
    obtain ⟨-, h⟩ := ite_error_eq_ok.mp h
    have hbit : s.bit &&& ~~~TCP_STATES = 0 := by cases s <;> decide
    exact ih h (by rw [Bits.or_and_right16, hmask, hbit, UInt16.or_zero])

theorem tsfFieldGroups_within {name : CStr} {group : UInt32} (h : tsfFieldGroups.lookup name = some group) :
    group &&& ~~~TSR_FIELDS_ALL = 0 := by
  have hall : ∀ p ∈ tsfFieldGroups, p.2 &&& ~~~TSR_FIELDS_ALL = 0 := by decide
  obtain ⟨before, later, hsplit, -⟩ := List.lookup_eq_some_iff.mp h
  exact hall (name, group) (by simp [hsplit])

theorem fieldLoop_keeps {toks : List CStr} {mask mask' : UInt32} (h : fieldLoop toks mask = .ok mask')
    (hmask : mask &&& ~~~TSR_FIELDS_ALL = 0) : mask' &&& ~~~TSR_FIELDS_ALL = 0 := by
  induction toks generalizing mask with
  | nil =>
    obtain rfl := Except.ok.inj h
    exact hmask
  | cons tok toks ih =>
    rw [fieldLoop] at h
    rcases hgroup : tsfFieldGroups.lookup (lower tok) with _ | group
    · rw [hgroup] at h
      cases h
    · rw [hgroup] at h
      exact ih h (by rw [Bits.or_and_right32, hmask, tsfFieldGroups_within hgroup, UInt32.or_zero])

/-! ### Addresses -/

theorem tsfParsePrefixLength_le {str : CStr} {maxPfx pfx : ℕ}
    (h : tsfParsePrefixLength str maxPfx = .ok pfx) :
    pfx ≤ maxPfx := by
  obtain ⟨-, h⟩ := ite_error_eq_ok.mp h
  obtain ⟨-, h⟩ := ite_error_eq_ok.mp h
  obtain ⟨val, -, h⟩ := bind_eq_ok.mp h
  obtain ⟨hle, h⟩ := ite_error_eq_ok.mp h
  exact Except.ok.inj h ▸ not_lt.mp hle

theorem v4Mask_isPrefixMask {p : ℕ} (hp : p ≤ 32) : (v4Mask p).IsPrefixMask := by
  have hmask : ∀ p < 33, (htonl (v4Mask p).sAddr).toNat = 2 ^ 32 - 2 ^ (32 - p) := by decide
  exact ⟨p, hp, hmask p (Nat.lt_succ_of_le hp)⟩

/-- The prefix length of an IPv4 text: what stands behind the `/`, and 32 without one. -/
def v4Prefix (str : CStr) : Except ParseError ℕ :=
  match after (chr '/') str with
  | some suffix => if (before (chr '/') str).length ≥ 16 then .error .v4TooLong else tsfParsePrefixLength suffix 32
  | none => if strnlen str 16 ≥ 16 then .error .v4TooLong else .ok 32

/-- The IPv4 parser reads the prefix length first. -/
theorem tsfParseIpv4Addr_eq (str : CStr) : tsfParseIpv4Addr str = v4Prefix str >>= fun pfx =>
    parseOctets 4 (before (chr '/') str) [] >>= fun read =>
      if read.2 ≠ [] then .error .v4Trailing
      else if htonl (octetsWord read.1) &&& ~~~(v4Mask pfx).sAddr != 0 then .error (.v4HostBits pfx)
      else .ok (⟨htonl (octetsWord read.1)⟩, v4Mask pfx) := by
  unfold tsfParseIpv4Addr v4Prefix
  rcases after (chr '/') str with _ | suffix
  · dsimp only
    split_ifs <;> rfl
  · dsimp only
    split_ifs <;> rfl

/-- The parts that an IPv4 text is accepted for. -/
theorem tsfParseIpv4Addr_iff {str : CStr} {addr mask : InAddr} :
    tsfParseIpv4Addr str = .ok (addr, mask) ↔ ∃ pfx octets, v4Prefix str = .ok pfx ∧
      parseOctets 4 (before (chr '/') str) [] = .ok (octets, []) ∧ addr = ⟨htonl (octetsWord octets)⟩ ∧
      mask = v4Mask pfx ∧ addr.sAddr &&& ~~~mask.sAddr = 0 := by
  rw [tsfParseIpv4Addr_eq, bind_eq_ok]
  refine exists_congr fun pfx => ?_
  constructor
  · rintro ⟨hpfx, h⟩
    obtain ⟨⟨octets, rest⟩, hoctets, h⟩ := bind_eq_ok.mp h
    obtain ⟨hrest, h⟩ := ite_error_eq_ok.mp h
    obtain ⟨hhost, h⟩ := ite_error_eq_ok.mp h
    obtain ⟨rfl, rfl⟩ := Prod.mk.inj (Except.ok.inj h)
    obtain rfl : rest = [] := not_not.mp hrest
    exact ⟨octets, hpfx, hoctets, rfl, rfl, by simpa using hhost⟩
  · rintro ⟨octets, hpfx, hoctets, rfl, rfl, hhost⟩
    refine ⟨hpfx, bind_eq_ok.mpr ⟨_, hoctets, ?_⟩⟩
    rw [if_neg (not_not.mpr rfl), if_neg (by simpa using hhost)]

theorem v4Prefix_le {str : CStr} {pfx : ℕ} (h : v4Prefix str = .ok pfx) : pfx ≤ 32 := by
  unfold v4Prefix at h
  rcases hslash : after (chr '/') str with _ | suffix
  · rw [hslash] at h
    obtain ⟨-, h⟩ := ite_error_eq_ok.mp h
    exact (Except.ok.inj h).ge
  · rw [hslash] at h
    obtain ⟨-, h⟩ := ite_error_eq_ok.mp h
    exact tsfParsePrefixLength_le h

/-- The part of the IPv4 parser after the prefix length. -/
theorem tsfParseIpv4Addr_prefix {str : CStr} {addr mask : InAddr}
    (h : tsfParseIpv4Addr str = .ok (addr, mask)) :
    ∃ pfx ≤ 32, mask = v4Mask pfx ∧ addr.sAddr &&& ~~~mask.sAddr = 0 := by
  obtain ⟨pfx, octets, hpfx, -, -, hmask, hhost⟩ := tsfParseIpv4Addr_iff.mp h
  exact ⟨pfx, v4Prefix_le hpfx, hmask, hhost⟩

/-- The prefix of an IPv6 address. -/
theorem tsfParseIpv6Addr_prefix_le {str : CStr} {addr : In6Addr} {pfx : UInt8}
    (h : tsfParseIpv6Addr str = .ok (addr, pfx)) : pfx ≤ 128 := by
  unfold tsfParseIpv6Addr at h
  obtain ⟨-, h⟩ := ite_error_eq_ok.mp h
  obtain ⟨st, -, h⟩ := bind_eq_ok.mp h
  obtain ⟨groups, -, h⟩ := bind_eq_ok.mp h
  rcases hslash : after (chr '/') str with _ | suffix
  · simp only [hslash] at h
    obtain ⟨-, rfl⟩ := Prod.mk.inj (Except.ok.inj h)
    decide
  · simp only [hslash] at h
    obtain ⟨n, hn, h⟩ := bind_eq_ok.mp h
    obtain ⟨-, -, h⟩ := bind_eq_ok.mp h
    obtain ⟨-, rfl⟩ := Prod.mk.inj (Except.ok.inj h)
    have hle := tsfParsePrefixLength_le hn
    rw [UInt8.le_iff_toNat_le]
    simp
    omega

theorem AddrFormed.v4 {v4 mask addr mask' : InAddr} {v6 : In6Addr} {pfx : UInt8} {value : CStr}
    (hf : AddrFormed v4 mask v6 pfx false) (h : tsfParseIpv4Addr value = .ok (addr, mask')) :
    AddrFormed addr mask' v6 pfx true := by
  obtain ⟨p, hp, rfl, hhost⟩ := tsfParseIpv4Addr_prefix h
  obtain ⟨-, -, hv6, hpfx⟩ := hf.unset rfl
  exact ⟨v4Mask_isPrefixMask hp, hhost, hf.prefix_le, nofun, .inr ⟨hv6, hpfx⟩⟩

theorem AddrFormed.v6 {v4 mask : InAddr} {v6 addr : In6Addr} {pfx pfx' : UInt8} {value : CStr}
    (hf : AddrFormed v4 mask v6 pfx false) (h : tsfParseIpv6Addr value = .ok (addr, pfx')) :
    AddrFormed v4 mask addr pfx' true := by
  obtain ⟨hv4, hmask, -, -⟩ := hf.unset rfl
  exact ⟨hf.prefixMask, hf.network, tsfParseIpv6Addr_prefix_le h, nofun, .inl ⟨hv4, hmask⟩⟩

/-! ### Directives -/

/-- A directive of another key leaves a flag alone. -/
theorem Effect.has_other {token : CStr} {f f' : TcpstatsFilter} (he : Effect token f f') (name : CStr)
    (bit : UInt32) (h : (name, bit) ∈ flagKeys) (hkey : directiveKey token ≠ name) : f'.has bit = f.has bit := by
  rw [Bool.eq_iff_iff, he.has h]
  simp [hkey]

/-- A directive of the key sets it. -/
theorem Effect.has_own {token : CStr} {f f' : TcpstatsFilter} (he : Effect token f f') (name : CStr)
    (bit : UInt32) (h : (name, bit) ∈ flagKeys) (hkey : directiveKey token = name) : f'.has bit = true :=
  (he.has h).mpr (.inr hkey)

theorem StatesFormed.exclude {mask mask' : UInt16} {toks : List CStr} (hf : StatesFormed mask false)
    (h : excludeLoop toks 0 mask = .ok mask') : StatesFormed mask' false :=
  ⟨nofun, fun _ => excludeLoop_keeps h (hf.excluded rfl)⟩

theorem StatesFormed.includeState {mask : UInt16} {toks : List CStr} (h : includeLoop toks 0 0 = .ok mask)
    (hne : mask ≠ 0) : StatesFormed mask true :=
  ⟨fun _ => ⟨hne, includeLoop_keeps h (UInt16.zero_and ..)⟩, nofun⟩

theorem FieldsFormed.of_fieldLoop {mask : UInt32} {toks : List CStr} (h : fieldLoop toks 0 = .ok mask)
    (hne : mask ≠ 0) : FieldsFormed mask :=
  ⟨hne, fieldLoop_keeps h (UInt32.zero_and ..)⟩

/-- The parts of a filter that a directive of the key does not write, with the flags that are set after it. -/
structure OthersFormed (key : CStr) (f f' : TcpstatsFilter) : Prop where
  version : f.version = TSF_VERSION
  localPorts : key ≠ cstr "local_port" → PortsFormed f.localPorts (f'.has TSF_LOCAL_PORT_MATCH)
  remotePorts : key ≠ cstr "remote_port" → PortsFormed f.remotePorts (f'.has TSF_REMOTE_PORT_MATCH)
  localAddr : key ≠ cstr "local_addr" → AddrFormed f.localAddrV4 f.localMaskV4 f.localAddrV6 f.localPrefixV6
    (f'.has TSF_LOCAL_ADDR_MATCH)
  remoteAddr : key ≠ cstr "remote_addr" → AddrFormed f.remoteAddrV4 f.remoteMaskV4 f.remoteAddrV6 f.remotePrefixV6
    (f'.has TSF_REMOTE_ADDR_MATCH)
  states : key ≠ cstr "include_state" → StatesFormed f.stateMask (f'.has TSF_STATE_INCLUDE_MODE)
  fieldMask : FieldsFormed f.fieldMask

/-- A directive leaves the flags of the other parts alone. -/
theorem Effect.others {token : CStr} {f f' : TcpstatsFilter} (he : Effect token f f') (hf : f.Formed) :
    OthersFormed (directiveKey token) f f' where
  version := hf.version
  localPorts hkey := by
    rw [he.has_other (cstr "local_port") TSF_LOCAL_PORT_MATCH (by decide) hkey]
    exact hf.localPorts
  remotePorts hkey := by
    rw [he.has_other (cstr "remote_port") TSF_REMOTE_PORT_MATCH (by decide) hkey]
    exact hf.remotePorts
  localAddr hkey := by
    rw [he.has_other (cstr "local_addr") TSF_LOCAL_ADDR_MATCH (by decide) hkey]
    exact hf.localAddr
  remoteAddr hkey := by
    rw [he.has_other (cstr "remote_addr") TSF_REMOTE_ADDR_MATCH (by decide) hkey]
    exact hf.remoteAddr
  states hkey := by
    rw [he.has_other (cstr "include_state") TSF_STATE_INCLUDE_MODE (by decide) hkey]
    exact hf.states
  fieldMask := hf.fieldMask

namespace OthersFormed

variable {f f' : TcpstatsFilter} {value : CStr}

/-- `ipv4_only` and `ipv6_only` write a flag and no part. -/
theorem family {key : CStr} {flags : UInt32} (h : OthersFormed key f { f with flags })
    (hkey : key = cstr "ipv4_only" ∨ key = cstr "ipv6_only") : ({ f with flags } : TcpstatsFilter).Formed := by
  rcases hkey with rfl | rfl
  · exact ⟨h.version, h.localPorts (by decide), h.remotePorts (by decide), h.localAddr (by decide),
      h.remoteAddr (by decide), h.states (by decide), h.fieldMask⟩
  · exact ⟨h.version, h.localPorts (by decide), h.remotePorts (by decide), h.localAddr (by decide),
      h.remoteAddr (by decide), h.states (by decide), h.fieldMask⟩

theorem exclude (h : OthersFormed (cstr "exclude") f f') (hf : f.Formed) (hok : tsfParseExcludeList value f = .ok f') :
    f'.Formed := by
  obtain ⟨hmode, mask, hloop, rfl⟩ := tsfParseExcludeList_iff.mp hok
  have hstates : StatesFormed mask (f.has TSF_STATE_INCLUDE_MODE) := by
    rw [hmode]
    exact .exclude (hmode ▸ hf.states) hloop
  exact ⟨h.version, h.localPorts (by decide), h.remotePorts (by decide), h.localAddr (by decide),
    h.remoteAddr (by decide), hstates, h.fieldMask⟩

theorem includeState (h : OthersFormed (cstr "include_state") f f') (hset : f'.has TSF_STATE_INCLUDE_MODE = true)
    (hok : tsfParseIncludeStateList value f = .ok f') : f'.Formed := by
  obtain ⟨-, -, mask, hne, hloop, rfl⟩ := tsfParseIncludeStateList_iff.mp hok
  exact ⟨h.version, h.localPorts (by decide), h.remotePorts (by decide), h.localAddr (by decide),
    h.remoteAddr (by decide), hset ▸ .includeState hloop hne, h.fieldMask⟩

theorem format (h : OthersFormed (cstr "format") f f') (hok : tsfParseFormat value f = .ok f') : f'.Formed := by
  obtain ⟨format, -, rfl⟩ := tsfParseFormat_iff.mp hok
  exact ⟨h.version, h.localPorts (by decide), h.remotePorts (by decide), h.localAddr (by decide),
    h.remoteAddr (by decide), h.states (by decide), h.fieldMask⟩

theorem fields (h : OthersFormed (cstr "fields") f f') (hok : tsfParseFieldList value f = .ok f') : f'.Formed := by
  obtain ⟨mask, hne, hloop, rfl⟩ := tsfParseFieldList_iff.mp hok
  exact ⟨h.version, h.localPorts (by decide), h.remotePorts (by decide), h.localAddr (by decide),
    h.remoteAddr (by decide), h.states (by decide), .of_fieldLoop hloop hne⟩

/-- The list of local ports fills slots that were unused, the flag having been clear. -/
theorem localPort {ports : Vector UInt16 8} {flags : UInt32}
    (h : OthersFormed (cstr "local_port") f { f with localPorts := ports, flags }) (hf : f.Formed)
    (hset : ({ f with localPorts := ports, flags } : TcpstatsFilter).has TSF_LOCAL_PORT_MATCH = true)
    (hok : tsfParsePortList value f.localPorts TSF_MAX_PORTS f.flags TSF_LOCAL_PORT_MATCH = .ok (ports, flags)) :
    ({ f with localPorts := ports, flags } : TcpstatsFilter).Formed := by
  have hoff : f.has TSF_LOCAL_PORT_MATCH = false := by simp [TcpstatsFilter.has, (tsfParsePortList_iff.mp hok).1]
  exact ⟨h.version, hset ▸ (hoff ▸ hf.localPorts).fill hok, h.remotePorts (by decide), h.localAddr (by decide),
    h.remoteAddr (by decide), h.states (by decide), h.fieldMask⟩

theorem remotePort {ports : Vector UInt16 8} {flags : UInt32}
    (h : OthersFormed (cstr "remote_port") f { f with remotePorts := ports, flags }) (hf : f.Formed)
    (hset : ({ f with remotePorts := ports, flags } : TcpstatsFilter).has TSF_REMOTE_PORT_MATCH = true)
    (hok : tsfParsePortList value f.remotePorts TSF_MAX_PORTS f.flags TSF_REMOTE_PORT_MATCH = .ok (ports, flags)) :
    ({ f with remotePorts := ports, flags } : TcpstatsFilter).Formed := by
  have hoff : f.has TSF_REMOTE_PORT_MATCH = false := by simp [TcpstatsFilter.has, (tsfParsePortList_iff.mp hok).1]
  exact ⟨h.version, h.localPorts (by decide), hset ▸ (hoff ▸ hf.remotePorts).fill hok, h.localAddr (by decide),
    h.remoteAddr (by decide), h.states (by decide), h.fieldMask⟩

/-- An address of either family goes where none was, the flag having been clear. -/
theorem localAddress (h : OthersFormed (cstr "local_addr") f f') (hf : f.Formed)
    (hset : f'.has TSF_LOCAL_ADDR_MATCH = true) (hok : tsfParseAddr value f TSF_LOCAL_ADDR_MATCH = .ok f') :
    f'.Formed := by
  obtain ⟨hoff, hstored⟩ := tsfParseAddr_iff.mp hok
  have hold := hoff ▸ hf.localAddr
  cases hstored with
  | localV6 addr pfx _ _ hparse hf' =>
    subst hf'
    exact ⟨h.version, h.localPorts (by decide), h.remotePorts (by decide), hset ▸ hold.v6 hparse,
      h.remoteAddr (by decide), h.states (by decide), h.fieldMask⟩
  | localV4 addr mask _ _ hparse hf' =>
    subst hf'
    exact ⟨h.version, h.localPorts (by decide), h.remotePorts (by decide), hset ▸ hold.v4 hparse,
      h.remoteAddr (by decide), h.states (by decide), h.fieldMask⟩
  | remoteV6 _ _ hbit => exact absurd rfl hbit
  | remoteV4 _ _ hbit => exact absurd rfl hbit

theorem remoteAddress (h : OthersFormed (cstr "remote_addr") f f') (hf : f.Formed)
    (hset : f'.has TSF_REMOTE_ADDR_MATCH = true) (hok : tsfParseAddr value f TSF_REMOTE_ADDR_MATCH = .ok f') :
    f'.Formed := by
  obtain ⟨hoff, hstored⟩ := tsfParseAddr_iff.mp hok
  have hold := hoff ▸ hf.remoteAddr
  cases hstored with
  | remoteV6 addr pfx _ _ hparse hf' =>
    subst hf'
    exact ⟨h.version, h.localPorts (by decide), h.remotePorts (by decide), h.localAddr (by decide),
      hset ▸ hold.v6 hparse, h.states (by decide), h.fieldMask⟩
  | remoteV4 addr mask _ _ hparse hf' =>
    subst hf'
    exact ⟨h.version, h.localPorts (by decide), h.remotePorts (by decide), h.localAddr (by decide),
      hset ▸ hold.v4 hparse, h.states (by decide), h.fieldMask⟩
  | localV6 _ _ hbit => exact absurd hbit (by decide)
  | localV4 _ _ hbit => exact absurd hbit (by decide)

end OthersFormed

/-- Every directive keeps the parts of the filter in form: its own by its parser, the others because
it leaves their fields and their flags alone. -/
theorem Effect.formed {token : CStr} {f f' : TcpstatsFilter} (he : Effect token f f') (hf : f.Formed) :
    f'.Formed := by
  have hothers := he.others hf
  have hown := he.has_own
  cases he with
  | ipv4Only hk _ h =>
    subst h
    exact hothers.family (.inl hk)
  | ipv6Only hk _ h =>
    subst h
    exact hothers.family (.inr hk)
  | exclude value hk _ h =>
    rw [hk] at hothers
    exact hothers.exclude hf h
  | format value hk _ h =>
    rw [hk] at hothers
    exact hothers.format h
  | fields value hk _ h =>
    rw [hk] at hothers
    exact hothers.fields h
  | includeState value hk _ h =>
    rw [hk] at hothers
    exact hothers.includeState (hown (cstr "include_state") TSF_STATE_INCLUDE_MODE (by decide) hk) h
  | localPort value ports flags hk _ h hf' =>
    subst hf'
    rw [hk] at hothers
    exact hothers.localPort hf (hown (cstr "local_port") TSF_LOCAL_PORT_MATCH (by decide) hk) h
  | remotePort value ports flags hk _ h hf' =>
    subst hf'
    rw [hk] at hothers
    exact hothers.remotePort hf (hown (cstr "remote_port") TSF_REMOTE_PORT_MATCH (by decide) hk) h
  | localAddr value hk _ h =>
    rw [hk] at hothers
    exact hothers.localAddress hf (hown (cstr "local_addr") TSF_LOCAL_ADDR_MATCH (by decide) hk) h
  | remoteAddr value hk _ h =>
    rw [hk] at hothers
    exact hothers.remoteAddress hf (hown (cstr "remote_addr") TSF_REMOTE_ADDR_MATCH (by decide) hk) h

/-! ### Strings -/

theorem formed_default : TcpstatsFilter.default.Formed := by
  have hoff : ∀ bit, TcpstatsFilter.default.has bit = false := by
    simp [TcpstatsFilter.has, TcpstatsFilter.default]
  have hports : PortsFormed (Vector.replicate 8 0) false := ⟨[], by simp, .nil, List.not_mem_nil, by simp⟩
  have hmask : (⟨0⟩ : InAddr).IsPrefixMask := ⟨0, by decide, by decide⟩
  have haddr : AddrFormed ⟨0⟩ ⟨0⟩ .unspecified 0 false :=
    ⟨hmask, by decide, by decide, fun _ => ⟨rfl, rfl, rfl, rfl⟩, .inl ⟨rfl, rfl⟩⟩
  have hstates : StatesFormed 0xFFFF false := ⟨by simp, fun _ => by decide⟩
  have hfields : FieldsFormed TSR_FIELDS_DEFAULT := ⟨by decide, by decide⟩
  constructor
  · rfl
  · rw [hoff]
    exact hports
  · rw [hoff]
    exact hports
  · rw [hoff]
    exact haddr
  · rw [hoff]
    exact haddr
  · rw [hoff]
    exact hstates
  · exact hfields

theorem formed_of_parse {input : CStr} {f : TcpstatsFilter} (h : tsfParseFilterString input = .ok f) :
    f.Formed :=
  parseDirectives_inv (I := fun _ f => f.Formed) (tsfParseFilterString_directives h) formed_default
    fun _ _ _ _ hf he => he.formed hf

/-- The check across the directives. -/
theorem tsfValidateFilter_wellFormed {f : TcpstatsFilter} (h : tsfValidateFilter f = .ok ())
    (hf : f.Formed) :
    f.WellFormed := by
  obtain ⟨honly, h⟩ := ite_error_eq_ok.mp h
  obtain ⟨hlocal4, h⟩ := ite_error_eq_ok.mp h
  obtain ⟨hremote4, h⟩ := ite_error_eq_ok.mp h
  obtain ⟨hlocal6, h⟩ := ite_error_eq_ok.mp h
  obtain ⟨hremote6, -⟩ := ite_error_eq_ok.mp h
  refine ⟨hf, honly, fun h6 => ⟨?_, ?_⟩, fun h4 => ⟨?_, ?_⟩⟩
  · rcases hset : f.has TSF_LOCAL_ADDR_MATCH with _ | _
    · exact (hf.localAddr.unset hset).1
    · exact not_not.mp fun hne => hlocal4 ⟨hset, hne, h6⟩
  · rcases hset : f.has TSF_REMOTE_ADDR_MATCH with _ | _
    · exact (hf.remoteAddr.unset hset).1
    · exact not_not.mp fun hne => hremote4 ⟨hset, hne, h6⟩
  · rcases hset : f.has TSF_LOCAL_ADDR_MATCH with _ | _
    · exact (hf.localAddr.unset hset).2.2.1
    · exact not_not.mp fun hne => hlocal6 ⟨hset, by simpa using hne, h4⟩
  · rcases hset : f.has TSF_REMOTE_ADDR_MATCH with _ | _
    · exact (hf.remoteAddr.unset hset).2.2.1
    · exact not_not.mp fun hne => hremote6 ⟨hset, by simpa using hne, h4⟩

/-- A filter that the parser returns has passed that check. -/
theorem tsfParseFilterString_validated {input : CStr} {f : TcpstatsFilter}
    (h : tsfParseFilterString input = .ok f) : tsfValidateFilter f = .ok () := by
  have hdefault : tsfValidateFilter .default = .ok () := by decide
  unfold tsfParseFilterString at h
  split_ifs at h
  · exact Except.ok.inj h ▸ hdefault
  · rcases hfind : input.find? nonPrintable with _ | c
    · simp only [hfind] at h
      split_ifs at h
      · exact Except.ok.inj h ▸ hdefault
      · obtain ⟨tmp, -, h⟩ := bind_eq_ok.mp h
        obtain ⟨_, hvalid, h⟩ := bind_eq_ok.mp h
        exact Except.ok.inj h ▸ hvalid
    · simp only [hfind] at h
      cases h

theorem wellFormed_of_parse {input : CStr} {f : TcpstatsFilter} (h : tsfParseFilterString input = .ok f) :
    f.WellFormed :=
  tsfValidateFilter_wellFormed (tsfParseFilterString_validated h) (formed_of_parse h)

/-- A C string is accepted if it is short and printable, has few directives, all of them are
accepted in their order, and the filter that they make agrees with itself. -/
theorem tsfParseFilterString_ok_iff {input : CStr} (h0 : input.head? ≠ some 0) {f : TcpstatsFilter} :
    tsfParseFilterString input = .ok f ↔
      input.length ≤ TSF_PARSE_MAXLEN - 1 ∧ input.find? nonPrintable = none ∧
        (directives input).length ≤ TSF_PARSE_MAXDIRECTIVES ∧
        parseDirectives (directives input) .default = .ok f ∧ tsfValidateFilter f = .ok () := by
  rcases input with _ | ⟨c, cs⟩
  · constructor
    · intro h
      exact ⟨by decide, rfl, by decide, tsfParseFilterString_directives h, tsfParseFilterString_validated h⟩
    · rintro ⟨-, -, -, h, -⟩
      exact h
  have hhead : ¬ (c :: cs = [] ∨ (c :: cs).head? = some 0) := by
    simpa using h0
  constructor
  · intro h
    have hdir := tsfParseFilterString_directives h
    have hvalid := tsfParseFilterString_validated h
    unfold tsfParseFilterString at h
    rw [if_neg hhead] at h
    obtain ⟨hlen, h⟩ := ite_error_eq_ok.mp h
    rcases hfind : (c :: cs).find? nonPrintable with _ | b
    · rw [hfind] at h
      obtain ⟨hmany, -⟩ := ite_error_eq_ok.mp h
      exact ⟨not_lt.mp hlen, rfl, not_lt.mp hmany, hdir, hvalid⟩
    · rw [hfind] at h
      cases h
  · rintro ⟨hlen, hfind, hmany, hdir, hvalid⟩
    unfold tsfParseFilterString
    rw [if_neg hhead, if_neg (not_lt.mpr hlen), hfind]
    dsimp only
    rw [if_neg (not_lt.mpr hmany)]
    split_ifs with hnone
    · rw [hnone] at hdir
      exact hdir
    · exact bind_eq_ok.mpr ⟨f, hdir, bind_eq_ok.mpr ⟨(), hvalid, rfl⟩⟩

/-- `tsf_parse_filter_string` with the result that it returns and the filter that it writes to. -/
def tsfParseFilterStringOut (input : CStr) (out : TcpstatsFilter) : Option ParseError × TcpstatsFilter :=
  if input = [] ∨ input.head? = some 0 then (none, .default)
  else if input.length > TSF_PARSE_MAXLEN - 1 then (some (.tooLong input.length), out)
  else match input.find? nonPrintable with
    | some c => (some (.nonPrintable c (input.findIdx nonPrintable)), out)
    | none =>
      let tokens := directives input
      if tokens.length > TSF_PARSE_MAXDIRECTIVES then
        (some (.tooManyDirectives (TSF_PARSE_MAXDIRECTIVES + 1)), out)
      else if tokens = [] then (none, .default)
      else match parseDirectives tokens .default with
        | .error e => (some e, out)
        | .ok tmp => match tsfValidateFilter tmp with
          | .error e => (some e, out)
          | .ok () => (none, tmp)

/-- It is the parser, with the filter written when there is one. -/
theorem tsfParseFilterStringOut_eq (input : CStr) (out : TcpstatsFilter) :
    tsfParseFilterStringOut input out = match tsfParseFilterString input with
      | .ok f => (none, f)
      | .error e => (some e, out) := by
  unfold tsfParseFilterStringOut tsfParseFilterString
  split_ifs
  · rfl
  · rfl
  · rcases input.find? nonPrintable with _ | c
    · dsimp only
      split_ifs
      · rfl
      · rfl
      · rcases parseDirectives (directives input) .default with e | tmp
        · rfl
        · rcases hv : tsfValidateFilter tmp with e | _
          · simp [bind, Except.bind, hv]
          · simp [bind, Except.bind, hv]
    · rfl

/-- Whatever the string, and whatever was in the filter: a filter that is returned is well formed,
and one that is passed to a call that fails stays as it was. -/
theorem tsfParseFilterStringOut_wellFormed (input : CStr) (out : TcpstatsFilter) :
    let r := tsfParseFilterStringOut input out
    (r.1 = none → r.2.WellFormed) ∧ ∀ e, r.1 = some e → r.2 = out := by
  rw [tsfParseFilterStringOut_eq]
  rcases hparse : tsfParseFilterString input with e | f
  · exact ⟨nofun, fun _ _ => rfl⟩
  · exact ⟨fun _ => wellFormed_of_parse hparse, nofun⟩

end TcpStats
