import TcpStats.Filter.Language
import TcpStats.Filter.Ipv4
import TcpStats.Filter.Ipv6Grammar

/-!
# The addresses of a filter string

What an accepted string says under `local_addr` and `remote_addr` (`GivesAddr`) is what stands in
the fields of that endpoint (`addr_stored`). The fields hold a network without host bits
(`CanonicalAddr`) exactly if no directive writes an IPv6 address other than `::` with `/0`:
`tsf_validate_v6_cidr` returns early for that prefix length (`canonical_iff`).
-/

namespace TcpStats

open CString Fallible

/-! ### Address directives -/

/-- The string gives the endpoint an address. -/
def GivesAddr (input : CStr) (e : Endpoint) (value : CStr) : Prop :=
  ∃ token ∈ directives input, directiveKey token = (Key.addr e).name ∧ directiveValue token = some value

/-- What is read from an address directive. -/
theorem Reads.addr_cases {token value : CStr} {d : Directive} {e : Endpoint} (h : Reads token d)
    (hkey : directiveKey token = (Key.addr e).name) (hvalue : directiveValue token = some value) :
    (chr ':' ∉ value ∧ ∃ addr mask, tsfParseIpv4Addr value = .ok (addr, mask) ∧ d = .addrV4 e addr mask) ∨
      (chr ':' ∈ value ∧ ∃ addr pfx, tsfParseIpv6Addr value = .ok (addr, pfx) ∧ d = .addrV6 e addr pfx) := by
  have hd : d.key = .addr e := Key.name_inj (h.key.symm.trans hkey)
  rcases key_eq_addr_iff.mp hd with ⟨addr, mask, rfl⟩ | ⟨addr, pfx, rfl⟩
  · cases h with
    | addrV4 _ hs hcolon hparse =>
      obtain rfl := Option.some.inj (hvalue.symm.trans hs.value_eq)
      exact .inl ⟨hcolon, addr, mask, hparse, rfl⟩
  · cases h with
    | addrV6 _ hs hcolon hparse =>
      obtain rfl := Option.some.inj (hvalue.symm.trans hs.value_eq)
      exact .inr ⟨hcolon, addr, pfx, hparse, rfl⟩

/-- What a string gives an endpoint is one of its directives. -/
theorem GivesAddr.directive {input value : CStr} {e : Endpoint} (hgives : GivesAddr input e value)
    {ds : List Directive} (h : TextOf input ds) :
    (chr ':' ∉ value ∧ ∃ addr mask, tsfParseIpv4Addr value = .ok (addr, mask) ∧ .addrV4 e addr mask ∈ ds) ∨
      (chr ':' ∈ value ∧ ∃ addr pfx, tsfParseIpv6Addr value = .ok (addr, pfx) ∧ .addrV6 e addr pfx ∈ ds) := by
  obtain ⟨token, htoken, hkey, hvalue⟩ := hgives
  obtain ⟨d, hd, hread⟩ := exists_read h.reads htoken
  rcases hread.addr_cases hkey hvalue with ⟨hcolon, addr, mask, hparse, rfl⟩ | ⟨hcolon, addr, pfx, hparse, rfl⟩
  · exact .inl ⟨hcolon, addr, mask, hparse, hd⟩
  · exact .inr ⟨hcolon, addr, pfx, hparse, hd⟩

/-- What stands in the fields of an endpoint: what was written, in its family, and zeros in the other. -/
inductive AddrFields (f : TcpstatsFilter) (e : Endpoint) (value : CStr) : Prop where
  | v4 : chr ':' ∉ value → tsfParseIpv4Addr value = .ok (f.addrV4 e, f.maskV4 e) → f.addrV6 e = .unspecified →
      f.prefixV6 e = 0 → AddrFields f e value
  | v6 : chr ':' ∈ value → tsfParseIpv6Addr value = .ok (f.addrV6 e, f.prefixV6 e) → f.addrV4 e = INADDR_ANY →
      f.maskV4 e = INADDR_ANY → AddrFields f e value

/-- The address of an endpoint is stored as it is written. -/
theorem addr_stored {input value : CStr} {f : TcpstatsFilter} {e : Endpoint}
    (h : tsfParseFilterString input = .ok f) (hgives : GivesAddr input e value) : AddrFields f e value := by
  obtain ⟨ds, htext, hpair, -, rfl⟩ := tsfParseFilterString_iff.mp h
  rcases hgives.directive htext with ⟨hcolon, addr, mask, hparse, hd⟩ | ⟨hcolon, addr, pfx, hparse, hd⟩
  · obtain ⟨rfl, rfl, h6, hp⟩ := addrV4_meaning hpair hd
    exact .v4 hcolon hparse h6 hp
  · obtain ⟨h4, hm, rfl, rfl⟩ := addrV6_meaning hpair hd
    exact .v6 hcolon hparse h4 hm

/-- The flag of an address is set if the string gives one. -/
theorem has_addr_iff {input : CStr} {f : TcpstatsFilter} {e : Endpoint}
    (h : tsfParseFilterString input = .ok f) :
    f.has (Key.addr e).bit = true ↔ ∃ value, GivesAddr input e value := by
  obtain ⟨ds, htext, hpair, -, rfl⟩ := tsfParseFilterString_iff.mp h
  have hbit : (Key.addr e).bit ≠ 0 := by cases e <;> decide
  rw [has_bit_meaning hbit, ← occurs_iff htext.reads]
  constructor
  · rintro ⟨token, htoken, hkey⟩
    obtain ⟨d, -, hread⟩ := exists_read htext.reads htoken
    have hd : d.key = .addr e := Key.name_inj (hread.key.symm.trans hkey)
    rcases key_eq_addr_iff.mp hd with ⟨addr, mask, rfl⟩ | ⟨addr, pfx, rfl⟩
    · cases hread with
      | addrV4 _ hs _ _ => exact ⟨_, token, htoken, hkey, hs.value_eq⟩
    · cases hread with
      | addrV6 _ hs _ _ => exact ⟨_, token, htoken, hkey, hs.value_eq⟩
  · rintro ⟨value, token, htoken, hkey, -⟩
    exact ⟨token, htoken, hkey⟩

/-! ### Host bits -/

/-- The network of an endpoint has no bits beyond its prefix, in either family. -/
structure CanonicalAddr (f : TcpstatsFilter) (e : Endpoint) : Prop where
  v4 : ∃ p ≤ 32, f.maskV4 e = v4Mask p ∧ ∀ i < 32, p ≤ i → Bits.bit (f.addrV4 e).octets i = false
  v6 : (f.addrV6 e).HostBitsZero (f.prefixV6 e).toNat

/-- An IPv6 address with `/0` and with bits that are set. -/
def ZeroPrefixed (value : CStr) : Prop :=
  chr ':' ∈ value ∧
    ∃ r : Reading, r.Formed ∧ value = r.text ++ cstr "/0" ∧ In6Addr.ofGroups r.values ≠ .unspecified

/-- What the IPv6 parser lets through. -/
theorem tsfParseIpv6Addr_network {value : CStr} {addr : In6Addr} {pfx : UInt8}
    (h : tsfParseIpv6Addr value = .ok (addr, pfx)) (hcolon : chr ':' ∈ value) :
    addr.HostBitsZero pfx.toNat ↔ ¬ ZeroPrefixed value := by
  have hzero : decimal 0 = cstr "0" := by decide
  have hfold : ∀ s : CStr, s ++ cstr "/0" = s ++ chr '/' :: decimal 0 := fun s => by rw [hzero]; rfl
  rcases slash_cases value with hslash | ⟨s, suffix, rfl, hslash⟩
  · obtain ⟨r, -, -, rfl, rfl⟩ := (tsfParseIpv6Addr_plain hslash).mp h
    refine iff_of_true (fun i hi hle => absurd hi (not_lt.mpr hle)) ?_
    rintro ⟨-, r', -, rfl, -⟩
    exact hslash (List.mem_append_right _ (by decide))
  · obtain ⟨r, p, hformed, rfl, rfl, -, hp, rfl, hhost, rfl⟩ := (tsfParseIpv6Addr_withPrefix hslash).mp h
    have hnat : p.toUInt8.toNat = p := UInt8.toNat_ofNat_of_lt' (show p < 256 by omega)
    rw [hnat]
    constructor
    · rintro hbits ⟨-, r', hformed', htext, hne⟩
      -- a text has one reading, so that the prefix length is 0 and the address is this one
      rw [hfold] at htext
      have hbefore := congrArg (before (chr '/')) htext
      have hafter := congrArg (after (chr '/')) htext
      rw [before_append hslash, before_append hformed'.slash_notMem] at hbefore
      rw [after_append hslash, after_append hformed'.slash_notMem, Option.some.injEq] at hafter
      obtain rfl := Reading.unique hformed hformed' hbefore
      obtain rfl := decimal_inj hafter
      exact hne (hostBitsZero_zero_iff.mp hbits)
    · intro hno
      rcases hhost with rfl | hhost
      · refine hostBitsZero_zero_iff.mpr (not_not.mp fun hne => hno ⟨hcolon, r, hformed, ?_, hne⟩)
        rw [hfold]
      · exact hhost

/-- When the stored networks have no host bits. -/
theorem canonical_iff {input : CStr} {f : TcpstatsFilter} (h : tsfParseFilterString input = .ok f) :
    (∀ e, f.has (Key.addr e).bit = true → CanonicalAddr f e) ↔
      ¬ ∃ e value, GivesAddr input e value ∧ ZeroPrefixed value := by
  constructor
  · rintro hall ⟨e, value, hgives, hzero⟩
    have hcanon := (hall e ((has_addr_iff h).mpr ⟨value, hgives⟩)).v6
    cases addr_stored h hgives with
    | v4 hcolon _ _ _ => exact hcolon hzero.1
    | v6 hcolon hparse _ _ => exact (tsfParseIpv6Addr_network hparse hcolon).mp hcanon hzero
  · intro hno e hset
    obtain ⟨value, hgives⟩ := (has_addr_iff h).mp hset
    cases addr_stored h hgives with
    | v4 hcolon hparse h6 hp =>
      obtain ⟨p, hle, hmask, hhost⟩ := tsfParseIpv4Addr_prefix hparse
      refine ⟨⟨p, hle, hmask, ?_⟩, ?_⟩
      · rw [hmask] at hhost
        exact (InAddr.and_not_v4Mask_eq_zero_iff hle _).mp hhost
      · rw [h6, hp]
        exact hostBitsZero_zero_iff.mpr rfl
    | v6 hcolon hparse h4 hm =>
      refine ⟨⟨0, Nat.zero_le _, hm, ?_⟩, ?_⟩
      · rw [h4]
        decide
      · exact (tsfParseIpv6Addr_network hparse hcolon).mpr fun hzero => hno ⟨e, value, hgives, hzero⟩

/-- A link-local network is stored without host bits. -/
theorem canonical_linkLocal : ∃ f, tsfParseFilterString (cstr "remote_addr=fe80::/10") = .ok f ∧
    ∀ e, f.has (Key.addr e).bit = true → CanonicalAddr f e := by
  have hdir : directives (cstr "remote_addr=fe80::/10") = [cstr "remote_addr=fe80::/10"] := by decide
  have hvalue : directiveValue (cstr "remote_addr=fe80::/10") = some (cstr "fe80::/10") := by decide
  have haccepted : ∃ f, tsfParseFilterString (cstr "remote_addr=fe80::/10") = .ok f := exists_ok_of_isOk (by decide)
  obtain ⟨f, hparse⟩ := haccepted
  refine ⟨f, hparse, (canonical_iff hparse).mpr ?_⟩
  rintro ⟨e, value, ⟨token, htoken, -, hgiven⟩, -, r, -, rfl, -⟩
  rw [hdir] at htoken
  obtain rfl := List.mem_singleton.mp htoken
  rw [hvalue, Option.some.injEq] at hgiven
  have hsuffix : ¬ cstr "/0" <:+ cstr "fe80::/10" := by decide
  exact hsuffix ⟨r.text, hgiven.symm⟩

/-- The host bits of `fe80::1/0` stay. -/
theorem zeroPrefix_keeps_host_bits : ∃ f, tsfParseFilterString (cstr "remote_addr=fe80::1/0") = .ok f ∧
    f.has (Key.addr .remoteEnd).bit = true ∧ ¬ CanonicalAddr f .remoteEnd := by
  have hread : (tsfParseFilterString (cstr "remote_addr=fe80::1/0")).toOption.map (fun f =>
      (f.has (Key.addr .remoteEnd).bit, decide (f.remoteAddrV6 = .unspecified), f.remotePrefixV6)) =
        some (true, false, 0) := by
    decide
  rcases hparse : tsfParseFilterString (cstr "remote_addr=fe80::1/0") with err | f
  · rw [hparse] at hread
    cases hread
  rw [hparse] at hread
  obtain ⟨hset, hrest⟩ := Prod.mk.inj (Option.some.inj hread)
  obtain ⟨hne, hpfx⟩ := Prod.mk.inj hrest
  refine ⟨f, rfl, hset, fun hcanon => of_decide_eq_false hne ?_⟩
  have hbits : f.remoteAddrV6.HostBitsZero f.remotePrefixV6.toNat := hcanon.v6
  rw [hpfx] at hbits
  exact hostBitsZero_zero_iff.mp hbits

end TcpStats
