import TcpStats.Filter.Addresses
import TcpStats.Device.PrefixBounds

/-!
# Address directives and the addresses that they match

A connection of one family passes the address stage under a directive of that family exactly if
the leading bits of its address are those of the network: always for IPv4 (`ipv4_cidr_exact`), and
for IPv6 but for the address `::`, which the stage takes for no network at all
(`ipv6_cidr_exact_iff`).
-/

namespace TcpStats

open CString Fallible

variable {Cred : Type}

/-! ### The stage of an endpoint -/

namespace Inpcb

/-- The IPv4 address of an endpoint. -/
def addrV4 (inp : Inpcb Cred) : Endpoint → InAddr
  | .localEnd => inp.incLaddr
  | .remoteEnd => inp.incFaddr

/-- The IPv6 address of an endpoint. -/
def addrV6 (inp : Inpcb Cred) : Endpoint → In6Addr
  | .localEnd => inp.inc6Laddr
  | .remoteEnd => inp.inc6Faddr

/-- The connection serves IPv4 and not IPv6. -/
def OnlyV4 (inp : Inpcb Cred) : Prop := inp.hasVflag INP_IPV4 = true ∧ inp.hasVflag INP_IPV6 = false

/-- The connection serves IPv6 and not IPv4. -/
def OnlyV6 (inp : Inpcb Cred) : Prop := inp.hasVflag INP_IPV6 = true ∧ inp.hasVflag INP_IPV4 = false

end Inpcb

/-- The address stage of an endpoint. -/
def endpointStage (k : Kernel Cred) (f : TcpstatsFilter) (inp : Inpcb Cred) : Endpoint → Probe
  | .localEnd => localAddrStage k f inp
  | .remoteEnd => remoteAddrStage k f inp

theorem endpointStage_matched (k : Kernel Cred) {f : TcpstatsFilter} (inp : Inpcb Cred) {e : Endpoint}
    (hset : f.has (Key.addr e).bit = true) (hle : f.prefixV6 e ≤ 128) : (endpointStage k f inp e).matched = true ↔
      AddrMatches inp (inp.addrV4 e) (f.addrV4 e) (f.maskV4 e) (inp.addrV6 e) (f.addrV6 e) (f.prefixV6 e) := by
  cases e
  · exact (localAddrStage_matched k inp hle).trans (forall_prop_of_true hset)
  · exact (remoteAddrStage_matched k inp hle).trans (forall_prop_of_true hset)

/-! ### IPv4 -/

/-- An IPv4 text is accepted exactly if it spells a network, whose address and mask are the result; and
under every filter of a string that gives it to an endpoint, a connection that serves IPv4 only passes
the stage of the endpoint exactly if its address there has the leading bits of the network. -/
theorem ipv4_cidr_exact (value : CStr) :
    ((∃ r, tsfParseIpv4Addr value = .ok r) ↔ ∃ n : Ipv4Network, n.Spells value) ∧
      ∀ n : Ipv4Network, n.Spells value →
        tsfParseIpv4Addr value = .ok (n.addr, v4Mask n.pfx) ∧ n.addr.octets = bytesOf n.octets.toList ∧
          (∀ i < 32, Bits.bit (v4Mask n.pfx).octets i = decide (i < n.pfx)) ∧
          ∀ (input : CStr) (f : TcpstatsFilter) (e : Endpoint), tsfParseFilterString input = .ok f →
            GivesAddr input e value → ∀ (Cred : Type) (k : Kernel Cred) (inp : Inpcb Cred), inp.OnlyV4 →
              ((endpointStage k f inp e).matched = true ↔ (inp.addrV4 e).SameBits n.pfx n.addr) := by
  refine ⟨⟨?_, ?_⟩, fun n hn => ?_⟩
  · rintro ⟨⟨addr, mask⟩, hparse⟩
    obtain ⟨n, hn, -, -⟩ := Ipv4Network.tsfParseIpv4Addr_eq_ok_iff.mp hparse
    exact ⟨n, hn⟩
  · rintro ⟨n, hn⟩
    exact ⟨_, Ipv4Network.tsfParseIpv4Addr_eq_ok_iff.mpr ⟨n, hn, rfl, rfl⟩⟩
  have hparse := Ipv4Network.tsfParseIpv4Addr_eq_ok_iff.mpr ⟨n, hn, rfl, rfl⟩
  refine ⟨hparse, InAddr.octets_ofOctets _, fun i hi => InAddr.bit_v4Mask n.pfx_le hi, ?_⟩
  intro input f e hf hgives Cred k inp honly
  have hset := (has_addr_iff hf).mpr ⟨value, hgives⟩
  cases addr_stored hf hgives with
  | v4 _ hstored _ hp =>
    obtain ⟨haddr, hmask⟩ := Prod.mk.inj (Except.ok.inj (hparse.symm.trans hstored))
    rw [endpointStage_matched k inp hset (by rw [hp]; decide), AddrMatches, if_pos honly.1, ← haddr, ← hmask]
    exact InAddr.and_v4Mask_eq_iff n.pfx_le _ _
  | v6 hcolon _ _ _ => exact absurd hcolon (hn.notMem (by decide) (by decide) (by decide))

/-! ### IPv6 -/

/-- The text of an address, with a prefix length behind it or with none for 128. -/
inductive LiteralOf (addr : In6Addr) : ℕ → CStr → Prop where
  | plain {s : CStr} : Spells s addr.groups → LiteralOf addr 128 s
  | withPrefix {s : CStr} (p : ℕ) : Spells s addr.groups → p ≤ 128 → LiteralOf addr p (s ++ chr '/' :: decimal p)

/-- It is read as what it says. -/
theorem LiteralOf.read {addr addr' : In6Addr} {p : ℕ} {value : CStr} {pfx : UInt8}
    (h : LiteralOf addr p value)
    (hparse : tsfParseIpv6Addr value = .ok (addr', pfx)) : addr' = addr ∧ pfx.toNat = p := by
  cases h with
  | plain hspells =>
    obtain ⟨r, hformed, rfl, hvalues, -⟩ := hspells.reading
    obtain ⟨r', hformed', htext, rfl, rfl⟩ := (tsfParseIpv6Addr_plain hformed.slash_notMem).mp hparse
    obtain rfl := Reading.unique hformed' hformed htext
    exact ⟨by rw [hvalues, addr.ofGroups_groups], rfl⟩
  | withPrefix p hspells hp =>
    obtain ⟨r, hformed, rfl, hvalues, -⟩ := hspells.reading
    obtain ⟨r', p', hformed', htext, rfl, -, -, hdecimal, -, rfl⟩ :=
      (tsfParseIpv6Addr_withPrefix hformed.slash_notMem).mp hparse
    obtain rfl := Reading.unique hformed' hformed htext
    obtain rfl := decimal_inj hdecimal
    exact ⟨by rw [hvalues, addr.ofGroups_groups], UInt8.toNat_ofNat_of_lt' (show p < 256 by omega)⟩

theorem LiteralOf.colon_mem {addr : In6Addr} {p : ℕ} {value : CStr} (h : LiteralOf addr p value) :
    chr ':' ∈ value := by
  cases h with
  | plain hspells => exact hspells.colon_mem
  | withPrefix p hspells _ => exact List.mem_append_left _ hspells.colon_mem

/-- Under a filter with an IPv6 address, a connection that serves IPv6 only passes the stage of the
endpoint if that address is `::`, and else if its own has the leading bits. -/
theorem endpointStage_v6 {input value : CStr} {f : TcpstatsFilter} {e : Endpoint} {addr : In6Addr} {p : ℕ}
    (h : tsfParseFilterString input = .ok f) (hgives : GivesAddr input e value) (hlit : LiteralOf addr p value)
    (k : Kernel Cred) {inp : Inpcb Cred} (honly : inp.OnlyV6) :
    (endpointStage k f inp e).matched = true ↔ addr = .unspecified ∨ (inp.addrV6 e).SameBits p addr := by
  have hset := (has_addr_iff h).mpr ⟨value, hgives⟩
  have hformed := formed_of_parse h
  have hle : f.prefixV6 e ≤ 128 := by
    cases e
    · exact hformed.localAddr.prefix_le
    · exact hformed.remoteAddr.prefix_le
  cases addr_stored h hgives with
  | v4 hcolon _ _ _ => exact absurd hlit.colon_mem hcolon
  | v6 _ hparse _ _ =>
    obtain ⟨haddr, hpfx⟩ := hlit.read hparse
    rw [endpointStage_matched k inp hset hle, AddrMatches, if_neg (by rw [honly.2]; decide), if_pos honly.1, haddr,
      hpfx]

/-- A connection whose addresses begin with a set bit. -/
def highBit : Inpcb Unit where
  inpCred := ()
  inpGencnt := 0
  inpVflag := INP_IPV6
  incLport := 0
  incFport := 0
  incLaddr := INADDR_ANY
  incFaddr := INADDR_ANY
  inc6Laddr := ⟨Vector.replicate 16 0x80⟩
  inc6Faddr := ⟨Vector.replicate 16 0x80⟩
  inpSocket := none
  tcpcb := none

/-- When the stage compares the leading bits, under a filter with an IPv6 address. -/
theorem ipv6_cidr_exact_iff {input value : CStr} {f : TcpstatsFilter} {e : Endpoint} {addr : In6Addr} {p : ℕ}
    (h : tsfParseFilterString input = .ok f) (hgives : GivesAddr input e value) (hlit : LiteralOf addr p value) :
    (∀ (Cred : Type) (k : Kernel Cred) (inp : Inpcb Cred), inp.OnlyV6 →
      ((endpointStage k f inp e).matched = true ↔ (inp.addrV6 e).SameBits p addr)) ↔
        addr ≠ .unspecified ∨ p = 0 := by
  constructor
  · intro hexact
    by_contra hno
    obtain ⟨hany, hp⟩ := not_or.mp hno
    have hpass : (endpointStage seeAll f highBit e).matched = true :=
      (endpointStage_v6 h hgives hlit seeAll ⟨rfl, rfl⟩).mpr (.inl (not_not.mp hany))
    have hfirst := (hexact Unit seeAll highBit ⟨rfl, rfl⟩).mp hpass 0 (Nat.pos_of_ne_zero hp)
    have hset : Bits.bit (highBit.addrV6 e).octets 0 = true := by
      cases e <;> decide
    have hclear : Bits.bit In6Addr.unspecified.octets 0 = false := by decide
    rw [hset, not_not.mp hany, hclear] at hfirst
    cases hfirst
  · intro hcond Cred k inp honly
    rw [endpointStage_v6 h hgives hlit k honly]
    rcases hcond with hne | rfl
    · exact or_iff_right hne
    · exact iff_of_true (.inr fun i hi => absurd hi (Nat.not_lt_zero i)) fun i hi => absurd hi (Nat.not_lt_zero i)

/-- A link-local network is compared. -/
theorem linkLocal_exact : ∃ f, tsfParseFilterString (cstr "local_addr=fe80::/10") = .ok f ∧
    ∀ (Cred : Type) (k : Kernel Cred) (inp : Inpcb Cred), inp.OnlyV6 →
      ((endpointStage k f inp .localEnd).matched = true ↔
        (inp.addrV6 .localEnd).SameBits 10 (.ofGroups [0xFE80, 0, 0, 0, 0, 0, 0, 0])) := by
  have hspells : Spells (cstr "fe80::") (In6Addr.ofGroups [0xFE80, 0, 0, 0, 0, 0, 0, 0]).groups := by
    have hgroups : (In6Addr.ofGroups [0xFE80, 0, 0, 0, 0, 0, 0, 0]).groups =
        [0xFE80] ++ List.replicate 7 0 ++ [] := by
      decide
    rw [hgroups]
    exact .compressed [⟨cstr "fe80", by decide, by decide, by decide +kernel⟩] [] 7 (by decide) (by decide)
  have haccepted : ∃ f, tsfParseFilterString (cstr "local_addr=fe80::/10") = .ok f := exists_ok_of_isOk (by decide)
  obtain ⟨f, hparse⟩ := haccepted
  have hgives : GivesAddr (cstr "local_addr=fe80::/10") .localEnd (cstr "fe80::/10") :=
    ⟨cstr "local_addr=fe80::/10", by decide, by decide, by decide⟩
  exact ⟨f, hparse, (ipv6_cidr_exact_iff hparse hgives (.withPrefix 10 hspells (by decide))).mpr (.inl (by decide))⟩

/-- Any address passes for `::`. -/
theorem unspecified_matches_any : ∃ f, tsfParseFilterString (cstr "local_addr=::") = .ok f ∧
    GivesAddr (cstr "local_addr=::") .localEnd (cstr "::") ∧ LiteralOf .unspecified 128 (cstr "::") ∧
    highBit.OnlyV6 ∧ (endpointStage seeAll f highBit .localEnd).matched = true ∧
    ¬ (highBit.addrV6 .localEnd).SameBits 128 .unspecified := by
  have hspells : Spells (cstr "::") In6Addr.unspecified.groups := by
    have hgroups : In6Addr.unspecified.groups = [] ++ List.replicate 8 0 ++ [] := by decide
    rw [hgroups]
    exact .compressed [] [] 8 (by decide) (by decide)
  have hread : (tsfParseFilterString (cstr "local_addr=::")).toOption.map (fun f =>
      (endpointStage seeAll f highBit .localEnd).matched) = some true := by
    decide
  rcases hparse : tsfParseFilterString (cstr "local_addr=::") with err | f
  · rw [hparse] at hread
    cases hread
  rw [hparse] at hread
  refine ⟨f, rfl, ⟨cstr "local_addr=::", by decide, by decide, by decide⟩, .plain hspells, ⟨rfl, rfl⟩,
    Option.some.inj hread, fun hsame => ?_⟩
  have hfirst := hsame 0 (by decide)
  have hdiffer : Bits.bit (highBit.addrV6 .localEnd).octets 0 ≠ Bits.bit In6Addr.unspecified.octets 0 := by decide
  exact hdiffer hfirst

end TcpStats
