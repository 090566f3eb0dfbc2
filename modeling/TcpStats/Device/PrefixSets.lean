import TcpStats.Device.ReadSpec
import TcpStats.Filter.Ipv6
import Mathlib.Data.Set.Defs

/-!
# Prefixes as sets of addresses

The two byte loops over an IPv6 prefix, `tsf_match_v6_prefix` which compares and
`tsf_validate_v6_cidr` which looks for bits behind the prefix, against one definition of the
truncation of an address: the first compares truncations, the second accepts a network that is its
own, and so a prefix that it has accepted matches the addresses whose truncation is the network
(`prefix_sets`).
-/

namespace TcpStats

/-! ### Truncated addresses -/

namespace In6Addr

/-- An address with the bits after the first `p` cleared. -/
def truncate (p : ℕ) (a : In6Addr) : In6Addr := ⟨Vector.ofFn fun i : Fin 16 => Bits.truncate p a.octets i⟩

theorem octets_of_lt (a : In6Addr) {i : ℕ} (h : i < 16) : a.octets i = a.s6Addr[i] := a.memory_of_lt _ h

theorem octets_eq_byte (a : In6Addr) {i : ℕ} (h : i < 16) : a.octets i = a.byte i := by
  rw [a.octets_of_lt h, a.byte_of_lt h]

theorem octets_truncate (p : ℕ) (a : In6Addr) {i : ℕ} (h : i < 16) :
    (a.truncate p).octets i = Bits.truncate p a.octets i := by
  rw [octets_of_lt _ h, truncate, Vector.getElem_ofFn]

/-- An address is its 128 bits. -/
theorem sameBits_all_iff {a b : In6Addr} : a.SameBits 128 b ↔ a = b := by
  constructor
  · intro h
    have hbytes := (Bits.agree_iff.mp h).1
    refine congrArg In6Addr.mk (Vector.ext fun i hi => ?_)
    have := hbytes i hi
    rwa [a.octets_of_lt hi, b.octets_of_lt hi] at this
  · rintro rfl i _
    rfl

/-- Addresses with the same leading bits have the same truncation. -/
theorem sameBits_iff_truncate {a b : In6Addr} {p : ℕ} (h : p ≤ 128) :
    a.SameBits p b ↔ a.truncate p = b.truncate p := by
  rw [← sameBits_all_iff, SameBits, Bits.agree_iff_truncate h]
  refine (Bits.Agree.congr ?_ ?_).symm
  · intro i hi
    exact a.octets_truncate p (by omega)
  · intro i hi
    exact b.octets_truncate p (by omega)

/-- An address without host bits is its own truncation. -/
theorem hostBitsZero_iff_truncate {a : In6Addr} {p : ℕ} : a.HostBitsZero p ↔ a = a.truncate p := by
  rw [← sameBits_all_iff, HostBitsZero, Bits.zero_from_iff_truncate]
  refine Bits.Agree.congr ?_ ?_
  · intro i hi
    exact (a.octets_eq_byte (by omega)).symm
  · intro i hi
    rw [a.octets_truncate p (by omega), Bits.truncate, Bits.truncate, a.octets_eq_byte (by omega)]

end In6Addr

/-! ### The two loops -/

theorem tsfMatchV6Prefix_truncate (a net : In6Addr) (behind behind' : ℕ → UInt8) {pfx : UInt8}
    (h : pfx ≤ 128) :
    (tsfMatchV6Prefix (a.memory behind) (net.memory behind') pfx).matched = true ↔
      a.SameBits pfx.toNat net := by
  rw [tsfMatchV6Prefix_matched]
  exact agree_memory_iff (UInt8.le_iff_toNat_le.mp h)

theorem tsfValidateV6Cidr_truncate (net : In6Addr) {pfx : UInt8} (h : pfx ≤ 128) (hpos : 0 < pfx) :
    tsfValidateV6Cidr net pfx = .ok () ↔ net = net.truncate pfx.toNat := by
  have hne : pfx.toNat ≠ 0 := (UInt8.lt_iff_toNat_lt.mp hpos).ne'
  have hvalid := @tsfValidateV6Cidr_iff net _ (UInt8.le_iff_toNat_le.mp h)
  rw [show pfx.toNat.toUInt8 = pfx from UInt8.ofNat_toNat, or_iff_right hne] at hvalid
  exact hvalid.trans In6Addr.hostBitsZero_iff_truncate

/-- For every prefix length of an address: the comparison finds out whether the leading bits agree; the
check accepts the networks that are their own truncations; and the addresses that an accepted network
matches are those whose truncation it is. The check accepts every network for the length 0, where only `::`
is its own truncation. -/
theorem prefix_sets (net : In6Addr) (pfx : UInt8) (h : pfx ≤ 128) (behind : In6Addr → ℕ → UInt8)
    (behind' : ℕ → UInt8) :
    (∀ a : In6Addr, (tsfMatchV6Prefix (a.memory (behind a)) (net.memory behind') pfx).matched = true ↔
      ∀ i < pfx.toNat, Bits.bit a.octets i = Bits.bit net.octets i) ∧
    (0 < pfx → (tsfValidateV6Cidr net pfx = .ok () ↔ net = net.truncate pfx.toNat)) ∧
    (0 < pfx → tsfValidateV6Cidr net pfx = .ok () →
      {a : In6Addr | (tsfMatchV6Prefix (a.memory (behind a)) (net.memory behind') pfx).matched = true} =
        {a | a.truncate pfx.toNat = net}) := by
  refine ⟨fun a => tsfMatchV6Prefix_truncate a net _ _ h, tsfValidateV6Cidr_truncate net h, ?_⟩
  intro hpos hvalid
  have hown := (tsfValidateV6Cidr_truncate net h hpos).mp hvalid
  refine Set.ext fun a => ?_
  calc (tsfMatchV6Prefix (a.memory (behind a)) (net.memory behind') pfx).matched = true
      ↔ a.SameBits pfx.toNat net := tsfMatchV6Prefix_truncate a net _ _ h
    _ ↔ a.truncate pfx.toNat = net.truncate pfx.toNat :=
      In6Addr.sameBits_iff_truncate (UInt8.le_iff_toNat_le.mp h)
    _ ↔ a.truncate pfx.toNat = net := by rw [← hown]

/-- The link-local network fe80::/10 is accepted, and matches the addresses that begin with its ten bits. -/
theorem prefix_sets_linkLocal : ∃ net : In6Addr, tsfValidateV6Cidr net 10 = .ok () ∧
    {a : In6Addr | (tsfMatchV6Prefix a.octets net.octets 10).matched = true} =
      {a | a.truncate 10 = net} := by
  have hvalid : tsfValidateV6Cidr (In6Addr.ofGroups [0xFE80, 0, 0, 0, 0, 0, 0, 0]) 10 = .ok () := by
    decide +kernel
  exact ⟨_, hvalid, (prefix_sets _ 10 (by decide) (fun _ _ => 0) fun _ => 0).2.2 (by decide) hvalid⟩

end TcpStats
