import TcpStats.Filter.Ipv6Loop
import TcpStats.Filter.Lists

/-!
# IPv6 addresses and their spellings

`tsf_parse_ipv6_addr` as a whole: the text that is taken apart into groups, and the prefix
length behind it. `Spells` is the notation that is meant: eight groups with single colons
between them, or fewer with `::` for a run of zeros. Every spelling of an address is
accepted, with the address that it spells (`tsfParseIpv6Addr_spelled`).
-/

namespace TcpStats

open CString Fallible

/-! ### Prefixes -/

/-- The prefix lengths that are accepted are those written in decimal. -/
theorem tsfParsePrefixLength_iff {str : CStr} {p : ℕ} :
    tsfParsePrefixLength str 128 = .ok p ↔ p ≤ 128 ∧ str = decimal p := by
  constructor
  · intro h
    unfold tsfParsePrefixLength at h
    dsimp only at h
    obtain ⟨hempty, h⟩ := ite_error_eq_ok.mp h
    obtain ⟨hlead, h⟩ := ite_error_eq_ok.mp h
    obtain ⟨val, hdigits, h⟩ := bind_eq_ok.mp h
    obtain ⟨hlarge, h⟩ := ite_error_eq_ok.mp h
    obtain rfl := Except.ok.inj h
    have hval : val ≤ 128 := not_lt.mp hlarge
    refine ⟨hval, ?_⟩
    -- the first four characters are looked at, and that many digits are too large a number
    have hlen : (str.take (strnlen str 4)).length = strnlen str 4 := by
      rw [List.length_take, strnlen]
      omega
    have hhead : (str.take (strnlen str 4)).head? = str.head? := by
      rcases str with _ | ⟨c, cs⟩
      · exact absurd rfl hempty
      · rw [strnlen, List.length_cons, show min (cs.length + 1) 4 = min cs.length 3 + 1 by omega,
          List.take_succ_cons, List.head?_cons, List.head?_cons]
    have hne : str.take (strnlen str 4) ≠ [] := by
      intro hnil
      rw [hnil] at hhead
      exact hempty (List.head?_eq_none_iff.mp hhead.symm)
    rw [← hlen, ← hhead] at hlead
    have htake := decimal_of_digits hne hlead hdigits
    have hshort : ∀ val < 129, (decimal val).length ≤ 3 := by decide
    have hthree := hshort val (Nat.lt_succ_of_le hval)
    rw [← htake, hlen, strnlen] at hthree
    rw [← htake, List.take_of_length_le (by rw [strnlen]; omega)]
  · rintro ⟨hp, rfl⟩
    have hall : ∀ p < 129, tsfParsePrefixLength (decimal p) 128 = .ok p := by decide +kernel
    exact hall p (Nat.lt_succ_of_le hp)

namespace In6Addr

/-- A byte of an address. -/
def byte (a : In6Addr) (i : ℕ) : UInt8 := a.s6Addr.toList.getD i 0

/-- The address has no bits beyond the first `p`. -/
def HostBitsZero (a : In6Addr) (p : ℕ) : Prop := ∀ i < 128, p ≤ i → Bits.bit a.byte i = false

/-- The eight groups of an address, in network byte order. -/
def groups (a : In6Addr) : List UInt16 :=
  (List.range 8).map fun i => (a.byte (2 * i)).toUInt16 <<< 8 ||| (a.byte (2 * i + 1)).toUInt16

theorem byte_of_lt (a : In6Addr) {i : ℕ} (h : i < 16) : a.byte i = a.s6Addr[i] := by
  simp [byte, h]

/-- An address is made of its groups. -/
theorem ofGroups_groups (a : In6Addr) : ofGroups a.groups = a := by
  have hgroup : ∀ i < 8, a.groups.getD i 0 =
      (a.byte (2 * i)).toUInt16 <<< 8 ||| (a.byte (2 * i + 1)).toUInt16 := by
    intro i hi
    simp [groups, hi]
  have hvec : (ofGroups a.groups).s6Addr = a.s6Addr := by
    refine Vector.ext fun i hi => ?_
    rw [ofGroups, Vector.getElem_ofFn]
    dsimp only
    rw [hgroup (i / 2) (by omega)]
    split_ifs with heven
    · rw [Bits.high_byte, show 2 * (i / 2) = i by omega, a.byte_of_lt hi]
    · rw [Bits.low_byte, show 2 * (i / 2) + 1 = i by omega, a.byte_of_lt hi]
  exact congrArg In6Addr.mk hvec

end In6Addr

/-- The check of the host bits passes every address for the prefix 0. -/
theorem tsfValidateV6Cidr_iff {addr : In6Addr} {p : ℕ} (hp : p ≤ 128) :
    tsfValidateV6Cidr addr p.toUInt8 = .ok () ↔ p = 0 ∨ addr.HostBitsZero p := by
  have hnat : p.toUInt8.toNat = p := UInt8.toNat_ofNat_of_lt' (show p < 256 by omega)
  have hend : p.toUInt8 = 128 ∨ p.toUInt8 = 0 ↔ p = 128 ∨ p = 0 := by
    rw [← UInt8.toNat_inj, ← UInt8.toNat_inj, hnat]
    rfl
  unfold tsfValidateV6Cidr
  rw [if_congr hend rfl rfl]
  by_cases hedge : p = 128 ∨ p = 0
  · rw [if_pos hedge]
    refine iff_of_true rfl (hedge.symm.imp_right fun h => ?_)
    intro i hi hle
    omega
  rw [if_neg hedge, or_iff_right (not_or.mp hedge).2]
  dsimp only
  have hdrop : ∀ first, ((addr.s6Addr.toList.drop first).all (· == 0) = true ↔
      ∀ i < 16, first ≤ i → addr.byte i = 0) := by
    intro first
    rw [List.all_eq_true]
    constructor
    · intro h i hi hle
      rw [addr.byte_of_lt hi]
      refine beq_iff_eq.mp (h _ (List.mem_drop_iff_getElem.mpr ⟨i - first, by simp; omega, ?_⟩))
      simp [show first + (i - first) = i by omega]
    · intro h x hx
      obtain ⟨i, hi, rfl⟩ := List.mem_drop_iff_getElem.mp hx
      have hlt : first + i < 16 := by simp at hi; omega
      have := h (first + i) hlt (Nat.le_add_right ..)
      rw [addr.byte_of_lt hlt] at this
      simpa using this
  rw [hnat, In6Addr.HostBitsZero, show 128 = 8 * 16 from rfl, Bits.zero_from_iff (by omega), ite_error_eq_ok]
  refine and_congr ?_ ?_
  · rw [not_and, not_not]
    rfl
  · rw [ite_else_error_eq_ok, and_iff_left rfl, hdrop]
    refine forall₂_congr fun i hi => ?_
    have hfirst : (if p % 8 > 0 then p / 8 + 1 else p / 8) ≤ i ↔ p ≤ 8 * i := by
      split_ifs
      · omega
      · omega
    rw [hfirst]

/-! ### The parser -/

/-- A text without a prefix length. -/
theorem tsfParseIpv6Addr_plain {s : CStr} (hslash : chr '/' ∉ s) {addr : In6Addr} {pfx : UInt8} :
    tsfParseIpv6Addr s = .ok (addr, pfx) ↔
      ∃ r : Reading, r.Formed ∧ r.text = s ∧ addr = .ofGroups r.values ∧ pfx = 128 := by
  unfold tsfParseIpv6Addr
  rw [after_eq_none_iff.mpr hslash, before_of_notMem hslash]
  dsimp only
  rw [if_neg (by simp)]
  constructor
  · intro h
    obtain ⟨st, hloop, h⟩ := bind_eq_ok.mp h
    obtain ⟨vs, hexpand, h⟩ := bind_eq_ok.mp h
    obtain ⟨rfl, rfl⟩ := Prod.mk.inj (Except.ok.inj h)
    obtain ⟨r, hformed, htext, rfl⟩ := (readGroups_iff hslash).mp (bind_eq_ok.mpr ⟨st, hloop, hexpand⟩)
    exact ⟨r, hformed, htext, rfl, rfl⟩
  · rintro ⟨r, hformed, htext, rfl, rfl⟩
    obtain ⟨st, hloop, hexpand⟩ := bind_eq_ok.mp ((readGroups_iff hslash).mpr ⟨r, hformed, htext, rfl⟩)
    exact bind_eq_ok.mpr ⟨st, hloop, bind_eq_ok.mpr ⟨_, hexpand, rfl⟩⟩

/-- A text with one. -/
theorem tsfParseIpv6Addr_withPrefix {s suffix : CStr} (hslash : chr '/' ∉ s) {addr : In6Addr}
    {pfx : UInt8} :
    tsfParseIpv6Addr (s ++ chr '/' :: suffix) = .ok (addr, pfx) ↔
      ∃ (r : Reading) (p : ℕ), r.Formed ∧ r.text = s ∧ addr = .ofGroups r.values ∧ s.length < 48 ∧
        p ≤ 128 ∧ suffix = decimal p ∧ (p = 0 ∨ addr.HostBitsZero p) ∧ pfx = p.toUInt8 := by
  unfold tsfParseIpv6Addr
  rw [after_append hslash, before_append hslash]
  dsimp only
  rw [ite_error_eq_ok, Option.isSome_some, and_iff_right rfl, not_le]
  constructor
  · rintro ⟨hlen, h⟩
    obtain ⟨st, hloop, h⟩ := bind_eq_ok.mp h
    obtain ⟨vs, hexpand, h⟩ := bind_eq_ok.mp h
    obtain ⟨p, hprefix, h⟩ := bind_eq_ok.mp h
    obtain ⟨_, hvalid, h⟩ := bind_eq_ok.mp h
    obtain ⟨rfl, rfl⟩ := Prod.mk.inj (Except.ok.inj h)
    obtain ⟨r, hformed, htext, rfl⟩ := (readGroups_iff hslash).mp (bind_eq_ok.mpr ⟨st, hloop, hexpand⟩)
    obtain ⟨hp, hsuffix⟩ := tsfParsePrefixLength_iff.mp hprefix
    exact ⟨r, p, hformed, htext, rfl, hlen, hp, hsuffix, (tsfValidateV6Cidr_iff hp).mp hvalid, rfl⟩
  · rintro ⟨r, p, hformed, htext, rfl, hlen, hp, hsuffix, hhost, rfl⟩
    obtain ⟨st, hloop, hexpand⟩ := bind_eq_ok.mp ((readGroups_iff hslash).mpr ⟨r, hformed, htext, rfl⟩)
    refine ⟨hlen, bind_eq_ok.mpr ⟨st, hloop, bind_eq_ok.mpr ⟨_, hexpand, ?_⟩⟩⟩
    exact bind_eq_ok.mpr ⟨p, tsfParsePrefixLength_iff.mpr ⟨hp, hsuffix⟩,
      bind_eq_ok.mpr ⟨(), (tsfValidateV6Cidr_iff hp).mpr hhost, rfl⟩⟩

/-! ### Spellings -/

/-- Groups with single colons between them. -/
def colonText (ts : List GroupText) : CStr := List.intercalate [chr ':'] (ts.map GroupText.digits)

/-- A text that spells eight groups: all of them with single colons, or those before and after a
run of zeros, which `::` stands for. -/
inductive Spells : CStr → List UInt16 → Prop where
  | full (ts : List GroupText) : ts.length = 8 → Spells (colonText ts) (ts.map GroupText.value)
  | compressed (before after : List GroupText) (zeros : ℕ) : 0 < zeros →
      before.length + zeros + after.length = 8 →
      Spells (colonText before ++ cstr "::" ++ colonText after)
        (before.map GroupText.value ++ List.replicate zeros 0 ++ after.map GroupText.value)

/-- Groups that each have a `:` before them. -/
def colons (ts : List GroupText) : List Group := ts.map fun t => ⟨t, true⟩

/-- The groups of such a run as they are taken from the text. -/
def separated : List GroupText → List Group
  | [] => []
  | t :: ts => ⟨t, false⟩ :: colons ts

@[simp] theorem length_separated (ts : List GroupText) : (separated ts).length = ts.length := by
  cases ts with
  | nil => rfl
  | cons t ts => simp [separated, colons]

@[simp] theorem map_value_separated (ts : List GroupText) :
    ((separated ts).map fun g => g.value) = ts.map GroupText.value := by
  cases ts with
  | nil => rfl
  | cons t ts => simp [separated, colons]

theorem separated_head (ts : List GroupText) : ∀ g ∈ (separated ts).head?, g.colon = false := by
  intro g hg
  rcases ts with _ | ⟨t, ts⟩
  · cases hg
  · obtain rfl := Option.some.inj hg
    rfl

theorem runText_separated (ts : List GroupText) : runText (separated ts) = colonText ts := by
  have hcons : ∀ (ts : List GroupText) (t : GroupText), t.digits ++ runText (colons ts) = colonText (t :: ts) := by
    intro ts
    induction ts with
    | nil =>
      intro t
      rw [colonText, List.map_singleton, List.intercalate_singleton]
      exact List.append_nil _
    | cons u us ih =>
      intro t
      rw [colonText, List.map_cons, List.map_cons, List.intercalate_cons_cons, List.append_assoc, ← List.map_cons,
        ← colonText, ← ih u]
      rfl
  cases ts with
  | nil => rfl
  | cons t ts => exact hcons ts t

/-- What follows a group of such a run is a `:`, if anything. -/
theorem colons_begin {ts : List GroupText} {rest : CStr} (h : rest = [] ∨ rest.head? = some (chr ':')) :
    runText (colons ts) ++ rest = [] ∨ (runText (colons ts) ++ rest).head? = some (chr ':') := by
  cases ts with
  | nil => exact h
  | cons t ts => exact .inr rfl

theorem runEnds_colons {ts : List GroupText} {rest : CStr} (h : rest = [] ∨ rest.head? = some (chr ':')) :
    RunEnds (colons ts) rest := by
  induction ts with
  | nil => trivial
  | cons t ts ih => exact ⟨.inr (colons_begin h), ih⟩

theorem runEnds_separated {ts : List GroupText} {rest : CStr}
    (h : rest = [] ∨ rest.head? = some (chr ':')) :
    RunEnds (separated ts) rest := by
  cases ts with
  | nil => trivial
  | cons t ts => exact ⟨.inr (colons_begin h), runEnds_colons h⟩

/-- The reading of a spelling takes no liberties: its groups are separated, and nothing is left. -/
theorem Spells.reading {s : CStr} {vs : List UInt16} (h : Spells s vs) :
    ∃ r : Reading, r.Formed ∧ r.text = s ∧ r.values = vs ∧
      ((∃ ts, r = .full (separated ts) []) ∨ ∃ a b, r = .gap (separated a) (separated b)) := by
  cases h with
  | full ts height =>
    refine ⟨.full (separated ts) [], ⟨?_, separated_head ts, runEnds_separated (.inl rfl), List.not_mem_nil⟩, ?_, ?_,
      .inl ⟨ts, rfl⟩⟩
    · rw [length_separated, height]
    · rw [Reading.text, runText_separated, List.append_nil]
    · rw [Reading.values, map_value_separated]
  | compressed a b zeros hpos hlen =>
    refine ⟨.gap (separated a) (separated b), ⟨?_, separated_head a, runEnds_separated (.inr rfl),
      runEnds_separated (.inl rfl)⟩, ?_, ?_, .inr ⟨a, b, rfl⟩⟩
    · rw [length_separated, length_separated]
      omega
    · rw [Reading.text, runText_separated, runText_separated, List.append_assoc]
      rfl
    · rw [Reading.values, map_value_separated, map_value_separated, length_separated, length_separated,
        show 8 - (a.length + b.length) = zeros by omega]

theorem length_colonText_le (ts : List GroupText) : (colonText ts).length ≤ 5 * ts.length := by
  have hrun : ∀ gs : List Group, (runText gs).length ≤ 5 * gs.length := by
    intro gs
    induction gs with
    | nil => exact le_refl 0
    | cons g gs ih =>
      have hg : g.text.length ≤ 5 := by
        have := g.short
        unfold Group.text
        split_ifs
        · rw [List.length_cons]
          omega
        · omega
      rw [runText, List.flatMap_cons, List.length_append, List.length_cons, ← runText]
      omega
  rw [← runText_separated, ← length_separated]
  exact hrun _

theorem Spells.colon_mem {s : CStr} {vs : List UInt16} (h : Spells s vs) : chr ':' ∈ s := by
  cases h with
  | full ts height =>
    obtain ⟨t, u, ts, rfl⟩ : ∃ t u rest, ts = t :: u :: rest := by
      rcases ts with _ | ⟨t, _ | ⟨u, ts⟩⟩
      · cases height
      · cases height
      · exact ⟨t, u, ts, rfl⟩
    simp [colonText, List.intercalate_cons_cons]
  | compressed a b zeros _ _ =>
    have hgap : chr ':' ∈ cstr "::" := by decide
    exact List.mem_append_left _ (List.mem_append_right _ hgap)

/-- A spelling is short enough to have a prefix length behind it. -/
theorem Spells.length_lt {s : CStr} {vs : List UInt16} (h : Spells s vs) : s.length < 48 := by
  cases h with
  | full ts height =>
    have := length_colonText_le ts
    omega
  | compressed a b zeros hpos hlen =>
    have ha := length_colonText_le a
    have hb := length_colonText_le b
    have hgap : (cstr "::").length = 2 := by decide
    rw [List.length_append, List.length_append, hgap]
    omega

/-- Every spelling of an address is read as that address, with the prefix length behind it if there
is one, and with 128 otherwise. -/
theorem tsfParseIpv6Addr_spelled (addr : In6Addr) (s : CStr) (h : Spells s addr.groups) :
    tsfParseIpv6Addr s = .ok (addr, 128) ∧
      ∀ p ≤ 128, addr.HostBitsZero p → tsfParseIpv6Addr (s ++ chr '/' :: decimal p) = .ok (addr, p.toUInt8) := by
  obtain ⟨r, hformed, rfl, hvalues, -⟩ := h.reading
  have haddr : addr = .ofGroups r.values := by rw [hvalues, addr.ofGroups_groups]
  have hslash := hformed.slash_notMem
  refine ⟨(tsfParseIpv6Addr_plain hslash).mpr ⟨r, hformed, rfl, haddr, rfl⟩, fun p hp hhost => ?_⟩
  exact (tsfParseIpv6Addr_withPrefix hslash).mpr
    ⟨r, p, hformed, rfl, haddr, h.length_lt, hp, rfl, .inr hhost, rfl⟩

/-- The link-local network, in capitals. -/
theorem tsfParseIpv6Addr_spelled_linkLocal :
    tsfParseIpv6Addr (cstr "FE80::/10") = .ok (.ofGroups [0xFE80, 0, 0, 0, 0, 0, 0, 0], 10) := by
  have hspells : Spells (cstr "FE80::") (In6Addr.ofGroups [0xFE80, 0, 0, 0, 0, 0, 0, 0]).groups := by
    have hgroups : (In6Addr.ofGroups [0xFE80, 0, 0, 0, 0, 0, 0, 0]).groups =
        [0xFE80] ++ List.replicate 7 0 ++ [] := by
      decide
    rw [hgroups]
    exact .compressed [⟨cstr "FE80", by decide, by decide, by decide +kernel⟩] [] 7 (by decide) (by decide)
  have hhost : (In6Addr.ofGroups [0xFE80, 0, 0, 0, 0, 0, 0, 0]).HostBitsZero 10 := by
    unfold In6Addr.HostBitsZero
    decide +kernel
  exact (tsfParseIpv6Addr_spelled _ _ hspells).2 10 (by decide) hhost

end TcpStats
