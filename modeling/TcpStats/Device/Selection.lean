import Mathlib.Data.Nat.Bitwise
import TcpStats.Device.CidrMatch
import TcpStats.Device.ListStages

/-!
# What a filter string selects

The stages test a connection for each directive of a string of its own accord (`Directive.Selects`), whatever else is in it;
a string selects those that all of its directives do (`filterStages_meaning`, `selects_iff`). So its order plays no part,
a string within another selects no fewer connections, and two strings written one behind the other select those that both
of them select (`selection_append`).
-/

namespace TcpStats

open CString Fallible

variable {Cred : Type}

/-! ### Directives -/

/-- The port of an endpoint. -/
def Inpcb.port (inp : Inpcb Cred) : Endpoint → UInt16
  | .localEnd => inp.incLport
  | .remoteEnd => inp.incFport

/-- The states that a directive leaves. -/
def Directive.states : Directive → UInt16
  | exclude kept => kept
  | includeState mask => mask
  | _ => 0xFFFF

/-- The connections that a directive selects, as the stages test them. `ipv4_only` takes those of both families too, a state list
those without a `tcpcb`, an address those that are compared in the other family, and the network `::` all of them,
whatever its prefix. -/
def Directive.Selects (d : Directive) (inp : Inpcb Cred) : Prop :=
  match d with
  | ipv4Only => inp.hasVflag INP_IPV4 = true
  | ipv6Only => inp.hasVflag INP_IPV6 = true
  | exclude kept => ∀ tp, inp.tcpcb = some tp → HasState kept tp.tState
  | includeState mask => ∀ tp, inp.tcpcb = some tp → HasState mask tp.tState
  | format _ => True
  | fields _ => True
  | ports e slots => inp.port e ∈ slots.toList.takeWhile (· ≠ 0)
  | addrV4 e addr mask =>
    inp.hasVflag INP_IPV4 = true → (inp.addrV4 e).sAddr &&& mask.sAddr = addr.sAddr &&& mask.sAddr
  | addrV6 e addr pfx =>
    inp.hasVflag INP_IPV4 = false → inp.hasVflag INP_IPV6 = true →
      addr = .unspecified ∨ (inp.addrV6 e).SameBits pfx.toNat addr

/-- The connections that a list of directives selects. -/
def selection (Cred : Type) (ds : List Directive) : Set (Inpcb Cred) := {inp | ∀ d ∈ ds, d.Selects inp}

theorem mem_selection {ds : List Directive} {inp : Inpcb Cred} :
    inp ∈ selection Cred ds ↔ ∀ d ∈ ds, d.Selects inp := Iff.rfl

theorem selection_append_eq (ds ds' : List Directive) :
    selection Cred (ds ++ ds') = selection Cred ds ∩ selection Cred ds' := by
  refine Set.ext fun inp => ?_
  rw [Set.mem_inter_iff, mem_selection, mem_selection, mem_selection, List.forall_mem_append]

/-! ### States -/

theorem hasState_iff_testBit {mask : UInt16} {s : TcpState} : HasState mask s ↔ mask.toNat.testBit s.code = true := by
  have hbit : s.bit.toNat = 2 ^ s.code := by cases s <;> rfl
  rw [HasState, Ne, ← UInt16.toNat_inj, UInt16.toNat_and, hbit, Nat.and_two_pow]
  cases mask.toNat.testBit s.code <;> simp

theorem hasState_and {m k : UInt16} {s : TcpState} : HasState (m &&& k) s ↔ HasState m s ∧ HasState k s := by
  rw [hasState_iff_testBit, hasState_iff_testBit, hasState_iff_testBit, UInt16.toNat_and, Nat.testBit_and, Bool.and_eq_true]

/-- The states of a run of directives are those that it starts with and each of them leaves. -/
theorem hasState_foldl {ds : List Directive} {f : TcpstatsFilter} (hpair : ds.Pairwise Directive.Compatible)
    (hadmits : ∀ d ∈ ds, d.Admits f) {s : TcpState} :
    HasState (ds.foldl TcpstatsFilter.apply f).stateMask s ↔ HasState f.stateMask s ∧ ∀ d ∈ ds, HasState d.states s := by
  induction ds generalizing f with
  | nil => simp
  | cons d ds ih =>
    obtain ⟨hcompat, hpair⟩ := List.pairwise_cons.mp hpair
    obtain ⟨hfirst, hadmits⟩ := List.forall_mem_cons.mp hadmits
    have hstep : HasState (f.apply d).stateMask s ↔ HasState f.stateMask s ∧ HasState d.states s := by
      by_cases hkey : d.key = .includeState
      · have hall := hfirst.2 hkey
        cases d with
        | includeState mask => exact (and_iff_right (by rw [hall]; exact hasState_all s)).symm
        | _ => cases hkey
      · rw [stateMask_apply f hkey, hasState_and]
        cases d with
        | includeState mask => exact absurd rfl hkey
        | _ => rfl
    rw [List.foldl_cons, ih hpair fun d' hd' => admits_apply.mpr ⟨hadmits d' hd', hcompat d' hd'⟩, hstep, and_assoc,
      List.forall_mem_cons]

theorem hasState_meaning {ds : List Directive} (h : ds.Pairwise Directive.Compatible) {s : TcpState} :
    HasState (meaning ds).stateMask s ↔ ∀ d ∈ ds, HasState d.states s := by
  rw [meaning, hasState_foldl h fun d _ => admits_default d]
  exact and_iff_right (hasState_all s)

/-! ### Ports and addresses -/

theorem key_eq_ports_iff {d : Directive} {e : Endpoint} : d.key = .ports e ↔ ∃ slots, d = .ports e slots := by
  cases d <;> simp [Directive.key, eq_comm]

theorem Key.part_eq_ports_iff {key : Key} {e : Endpoint} : key.part = some (.ports e) ↔ key = .ports e := by
  cases key <;> simp [Key.part]

/-- Ports are given once. -/
theorem ports_meaning {ds : List Directive} (h : ds.Pairwise Directive.Compatible) {e : Endpoint}
    {slots : Vector UInt16 8} (hd : .ports e slots ∈ ds) : (meaning ds).ports e = slots := by
  have hpart : (meaning ds).part (.ports e) = (TcpstatsFilter.default.apply (.ports e slots)).part (.ports e) := by
    refine part_foldl_of_mem (h.imp fun hcompat hp hp' => ?_) hd rfl _
    have hclash := hcompat.1
    rw [Key.part_eq_ports_iff.mp hp, Key.part_eq_ports_iff.mp hp'] at hclash
    cases e
    · exact absurd hclash (by decide)
    · exact absurd hclash (by decide)
  cases e
  · exact hpart
  · exact hpart

theorem ports_stage {ds : List Directive} (h : ds.Pairwise Directive.Compatible) {e : Endpoint} {port : UInt16} :
    ((meaning ds).has (Key.ports e).bit = true → port ∈ ((meaning ds).ports e).toList.takeWhile (· ≠ 0)) ↔
      ∀ slots, .ports e slots ∈ ds → port ∈ slots.toList.takeWhile (· ≠ 0) := by
  rw [has_bit_meaning (by cases e <;> decide)]
  constructor
  · intro hport slots hd
    rw [← ports_meaning h hd]
    exact hport ⟨_, hd, rfl⟩
  · rintro hall ⟨d, hd, hkey⟩
    obtain ⟨slots, rfl⟩ := key_eq_ports_iff.mp hkey
    rw [ports_meaning h hd]
    exact hall slots hd

/-- A network of the other family matches every address. -/
theorem addr_stage {ds : List Directive} (h : ds.Pairwise Directive.Compatible) (e : Endpoint) (inp : Inpcb Cred) :
    ((meaning ds).has (Key.addr e).bit = true →
        AddrMatches inp (inp.addrV4 e) ((meaning ds).addrV4 e) ((meaning ds).maskV4 e) (inp.addrV6 e)
          ((meaning ds).addrV6 e) ((meaning ds).prefixV6 e)) ↔
      ∀ d ∈ ds, d.key = .addr e → d.Selects inp := by
  rw [has_bit_meaning (by cases e <;> decide)]
  have hmatch : ∀ d ∈ ds, d.key = .addr e →
      (AddrMatches inp (inp.addrV4 e) ((meaning ds).addrV4 e) ((meaning ds).maskV4 e) (inp.addrV6 e)
        ((meaning ds).addrV6 e) ((meaning ds).prefixV6 e) ↔ d.Selects inp) := by
    intro d hd hkey
    rcases key_eq_addr_iff.mp hkey with ⟨addr, mask, rfl⟩ | ⟨addr, pfx, rfl⟩
    · obtain ⟨h4, hm, h6, -⟩ := addrV4_meaning h hd
      rw [h4, hm, h6, AddrMatches, Directive.Selects]
      cases inp.hasVflag INP_IPV4 <;> simp
    · obtain ⟨h4, hm, h6, hp⟩ := addrV6_meaning h hd
      rw [h4, hm, h6, hp, AddrMatches, Directive.Selects]
      cases inp.hasVflag INP_IPV4 <;> cases inp.hasVflag INP_IPV6 <;> simp [INADDR_ANY]
  constructor
  · intro hall d hd hkey
    exact (hmatch d hd hkey).mp (hall ⟨d, hd, hkey⟩)
  · rintro hall ⟨d, hd, hkey⟩
    exact (hmatch d hd hkey).mpr (hall d hd hkey)

/-! ### Strings -/

/-- The stages of the loop, under the filter of some directives, let through what the reader may see of the snapshot and
each of the directives selects. -/
theorem filterStages_meaning {ds : List Directive} (h : ds.Pairwise Directive.Compatible)
    (hle : ∀ e, (meaning ds).prefixV6 e ≤ 128) (k : Kernel Cred) (cred : Cred) (gencnt : UInt64) (inp : Inpcb Cred) :
    (filterStages k cred gencnt (meaning ds) inp).1 = none ↔
      inp.inpGencnt ≤ gencnt ∧ k.crCanseeinpcb cred inp = 0 ∧ inp ∈ selection Cred ds := by
  have h4 : (meaning ds).has TSF_IPV4_ONLY = true ↔ .ipv4Only ∈ ds := by
    rw [show TSF_IPV4_ONLY = Key.ipv4Only.bit from rfl, has_bit_meaning (by decide), exists_ipv4Only_iff]
  have h6 : (meaning ds).has TSF_IPV6_ONLY = true ↔ .ipv6Only ∈ ds := by
    rw [show TSF_IPV6_ONLY = Key.ipv6Only.bit from rfl, has_bit_meaning (by decide), exists_ipv6Only_iff]
  have hstate : stateStage (meaning ds) inp = true ↔
      ∀ tp, inp.tcpcb = some tp → ∀ d ∈ ds, HasState d.states tp.tState := by
    constructor
    · intro hs tp htp
      exact (hasState_meaning h).mp ((stateStage_mask htp).mp hs)
    · intro hall
      cases htp : inp.tcpcb with
      | none => rw [stateStage, htp]
      | some tp => exact (stateStage_mask htp).mpr ((hasState_meaning h).mpr (hall tp htp))
  have hports := fun e port => @ports_stage ds h e port
  have haddrs := fun e => addr_stage h e inp
  rw [filterStages_none_iff_stages, ipVersionStage_iff, hstate, localPortStage, portStage_iff, remotePortStage,
    portStage_iff, localAddrStage_matched k inp (hle .localEnd), remoteAddrStage_matched k inp (hle .remoteEnd), h4, h6]
  constructor
  · rintro ⟨hg, ⟨hv4, hv6⟩, hs, hc, hlp, hrp, hla, hra⟩
    refine ⟨hg, hc, fun d hd => ?_⟩
    cases hkind : d with
    | ipv4Only => exact hv4 (hkind ▸ hd)
    | ipv6Only => exact hv6 (hkind ▸ hd)
    | exclude kept =>
      intro tp htp
      have := hs tp htp d hd
      rwa [hkind] at this
    | includeState mask =>
      intro tp htp
      have := hs tp htp d hd
      rwa [hkind] at this
    | format format => trivial
    | fields mask => trivial
    | ports e slots =>
      cases e with
      | localEnd => exact (hports .localEnd _).mp hlp slots (hkind ▸ hd)
      | remoteEnd => exact (hports .remoteEnd _).mp hrp slots (hkind ▸ hd)
    | addrV4 e addr mask =>
      cases e with
      | localEnd => exact (haddrs .localEnd).mp hla _ (hkind ▸ hd) rfl
      | remoteEnd => exact (haddrs .remoteEnd).mp hra _ (hkind ▸ hd) rfl
    | addrV6 e addr pfx =>
      cases e with
      | localEnd => exact (haddrs .localEnd).mp hla _ (hkind ▸ hd) rfl
      | remoteEnd => exact (haddrs .remoteEnd).mp hra _ (hkind ▸ hd) rfl
  · rintro ⟨hg, hc, hsel⟩
    refine ⟨hg, ⟨fun hd => hsel _ hd, fun hd => hsel _ hd⟩, ?_, hc, ?_, ?_, ?_, ?_⟩
    · intro tp htp d hd
      have := hsel d hd
      cases d with
      | exclude kept => exact this tp htp
      | includeState mask => exact this tp htp
      | _ => exact hasState_all tp.tState
    · exact (hports .localEnd _).mpr fun slots hd => hsel _ hd
    · exact (hports .remoteEnd _).mpr fun slots hd => hsel _ hd
    · exact (haddrs .localEnd).mpr fun d hd _ => hsel d hd
    · exact (haddrs .remoteEnd).mpr fun d hd _ => hsel d hd

theorem prefixV6_le_of_parse {input : CStr} {f : TcpstatsFilter} (h : tsfParseFilterString input = .ok f) (e : Endpoint) :
    f.prefixV6 e ≤ 128 := by
  have hformed := formed_of_parse h
  cases e
  · exact hformed.localAddr.prefix_le
  · exact hformed.remoteAddr.prefix_le

/-- The connections that pass the stages under the filter of a string are those that every directive of the string
selects, among those that the reader may see. -/
theorem selects_iff {input : CStr} {f : TcpstatsFilter} (h : tsfParseFilterString input = .ok f) :
    ∃ ds, TextOf input ds ∧ ∀ (Cred : Type) (k : Kernel Cred) (cred : Cred) (gencnt : UInt64) (inp : Inpcb Cred),
      (filterStages k cred gencnt f inp).1 = none ↔
        inp.inpGencnt ≤ gencnt ∧ k.crCanseeinpcb cred inp = 0 ∧ inp ∈ selection Cred ds := by
  obtain ⟨ds, htext, hpair, -, rfl⟩ := tsfParseFilterString_iff.mp h
  exact ⟨ds, htext, fun Cred => filterStages_meaning hpair (prefixV6_le_of_parse h)⟩

theorem parse_https : ∃ f, tsfParseFilterString (cstr "ipv4_only local_port=443 exclude=listen") = .ok f :=
  exists_ok_of_isOk (by decide)

theorem selects_https : ∃ f, tsfParseFilterString (cstr "ipv4_only local_port=443 exclude=listen") = .ok f ∧
    ∃ ds, TextOf (cstr "ipv4_only local_port=443 exclude=listen") ds ∧
      ((filterStages Sample.kern 0 9 f (Sample.https .LISTEN)).1 = none ↔ Sample.https .LISTEN ∈ selection ℕ ds) := by
  obtain ⟨f, h⟩ := parse_https
  obtain ⟨ds, htext, hall⟩ := selects_iff h
  refine ⟨f, h, ds, htext, ?_⟩
  rw [hall ℕ Sample.kern 0 9 (Sample.https .LISTEN), and_iff_right (by decide), and_iff_right (by decide)]

/-! ### Strings behind one another -/

theorem FamiliesAgree.subset {ds ds' : List Directive} (h : FamiliesAgree ds') (hsub : ds ⊆ ds') : FamiliesAgree ds where
  onlyOne := fun ⟨h4, h6⟩ => h.onlyOne ⟨hsub h4, hsub h6⟩
  v6Only := fun h6 e addr mask hd => h.v6Only (hsub h6) e addr mask (hsub hd)
  v4Only := fun h4 e addr pfx hd => h.v4Only (hsub h4) e addr pfx (hsub hd)

/-- The words of two strings with a space between them. -/
theorem directives_append_space {a : CStr} (h0 : 0 ∉ a) (b : CStr) :
    directives (a ++ chr ' ' :: b) = directives a ++ directives b := by
  have hcut : ofArray (a ++ chr ' ' :: b) = a ++ chr ' ' :: ofArray b := by
    unfold ofArray
    rw [List.takeWhile_append_of_pos fun x hx => by simpa using fun hx0 : x = 0 => h0 (hx0 ▸ hx)]
    rfl
  rw [directives, hcut, fields_append (by decide), directives, ofArray_of_notMem h0, directives]

/-- A text of two strings is a text of each. -/
theorem TextOf.split {a b : CStr} {ds : List Directive} (h0 : 0 ∉ a) (h : TextOf (a ++ chr ' ' :: b) ds) :
    ∃ da db, ds = da ++ db ∧ TextOf a da ∧ TextOf b db := by
  obtain ⟨hlex, hfew, hreads⟩ := h
  rw [directives_append_space h0] at hreads
  have hall : ds.take (directives a).length ++ ds.drop (directives a).length = ds := List.take_append_drop _ _
  have hhead : (a ++ chr ' ' :: b).head? ≠ some 0 := by
    cases a with
    | nil => exact fun h => absurd (Option.some.inj h) (by decide)
    | cons c a => exact fun h => h0 (Option.some.inj h ▸ List.mem_cons_self)
  obtain ⟨hlen, hprint⟩ := hlex.resolve_left hhead
  rw [List.length_append, List.length_cons] at hlen
  refine ⟨_, _, hall.symm, ⟨.inr ⟨by omega, fun c hc => hprint c (by simp [hc])⟩, ?_, ?_⟩,
    ⟨.inr ⟨by omega, fun c hc => hprint c (by simp [hc])⟩, ?_, ?_⟩⟩
  · exact (List.length_take_le' _ _).trans hfew
  · exact (List.forall₂_take_append _ _ _ hreads.flip).flip
  · rw [List.length_drop]
    omega
  · exact (List.forall₂_drop_append _ _ _ hreads.flip).flip

/-- When two strings are accepted with a space between them, each of them is on its own, and the connections that they
select together are those that both select. -/
theorem selection_append {a b : CStr} {f : TcpstatsFilter} (h0 : 0 ∉ a)
    (h : tsfParseFilterString (a ++ chr ' ' :: b) = .ok f) :
    ∃ fa fb, tsfParseFilterString a = .ok fa ∧ tsfParseFilterString b = .ok fb ∧
      ∀ (Cred : Type) (k : Kernel Cred) (cred : Cred) (gencnt : UInt64) (inp : Inpcb Cred),
        (filterStages k cred gencnt f inp).1 = none ↔
          (filterStages k cred gencnt fa inp).1 = none ∧ (filterStages k cred gencnt fb inp).1 = none := by
  obtain ⟨ds, htext, hpair, hagree, rfl⟩ := tsfParseFilterString_iff.mp h
  obtain ⟨da, db, rfl, ha, hb⟩ := htext.split h0
  obtain ⟨hpa, hpb, -⟩ := List.pairwise_append.mp hpair
  have hparsea := tsfParseFilterString_iff.mpr ⟨da, ha, hpa, hagree.subset (List.subset_append_left _ _), rfl⟩
  have hparseb := tsfParseFilterString_iff.mpr ⟨db, hb, hpb, hagree.subset (List.subset_append_right _ _), rfl⟩
  refine ⟨_, _, hparsea, hparseb, fun Cred k cred gencnt inp => ?_⟩
  rw [filterStages_meaning hpair (prefixV6_le_of_parse h), filterStages_meaning hpa (prefixV6_le_of_parse hparsea),
    filterStages_meaning hpb (prefixV6_le_of_parse hparseb), selection_append_eq, Set.mem_inter_iff]
  constructor
  · rintro ⟨hg, hc, hma, hmb⟩
    exact ⟨⟨hg, hc, hma⟩, hg, hc, hmb⟩
  · rintro ⟨⟨hg, hc, hma⟩, -, -, hmb⟩
    exact ⟨hg, hc, hma, hmb⟩

theorem selection_append_https : ∃ f, tsfParseFilterString (cstr "ipv4_only local_port=443 exclude=listen") = .ok f ∧
    ((filterStages Sample.kern 0 9 f (Sample.https .LISTEN)).1 = none →
      ∃ fb, tsfParseFilterString (cstr "local_port=443 exclude=listen") = .ok fb ∧
        (filterStages Sample.kern 0 9 fb (Sample.https .LISTEN)).1 = none) := by
  obtain ⟨f, h⟩ := parse_https
  obtain ⟨fa, fb, -, hb, hall⟩ := selection_append (a := cstr "ipv4_only") (b := cstr "local_port=443 exclude=listen")
    (by decide) h
  exact ⟨f, h, fun hpass => ⟨fb, hb, ((hall ℕ Sample.kern 0 9 _).mp hpass).2⟩⟩

end TcpStats
