import TcpStats.Device.ReadSpec

/-!
# How far a comparison of addresses looks

`tsf_match_v6_prefix` turns a prefix length into byte indices. The parser keeps it to
128; `TCPSTATS_SET_FILTER` checks the version only and takes any other length as it is.
`looksWithin_iff` says exactly which installed filters keep every comparison of every
read within the sixteen bytes of an address.
-/

namespace TcpStats

open Scan

variable {Cred : Type}

/-- The comparison of one direction would look beyond an address, if it is reached. -/
def Overlong (f : TcpstatsFilter) (bit : UInt32) (net : In6Addr) (pfx : UInt8) : Prop :=
  f.has bit = true ∧ net ≠ .unspecified ∧ 128 < pfx

/-- A filter under which a comparison that looks beyond an address can be reached: some IPv6
connection passes the stages before it. -/
structure LooksBeyond (f : TcpstatsFilter) : Prop where
  family : f.has TSF_IPV4_ONLY = false
  localPort : f.has TSF_LOCAL_PORT_MATCH = true → firstPort f.localPorts ≠ 0
  remotePort : f.has TSF_REMOTE_PORT_MATCH = true → firstPort f.remotePorts ≠ 0
  overlong : Overlong f TSF_LOCAL_ADDR_MATCH f.localAddrV6 f.localPrefixV6 ∨
    Overlong f TSF_REMOTE_ADDR_MATCH f.remoteAddrV6 f.remotePrefixV6

/-! ### What a comparison looks at -/

/-- Every index looked at is below the first one that the prefix length does not reach. -/
theorem tsfMatchV6Prefix_examined {addr net : ℕ → UInt8} {pfx : UInt8} {j : ℕ}
    (h : j ∈ (tsfMatchV6Prefix addr net pfx).examined) : 8 * j < pfx.toNat := by
  unfold tsfMatchV6Prefix at h
  dsimp only at h
  split_ifs at h with h0 hne hrem
  · simp at h
  · rw [List.mem_range] at h
    omega
  · rw [List.mem_append, List.mem_range, List.mem_singleton] at h
    omega
  · rw [List.mem_range] at h
    omega

/-- A prefix length over 128 looks at byte 16 of an address equal to the network. -/
theorem tsfMatchV6Prefix_beyond {a : In6Addr} {behind behind' : ℕ → UInt8} {pfx : UInt8}
    (h : 128 < pfx) : 16 ∈ (tsfMatchV6Prefix (a.memory behind) (a.memory behind') pfx).examined := by
  have hn : 128 < pfx.toNat := h
  have h0 : pfx ≠ 0 := by
    rintro rfl
    simp at hn
  unfold tsfMatchV6Prefix
  dsimp only
  rw [if_neg h0]
  by_cases h17 : 17 ≤ pfx.toNat / 8
  · have hmem : 16 ∈ List.range (pfx.toNat / 8) := List.mem_range.mpr (by omega)
    split_ifs
    · exact hmem
    · exact List.mem_append_left _ hmem
    · exact hmem
  · have h16 : pfx.toNat / 8 = 16 := by omega
    have hsame : bcmp (a.memory behind) (a.memory behind') (pfx.toNat / 8) = false := by
      refine bcmp_eq_false_iff.mpr fun i hi => ?_
      rw [a.memory_of_lt _ (by omega), a.memory_of_lt _ (by omega)]
    rw [if_neg (by simp [hsame]), if_pos (by omega), h16]
    simp

/-- The only comparison that looks at bytes is that of an IPv6 connection with a network. -/
theorem addrStage_examined {f : TcpstatsFilter} {inp : Inpcb Cred} {bit : UInt32}
    {addr4 net4 mask4 : InAddr} {net6 : In6Addr} {addr net : ℕ → UInt8} {pfx : UInt8} {j : ℕ}
    (h : j ∈ (addrStage f inp bit addr4 net4 mask4 net6 (tsfMatchV6Prefix addr net pfx)).examined)
    (hj : 16 ≤ j) : inp.hasVflag INP_IPV4 = false ∧ Overlong f bit net6 pfx := by
  unfold addrStage at h
  split_ifs at h with hbit h4 h6 hany
  · simp at h
  · simp at h
  · simp at h
  · have hlt := tsfMatchV6Prefix_examined h
    refine ⟨by simpa using h4, by simpa using hbit, by simpa using hany, ?_⟩
    show (128 : UInt8).toNat < pfx.toNat
    have : (128 : UInt8).toNat = 128 := rfl
    omega
  · simp at h

theorem ports_eq_cons (ports : Vector UInt16 8) : ∃ rest, ports.toList = firstPort ports :: rest := by
  refine ⟨ports.toList.tail, ?_⟩
  rcases hl : ports.toList with _ | ⟨p, rest⟩
  · have := ports.length_toList
    simp [hl] at this
  · have : firstPort ports = ports.toList[0] := by simp [firstPort]
    simp [this, hl]

/-- A port list that finds a port does not begin with an unused slot. -/
theorem portStage_head {f : TcpstatsFilter} {bit : UInt32} {ports : Vector UInt16 8} {port : UInt16}
    (h : portStage f bit ports port = true) (hbit : f.has bit = true) : firstPort ports ≠ 0 := by
  intro h0
  have hmem := portStage_iff.mp h hbit
  obtain ⟨rest, hrest⟩ := ports_eq_cons ports
  simp [hrest, h0] at hmem

/-- Addresses are looked at when the stages before them are passed. -/
theorem mem_filterStages {k : Kernel Cred} {cred : Cred} {gencnt : UInt64} {f : TcpstatsFilter}
    {inp : Inpcb Cred} {j : ℕ} (h : j ∈ (filterStages k cred gencnt f inp).2) :
    ipVersionStage f inp = true ∧ localPortStage f inp = true ∧ remotePortStage f inp = true ∧
      (j ∈ (localAddrStage k f inp).examined ∨ j ∈ (remoteAddrStage k f inp).examined) := by
  unfold filterStages at h
  dsimp only at h
  split_ifs at h with hg hv hs hc hl hr hla hra
  all_goals first
    | exact absurd h (List.not_mem_nil)
    | refine ⟨by simpa using hv, by simpa using hl, by simpa using hr, ?_⟩
  · exact .inl h
  · exact List.mem_append.mp h
  · exact List.mem_append.mp h

/-- The stages look beyond an address only under such a filter. -/
theorem filterStages_examined {k : Kernel Cred} {cred : Cred} {gencnt : UInt64} {f : TcpstatsFilter}
    {inp : Inpcb Cred} {j : ℕ} (h : j ∈ (filterStages k cred gencnt f inp).2) (hj : 16 ≤ j) :
    LooksBeyond f := by
  obtain ⟨hv, hl, hr, hex⟩ := mem_filterStages h
  have hover : inp.hasVflag INP_IPV4 = false ∧
      (Overlong f TSF_LOCAL_ADDR_MATCH f.localAddrV6 f.localPrefixV6 ∨
        Overlong f TSF_REMOTE_ADDR_MATCH f.remoteAddrV6 f.remotePrefixV6) := by
    rcases hex with hex | hex
    · obtain ⟨h4, hov⟩ := addrStage_examined hex hj
      exact ⟨h4, .inl hov⟩
    · obtain ⟨h4, hov⟩ := addrStage_examined hex hj
      exact ⟨h4, .inr hov⟩
  obtain ⟨h4, hov⟩ := hover
  refine ⟨?_, portStage_head hl, portStage_head hr, hov⟩
  rw [← Bool.not_eq_true]
  intro hf
  have := (ipVersionStage_iff.mp hv).1 hf
  simp [h4] at this

/-! ### Reads -/

/-- Every byte index that comparisons have looked at so far is within an address. -/
def LooksWithin (trace : List Event) : Prop := ∀ j, Event.examine j ∈ trace → j < 16

theorem LooksWithin.append {t u : List Event} (ht : LooksWithin t) (hu : LooksWithin u) :
    LooksWithin (t ++ u) := by
  intro j hj
  rcases List.mem_append.mp hj with hj | hj
  · exact ht j hj
  · exact hu j hj

/-- An iteration adds to the trace what the stages look at, and locks. -/
theorem readBody_looksWithin {env : ReadEnv Cred} (hf : ¬ LooksBeyond env.filter) {inp : Inpcb Cred}
    {st : ReadState} (h : LooksWithin st.trace) : LooksWithin (readBody env inp st).2.trace := by
  have hlock : LooksWithin st.inpNext.trace := by
    refine LooksWithin.append (h.append ?_) ?_
    · intro j hj
      simp at hj
    · intro j hj
      simp at hj
  have hunlock : ∀ i, LooksWithin [Event.unlock i] := by
    intro i j hj
    simp at hj
  have hlook : ∀ (i : ℕ) (examined : List ℕ), (∀ j ∈ examined, j < 16) →
      LooksWithin (.touch i :: examined.map .examine) := by
    intro i examined hex j hj
    simp only [List.mem_cons, reduceCtorEq, List.mem_map, Event.examine.injEq, exists_eq_right,
      false_or] at hj
    exact hex j hj
  have hstages : ∀ o examined,
      filterStages env.kern env.cred env.gencnt env.filter inp = (o, examined) →
      ∀ j ∈ examined, j < 16 := by
    intro o examined hs j hj
    by_contra hge
    exact hf (filterStages_examined (by rw [hs]; exact hj) (by omega))
  rcases hb : readBody env inp st with ⟨c, st'⟩
  cases readBody_iteration hb with
  | full _ _ hst => subst hst; exact hlock.append (hunlock _)
  | check e _ _ _ hst => subst hst; exact hlock.append (hunlock _)
  | skip why examined _ _ hs _ hst =>
    subst hst
    exact hlock.append (hlook _ _ (hstages _ _ hs))
  | fault examined e _ _ hs _ _ hst =>
    subst hst
    exact ((hlock.append (hlook _ _ (hstages _ _ hs))).append (hlook _ _ (by simp))).append (hunlock _)
  | emit examined _ _ hs _ _ hst =>
    subst hst
    exact (hlock.append (hlook _ _ (hstages _ _ hs))).append (hlook _ _ (by simp))

/-- The whole loop. -/
theorem readLoop_looksWithin (env : ReadEnv Cred) (hf : ¬ LooksBeyond env.filter)
    (inpcbs : List (Inpcb Cred)) (resid : ℕ) :
    LooksWithin (readLoop env inpcbs (readStart resid)).2.trace := by
  have hscan : LooksWithin (scan (readBody env) inpcbs (readStart resid)).2.trace :=
    scan_inv (P := fun st => LooksWithin st.trace) (fun inp st h => readBody_looksWithin hf h) inpcbs
      (readStart resid) (by simp [readStart, LooksWithin])
  unfold readLoop
  rcases hs : scan (readBody env) inpcbs (readStart resid) with ⟨_ | e, st⟩
  · rw [hs] at hscan
    refine hscan.append ?_
    intro j hj
    simp at hj
  · rw [hs] at hscan
    exact hscan

/-- All the comparisons of all the reads of descriptors with the filter installed stay within
the sixteen bytes of an address. -/
def InstalledWithin (f : TcpstatsFilter) : Prop :=
  ∀ (Cred : Type) (k : Kernel Cred) (tun : Tunables) (tcb : Tcbinfo Cred) (sched : Schedule) (resid : ℕ)
    (sc sc' : Softc Cred) (g : Globals), tcpstatsIoctl tcb (.setFilter f) sc = (none, sc', none) →
    LooksWithin (tcpstatsRead k tun tcb sched resid sc' g).trace

/-- The IPv6 connection whose addresses are those of the filter. -/
def lookalike (f : TcpstatsFilter) : Inpcb Unit where
  inpCred := ()
  inpGencnt := 0
  inpVflag := INP_IPV6
  incLport := firstPort f.localPorts
  incFport := firstPort f.remotePorts
  incLaddr := ⟨0⟩
  incFaddr := ⟨0⟩
  inc6Laddr := f.localAddrV6
  inc6Faddr := f.remoteAddrV6
  inpSocket := none
  tcpcb := none

/-- A kernel that hides nothing, with zeros behind every address. -/
def seeAll : Kernel Unit where
  crCanseeinpcb _ _ := 0
  tick := 1000
  behindLaddr _ _ := 0
  behindFaddr _ _ := 0
  behindLocalNet _ _ := 0
  behindRemoteNet _ _ := 0

/-- A port list finds its first port. -/
theorem portStage_first {f : TcpstatsFilter} {bit : UInt32} {ports : Vector UInt16 8}
    (h : f.has bit = true → firstPort ports ≠ 0) : portStage f bit ports (firstPort ports) = true := by
  refine portStage_iff.mpr fun hbit => ?_
  obtain ⟨rest, hrest⟩ := ports_eq_cons ports
  rw [hrest, List.takeWhile_cons_of_pos (by simpa using h hbit)]
  exact List.mem_cons_self ..

/-- The address of the filter itself is in its network when that reaches no further than an
address. -/
theorem addrStage_self {f : TcpstatsFilter} {inp : Inpcb Cred} {bit : UInt32}
    {addr4 net4 mask4 : InAddr} {net6 : In6Addr} {behind behind' : ℕ → UInt8} {pfx : UInt8}
    (h4 : inp.hasVflag INP_IPV4 = false) (h : ¬ Overlong f bit net6 pfx) :
    (addrStage f inp bit addr4 net4 mask4 net6
      (tsfMatchV6Prefix (net6.memory behind) (net6.memory behind') pfx)).matched = true := by
  unfold addrStage
  rw [h4]
  split_ifs with hbit hfalse hv6 hany
  · rfl
  · exact hfalse.elim
  · rfl
  · rw [tsfMatchV6Prefix_matched, agree_memory_iff]
    · intro i _
      rfl
    · by_contra hlong
      refine h ⟨by simpa using hbit, by simpa using hany, ?_⟩
      exact Nat.not_le.mp hlong
  · rfl

/-- An address stage with an overlong prefix looks beyond the filter's own address. -/
theorem addrStage_beyond {f : TcpstatsFilter} {inp : Inpcb Cred} {bit : UInt32}
    {addr4 net4 mask4 : InAddr} {net6 : In6Addr} {behind behind' : ℕ → UInt8} {pfx : UInt8}
    (h4 : inp.hasVflag INP_IPV4 = false) (h6 : inp.hasVflag INP_IPV6 = true)
    (h : Overlong f bit net6 pfx) :
    16 ∈ (addrStage f inp bit addr4 net4 mask4 net6
      (tsfMatchV6Prefix (net6.memory behind) (net6.memory behind') pfx)).examined := by
  obtain ⟨hbit, hany, hlong⟩ := h
  unfold addrStage
  simp [hbit, h4, h6, hany, tsfMatchV6Prefix_beyond hlong]

/-- The stages look beyond an address of the lookalike. -/
theorem filterStages_lookalike {f : TcpstatsFilter} (h : LooksBeyond f) :
    16 ∈ (filterStages seeAll () 0 f (lookalike f)).2 := by
  have h4 : (lookalike f).hasVflag INP_IPV4 = false := show (INP_IPV6 &&& INP_IPV4 != 0) = false by decide
  have h6 : (lookalike f).hasVflag INP_IPV6 = true := show (INP_IPV6 &&& INP_IPV6 != 0) = true by decide
  have hv : ipVersionStage f (lookalike f) = true :=
    ipVersionStage_iff.mpr ⟨by simp [h.family], fun _ => h6⟩
  have hs : stateStage f (lookalike f) = true := rfl
  have hl : localPortStage f (lookalike f) = true := portStage_first h.localPort
  have hr : remotePortStage f (lookalike f) = true := portStage_first h.remotePort
  have hg : ¬ (lookalike f).inpGencnt > 0 := show ¬ (0 : UInt64) > 0 by decide
  have hc : ¬ seeAll.crCanseeinpcb () (lookalike f) ≠ 0 := by simp [seeAll]
  unfold filterStages
  simp only [if_neg hg, hv, hs, if_neg hc, hl, hr, Bool.not_true, Bool.false_eq_true, if_false]
  by_cases hover : Overlong f TSF_LOCAL_ADDR_MATCH f.localAddrV6 f.localPrefixV6
  · have hmem : 16 ∈ (localAddrStage seeAll f (lookalike f)).examined := addrStage_beyond h4 h6 hover
    split_ifs
    · exact hmem
    · exact List.mem_append_left _ hmem
    · exact List.mem_append_left _ hmem
  · have hmatch : (localAddrStage seeAll f (lookalike f)).matched = true := addrStage_self h4 hover
    have hmem : 16 ∈ (remoteAddrStage seeAll f (lookalike f)).examined :=
      addrStage_beyond h4 h6 (h.overlong.resolve_left hover)
    simp only [hmatch, Bool.not_true, Bool.false_eq_true, if_false]
    split_ifs
    · exact List.mem_append_right _ hmem
    · exact List.mem_append_right _ hmem

/-- What the stages look at of an only connection is in the trace of the loop. -/
theorem readLoop_singleton_looks {env : ReadEnv Cred} {inp : Inpcb Cred} {resid j : ℕ}
    (hroom : TCP_STATS_RECORD_SIZE ≤ resid)
    (hj : j ∈ (filterStages env.kern env.cred env.gencnt env.filter inp).2) :
    Event.examine j ∈ (readLoop env [inp] (readStart resid)).2.trace := by
  rcases hb : readBody env inp (readStart resid) with ⟨c, st'⟩
  have hlook : ∀ t i examined o,
      filterStages env.kern env.cred env.gencnt env.filter inp = (o, examined) →
      Event.examine j ∈ t ++ .touch i :: examined.map .examine := by
    intro t i examined o hs
    rw [hs] at hj
    simp [hj]
  have hmem : Event.examine j ∈ st'.trace := by
    cases readBody_iteration hb with
    | full hfull => exact absurd hroom (Nat.not_le.mpr hfull)
    | check e _ hc => simp [periodicCheck, readStart, TSF_CHECK_INTERVAL] at hc
    | skip why examined _ _ hs _ hst =>
      subst hst
      exact hlook _ _ _ _ hs
    | fault examined e _ _ hs _ _ hst =>
      subst hst
      exact List.mem_append_left _ (List.mem_append_left _ (hlook _ _ _ _ hs))
    | emit examined _ _ hs _ _ hst =>
      subst hst
      exact List.mem_append_left _ (hlook _ _ _ _ hs)
  unfold readLoop
  cases c with
  | next =>
    rw [scan_cons_next hb]
    exact List.mem_append_left _ hmem
  | stop e =>
    rw [scan_cons_stop hb]
    exact hmem

/-- Which of the filters that `TCPSTATS_SET_FILTER` accepts keep every comparison within an
address. -/
theorem installedWithin_iff (f : TcpstatsFilter) (hv : f.version = TSF_VERSION) :
    InstalledWithin f ↔ ¬ LooksBeyond f := by
  have hioctl : ∀ {Cred : Type} (tcb : Tcbinfo Cred) (sc : Softc Cred),
      tcpstatsIoctl tcb (.setFilter f) sc = (none, { sc with scFilter := f }, none) := by
    intro Cred tcb sc
    simp [tcpstatsIoctl, hv]
  constructor
  · intro h hbeyond
    have hadm : Admitted Tunables.default Sample.still (⟨(), false, f, false, 0⟩ : Softc Unit)
        Sample.glob := ⟨rfl, rfl, rfl⟩
    have hmem : Event.examine 16 ∈ (tcpstatsRead seeAll .default ⟨[lookalike f], 0, 1⟩ Sample.still 320
        ⟨(), false, f, false, 0⟩ Sample.glob).trace := by
      simp only [tcpstatsRead, hadm.readers, hadm.interval]
      exact readLoop_singleton_looks (by decide) (filterStages_lookalike hbeyond)
    have := h Unit seeAll .default ⟨[lookalike f], 0, 1⟩ Sample.still 320 ⟨(), false, f, false, 0⟩ _
      Sample.glob (hioctl _ _) 16 hmem
    omega
  · intro hf Cred k tun tcb sched resid sc sc' g hset
    rw [hioctl tcb sc] at hset
    obtain rfl : { sc with scFilter := f } = sc' := by simpa using hset
    unfold tcpstatsRead
    split_ifs
    · intro j hj
      simp at hj
    · intro j hj
      simp at hj
    · intro j hj
      simp at hj
    · exact readLoop_looksWithin (readEnv k tun tcb sched { sc with scFilter := f }) hf _ _

/-- A filter for `fe80::/10`. -/
def Sample.linkLocalNet : TcpstatsFilter :=
  { TcpstatsFilter.default with
    flags := TSF_LOCAL_ADDR_MATCH
    localAddrV6 := ⟨#v[0xFE, 0x80, 0, 0, 0, 0, 0, 0, 0, 0, 0, 0, 0, 0, 0, 0]⟩
    localPrefixV6 := 10 }

/-- It is one of them, and a read under it does look at the bytes of an address. -/
theorem installedWithin_linkLocal : InstalledWithin Sample.linkLocalNet ∧
    ∀ j < 2, Event.examine j ∈ (tcpstatsRead seeAll .default ⟨[lookalike Sample.linkLocalNet], 0, 1⟩ Sample.still 320
      ⟨(), false, Sample.linkLocalNet, false, 0⟩ Sample.glob).trace := by
  refine ⟨(installedWithin_iff Sample.linkLocalNet rfl).mpr fun h => ?_, by decide +kernel⟩
  rcases h.overlong with ⟨-, -, hlong⟩ | ⟨hbit, -⟩
  · exact absurd hlong (by decide)
  · exact absurd hbit (by decide)

/-- A filter for `2001:db8::/136`. -/
def Sample.overlong : TcpstatsFilter :=
  { TcpstatsFilter.default with
    flags := TSF_LOCAL_ADDR_MATCH
    localAddrV6 := ⟨#v[0x20, 0x01, 0x0d, 0xb8, 0, 0, 0, 0, 0, 0, 0, 0, 0, 0, 0, 0]⟩
    localPrefixV6 := 136 }

/-- It is accepted, and a read under it looks at byte 16. -/
theorem overlong_looks_beyond : ¬ InstalledWithin Sample.overlong := by
  intro h
  have hmem : Event.examine 16 ∈ (tcpstatsRead seeAll .default ⟨[lookalike Sample.overlong], 0, 1⟩
      Sample.still 320 ⟨(), false, Sample.overlong, false, 0⟩ Sample.glob).trace := by
    decide +kernel
  have := h Unit seeAll .default ⟨[lookalike Sample.overlong], 0, 1⟩ Sample.still 320
    ⟨(), false, .default, false, 0⟩ ⟨(), false, Sample.overlong, false, 0⟩ Sample.glob rfl 16 hmem
  omega

end TcpStats
