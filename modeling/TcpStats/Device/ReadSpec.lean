import TcpStats.Device.ReadLoop
import TcpStats.Lib.Bits

/-!
# Which connections a read reports

`Selected` says which connections a filter is meant to select, in the terms of sets of
ports, masks and leading bits of addresses. `filterStages_none_iff` shows that the stages
of the loop select exactly these when the prefix lengths are at most 128, and
`tcpstatsRead_refines` that a read delivers whole records of the selected connections, a
beginning of the list that the table gives, and all that there is room for when nothing
interrupts it.
-/

namespace TcpStats

variable {Cred : Type}

/-! ### Addresses -/

/-- The bytes of an address, continued by zeros. -/
def In6Addr.octets (a : In6Addr) : ℕ → UInt8 := a.memory fun _ => 0

/-- The first `n` bits of two IPv6 addresses are the same. -/
def In6Addr.SameBits (n : ℕ) (a b : In6Addr) : Prop := Bits.Agree n a.octets b.octets

theorem bcmp_eq_false_iff {a b : ℕ → UInt8} {n : ℕ} : bcmp a b n = false ↔ ∀ i < n, a i = b i := by
  simp [bcmp]

/-- The comparison of prefixes compares the leading bits of what it is given. -/
theorem tsfMatchV6Prefix_matched (addr net : ℕ → UInt8) (pfx : UInt8) :
    (tsfMatchV6Prefix addr net pfx).matched = true ↔ Bits.Agree pfx.toNat addr net := by
  unfold tsfMatchV6Prefix
  by_cases h0 : pfx = 0
  · rw [if_pos h0, h0]
    simp [Bits.Agree]
  rw [if_neg h0, Bits.agree_iff]
  by_cases hfull : pfx.toNat / 8 > 0 ∧ bcmp addr net (pfx.toNat / 8) = true
  · rw [if_pos hfull]
    simp only [Bool.false_eq_true, false_iff]
    rintro ⟨hall, -⟩
    rw [bcmp_eq_false_iff.mpr hall] at hfull
    simp at hfull
  rw [if_neg hfull]
  have hall : ∀ i < pfx.toNat / 8, addr i = net i := by
    intro i hi
    have : bcmp addr net (pfx.toNat / 8) = false := by
      simpa [show pfx.toNat / 8 > 0 by omega] using hfull
    exact bcmp_eq_false_iff.mp this i hi
  by_cases hrem : pfx.toNat % 8 > 0
  · rw [if_pos hrem]
    simp only [beq_iff_eq]
    rw [and_iff_right hall]
    exact Bits.and_topMask_eq_iff hrem (Nat.mod_lt _ (by decide))
  · rw [if_neg hrem]
    simpa [show pfx.toNat % 8 = 0 by omega] using hall

/-- Within an address the memory behind it plays no part. -/
theorem agree_memory_iff {a b : In6Addr} {behind behind' : ℕ → UInt8} {n : ℕ} (h : n ≤ 128) :
    Bits.Agree n (a.memory behind) (b.memory behind') ↔ a.SameBits n b := by
  refine Bits.Agree.congr ?_ ?_
  · intro i hi
    rw [In6Addr.octets, a.memory_of_lt _ (by omega), a.memory_of_lt _ (by omega)]
  · intro i hi
    rw [In6Addr.octets, b.memory_of_lt _ (by omega), b.memory_of_lt _ (by omega)]

/-! ### Stages -/

/-- The search of a port list finds the ports before the first unused slot. -/
theorem findPort_iff {port : UInt16} {ports : List UInt16} :
    findPort port ports = true ↔ port ∈ ports.takeWhile (· ≠ 0) := by
  induction ports with
  | nil => simp [findPort]
  | cons p ps ih =>
    by_cases hp : p = 0
    · simp [findPort, hp]
    · simp [findPort, hp, ih]

/-- One address of a connection is in the network of a filter: an IPv4 connection's under
the mask, any other IPv6 connection's by the leading bits, `::` standing for any. -/
def AddrMatches (inp : Inpcb Cred) (addr4 net4 mask4 : InAddr) (addr6 net6 : In6Addr) (pfx : UInt8) :
    Prop :=
  if inp.hasVflag INP_IPV4 then addr4.sAddr &&& mask4.sAddr = net4.sAddr &&& mask4.sAddr
  else if inp.hasVflag INP_IPV6 then net6 = .unspecified ∨ addr6.SameBits pfx.toNat net6
  else True

/-- A connection that a filter selects, for a reader with a credential and a snapshot. -/
structure Selected (k : Kernel Cred) (cred : Cred) (gencnt : UInt64) (f : TcpstatsFilter)
    (inp : Inpcb Cred) : Prop where
  snapshot : inp.inpGencnt ≤ gencnt
  visible : k.crCanseeinpcb cred inp = 0
  ipv4 : f.has TSF_IPV4_ONLY = true → inp.hasVflag INP_IPV4 = true
  ipv6 : f.has TSF_IPV6_ONLY = true → inp.hasVflag INP_IPV6 = true
  state : ∀ tp, inp.tcpcb = some tp → f.stateMask = 0xFFFF ∨ f.stateMask &&& tp.tState.bit ≠ 0
  localPort : f.has TSF_LOCAL_PORT_MATCH = true →
    inp.incLport ∈ f.localPorts.toList.takeWhile (· ≠ 0)
  remotePort : f.has TSF_REMOTE_PORT_MATCH = true →
    inp.incFport ∈ f.remotePorts.toList.takeWhile (· ≠ 0)
  localAddr : f.has TSF_LOCAL_ADDR_MATCH = true →
    AddrMatches inp inp.incLaddr f.localAddrV4 f.localMaskV4 inp.inc6Laddr f.localAddrV6 f.localPrefixV6
  remoteAddr : f.has TSF_REMOTE_ADDR_MATCH = true →
    AddrMatches inp inp.incFaddr f.remoteAddrV4 f.remoteMaskV4 inp.inc6Faddr f.remoteAddrV6
      f.remotePrefixV6

theorem ipVersionStage_iff {f : TcpstatsFilter} {inp : Inpcb Cred} :
    ipVersionStage f inp = true ↔
      (f.has TSF_IPV4_ONLY = true → inp.hasVflag INP_IPV4 = true) ∧
        (f.has TSF_IPV6_ONLY = true → inp.hasVflag INP_IPV6 = true) := by
  simp [ipVersionStage, imp_iff_not_or]

theorem stateStage_iff {f : TcpstatsFilter} {inp : Inpcb Cred} :
    stateStage f inp = true ↔
      ∀ tp, inp.tcpcb = some tp → f.stateMask = 0xFFFF ∨ f.stateMask &&& tp.tState.bit ≠ 0 := by
  unfold stateStage
  rcases inp.tcpcb with _ | tp
  · simp
  · simp

theorem portStage_iff {f : TcpstatsFilter} {bit : UInt32} {ports : Vector UInt16 8} {port : UInt16} :
    portStage f bit ports port = true ↔
      (f.has bit = true → port ∈ ports.toList.takeWhile (· ≠ 0)) := by
  simp [portStage, imp_iff_not_or, findPort_iff]

/-- An address stage, when the comparison of IPv6 addresses is one of leading bits. -/
theorem addrStage_matched {f : TcpstatsFilter} {inp : Inpcb Cred} {bit : UInt32}
    {addr4 net4 mask4 : InAddr} {addr6 net6 : In6Addr} {pfx : UInt8} {match6 : Probe}
    (h6 : match6.matched = true ↔ addr6.SameBits pfx.toNat net6) :
    (addrStage f inp bit addr4 net4 mask4 net6 match6).matched = true ↔
      (f.has bit = true → AddrMatches inp addr4 net4 mask4 addr6 net6 pfx) := by
  unfold addrStage AddrMatches
  cases f.has bit
  · simp
  cases inp.hasVflag INP_IPV4
  · cases inp.hasVflag INP_IPV6
    · simp
    · by_cases hany : net6 = In6Addr.unspecified
      · simp [hany]
      · simp [hany, h6]
  · simp

theorem localAddrStage_matched (k : Kernel Cred) {f : TcpstatsFilter} (inp : Inpcb Cred)
    (h : f.localPrefixV6 ≤ 128) : (localAddrStage k f inp).matched = true ↔
      (f.has TSF_LOCAL_ADDR_MATCH = true → AddrMatches inp inp.incLaddr f.localAddrV4 f.localMaskV4
        inp.inc6Laddr f.localAddrV6 f.localPrefixV6) :=
  addrStage_matched ((tsfMatchV6Prefix_matched _ _ _).trans (agree_memory_iff h))

theorem remoteAddrStage_matched (k : Kernel Cred) {f : TcpstatsFilter} (inp : Inpcb Cred)
    (h : f.remotePrefixV6 ≤ 128) : (remoteAddrStage k f inp).matched = true ↔
      (f.has TSF_REMOTE_ADDR_MATCH = true → AddrMatches inp inp.incFaddr f.remoteAddrV4 f.remoteMaskV4
        inp.inc6Faddr f.remoteAddrV6 f.remotePrefixV6) :=
  addrStage_matched ((tsfMatchV6Prefix_matched _ _ _).trans (agree_memory_iff h))

/-- The stages that a connection must pass, all of them. -/
theorem filterStages_none_iff_stages {k : Kernel Cred} {cred : Cred} {gencnt : UInt64}
    {f : TcpstatsFilter} {inp : Inpcb Cred} :
    (filterStages k cred gencnt f inp).1 = none ↔
      inp.inpGencnt ≤ gencnt ∧ ipVersionStage f inp = true ∧ stateStage f inp = true ∧
        k.crCanseeinpcb cred inp = 0 ∧ localPortStage f inp = true ∧ remotePortStage f inp = true ∧
        (localAddrStage k f inp).matched = true ∧ (remoteAddrStage k f inp).matched = true := by
  unfold filterStages
  by_cases hg : inp.inpGencnt > gencnt
  · simp [hg]
  rw [if_neg hg, and_iff_right (UInt64.not_lt.mp hg)]
  cases ipVersionStage f inp
  · simp
  cases stateStage f inp
  · simp
  by_cases hc : k.crCanseeinpcb cred inp = 0
  swap
  · simp [hc]
  cases localPortStage f inp
  · simp [hc]
  cases remotePortStage f inp
  · simp [hc]
  cases hl : (localAddrStage k f inp).matched
  · simp [hc, hl]
  cases hr : (remoteAddrStage k f inp).matched
  · simp [hc, hl, hr]
  · simp [hc, hl, hr]

/-- The stages select the connections that are meant. -/
theorem filterStages_none_iff {k : Kernel Cred} {cred : Cred} {gencnt : UInt64} {f : TcpstatsFilter}
    {inp : Inpcb Cred} (hl : f.localPrefixV6 ≤ 128) (hr : f.remotePrefixV6 ≤ 128) :
    (filterStages k cred gencnt f inp).1 = none ↔ Selected k cred gencnt f inp := by
  rw [filterStages_none_iff_stages, ipVersionStage_iff, stateStage_iff, localPortStage, portStage_iff,
    remotePortStage, portStage_iff, localAddrStage_matched k inp hl, remoteAddrStage_matched k inp hr]
  constructor
  · rintro ⟨hg, ⟨h4, h6⟩, hs, hc, hlp, hrp, hla, hra⟩
    exact ⟨hg, hc, h4, h6, hs, hlp, hrp, hla, hra⟩
  · rintro ⟨hg, hc, h4, h6, hs, hlp, hrp, hla, hra⟩
    exact ⟨hg, ⟨h4, h6⟩, hs, hc, hlp, hrp, hla, hra⟩

/-! ### Records -/

open Classical in
/-- The selected connections of a table, in its order. -/
noncomputable def selected (k : Kernel Cred) (tcb : Tcbinfo Cred) (sc : Softc Cred) :
    List (Inpcb Cred) :=
  tcb.inpcbs.filter fun inp => Selected k sc.scCred tcb.ipiGencnt sc.scFilter inp

/-- The field groups that a filter asks for. -/
def fieldGroups (f : TcpstatsFilter) : UInt32 := if f.fieldMask = 0 then TSR_FIELDS_DEFAULT else f.fieldMask

/-- Their records, filled with the field groups of the filter and the time of entry. -/
noncomputable def selectedRecords (k : Kernel Cred) (tcb : Tcbinfo Cred) (sched : Schedule)
    (sc : Softc Cred) : List TcpStatsRecord :=
  (selected k tcb sc).mapIdx fun n inp =>
    freshRecord inp (fieldGroups sc.scFilter) sched.now k.tick (sched.ticks n)

theorem recordsOf_eq_selectedRecords {k : Kernel Cred} {tun : Tunables} {tcb : Tcbinfo Cred}
    {sched : Schedule} {sc : Softc Cred} (hl : sc.scFilter.localPrefixV6 ≤ 128)
    (hr : sc.scFilter.remotePrefixV6 ≤ 128) :
    (readEnv k tun tcb sched sc).recordsOf tcb.inpcbs = selectedRecords k tcb sched sc := by
  have hsel : tcb.inpcbs.filter (readEnv k tun tcb sched sc).passes = selected k tcb sc := by
    classical
    unfold selected
    refine List.filter_congr fun inp _ => ?_
    rw [Bool.eq_iff_iff, ReadEnv.passes, Option.isNone_iff_eq_none, decide_eq_true_eq]
    exact filterStages_none_iff hl hr
  rw [ReadEnv.recordsOf, hsel]
  rfl

/-- A read delivers whole records: the first `n` of the selected connections', which fit
into the buffer. It delivers all that fit when nothing interrupts it. -/
theorem tcpstatsRead_refines (k : Kernel Cred) (tun : Tunables) (tcb : Tcbinfo Cred) (sched : Schedule)
    (resid : ℕ) (sc : Softc Cred) (g : Globals) (hadm : Admitted tun sched sc g)
    (hl : sc.scFilter.localPrefixV6 ≤ 128) (hr : sc.scFilter.remotePrefixV6 ≤ 128) :
    let r := tcpstatsRead k tun tcb sched resid sc g
    (∃ n ≤ (selectedRecords k tcb sched sc).length,
      r.records = (selectedRecords k tcb sched sc).take n ∧
        TCP_STATS_RECORD_SIZE * n ≤ resid) ∧
      r.moved = r.records.flatMap TcpStatsRecord.bytes ∧
      r.moved.length = TCP_STATS_RECORD_SIZE * r.records.length ∧
      (selected k tcb sc).Sublist tcb.inpcbs ∧
      (sched.Quiet (readDeadline tun sched.now) tcb.inpcbs.length →
        r.error = none ∧
          r.records.length =
            min (resid / TCP_STATS_RECORD_SIZE) (selectedRecords k tcb sched sc).length) := by
  intro r
  obtain ⟨exit, st, out⟩ := tcpstatsRead_outcome k tcb resid hadm
  obtain ⟨pre, ⟨rest, heq⟩, hp⟩ := out.loop.prefix_of
  obtain ⟨more, hmore⟩ := recordsOf_append (readEnv k tun tcb sched sc) pre rest
  rw [heq, recordsOf_eq_selectedRecords hl hr] at hmore
  have hst : r.records = st.records := out.records
  have hrec : r.records = (readEnv k tun tcb sched sc).recordsOf pre := hst.trans hp.records
  have hmoved : r.moved = r.records.flatMap TcpStatsRecord.bytes :=
    out.moved.trans (hp.moved.trans (by rw [← hst]))
  refine ⟨⟨r.records.length, ?_, ?_, ?_⟩, hmoved, ?_, List.filter_sublist, ?_⟩
  · rw [hmore, hrec, List.length_append]
    omega
  · rw [hmore, ← hrec, List.take_left]
  · have := hp.room
    rw [← hst] at this
    omega
  · rw [hmoved, List.length_flatMap]
    simp [Nat.mul_comm]
  · intro hq
    obtain ⟨hexit, htake⟩ := out.loop.quiet hq
    refine ⟨out.error.trans hexit, ?_⟩
    rw [hst, htake, recordsOf_eq_selectedRecords hl hr, List.length_take]

/-- Every record is that of a connection that passes the stages. -/
theorem exists_of_mem_records {Cred : Type} {k : Kernel Cred} {tun : Tunables} {tcb : Tcbinfo Cred}
    {sched : Schedule} {resid : ℕ} {sc : Softc Cred} {g : Globals} {r : TcpStatsRecord}
    (hr : r ∈ (tcpstatsRead k tun tcb sched resid sc g).records) :
    ∃ inp ∈ tcb.inpcbs, (readEnv k tun tcb sched sc).passes inp = true ∧
      ∃ n, r = (readEnv k tun tcb sched sc).record n inp := by
  rcases read_cases tun sched sc g with hd | href | hadm
  · simp [tcpstatsRead_done k tun tcb sched resid g hd] at hr
  · simp [tcpstatsRead_refused k tcb resid href] at hr
  · obtain ⟨exit, st, out⟩ := tcpstatsRead_outcome k tcb resid hadm
    obtain ⟨pre, hpre, hp⟩ := out.loop.prefix_of
    rw [out.records, hp.records] at hr
    obtain ⟨i, hi, rfl⟩ := List.mem_mapIdx.mp hr
    obtain ⟨hmem, hpass⟩ := List.mem_filter.mp (List.getElem_mem hi)
    exact ⟨_, hpre.subset hmem, hpass, i, rfl⟩

/-! ### A table to run on -/

namespace Sample

/-- Credential 0 sees every connection, any other its own. -/
def kern : Kernel ℕ where
  crCanseeinpcb cred inp := if cred = 0 ∨ cred = inp.inpCred then 0 else 3
  tick := 1000
  behindLaddr _ _ := 0
  behindFaddr _ _ := 0
  behindLocalNet _ _ := 0
  behindRemoteNet _ _ := 0

/-- A connection of a credential, without a `tcpcb`. -/
def inpcb (cred : ℕ) (vflag : UInt8) (gencnt : UInt64) : Inpcb ℕ where
  inpCred := cred
  inpGencnt := gencnt
  inpVflag := vflag
  incLport := htons 443
  incFport := htons 50000
  incLaddr := ⟨htonl 0xC0A80001⟩
  incFaddr := ⟨htonl 0xC0A80002⟩
  inc6Laddr := .unspecified
  inc6Faddr := .unspecified
  inpSocket := none
  tcpcb := none

/-- A control block of a state in which nothing has happened yet. -/
def tcpcb (s : TcpState) : Tcpcb where
  tState := s
  tFlags := 0
  tFlags2 := 0
  tSrtt := 0
  tRttvar := 0
  tRxtcur := 0
  tRttlow := 0
  sndScale := 0
  rcvScale := 0
  sndNxt := 0
  sndUna := 0
  sndMax := 0
  rcvNxt := 0
  rcvAdv := 0
  sndCwnd := 0
  sndSsthresh := 0
  sndWnd := 0
  rcvWnd := 0
  tMaxseg := 0
  ccAlgo := none
  tFb := none
  tSndrexmitpack := 0
  tRcvoopack := 0
  tSndzerowin := 0
  tDupacks := 0
  rcvNumsacks := 0
  tScep := 0
  tRcep := 0
  tDsackBytes := 0
  tDsackPack := 0
  tSndtlppack := 0
  tSndtlpbyte := 0
  tTimers := Vector.replicate 5 0
  tRcvtime := 0

/-- A table, all of it in the snapshot of generation 7. -/
def table (inpcbs : List (Inpcb ℕ)) : Tcbinfo ℕ := ⟨inpcbs, 7, inpcbs.length.toUInt32⟩

/-- Two IPv4 connections, of credentials 1 and 2. -/
def two : Tcbinfo ℕ := table [inpcb 1 INP_IPV4 5, inpcb 2 INP_IPV4 6]

/-- A clock that stands still, and nothing that interrupts. -/
def still : Schedule where
  now := SBT_1S
  sigPending _ := false
  checkTime _ := SBT_1S
  uiomoveError _ := none
  ticks _ := 0
  endTime := SBT_1S

/-- A fresh descriptor of credential 0. -/
def fresh (f : TcpstatsFilter) : Softc ℕ where
  scCred := 0
  scDone := false
  scFilter := f
  scFull := false
  scLastRead := 0

/-- Counters when one descriptor is open. -/
def glob : Globals := ⟨1, 1, 0, 0, ⟨.zero, 0, 0⟩⟩

theorem still_quiet (len : ℕ) : still.Quiet (readDeadline .default still.now) len where
  signal _ _ := rfl
  inTime _ _ := .inr (show SBT_1S ≤ readDeadline .default SBT_1S by decide)
  fault _ _ := rfl

end Sample

/-- A descriptor that has just been opened and has a filter. -/
def reader (cred : Cred) (f : TcpstatsFilter) : Softc Cred := ⟨cred, false, f, false, 0⟩

/-- A connection that passes the stages is reported to a reader who has room for the whole table. -/
theorem mem_records_of_passes {k : Kernel Cred} {tcb : Tcbinfo Cred} {cred : Cred} {f : TcpstatsFilter}
    {inp : Inpcb Cred} (hmem : inp ∈ tcb.inpcbs) (hpass : (filterStages k cred tcb.ipiGencnt f inp).1 = none) :
    ∃ n, (readEnv k .default tcb Sample.still (reader cred f)).record n inp ∈
      (tcpstatsRead k .default tcb Sample.still (TCP_STATS_RECORD_SIZE * tcb.inpcbs.length) (reader cred f)
        Sample.glob).records := by
  set env := readEnv k .default tcb Sample.still (reader cred f) with henv
  have hpasses : env.passes inp = true := Option.isNone_iff_eq_none.mpr hpass
  have hadm : Admitted .default Sample.still (reader cred f) Sample.glob := ⟨rfl, rfl, rfl⟩
  have hrec := tcpstatsRead_records k (TCP_STATS_RECORD_SIZE * tcb.inpcbs.length) hadm
    (Sample.still_quiet tcb.inpcbs.length)
  rw [Nat.mul_div_cancel_left _ (by decide), List.take_of_length_le (length_recordsOf_le _ _)] at hrec
  obtain ⟨i, hi, hget⟩ := List.getElem_of_mem (List.mem_filter.mpr ⟨hmem, hpasses⟩)
  refine ⟨i, ?_⟩
  rw [hrec]
  exact List.mem_mapIdx.mpr ⟨i, hi, by rw [hget]⟩

/-- Both connections of the sample are delivered to a buffer with room for two records. -/
theorem tcpstatsRead_refines_two :
    Admitted .default Sample.still (Sample.fresh .default) Sample.glob ∧
      (tcpstatsRead Sample.kern .default Sample.two Sample.still 700 (Sample.fresh .default)
        Sample.glob).records.length =
        min 2 (selectedRecords Sample.kern Sample.two Sample.still (Sample.fresh .default)).length := by
  have adm : Admitted .default Sample.still (Sample.fresh .default) Sample.glob := ⟨rfl, rfl, rfl⟩
  have refines := tcpstatsRead_refines Sample.kern .default Sample.two Sample.still 700
    (Sample.fresh .default) Sample.glob adm (by decide) (by decide)
  exact ⟨adm, (refines.2.2.2.2 (Sample.still_quiet _)).2⟩

end TcpStats
