import TcpStats.Device.AddrFamily
import TcpStats.Device.ListStages

/-!
# The exclude flags of a filter

`struct tcpstats_filter` has a flag for each state to exclude beside the state mask, and the
loop of a read looks at the mask only. `honoured_iff` says which of the filters that
`TCPSTATS_SET_FILTER` accepts keep the excluded states out all the same.
-/

namespace TcpStats

variable {Cred : Type}

/-- No record of a read after the filter has been installed is of a state that it excludes. -/
def Honoured (f : TcpstatsFilter) : Prop :=
  ∀ (Cred : Type) (k : Kernel Cred) (tun : Tunables) (tcb tcb' : Tcbinfo Cred) (sched : Schedule) (resid : ℕ)
    (sc sc' : Softc Cred) (g : Globals), tcpstatsIoctl tcb (.setFilter f) sc = (none, sc', none) →
    ∀ r ∈ (tcpstatsRead k tun tcb' sched resid sc' g).records,
      ∀ s : TcpState, f.has s.excludeFlag = true → r.tsrState ≠ Int32.ofNat s.code

/-- A filter that lets no connection through: it asks for ports and lists none. -/
def SelectsNothing (f : TcpstatsFilter) : Prop :=
  f.has TSF_LOCAL_PORT_MATCH = true ∧ firstPort f.localPorts = 0 ∨
    f.has TSF_REMOTE_PORT_MATCH = true ∧ firstPort f.remotePorts = 0

/-- The numbers of the states tell them apart. -/
theorem code_inj {s t : TcpState} (h : Int32.ofNat s.code = Int32.ofNat t.code) : s = t := by
  revert h
  cases s <;> cases t <;> decide

theorem portStage_none {f : TcpstatsFilter} {bit : UInt32} {ports : Vector UInt16 8} {port : UInt16}
    (hbit : f.has bit = true) (hfirst : firstPort ports = 0) : portStage f bit ports port = false := by
  obtain ⟨rest, hrest⟩ := ports_eq_cons ports
  rw [portStage, hbit, hrest, hfirst]
  rfl

/-- A connection that passes shows that there is something to select. -/
theorem not_selectsNothing {k : Kernel Cred} {cred : Cred} {gencnt : UInt64} {f : TcpstatsFilter}
    {inp : Inpcb Cred} (h : (filterStages k cred gencnt f inp).1 = none) : ¬ SelectsNothing f := by
  obtain ⟨-, -, -, -, hlocal, hremote, -, -⟩ := filterStages_none_iff_stages.mp h
  rintro (⟨hbit, hfirst⟩ | ⟨hbit, hfirst⟩)
  · rw [localPortStage, portStage_none hbit hfirst] at hlocal
    cases hlocal
  · rw [remotePortStage, portStage_none hbit hfirst] at hremote
    cases hremote

/-- A socket of both families is reported if its state passes, unless nothing is. -/
theorem Honoured.apart {f : TcpstatsFilter} (h : Honoured f) (hv : f.version = TSF_VERSION)
    (hsome : ¬ SelectsNothing f)
    {tcpcb : Option Tcpcb} (hstate : stateStage f (twin f 3 tcpcb) = true) {s : TcpState}
    (hs : f.has s.excludeFlag = true) :
    reportedState tcpcb ≠ Int32.ofNat s.code := by
  have hl : f.has TSF_LOCAL_PORT_MATCH = true → firstPort f.localPorts ≠ 0 :=
    fun hbit hfirst => hsome (.inl ⟨hbit, hfirst⟩)
  have hr : f.has TSF_REMOTE_PORT_MATCH = true → firstPort f.remotePorts ≠ 0 :=
    fun hbit hfirst => hsome (.inr ⟨hbit, hfirst⟩)
  have hpass : (filterStages seeAll () 0 f (twin f 3 tcpcb)).1 = none :=
    twin_passes (by decide) (fun _ => by decide) hl hr hstate
  have hin : twin f 3 tcpcb ∈ (only (twin f 3 tcpcb)).inpcbs := List.mem_singleton.mpr rfl
  obtain ⟨n, hmem⟩ := mem_records_of_passes hin hpass
  have hset : tcpstatsIoctl (only (twin f 3 tcpcb)) (.setFilter f) (reader () .default) =
      (none, reader () f, none) := by
    simp [tcpstatsIoctl, hv, reader]
  have := h Unit seeAll .default _ _ Sample.still _ _ _ Sample.glob hset _ hmem s hs
  rwa [ReadEnv.record, freshRecord_state] at this

/-- When the exclude flags are honoured. A connection without a `tcpcb` is reported as closed. -/
theorem honoured_iff (f : TcpstatsFilter) (hv : f.version = TSF_VERSION) :
    Honoured f ↔ SelectsNothing f ∨
      ∀ s : TcpState, f.has s.excludeFlag = true → s ≠ .CLOSED ∧ ¬ HasState f.stateMask s := by
  constructor
  · intro h
    by_cases hsome : SelectsNothing f
    · exact .inl hsome
    refine .inr fun s hs => ⟨?_, fun hbit => ?_⟩
    · rintro rfl
      have hstate : stateStage f (twin f 3 none) = true := rfl
      exact h.apart hv hsome hstate hs rfl
    · have htcp : (twin f 3 (some (Sample.tcpcb s))).tcpcb = some (Sample.tcpcb s) := rfl
      have hstate : stateStage f (twin f 3 (some (Sample.tcpcb s))) = true := (stateStage_mask htcp).mpr hbit
      exact h.apart hv hsome hstate hs rfl
  · rintro hcond Cred k tun tcb tcb' sched resid sc sc' g hset r hr s hs
    obtain rfl : { sc with scFilter := f } = sc' := by simpa [tcpstatsIoctl, hv] using hset
    obtain ⟨inp, -, hpass, n, rfl⟩ := exists_of_mem_records hr
    rw [ReadEnv.passes, Option.isNone_iff_eq_none] at hpass
    obtain ⟨hclosed, hmask⟩ := hcond.resolve_left (not_selectsNothing hpass) s hs
    rw [ReadEnv.record, freshRecord_state]
    rcases htcp : inp.tcpcb with _ | tp
    · exact fun heq => hclosed (code_inj (t := .CLOSED) heq.symm)
    · intro heq
      have hbit := (stateStage_mask htcp).mp (filterStages_none_iff_stages.mp hpass).2.2.1
      rw [code_inj heq] at hbit
      exact hmask hbit

/-- The filter that `read_tcpstats -L` installs. -/
def Sample.excludeListen : TcpstatsFilter :=
  { TcpstatsFilter.default with flags := TSF_EXCLUDE_LISTEN, fieldMask := 0 }

/-- The same with the state cleared in the mask too. -/
def Sample.maskListen : TcpstatsFilter := { Sample.excludeListen with stateMask := 0xFFFD }

theorem honoured_maskListen : Honoured Sample.maskListen := by
  refine (honoured_iff Sample.maskListen rfl).mpr (.inr fun s => ?_)
  cases s <;> decide

/-- Under the flag alone a listening socket is reported. -/
theorem excludeListen_reported : ¬ Honoured Sample.excludeListen := by
  intro h
  have hread : (tcpstatsRead Sample.kern .default (Sample.table [Sample.https .LISTEN]) Sample.still 320
      (Sample.fresh Sample.excludeListen) Sample.glob).records.map TcpStatsRecord.tsrState = [1] := by
    decide +kernel
  obtain ⟨r, hr, hstate⟩ := List.map_eq_singleton_iff.mp hread
  exact h ℕ Sample.kern .default (Sample.table []) (Sample.table [Sample.https .LISTEN]) Sample.still 320
    (Sample.fresh .default) (Sample.fresh Sample.excludeListen) Sample.glob rfl r (by rw [hr]; simp) .LISTEN
    (by decide) hstate

end TcpStats
