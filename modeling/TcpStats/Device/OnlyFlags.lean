import TcpStats.Device.AddrFamily

/-!
# `ipv4_only` and `ipv6_only`

Both flags ask for a bit of `inp_vflag`, and a record is IPv6 whenever the IPv6 bit is set. A
connection that serves both families therefore passes `ipv4_only` and is reported as IPv6:
`onlyFamilies_iff` says that nothing else breaks the two flags.
-/

namespace TcpStats

open CString Fallible

variable {Cred : Type}

/-- Every record of every read of a table, by a reader with a credential and the filter of a
string, has the family that the string asks for. -/
def OnlyFamilies (k : Kernel Cred) (tcb : Tcbinfo Cred) (cred : Cred) (input : CStr)
    (f : TcpstatsFilter) : Prop :=
  ∀ (tun : Tunables) (sched : Schedule) (resid : ℕ) (sc : Softc Cred) (g : Globals),
    sc.scCred = cred → sc.scFilter = f → ∀ r ∈ (tcpstatsRead k tun tcb sched resid sc g).records,
      (Occurs (cstr "ipv4_only") (directives input) → r.tsrAf = AF_INET) ∧
        (Occurs (cstr "ipv6_only") (directives input) → r.tsrAf = AF_INET6)

/-- No connection that a reader's filter lets through serves both families. -/
def NoDual (k : Kernel Cred) (tcb : Tcbinfo Cred) (cred : Cred) (f : TcpstatsFilter) : Prop :=
  ∀ inp ∈ tcb.inpcbs, (filterStages k cred tcb.ipiGencnt f inp).1 = none →
    ¬ (inp.hasVflag INP_IPV4 = true ∧ inp.hasVflag INP_IPV6 = true)

/-- When the flags select by the family that is reported. -/
theorem onlyFamilies_iff (input : CStr) (f : TcpstatsFilter) (h : tsfParseFilterString input = .ok f)
    (k : Kernel Cred) (tcb : Tcbinfo Cred) (cred : Cred) :
    OnlyFamilies k tcb cred input f ↔ (Occurs (cstr "ipv4_only") (directives input) → NoDual k tcb cred f) := by
  have h4 : f.has TSF_IPV4_ONLY = true ↔ _ := has_iff_occurs h (cstr "ipv4_only") (by decide)
  have h6 : f.has TSF_IPV6_ONLY = true ↔ _ := has_iff_occurs h (cstr "ipv6_only") (by decide)
  constructor
  · -- a dual connection would be reported, as IPv6
    rintro honly hoccurs inp hmem hpass ⟨-, hdual⟩
    obtain ⟨n, hr⟩ := mem_records_of_passes hmem hpass
    have haf := (honly _ _ _ (reader cred f) _ rfl rfl _ hr).1 hoccurs
    rw [ReadEnv.record, freshRecord_af, hdual] at haf
    exact absurd haf (by decide)
  · rintro hno tun sched resid sc g rfl rfl r hr
    obtain ⟨inp, hmem, hpass, n, rfl⟩ := exists_of_mem_records hr
    rw [ReadEnv.passes, Option.isNone_iff_eq_none] at hpass
    have hvers := ipVersionStage_iff.mp (filterStages_none_iff_stages.mp hpass).2.1
    rw [ReadEnv.record, freshRecord_af]
    constructor
    · intro hoccurs
      have hv4 := hvers.1 (h4.mpr hoccurs)
      have hv6 : ¬ inp.hasVflag INP_IPV6 = true := fun hv6 => hno hoccurs inp hmem hpass ⟨hv4, hv6⟩
      rw [if_neg hv6]
    · intro hoccurs
      rw [if_pos (hvers.2 (h6.mpr hoccurs))]

/-- The string is accepted. -/
theorem parse_ipv4Only : ∃ f, tsfParseFilterString (cstr "ipv4_only") = .ok f :=
  exists_ok_of_isOk (by decide)

/-- A table of IPv4 connections alone. -/
theorem onlyFamilies_two : ∃ f, tsfParseFilterString (cstr "ipv4_only") = .ok f ∧
    OnlyFamilies Sample.kern Sample.two 0 (cstr "ipv4_only") f := by
  obtain ⟨f, h⟩ := parse_ipv4Only
  refine ⟨f, h, (onlyFamilies_iff _ f h Sample.kern Sample.two 0).mpr fun _ inp hmem _ hdual => ?_⟩
  have hnone : ∀ inp ∈ Sample.two.inpcbs, inp.hasVflag INP_IPV6 = false := by decide
  rw [hnone inp hmem] at hdual
  exact absurd hdual.2 (by decide)

/-- A listening socket that takes connections of both families. -/
def Sample.dualListener : Inpcb ℕ :=
  { Sample.inpcb 1 (INP_IPV4 ||| INP_IPV6) 5 with tcpcb := some (Sample.tcpcb .LISTEN) }

/-- `ipv4_only` reports it, as IPv6. -/
theorem dualListener_reported : ∃ f, tsfParseFilterString (cstr "ipv4_only") = .ok f ∧
    ¬ OnlyFamilies Sample.kern (Sample.table [Sample.dualListener]) 0 (cstr "ipv4_only") f := by
  have hread : (tsfParseFilterString (cstr "ipv4_only")).toOption.map (fun f =>
      (tcpstatsRead Sample.kern .default (Sample.table [Sample.dualListener]) Sample.still 320 (Sample.fresh f)
        Sample.glob).records.map TcpStatsRecord.tsrAf) = some [AF_INET6] := by
    decide +kernel
  obtain ⟨f, h⟩ := parse_ipv4Only
  rw [h] at hread
  obtain ⟨r, hr, haf⟩ := List.map_eq_singleton_iff.mp (Option.some.inj hread)
  refine ⟨f, h, fun honly => ?_⟩
  have hinet := (honly .default Sample.still 320 (Sample.fresh f) Sample.glob rfl rfl r (by rw [hr]; simp)).1
    ⟨cstr "ipv4_only", by decide, by decide⟩
  rw [haf] at hinet
  exact absurd hinet (by decide)

end TcpStats
