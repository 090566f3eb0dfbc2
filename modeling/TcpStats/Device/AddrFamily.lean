import TcpStats.Device.PrefixBounds
import TcpStats.Filter.Lists

/-!
# Address directives and the family of records

An address directive is written in one family. The parser fills the fields of that family
and leaves the other's at zero, which the matcher takes for any address, and the record's
family is the socket's. So a directive alone keeps no family out: `families_kept_iff` says
that the records have the family of every address directive exactly if these are all IPv6
and the string says `ipv6_only` as well.
-/

namespace TcpStats

open CString Fallible

/-! ### Directives -/

/-- The value of an address directive. -/
def addrValue (token : CStr) : Option CStr :=
  if directiveKey token = cstr "local_addr" ∨ directiveKey token = cstr "remote_addr" then
    directiveValue token
  else none

/-- The family in which the value of an address directive is written. -/
def addrFamily (value : CStr) : UInt8 := if chr ':' ∈ value then AF_INET6 else AF_INET

/-- The string says `ipv6_only`. -/
def SaysIpv6Only (input : CStr) : Prop :=
  ∃ token ∈ directives input, directiveKey token = cstr "ipv6_only"

theorem has_ipv6Only_iff {input : CStr} {f : TcpstatsFilter} (h : tsfParseFilterString input = .ok f) :
    f.has TSF_IPV6_ONLY = true ↔ SaysIpv6Only input :=
  has_iff_occurs h (cstr "ipv6_only") (by decide)

/-! ### Records -/

/-- Every record of every read under the filter of a string has the family of each of its
address directives. -/
def FamiliesKept (input : CStr) (f : TcpstatsFilter) : Prop :=
  ∀ (Cred : Type) (k : Kernel Cred) (tun : Tunables) (tcb : Tcbinfo Cred) (sched : Schedule) (resid : ℕ)
    (sc : Softc Cred) (g : Globals), sc.scFilter = f →
    ∀ r ∈ (tcpstatsRead k tun tcb sched resid sc g).records, ∀ token ∈ directives input,
      ∀ value, addrValue token = some value → r.tsrAf = addrFamily value

/-- Where an IPv4 address is kept in the place of an IPv6 one: in its last four bytes. -/
def InAddr.overlaid (a : InAddr) : In6Addr :=
  ⟨Vector.ofFn fun i : Fin 16 => if i.val < 12 then 0 else (Bytes.le32 a.sAddr).getD (i.val - 12) 0⟩

/-- The connection that serves IPv4, and has the addresses and ports of the filter. -/
def impostor (f : TcpstatsFilter) (vflag : UInt8) : Inpcb Unit where
  inpCred := ()
  inpGencnt := 0
  inpVflag := vflag
  incLport := firstPort f.localPorts
  incFport := firstPort f.remotePorts
  incLaddr := f.localAddrV4
  incFaddr := f.remoteAddrV4
  inc6Laddr := f.localAddrV4.overlaid
  inc6Faddr := f.remoteAddrV4.overlaid
  inpSocket := none
  tcpcb := none

/-- A descriptor with the filter of a string. -/
def filtered (f : TcpstatsFilter) : Softc Unit := ⟨(), false, f, false, 0⟩

/-- The table of one connection. -/
def only (inp : Inpcb Unit) : Tcbinfo Unit := ⟨[inp], 0, 1⟩

/-- The same connection with a `tcpcb`. -/
def twin (f : TcpstatsFilter) (vflag : UInt8) (tcpcb : Option Tcpcb) : Inpcb Unit :=
  { impostor f vflag with tcpcb }

/-- It passes the stages if its state does. -/
theorem twin_passes {f : TcpstatsFilter} {vflag : UInt8} {tcpcb : Option Tcpcb}
    (h4 : vflag &&& INP_IPV4 ≠ 0) (h6 : f.has TSF_IPV6_ONLY = true → vflag &&& INP_IPV6 ≠ 0)
    (hl : f.has TSF_LOCAL_PORT_MATCH = true → firstPort f.localPorts ≠ 0)
    (hr : f.has TSF_REMOTE_PORT_MATCH = true → firstPort f.remotePorts ≠ 0)
    (hstate : stateStage f (twin f vflag tcpcb) = true) :
    (filterStages seeAll () 0 f (twin f vflag tcpcb)).1 = none := by
  have hv4 : (twin f vflag tcpcb).hasVflag INP_IPV4 = true := by simpa [Inpcb.hasVflag, twin, impostor] using h4
  have hstage : ∀ bit addr mask net6 match6,
      (addrStage f (twin f vflag tcpcb) bit addr addr mask net6 match6).matched = true := by
    intro bit addr mask net6 match6
    unfold addrStage
    rw [hv4]
    cases f.has bit
    · rfl
    · simp
  refine filterStages_none_iff_stages.mpr ⟨UInt64.le_refl _, ?_, hstate, rfl, portStage_first hl,
    portStage_first hr, hstage .., hstage ..⟩
  refine ipVersionStage_iff.mpr ⟨fun _ => hv4, fun hf => ?_⟩
  simpa [Inpcb.hasVflag, twin, impostor] using h6 hf

/-- The connection is reported. -/
theorem impostor_reported (f : TcpstatsFilter) (vflag : UInt8) (h4 : vflag &&& INP_IPV4 ≠ 0)
    (h6 : f.has TSF_IPV6_ONLY = true → vflag &&& INP_IPV6 ≠ 0)
    (hl : f.has TSF_LOCAL_PORT_MATCH = true → firstPort f.localPorts ≠ 0)
    (hr : f.has TSF_REMOTE_PORT_MATCH = true → firstPort f.remotePorts ≠ 0) :
    ∃ r ∈ (tcpstatsRead seeAll .default (only (impostor f vflag)) Sample.still 320 (filtered f)
        Sample.glob).records,
      r.tsrAf = if vflag &&& INP_IPV6 ≠ 0 then AF_INET6 else AF_INET := by
  have hpass : (filterStages seeAll () 0 f (impostor f vflag)).1 = none := twin_passes h4 h6 hl hr rfl
  have hin : impostor f vflag ∈ (only (impostor f vflag)).inpcbs := List.mem_singleton.mpr rfl
  obtain ⟨n, hmem⟩ := mem_records_of_passes hin hpass
  refine ⟨_, hmem, ?_⟩
  rw [ReadEnv.record, freshRecord_af]
  simp [Inpcb.hasVflag, impostor]

/-- When the records keep to the families of the address directives. -/
theorem families_kept_iff (input : CStr) (f : TcpstatsFilter) (h : tsfParseFilterString input = .ok f)
    (haddr : ∃ token ∈ directives input, ∃ value, addrValue token = some value) :
    FamiliesKept input f ↔
      SaysIpv6Only input ∧
        ∀ token ∈ directives input, ∀ value, addrValue token = some value → chr ':' ∈ value := by
  obtain ⟨hl, hr⟩ := ports_head h
  constructor
  · intro hkept
    have hcolon : ∀ token ∈ directives input, ∀ value, addrValue token = some value → chr ':' ∈ value := by
      -- a socket of both families is reported as IPv6, and its IPv4 address is the filter's
      intro token htoken value hvalue
      by_contra hno
      obtain ⟨r, hmem, haf⟩ := impostor_reported f 3 (by decide) (fun _ => by decide) hl hr
      have := hkept Unit seeAll .default _ Sample.still 320 (filtered f) Sample.glob rfl r hmem token htoken
        value hvalue
      rw [haf, addrFamily, if_neg hno] at this
      exact absurd this (by decide)
    refine ⟨?_, hcolon⟩
    -- without the flag an IPv4 socket is reported, against any address directive
    by_contra hno
    obtain ⟨token, htoken, value, hvalue⟩ := haddr
    have h6 : f.has TSF_IPV6_ONLY = true → INP_IPV4 &&& INP_IPV6 ≠ 0 :=
      fun h6 => absurd ((has_ipv6Only_iff h).mp h6) hno
    obtain ⟨r, hmem, haf⟩ := impostor_reported f INP_IPV4 (by decide) h6 hl hr
    have := hkept Unit seeAll .default _ Sample.still 320 (filtered f) Sample.glob rfl r hmem token htoken
      value hvalue
    rw [haf, addrFamily, if_pos (hcolon token htoken value hvalue)] at this
    exact absurd this (by decide)
  · rintro ⟨hflag, hcolon⟩ Cred k tun tcb sched resid sc g rfl r hr token htoken value hvalue
    obtain ⟨inp, -, hpass, n, rfl⟩ := exists_of_mem_records hr
    rw [ReadEnv.passes, Option.isNone_iff_eq_none, filterStages_none_iff_stages] at hpass
    have h6 := (ipVersionStage_iff.mp hpass.2.1).2 ((has_ipv6Only_iff h).mpr hflag)
    rw [ReadEnv.record, freshRecord_af, h6, addrFamily, if_pos (hcolon token htoken value hvalue)]
    rfl

/-- An IPv6 prefix with `ipv6_only` keeps to its family. -/
theorem families_kept_ipv6Only : ∃ f,
    tsfParseFilterString (cstr "local_addr=2001:db8::/32 ipv6_only") = .ok f ∧
      FamiliesKept (cstr "local_addr=2001:db8::/32 ipv6_only") f := by
  have hdir : directives (cstr "local_addr=2001:db8::/32 ipv6_only") =
      [cstr "local_addr=2001:db8::/32", cstr "ipv6_only"] := by
    decide
  have haddr : addrValue (cstr "local_addr=2001:db8::/32") = some (cstr "2001:db8::/32") := by decide
  have hflag : addrValue (cstr "ipv6_only") = none := by decide
  have haccepted : ∃ f, tsfParseFilterString (cstr "local_addr=2001:db8::/32 ipv6_only") = .ok f :=
    exists_ok_of_isOk (by decide)
  obtain ⟨f, hp⟩ := haccepted
  refine ⟨f, hp, (families_kept_iff _ f hp ⟨_, by rw [hdir]; exact List.mem_cons_self .., _, haddr⟩).mpr ?_⟩
  refine ⟨⟨cstr "ipv6_only", by rw [hdir]; simp, by decide⟩, ?_⟩
  intro token htoken value hvalue
  rw [hdir] at htoken
  simp only [List.mem_cons, List.not_mem_nil, or_false] at htoken
  rcases htoken with rfl | rfl
  · rw [haddr, Option.some.injEq] at hvalue
    subst hvalue
    decide
  · rw [hflag] at hvalue
    cases hvalue

/-- An IPv6 connection, from `::` to `::`. -/
def Sample.v6 : Inpcb Unit := { impostor .default INP_IPV6 with incLport := htons 443 }

/-- An IPv4 prefix lets the IPv6 connection through. -/
theorem v4_directive_reports_v6 : ∃ f, tsfParseFilterString (cstr "local_addr=10.0.0.0/8") = .ok f ∧
    ¬ FamiliesKept (cstr "local_addr=10.0.0.0/8") f := by
  have hread : (tsfParseFilterString (cstr "local_addr=10.0.0.0/8")).toOption.map (fun f =>
      (tcpstatsRead seeAll .default (only Sample.v6) Sample.still 320 (filtered f) Sample.glob).records.map
        TcpStatsRecord.tsrAf) = some [AF_INET6] := by
    decide +kernel
  rcases hp : tsfParseFilterString (cstr "local_addr=10.0.0.0/8") with e | f
  · rw [hp] at hread
    cases hread
  refine ⟨f, rfl, fun hkept => ?_⟩
  rw [hp] at hread
  have hread := Option.some.inj hread
  obtain ⟨r, hr⟩ := List.map_eq_singleton_iff.mp hread
  have := hkept Unit seeAll .default _ Sample.still 320 (filtered f) Sample.glob rfl r (by rw [hr.1]; simp)
    (cstr "local_addr=10.0.0.0/8") (by decide) (cstr "10.0.0.0/8") (by decide)
  rw [hr.2] at this
  exact absurd this (by decide)

end TcpStats
