import TcpStats.Device.ReadSpec
import TcpStats.Filter.Lists

/-!
# Ports and states, from the string to the connection

A filter string lists ports and states by name; the loop of a read compares the ports of a
connection in network byte order against slots that end at the first unused one, and its
state against a mask with a value of its own for all states. `listed_iff` says that the two
agree.
-/

namespace TcpStats

open CString

variable {Cred : Type}

/-- A connection in a state and with two ports, in network byte order, is what a string lists. -/
structure Listed (tokens : List CStr) (s : TcpState) (lport fport : UInt16) : Prop where
  state : StateSelected tokens s
  localPort : Occurs (cstr "local_port") tokens → Lists (cstr "local_port") tokens (decimal (ntohs lport).toNat)
  remotePort : Occurs (cstr "remote_port") tokens → Lists (cstr "remote_port") tokens (decimal (ntohs fport).toNat)

/-- The mask of all states has every state, so that its special case makes no difference. -/
theorem stateStage_mask {f : TcpstatsFilter} {inp : Inpcb Cred} {tp : Tcpcb} (h : inp.tcpcb = some tp) :
    stateStage f inp = true ↔ HasState f.stateMask tp.tState := by
  simp only [stateStage_iff, h, Option.some.injEq, forall_eq']
  constructor
  · rintro (hall | hbit)
    · rw [hall]
      exact hasState_all tp.tState
    · exact hbit
  · exact .inr

/-- A connection passes the state and port stages under the filter of a string exactly if it is
what the string lists. -/
theorem listed_iff (input : CStr) (f : TcpstatsFilter) (h : tsfParseFilterString input = .ok f)
    (inp : Inpcb Cred) (tp : Tcpcb) (htcp : inp.tcpcb = some tp) :
    (stateStage f inp = true ∧ localPortStage f inp = true ∧ remotePortStage f inp = true) ↔
      Listed (directives input) tp.tState inp.incLport inp.incFport := by
  obtain ⟨hlocal, hremote⟩ := portsRead h
  rw [stateStage_mask htcp, stateMask_iff h, localPortStage, portStage_iff, remotePortStage, portStage_iff,
    has_iff_occurs h (cstr "local_port") (by decide), has_iff_occurs h (cstr "remote_port") (by decide),
    hlocal.listed, hremote.listed]
  constructor
  · rintro ⟨hs, hl, hr⟩
    exact ⟨hs, hl, hr⟩
  · rintro ⟨hs, hl, hr⟩
    exact ⟨hs, hl, hr⟩

/-- A connection from port 443 in a state, of credential 1. -/
def Sample.https (s : TcpState) : Inpcb ℕ :=
  { Sample.inpcb 1 INP_IPV4 5 with tcpcb := some (Sample.tcpcb s) }

/-- An established connection from port 443 is among those of a string that lists both. -/
theorem listed_https : ∃ f, tsfParseFilterString (cstr "include_state=Established,time_wait local_port=80,,443") = .ok f ∧
    stateStage f (Sample.https .ESTABLISHED) = true ∧
    Listed (directives (cstr "include_state=Established,time_wait local_port=80,,443")) .ESTABLISHED
      (htons 443) (htons 50000) := by
  have hstages : (tsfParseFilterString (cstr "include_state=Established,time_wait local_port=80,,443")).toOption.any
      (fun f => stateStage f (Sample.https .ESTABLISHED) && localPortStage f (Sample.https .ESTABLISHED) &&
        remotePortStage f (Sample.https .ESTABLISHED)) = true := by
    decide +kernel
  rcases hok : tsfParseFilterString (cstr "include_state=Established,time_wait local_port=80,,443") with e | f
  · rw [hok] at hstages
    cases hstages
  rw [hok] at hstages
  have h : (stateStage f (Sample.https .ESTABLISHED) && localPortStage f (Sample.https .ESTABLISHED) &&
      remotePortStage f (Sample.https .ESTABLISHED)) = true := hstages
  simp only [Bool.and_eq_true] at h
  exact ⟨f, rfl, h.1.1, (listed_iff _ f hok (Sample.https .ESTABLISHED) (Sample.tcpcb .ESTABLISHED) rfl).mp
    ⟨h.1.1, h.1.2, h.2⟩⟩

end TcpStats
