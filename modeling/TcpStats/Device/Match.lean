import TcpStats.Device.Record

/-!
# Which connections a filter selects

The tests that the loop of `tcpstats_read` makes on each connection, and
`tsf_match_v6_prefix`. A comparison of addresses also says which byte indices it looks
at, in the connection's address and in the filter's alike: a prefix length beyond 128
sends it past the sixteen bytes of an address, and what it finds there is memory of the
enclosing objects (`In6Addr.memory`).
-/

namespace TcpStats

variable {Cred : Type}

/-- What a comparison of addresses finds, and the byte indices it looks at. -/
structure Probe where
  matched : Bool
  examined : List ℕ
  deriving DecidableEq

/-- `bcmp(a, b, n) != 0`. -/
def bcmp (a b : ℕ → UInt8) (n : ℕ) : Bool := (List.range n).any fun i => a i != b i

/-- `tsf_match_v6_prefix`. -/
def tsfMatchV6Prefix (addr net : ℕ → UInt8) (pfx : UInt8) : Probe :=
  if pfx = 0 then ⟨true, []⟩
  else
    let fullBytes := pfx.toNat / 8
    let remainderBits := pfx.toNat % 8
    if fullBytes > 0 ∧ bcmp addr net fullBytes then ⟨false, List.range fullBytes⟩
    else if remainderBits > 0 then
      let mask : UInt8 := 0xFF <<< (8 - remainderBits).toUInt8
      ⟨addr fullBytes &&& mask == net fullBytes &&& mask, List.range fullBytes ++ [fullBytes]⟩
    else ⟨true, List.range fullBytes⟩

/-- The parts of the kernel that the device calls on. -/
structure Kernel (Cred : Type) where
  /-- `cr_canseeinpcb`: 0 if the credential may see the connection. -/
  crCanseeinpcb : Cred → Inpcb Cred → ℕ
  /-- Microseconds per tick. -/
  tick : Int32
  /-- The memory behind the local address of a control block. -/
  behindLaddr : Inpcb Cred → ℕ → UInt8
  /-- The memory behind the remote address of a control block. -/
  behindFaddr : Inpcb Cred → ℕ → UInt8
  /-- The memory behind the local network of a filter. -/
  behindLocalNet : TcpstatsFilter → ℕ → UInt8
  /-- The memory behind the remote network of a filter. -/
  behindRemoteNet : TcpstatsFilter → ℕ → UInt8

/-- Why a connection is skipped (`TSF_SKIP_*`). -/
inductive Skip where
  | gencnt
  | cred
  | ipver
  | state
  | port
  | addr
  deriving DecidableEq

/-- The IP version stage: an `only` flag wants its bit in `inp_vflag`. -/
def ipVersionStage (f : TcpstatsFilter) (inp : Inpcb Cred) : Bool :=
  (! f.has TSF_IPV4_ONLY || inp.hasVflag INP_IPV4) && (! f.has TSF_IPV6_ONLY || inp.hasVflag INP_IPV6)

/-- The state stage: a connection without a `tcpcb` has no state to test. -/
def stateStage (f : TcpstatsFilter) (inp : Inpcb Cred) : Bool :=
  match inp.tcpcb with
  | some tp => f.stateMask == 0xFFFF || f.stateMask &&& tp.tState.bit != 0
  | none => true

/-- The search of a port list: up to the first unused slot. -/
def findPort (port : UInt16) : List UInt16 → Bool
  | [] => false
  | p :: ps => p != 0 && (port == p || findPort port ps)

/-- A port stage, for the flag, the list and the port of one direction. -/
def portStage (f : TcpstatsFilter) (bit : UInt32) (ports : Vector UInt16 8) (port : UInt16) : Bool :=
  ! f.has bit || findPort port ports.toList

/-- The local port stage. -/
def localPortStage (f : TcpstatsFilter) (inp : Inpcb Cred) : Bool :=
  portStage f TSF_LOCAL_PORT_MATCH f.localPorts inp.incLport

/-- The remote port stage. -/
def remotePortStage (f : TcpstatsFilter) (inp : Inpcb Cred) : Bool :=
  portStage f TSF_REMOTE_PORT_MATCH f.remotePorts inp.incFport

/-- An address stage, for the flag and the addresses of one direction. An IPv4 connection
is compared under the mask, any other IPv6 one by its prefix unless the network is `::`. -/
def addrStage (f : TcpstatsFilter) (inp : Inpcb Cred) (bit : UInt32) (addr4 net4 mask4 : InAddr)
    (net6 : In6Addr) (match6 : Probe) : Probe :=
  if ! f.has bit then ⟨true, []⟩
  else if inp.hasVflag INP_IPV4 then
    ⟨addr4.sAddr &&& mask4.sAddr == net4.sAddr &&& mask4.sAddr, []⟩
  else if inp.hasVflag INP_IPV6 then
    if IN6_IS_ADDR_UNSPECIFIED net6 then ⟨true, []⟩ else match6
  else ⟨true, []⟩

/-- The local address stage. -/
def localAddrStage (k : Kernel Cred) (f : TcpstatsFilter) (inp : Inpcb Cred) : Probe :=
  addrStage f inp TSF_LOCAL_ADDR_MATCH inp.incLaddr f.localAddrV4 f.localMaskV4 f.localAddrV6 <|
    tsfMatchV6Prefix (inp.inc6Laddr.memory (k.behindLaddr inp))
      (f.localAddrV6.memory (k.behindLocalNet f)) f.localPrefixV6

/-- The remote address stage. -/
def remoteAddrStage (k : Kernel Cred) (f : TcpstatsFilter) (inp : Inpcb Cred) : Probe :=
  addrStage f inp TSF_REMOTE_ADDR_MATCH inp.incFaddr f.remoteAddrV4 f.remoteMaskV4 f.remoteAddrV6 <|
    tsfMatchV6Prefix (inp.inc6Faddr.memory (k.behindFaddr inp))
      (f.remoteAddrV6.memory (k.behindRemoteNet f)) f.remotePrefixV6

/-- All the stages in their order: why the connection is skipped, if it is, and the byte
indices of addresses looked at on the way. -/
def filterStages (k : Kernel Cred) (cred : Cred) (gencnt : UInt64) (f : TcpstatsFilter)
    (inp : Inpcb Cred) : Option Skip × List ℕ :=
  if inp.inpGencnt > gencnt then (some .gencnt, [])
  else if ! ipVersionStage f inp then (some .ipver, [])
  else if ! stateStage f inp then (some .state, [])
  else if k.crCanseeinpcb cred inp ≠ 0 then (some .cred, [])
  else if ! localPortStage f inp then (some .port, [])
  else if ! remotePortStage f inp then (some .port, [])
  else
    let l := localAddrStage k f inp
    let r := remoteAddrStage k f inp
    if ! l.matched then (some .addr, l.examined)
    else if ! r.matched then (some .addr, l.examined ++ r.examined)
    else (none, l.examined ++ r.examined)

end TcpStats
