import TcpStats.Kernel.Net

/-!
# The filter structure

`struct tcpstats_filter` of `tcp_statsdev.h`, version 2, with its flag bits and the
field groups of `tcp_statsdev_filter.h`. The padding and spare words are left out: no
function reads them, and the parser leaves them zero.
-/

namespace TcpStats

/-- `TSF_VERSION`. -/
def TSF_VERSION : UInt32 := 2

/-- `TSF_MAX_PORTS`. -/
def TSF_MAX_PORTS : ℕ := 8

/-! ### Flags -/

def TSF_EXCLUDE_CLOSED : UInt32 := 0x00000001
def TSF_EXCLUDE_LISTEN : UInt32 := 0x00000002
def TSF_EXCLUDE_SYN_SENT : UInt32 := 0x00000004
def TSF_EXCLUDE_SYN_RCVD : UInt32 := 0x00000008
def TSF_EXCLUDE_ESTABLISHED : UInt32 := 0x00000010
def TSF_EXCLUDE_CLOSE_WAIT : UInt32 := 0x00000020
def TSF_EXCLUDE_FIN_WAIT_1 : UInt32 := 0x00000040
def TSF_EXCLUDE_CLOSING : UInt32 := 0x00000080
def TSF_EXCLUDE_LAST_ACK : UInt32 := 0x00000100
def TSF_EXCLUDE_FIN_WAIT_2 : UInt32 := 0x00000200
def TSF_EXCLUDE_TIME_WAIT : UInt32 := 0x00000400

/-- The exclude flag of a state. -/
def TcpState.excludeFlag : TcpState → UInt32
  | CLOSED => TSF_EXCLUDE_CLOSED
  | LISTEN => TSF_EXCLUDE_LISTEN
  | SYN_SENT => TSF_EXCLUDE_SYN_SENT
  | SYN_RECEIVED => TSF_EXCLUDE_SYN_RCVD
  | ESTABLISHED => TSF_EXCLUDE_ESTABLISHED
  | CLOSE_WAIT => TSF_EXCLUDE_CLOSE_WAIT
  | FIN_WAIT_1 => TSF_EXCLUDE_FIN_WAIT_1
  | CLOSING => TSF_EXCLUDE_CLOSING
  | LAST_ACK => TSF_EXCLUDE_LAST_ACK
  | FIN_WAIT_2 => TSF_EXCLUDE_FIN_WAIT_2
  | TIME_WAIT => TSF_EXCLUDE_TIME_WAIT

def TSF_STATE_INCLUDE_MODE : UInt32 := 0x00001000
def TSF_LOCAL_PORT_MATCH : UInt32 := 0x00002000
def TSF_REMOTE_PORT_MATCH : UInt32 := 0x00004000
def TSF_LOCAL_ADDR_MATCH : UInt32 := 0x00008000
def TSF_REMOTE_ADDR_MATCH : UInt32 := 0x00010000
def TSF_IPV4_ONLY : UInt32 := 0x00020000
def TSF_IPV6_ONLY : UInt32 := 0x00040000

/-! ### Field groups -/

def TSR_FIELDS_IDENTITY : UInt32 := 0x001
def TSR_FIELDS_STATE : UInt32 := 0x002
def TSR_FIELDS_CONGESTION : UInt32 := 0x004
def TSR_FIELDS_RTT : UInt32 := 0x008
def TSR_FIELDS_SEQUENCES : UInt32 := 0x010
def TSR_FIELDS_COUNTERS : UInt32 := 0x020
def TSR_FIELDS_TIMERS : UInt32 := 0x040
def TSR_FIELDS_BUFFERS : UInt32 := 0x080
def TSR_FIELDS_ECN : UInt32 := 0x100
def TSR_FIELDS_NAMES : UInt32 := 0x200
def TSR_FIELDS_ALL : UInt32 := 0x3FF
def TSR_FIELDS_DEFAULT : UInt32 := 0x08F

/-! ### Formats -/

def TSF_FORMAT_COMPACT : UInt32 := 0
def TSF_FORMAT_FULL : UInt32 := 1

/-- `struct tcpstats_filter`. -/
structure TcpstatsFilter where
  /-- Must be `TSF_VERSION`. -/
  version : UInt32
  /-- Bitmask of `1 << TCPS_*`; `0xFFFF` means all. -/
  stateMask : UInt16
  /-- The flag bits. -/
  flags : UInt32
  /-- Local ports in network byte order, 0 for an unused slot. -/
  localPorts : Vector UInt16 8
  /-- Remote ports in network byte order, 0 for an unused slot. -/
  remotePorts : Vector UInt16 8
  localAddrV4 : InAddr
  localMaskV4 : InAddr
  remoteAddrV4 : InAddr
  remoteMaskV4 : InAddr
  localAddrV6 : In6Addr
  localPrefixV6 : UInt8
  remoteAddrV6 : In6Addr
  remotePrefixV6 : UInt8
  /-- The field groups to fill; 0 means the default ones. -/
  fieldMask : UInt32
  /-- `TSF_FORMAT_COMPACT` or `TSF_FORMAT_FULL`. -/
  format : UInt32
  deriving DecidableEq, Repr

/-- The first slot of a port list. -/
def firstPort (ports : Vector UInt16 8) : UInt16 := ports[0]

/-- `f->flags & bit`. -/
def TcpstatsFilter.has (f : TcpstatsFilter) (bit : UInt32) : Bool := f.flags &&& bit != 0

/-- A zeroed filter with `version`, `state_mask` and `field_mask` set: what an empty filter
string yields, what parsing starts from, and what a fresh descriptor holds. -/
def TcpstatsFilter.default : TcpstatsFilter where
  version := TSF_VERSION
  stateMask := 0xFFFF
  flags := 0
  localPorts := Vector.replicate 8 0
  remotePorts := Vector.replicate 8 0
  localAddrV4 := ⟨0⟩
  localMaskV4 := ⟨0⟩
  remoteAddrV4 := ⟨0⟩
  remoteMaskV4 := ⟨0⟩
  localAddrV6 := .unspecified
  localPrefixV6 := 0
  remoteAddrV6 := .unspecified
  remotePrefixV6 := 0
  fieldMask := TSR_FIELDS_DEFAULT
  format := TSF_FORMAT_COMPACT

end TcpStats
