import Mathlib.Data.Vector.Basic

/-!
# Addresses, ports and error numbers

What the module takes from the kernel's network headers: `struct in_addr` and
`struct in6_addr`, the byte order of ports and addresses, and the error numbers it
returns. The host is little-endian (amd64 and arm64), so `htons` and `htonl` reverse
the bytes of a word.
-/

namespace TcpStats

/-- The error numbers the module itself returns, and any other one that it passes on from
the kernel (`uiomove`, `devfs_set_cdevpriv`, `SYSCTL_IN`). -/
inductive Errno where
  | EPERM
  | ENOENT
  | EINTR
  | ENXIO
  | EFAULT
  | EBUSY
  | EINVAL
  | EMFILE
  | ENOTTY
  | ENOSPC
  | ENOTSUP
  | ENAMETOOLONG
  /-- Any other number. -/
  | other (code : ℕ)
  deriving DecidableEq, Repr

/-- `htons` and `ntohs`: the two bytes exchanged. -/
def htons (x : UInt16) : UInt16 := (x <<< 8) ||| (x >>> 8)

/-- `ntohs`. -/
abbrev ntohs (x : UInt16) : UInt16 := htons x

/-- `htonl`: the four bytes reversed. -/
def htonl (x : UInt32) : UInt32 :=
  (x <<< 24) ||| ((x &&& (0xFF00 : UInt32)) <<< 8) ||| ((x >>> 8) &&& (0xFF00 : UInt32)) ||| (x >>> 24)

/-- `struct in_addr`: an IPv4 address in network byte order. -/
structure InAddr where
  /-- `s_addr`. -/
  sAddr : UInt32
  deriving DecidableEq, Repr

/-- `INADDR_ANY`. -/
def INADDR_ANY : InAddr := ⟨0⟩

/-- `struct in6_addr`: the sixteen bytes of an IPv6 address. -/
structure In6Addr where
  /-- `s6_addr`. -/
  s6Addr : Vector UInt8 16
  deriving DecidableEq, Repr

/-- The unspecified address `::`, which is also what `bzero` leaves. -/
def In6Addr.unspecified : In6Addr := ⟨Vector.replicate 16 0⟩

/-- `IN6_IS_ADDR_UNSPECIFIED`. -/
def IN6_IS_ADDR_UNSPECIFIED (a : In6Addr) : Bool := decide (a = In6Addr.unspecified)

@[simp] theorem IN6_IS_ADDR_UNSPECIFIED_iff (a : In6Addr) :
    IN6_IS_ADDR_UNSPECIFIED a = true ↔ a = In6Addr.unspecified := by
  simp [IN6_IS_ADDR_UNSPECIFIED]

/-- The memory that begins at an address: its own sixteen bytes, and behind them whatever
the enclosing object holds there, which is no part of the address. -/
def In6Addr.memory (a : In6Addr) (behind : ℕ → UInt8) (i : ℕ) : UInt8 :=
  if h : i < 16 then a.s6Addr[i] else behind i

theorem In6Addr.memory_of_lt (a : In6Addr) (behind : ℕ → UInt8) {i : ℕ} (h : i < 16) :
    a.memory behind i = a.s6Addr[i] := dif_pos h

/-- `AF_INET`. -/
def AF_INET : UInt8 := 2

/-- `AF_INET6`. -/
def AF_INET6 : UInt8 := 28

/-- `INP_IPV4`. -/
def INP_IPV4 : UInt8 := 0x1

/-- `INP_IPV6`. -/
def INP_IPV6 : UInt8 := 0x2

/-- The states of a TCP connection, in the order of `netinet/tcp_fsm.h`. -/
inductive TcpState where
  | CLOSED
  | LISTEN
  | SYN_SENT
  | SYN_RECEIVED
  | ESTABLISHED
  | CLOSE_WAIT
  | FIN_WAIT_1
  | CLOSING
  | LAST_ACK
  | FIN_WAIT_2
  | TIME_WAIT
  deriving DecidableEq, Repr

/-- The number `TCPS_*` of a state. -/
def TcpState.code : TcpState → ℕ
  | CLOSED => 0
  | LISTEN => 1
  | SYN_SENT => 2
  | SYN_RECEIVED => 3
  | ESTABLISHED => 4
  | CLOSE_WAIT => 5
  | FIN_WAIT_1 => 6
  | CLOSING => 7
  | LAST_ACK => 8
  | FIN_WAIT_2 => 9
  | TIME_WAIT => 10

/-- `1 << TCPS_*`, in the sixteen bits of a state mask. -/
def TcpState.bit (s : TcpState) : UInt16 := 1 <<< s.code.toUInt16

end TcpStats
