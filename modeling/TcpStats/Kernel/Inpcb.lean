import TcpStats.Kernel.Net
import TcpStats.Lib.CString

/-!
# Protocol control blocks

The parts of the kernel's `struct socket`, `struct tcpcb` and `struct inpcb` that the
module reads, and the table of control blocks that its iterator walks. Credentials are
opaque: the module only hands them to `cr_canseeinpcb`.
-/

namespace TcpStats

open CString

/-- `sbintime_t`: a time in 32.32 fixed point. -/
abbrev Sbintime := Int64

/-- `SBT_1S`. -/
def SBT_1S : Sbintime := 0x100000000

/-- `SBT_1MS`. -/
def SBT_1MS : Sbintime := SBT_1S / 1000

/-- `SBT_MAX`: a timer that is not running. -/
def SBT_MAX : Sbintime := 0x7FFFFFFFFFFFFFFF

/-- `TT_N`, the number of timers of a connection. -/
def TT_N : ℕ := 5

def TCP_RTT_SHIFT : UInt64 := 5
def TCP_RTTVAR_SHIFT : UInt64 := 4

def TF_REQ_SCALE : UInt32 := 0x00000020
def TF_RCVD_SCALE : UInt32 := 0x00000040
def TF_REQ_TSTMP : UInt32 := 0x00000080
def TF_RCVD_TSTMP : UInt32 := 0x00000100
def TF_SACK_PERMIT : UInt32 := 0x00000200
def TF2_ECN_PERMIT : UInt32 := 0x00000020
def TF2_ACE_PERMIT : UInt32 := 0x00000100

def TCPI_OPT_TIMESTAMPS : UInt8 := 0x01
def TCPI_OPT_SACK : UInt8 := 0x02
def TCPI_OPT_WSCALE : UInt8 := 0x04

/-- `struct socket`. -/
structure Socket where
  /-- The address of the socket itself. -/
  addr : UInt64
  /-- `so_cred->cr_uid`, when there is a credential. -/
  crUid : Option UInt32
  sndCcc : UInt32
  sndHiwat : UInt32
  rcvCcc : UInt32
  rcvHiwat : UInt32
  deriving DecidableEq

/-- `struct tcpcb`. -/
structure Tcpcb where
  tState : TcpState
  tFlags : UInt32
  tFlags2 : UInt32
  tSrtt : Int32
  tRttvar : Int32
  tRxtcur : Int32
  tRttlow : UInt32
  sndScale : UInt8
  rcvScale : UInt8
  sndNxt : UInt32
  sndUna : UInt32
  sndMax : UInt32
  rcvNxt : UInt32
  rcvAdv : UInt32
  sndCwnd : UInt32
  sndSsthresh : UInt32
  sndWnd : UInt32
  rcvWnd : UInt32
  tMaxseg : UInt32
  /-- `CC_ALGO(tp)->name`, when there is an algorithm. -/
  ccAlgo : Option CStr
  /-- `t_fb->tfb_tcp_block_name`, when there is a function block. -/
  tFb : Option CStr
  tSndrexmitpack : UInt32
  tRcvoopack : UInt32
  tSndzerowin : UInt32
  tDupacks : UInt32
  rcvNumsacks : UInt32
  tScep : UInt32
  tRcep : UInt32
  tDsackBytes : UInt32
  tDsackPack : UInt32
  tSndtlppack : UInt32
  tSndtlpbyte : UInt64
  /-- The expiry times; 0 and `SBT_MAX` mean not running. -/
  tTimers : Vector Sbintime 5
  tRcvtime : UInt32
  deriving DecidableEq

/-- `struct inpcb`, with the endpoints of its `inp_inc` and its `tcpcb` if it has one. -/
structure Inpcb (Cred : Type) where
  /-- `inp_cred`. -/
  inpCred : Cred
  inpGencnt : UInt64
  /-- `INP_IPV4`, `INP_IPV6`, or both for a socket that serves both families. -/
  inpVflag : UInt8
  /-- The local port, in network byte order. -/
  incLport : UInt16
  /-- The remote port, in network byte order. -/
  incFport : UInt16
  incLaddr : InAddr
  incFaddr : InAddr
  inc6Laddr : In6Addr
  inc6Faddr : In6Addr
  inpSocket : Option Socket
  /-- `intotcpcb(inp)`. -/
  tcpcb : Option Tcpcb
  deriving DecidableEq

/-- `inp->inp_vflag & bit`. -/
def Inpcb.hasVflag {Cred : Type} (inp : Inpcb Cred) (bit : UInt8) : Bool := inp.inpVflag &&& bit != 0

/-- `V_tcbinfo`: the control blocks in the order `inp_next` yields them, the generation
count that the next new block will exceed, and the number of blocks. -/
structure Tcbinfo (Cred : Type) where
  inpcbs : List (Inpcb Cred)
  ipiGencnt : UInt64
  ipiCount : UInt32

end TcpStats
