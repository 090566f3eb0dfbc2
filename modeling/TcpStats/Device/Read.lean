import TcpStats.Device.Match
import TcpStats.Lib.Scan

/-!
# Reading the device

`tcpstats_read` and the other entry points of a descriptor: `tcpstats_open` and
`tcpstats_ioctl`. What the rest of the kernel answers while a read runs, the clock, the
signals, the outcome of each copy-out, is a `Schedule`: the n-th answer to each question.

The loop is a `Scan.scan` over the control blocks. Its state keeps a trace of what it
does with their locks and of the address bytes it looks at; a control block is named by
its place in the table.
-/

namespace TcpStats

open Scan

variable {Cred : Type}

/-- `TSF_CHECK_INTERVAL`. -/
def TSF_CHECK_INTERVAL : ℕ := 1024

/-! ### State -/

/-- `struct tcpstats_softc`: what belongs to one descriptor. `sc_gen` and `sc_started` are
never used. -/
structure Softc (Cred : Type) where
  scCred : Cred
  scDone : Bool
  scFilter : TcpstatsFilter
  scFull : Bool
  scLastRead : Sbintime

/-- The limits set through `dev.tcpstats`. -/
structure Tunables where
  maxOpenFds : UInt32
  maxConcurrentReaders : UInt32
  maxReadDurationMs : UInt32
  minReadIntervalMs : UInt32
  deriving DecidableEq

/-- The limits the module is loaded with. -/
def Tunables.default : Tunables where
  maxOpenFds := 16
  maxConcurrentReaders := 32
  maxReadDurationMs := 5000
  minReadIntervalMs := 0

/-- `struct tcpstats_stats_batch`: the counters of one read. -/
structure StatsBatch where
  recordsEmitted : UInt64
  socketsVisited : UInt64
  socketsSkippedGencnt : UInt64
  socketsSkippedCred : UInt64
  socketsSkippedIpver : UInt64
  socketsSkippedState : UInt64
  socketsSkippedPort : UInt64
  socketsSkippedAddr : UInt64
  uiomoveErrors : UInt64
  readsTimedOut : UInt64
  readsInterrupted : UInt64
  deriving DecidableEq

/-- All counters zero. -/
def StatsBatch.zero : StatsBatch := ⟨0, 0, 0, 0, 0, 0, 0, 0, 0, 0, 0⟩

/-- `TSF_STAT_LOCAL_INC` of the counter of a skip reason. -/
def StatsBatch.skip (b : StatsBatch) : Skip → StatsBatch
  | .gencnt => { b with socketsSkippedGencnt := b.socketsSkippedGencnt + 1 }
  | .cred => { b with socketsSkippedCred := b.socketsSkippedCred + 1 }
  | .ipver => { b with socketsSkippedIpver := b.socketsSkippedIpver + 1 }
  | .state => { b with socketsSkippedState := b.socketsSkippedState + 1 }
  | .port => { b with socketsSkippedPort := b.socketsSkippedPort + 1 }
  | .addr => { b with socketsSkippedAddr := b.socketsSkippedAddr + 1 }

/-- `struct tcpstats_stats`: the counters of the module. -/
structure Stats extends StatsBatch where
  readDurationNsTotal : UInt64
  readDurationNsMax : UInt64
  deriving DecidableEq

/-- `TSF_STAT_FLUSH`: every counter of the batch is added, the zero ones included. -/
def Stats.flush (s : Stats) (b : StatsBatch) : Stats :=
  { s with
    recordsEmitted := s.recordsEmitted + b.recordsEmitted
    socketsVisited := s.socketsVisited + b.socketsVisited
    socketsSkippedGencnt := s.socketsSkippedGencnt + b.socketsSkippedGencnt
    socketsSkippedCred := s.socketsSkippedCred + b.socketsSkippedCred
    socketsSkippedIpver := s.socketsSkippedIpver + b.socketsSkippedIpver
    socketsSkippedState := s.socketsSkippedState + b.socketsSkippedState
    socketsSkippedPort := s.socketsSkippedPort + b.socketsSkippedPort
    socketsSkippedAddr := s.socketsSkippedAddr + b.socketsSkippedAddr
    uiomoveErrors := s.uiomoveErrors + b.uiomoveErrors
    readsTimedOut := s.readsTimedOut + b.readsTimedOut
    readsInterrupted := s.readsInterrupted + b.readsInterrupted }

/-- The counters shared by all descriptors. -/
structure Globals where
  activeFds : UInt32
  opensTotal : UInt64
  activeReaders : UInt32
  readsTotal : UInt64
  stats : Stats
  deriving DecidableEq

/-- What the kernel answers in the course of one read. -/
structure Schedule where
  /-- `getsbinuptime()` at the start. -/
  now : Sbintime
  /-- `SIGPENDING(curthread)` at each periodic check. -/
  sigPending : ℕ → Bool
  /-- `getsbinuptime()` at each periodic check. -/
  checkTime : ℕ → Sbintime
  /-- The error of each `uiomove`, if it fails. -/
  uiomoveError : ℕ → Option Errno
  /-- The tick counter when each record is filled. -/
  ticks : ℕ → UInt32
  /-- `getsbinuptime()` at the end. -/
  endTime : Sbintime

/-- `struct uio`: the room left in the caller's buffer, and the bytes moved to it. -/
structure Uio where
  resid : ℕ
  moved : List UInt8
  deriving DecidableEq

/-- A `uiomove` that succeeds: as many of the bytes as there is room for. One that fails
moves nothing. -/
def uiomove (bytes : List UInt8) (uio : Uio) : Uio :=
  ⟨uio.resid - bytes.length, uio.moved ++ bytes.take uio.resid⟩

/-! ### The loop -/

/-- What the loop does to the control block at a place in the table, and a byte index it
looks at in an IPv6 address. -/
inductive Event where
  | lock (i : ℕ)
  | touch (i : ℕ)
  | examine (byte : ℕ)
  | unlock (i : ℕ)
  deriving DecidableEq

/-- How the loop is left before the end of the table. -/
inductive Exit where
  /-- `break`: no room for another record. -/
  | full
  /-- `break`: past the deadline. -/
  | timedOut
  /-- `goto out` with an error. -/
  | failed (e : Errno)
  deriving DecidableEq

/-- What does not change while the loop runs. -/
structure ReadEnv (Cred : Type) where
  kern : Kernel Cred
  cred : Cred
  gencnt : UInt64
  filter : TcpstatsFilter
  fieldMask : UInt32
  /-- 0 for none. -/
  deadline : Sbintime
  sched : Schedule

/-- What does. -/
structure ReadState where
  uio : Uio
  /-- The records handed to `uiomove` with success; `nrecords` is their number. -/
  records : List TcpStatsRecord
  nsockets : ℕ
  batch : StatsBatch
  /-- The control block whose lock is held. -/
  held : Option ℕ
  trace : List Event

/-- `inp_next`: releases the block returned before, then locks and returns the next one. -/
def ReadState.inpNext (st : ReadState) : ReadState :=
  { st with
    held := some st.nsockets
    trace := st.trace ++ st.held.toList.map .unlock ++ [.lock st.nsockets] }

/-- `inp_next` at the end of the table: releases the block returned before. -/
def ReadState.inpEnd (st : ReadState) : ReadState :=
  { st with
    held := none
    trace := st.trace ++ st.held.toList.map .unlock }

/-- `INP_RUNLOCK`. -/
def ReadState.inpRunlock (i : ℕ) (st : ReadState) : ReadState :=
  { st with
    held := none
    trace := st.trace ++ [.unlock i] }

/-- The control block is looked at, and some bytes of its addresses. -/
def ReadState.look (i : ℕ) (examined : List ℕ) (st : ReadState) : ReadState :=
  { st with trace := st.trace ++ .touch i :: examined.map .examine }

/-- `TSF_STAT_LOCAL_INC`. -/
def ReadState.count (inc : StatsBatch → StatsBatch) (st : ReadState) : ReadState :=
  { st with batch := inc st.batch }

/-- `nsockets++` and the counter `sockets_visited`. -/
def ReadState.visit (st : ReadState) : ReadState :=
  { st with
    nsockets := st.nsockets + 1
    batch := { st.batch with socketsVisited := st.batch.socketsVisited + 1 } }

/-- A record that `uiomove` has moved. -/
def ReadState.emit (r : TcpStatsRecord) (st : ReadState) : ReadState :=
  { st with
    uio := uiomove r.bytes st.uio
    records := st.records ++ [r]
    batch := { st.batch with recordsEmitted := st.batch.recordsEmitted + 1 } }

/-- The check made at every `TSF_CHECK_INTERVAL`-th connection. -/
def periodicCheck (env : ReadEnv Cred) (nsockets : ℕ) : Option Exit :=
  if nsockets % TSF_CHECK_INTERVAL = 0 then
    let i := nsockets / TSF_CHECK_INTERVAL - 1
    if env.sched.sigPending i then some (.failed .EINTR)
    else if env.deadline ≠ 0 ∧ env.sched.checkTime i > env.deadline then some .timedOut
    else none
  else none

/-- The counter of an exit that the periodic check takes. -/
def StatsBatch.exit (b : StatsBatch) : Exit → StatsBatch
  | .timedOut => { b with readsTimedOut := b.readsTimedOut + 1 }
  | .failed _ => { b with readsInterrupted := b.readsInterrupted + 1 }
  | .full => b

/-- The counter of a failed `uiomove`. -/
def StatsBatch.fault (b : StatsBatch) : StatsBatch := { b with uiomoveErrors := b.uiomoveErrors + 1 }

/-- The record of a connection, filled as the `n`-th of the read. -/
def ReadEnv.record (env : ReadEnv Cred) (n : ℕ) (inp : Inpcb Cred) : TcpStatsRecord :=
  freshRecord inp env.fieldMask env.sched.now env.kern.tick (env.sched.ticks n)

/-- A connection that matched: its record is filled and moved out. -/
def emitRecord (env : ReadEnv Cred) (inp : Inpcb Cred) (i : ℕ) (st : ReadState) : Ctl Exit × ReadState :=
  let n := st.records.length
  let st := st.look i []
  match env.sched.uiomoveError n with
  | some e => (.stop (.failed e), (st.inpRunlock i).count .fault)
  | none => (.next, st.emit (env.record n inp))

/-- The body of the loop. -/
def readBody (env : ReadEnv Cred) (inp : Inpcb Cred) (st : ReadState) : Ctl Exit × ReadState :=
  let i := st.nsockets
  let st := st.inpNext
  if st.uio.resid < TCP_STATS_RECORD_SIZE then (.stop .full, st.inpRunlock i)
  else
    let st := st.visit
    match periodicCheck env st.nsockets with
    | some e => (.stop e, (st.inpRunlock i).count (·.exit e))
    | none =>
      match filterStages env.kern env.cred env.gencnt env.filter inp with
      | (some skip, examined) => (.next, (st.look i examined).count (·.skip skip))
      | (none, examined) => emitRecord env inp i (st.look i examined)

/-- The loop. -/
def readLoop (env : ReadEnv Cred) (inpcbs : List (Inpcb Cred)) (st : ReadState) :
    Option Exit × ReadState :=
  match scan (readBody env) inpcbs st with
  | (none, st) => (none, st.inpEnd)
  | (some e, st) => (some e, st)

/-! ### Entry points -/

/-- A number of milliseconds as a time. -/
def msTime (ms : UInt32) : Sbintime := ms.toUInt64.toInt64 * SBT_1MS

/-- What a call of `tcpstats_read` returns and leaves behind. -/
structure ReadResult (Cred : Type) where
  /-- The return code, `none` for 0. -/
  error : Option Errno
  /-- The bytes in the caller's buffer. -/
  moved : List UInt8
  /-- The records they consist of. -/
  records : List TcpStatsRecord
  trace : List Event
  sc : Softc Cred
  glob : Globals

/-- The reader limit: `atomic_fetchadd_int(&tcpstats_active_readers, 1) >= ...`. -/
def tooManyReaders (tun : Tunables) (g : Globals) : Bool := g.activeReaders ≥ tun.maxConcurrentReaders

/-- The interval throttle. -/
def tooSoon (tun : Tunables) (sc : Softc Cred) (now : Sbintime) : Bool :=
  tun.minReadIntervalMs > 0 && sc.scLastRead != 0 && now - sc.scLastRead < msTime tun.minReadIntervalMs

/-- The deadline of a read that begins now, 0 for none. -/
def readDeadline (tun : Tunables) (now : Sbintime) : Sbintime :=
  if tun.maxReadDurationMs > 0 then now + msTime tun.maxReadDurationMs else 0

/-- What the loop of a read runs against. -/
def readEnv (k : Kernel Cred) (tun : Tunables) (tcb : Tcbinfo Cred) (sched : Schedule) (sc : Softc Cred) :
    ReadEnv Cred where
  kern := k
  cred := sc.scCred
  gencnt := tcb.ipiGencnt
  filter := sc.scFilter
  fieldMask := if sc.scFilter.fieldMask = 0 then TSR_FIELDS_DEFAULT else sc.scFilter.fieldMask
  deadline := readDeadline tun sched.now
  sched := sched

/-- The state in which the loop begins. -/
def readStart (resid : ℕ) : ReadState where
  uio := ⟨resid, []⟩
  records := []
  nsockets := 0
  batch := .zero
  held := none
  trace := []

/-- The return code that an exit of the loop leads to. -/
def exitCode : Option Exit → Option Errno
  | some (.failed e) => some e
  | _ => none

/-- `(uint64_t)elapsed * 1000000000 / SBT_1S`. -/
def elapsedNs (elapsed : Sbintime) : UInt64 := elapsed.toUInt64 * 1000000000 / SBT_1S.toUInt64

/-- `tcpstats_read`, on a buffer of `resid` bytes. -/
def tcpstatsRead (k : Kernel Cred) (tun : Tunables) (tcb : Tcbinfo Cred) (sched : Schedule) (resid : ℕ)
    (sc : Softc Cred) (g : Globals) : ReadResult Cred :=
  if sc.scDone then ⟨none, [], [], [], sc, g⟩
  else if tooManyReaders tun g then ⟨some .EBUSY, [], [], [], sc, g⟩
  else if tooSoon tun sc sched.now then ⟨some .EBUSY, [], [], [], sc, g⟩
  else
    let (exit, st) := readLoop (readEnv k tun tcb sched sc) tcb.inpcbs (readStart resid)
    let ns := elapsedNs (sched.endTime - sched.now)
    let stats := g.stats.flush st.batch
    { error := exitCode exit
      moved := st.uio.moved
      records := st.records
      trace := st.trace
      sc := { sc with scDone := true, scLastRead := sched.now }
      glob := { g with
        readsTotal := g.readsTotal + 1
        stats := { stats with
          readDurationNsTotal := stats.readDurationNsTotal + ns
          readDurationNsMax := max stats.readDurationNsMax ns } } }

/-- `struct tcpstats_version`. -/
structure TcpstatsVersion where
  protocolVersion : UInt32
  recordSize : UInt32
  recordCountHint : UInt32
  flags : UInt32
  deriving DecidableEq

/-- The commands of `tcpstats_ioctl`. -/
inductive IoctlCmd where
  | version
  | setFilter (filt : TcpstatsFilter)
  | reset
  | unknown
  deriving DecidableEq

/-- `tcpstats_ioctl`: the return code, the descriptor's new state, and the version structure
that `TCPSTATS_VERSION_CMD` fills. -/
def tcpstatsIoctl (tcb : Tcbinfo Cred) (cmd : IoctlCmd) (sc : Softc Cred) :
    Option Errno × Softc Cred × Option TcpstatsVersion :=
  match cmd with
  | .version =>
    (none, sc, some ⟨TCP_STATS_VERSION, TCP_STATS_RECORD_SIZE.toUInt32, tcb.ipiCount, 0⟩)
  | .setFilter filt =>
    if filt.version ≠ TSF_VERSION then (some .ENOTSUP, sc, none)
    else (none, { sc with scFilter := filt }, none)
  | .reset => (none, { sc with scDone := false }, none)
  | .unknown => (some .ENOTTY, sc, none)

/-- The two static devices. -/
inductive StaticDev where
  | tcpstats
  | tcpstatsFull
  deriving DecidableEq

/-- `tcpstats_open`, with the error of `devfs_set_cdevpriv` if it fails. -/
def tcpstatsOpen (tun : Tunables) (dev : StaticDev) (fwrite : Bool) (cred : Cred)
    (cdevpriv : Option Errno) (g : Globals) : Except Errno (Softc Cred) × Globals :=
  if fwrite then (.error .EPERM, g)
  else if g.activeFds ≥ tun.maxOpenFds then (.error .EMFILE, g)
  else match cdevpriv with
    | some e => (.error e, g)
    | none =>
      (.ok { scCred := cred
             scDone := false
             scFilter := .default
             scFull := decide (dev = .tcpstatsFull)
             scLastRead := 0 },
        { g with activeFds := g.activeFds + 1, opensTotal := g.opensTotal + 1 })

end TcpStats
