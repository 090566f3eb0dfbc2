import TcpStats.Client.Collect
import TcpStats.Client.Layout
import TcpStats.Device.Selection
import TcpStats.Filter.Texts

/-!
# read_tcpstats

`read_tcpstats.c`, from its options to what it prints. The tool has its filter parsed and installed, or builds one
from `-L` and `-P`; it makes one read of 4 MB, and goes through the records in its buffer, where `-p` leaves some
out. What it prints is what the options ask for (`readTcpstats_exact`), but for `-L`: the flag that it sets excludes
nothing.
-/

namespace TcpStats.Client.ReadTcpstats

open Bytes CString

variable {Cred : Type}

/-! ### Options -/

/-- What the tool uses of the C library. -/
structure Libc where
  atoi : CStr → Int32
  inetNtop4 : List UInt8 → CStr
  inetNtop6 : List UInt8 → CStr
  strerror : Errno → CStr

/-- How the tool ends: its status and what it has printed. -/
structure Exit where
  status : ℕ
  stdout : CStr
  stderr : CStr
  deriving DecidableEq

/-- An option, as `getopt` finds it. -/
inductive Opt where
  | a
  | c
  | f (optarg : CStr)
  | L
  | p (optarg : CStr)
  | P (optarg : CStr)
  /-- One that is not in `"acLf:p:P:"`. -/
  | unknown

/-- The variables that hold the options. -/
structure Options where
  flagAll : Bool := false
  flagCount : Bool := false
  flagListen : Bool := false
  filterPort : Int32 := -1
  kernelPort : Int32 := -1
  filterStr : Option CStr := none

/-- The text of `usage`. -/
def usage : CStr :=
  cstr "usage: read_tcpstats [-acL] [-f filter] [-p port] [-P port]\n" ++
  cstr "  -a        read from /dev/tcpstats-full\n" ++
  cstr "  -c        count-only mode (print matching record count)\n" ++
  cstr "  -f filter full filter string (mutually exclusive with -L and -P)\n" ++
  cstr "  -L        exclude LISTEN sockets (kernel filter)\n" ++
  cstr "  -p port   show only records matching port (userspace filter)\n" ++
  cstr "  -P port   kernel-side local port filter\n"

/-- A message of `perror`. -/
def perror (libc : Libc) (s : CStr) (e : Errno) : CStr := s ++ cstr ": " ++ libc.strerror e ++ cstr "\n"

/-- The port of `-p` or `-P`. -/
def portOption (libc : Libc) (optarg : CStr) : Except Exit Int32 :=
  let port := libc.atoi optarg
  if port ≤ 0 ∨ port > 65535 then .error ⟨1, [], cstr "invalid port: " ++ optarg ++ cstr "\n"⟩ else .ok port

/-- The body of the `getopt` loop. -/
def readOption (libc : Libc) (o : Options) : Opt → Except Exit Options
  | .a => .ok { o with flagAll := true }
  | .c => .ok { o with flagCount := true }
  | .f optarg => .ok { o with filterStr := some optarg }
  | .L => .ok { o with flagListen := true }
  | .p optarg => do
    let port ← portOption libc optarg
    pure { o with filterPort := port }
  | .P optarg => do
    let port ← portOption libc optarg
    pure { o with kernelPort := port }
  | .unknown => .error ⟨1, [], usage⟩

/-- The `getopt` loop. -/
def readOptions (libc : Libc) (argv : List Opt) : Except Exit Options := argv.foldlM (readOption libc) {}

/-! ### The filter -/

/-- The filter of `memset`. -/
def zeroFilter : TcpstatsFilter := { TcpstatsFilter.default with version := 0, stateMask := 0, fieldMask := 0 }

/-- The low 16 bits of a port. -/
def portBits (port : Int32) : UInt16 := port.toUInt32.toUInt16

/-- The first of the 8 ports of a filter is one of them. -/
theorem firstSlot : 0 < 8 := by decide

/-- The filter that is built from `-L` and `-P`. -/
def Options.flagFilter (o : Options) : TcpstatsFilter :=
  let filt := { zeroFilter with version := TSF_VERSION, stateMask := 0xFFFF }
  let filt := if o.flagListen then { filt with flags := filt.flags ||| TSF_EXCLUDE_LISTEN } else filt
  if o.kernelPort ≥ 0 then
    { filt with
      flags := filt.flags ||| TSF_LOCAL_PORT_MATCH
      localPorts := filt.localPorts.set 0 (htons (portBits o.kernelPort)) firstSlot }
  else filt

/-- `ioctl(fd, TCPSTATS_SET_FILTER, &filt)`. -/
def setFilter (libc : Libc) (w : World Cred) (filt : TcpstatsFilter) (sc : Softc Cred) : Except Exit (Softc Cred) :=
  match tcpstatsIoctl w.tcbIoctl (.setFilter filt) sc with
  | (some e, _, _) => .error ⟨1, [], perror libc (cstr "ioctl TCPSTATS_SET_FILTER") e⟩
  | (none, sc, _) => .ok sc

/-- The filter is built and installed, if there is one. -/
def applyFilter (libc : Libc) (w : World Cred) (o : Options) (sc : Softc Cred) : Except Exit (Softc Cred) :=
  match o.filterStr with
  | some filterStr =>
    match tsfParseFilterString filterStr with
    | .error e => .error ⟨1, [], cstr "filter parse error: " ++ e.errbuf.str ++ cstr "\n"⟩
    | .ok filt => setFilter libc w filt sc
  | none => if o.flagListen ∨ o.kernelPort ≥ 0 then setFilter libc w o.flagFilter sc else .ok sc

/-! ### Output -/

/-- `%d`. -/
def signed (x : ℤ) : CStr := if x < 0 then chr '-' :: decimal x.natAbs else decimal x.natAbs

/-- `tcp_states`. -/
def tcpStates : List CStr :=
  [cstr "CLOSED", cstr "LISTEN", cstr "SYN_SENT", cstr "SYN_RCVD", cstr "ESTABLISHED", cstr "CLOSE_WAIT", cstr "FIN_WAIT_1",
    cstr "CLOSING", cstr "LAST_ACK", cstr "FIN_WAIT_2", cstr "TIME_WAIT"]

/-- `state_name`. -/
def stateName (state : Int32) : CStr :=
  if state ≥ 0 ∧ state ≤ 10 then tcpStates.getD state.toNatClampNeg [] else cstr "?"

/-- An address of a record. -/
def printedAddr (libc : Libc) (af : UInt8) (addr : List UInt8) : CStr :=
  if af = AF_INET then libc.inetNtop4 (addr.take 4)
  else if af = AF_INET6 then libc.inetNtop6 addr
  else cstr "?"

/-- What is printed for the `i`-th record. -/
def recordLine (libc : Libc) (i : ℕ) (tsr : TcpStatsRecord) : CStr :=
  cstr "[" ++ decimal i ++ cstr "] " ++
  printedAddr libc tsr.tsrAf tsr.tsrLocalAddr ++ cstr ":" ++ decimal tsr.tsrLocalPort.toNat ++ cstr " -> " ++
  printedAddr libc tsr.tsrAf tsr.tsrRemoteAddr ++ cstr ":" ++ decimal tsr.tsrRemotePort.toNat ++
  cstr "  state=" ++ signed tsr.tsrState.toInt ++ cstr "(" ++ stateName tsr.tsrState ++ cstr ")" ++
  (if tsr.tsrRtt > 0 then
    cstr "  rtt=" ++ decimal tsr.tsrRtt.toNat ++ cstr " us  cwnd=" ++ decimal tsr.tsrSndCwnd.toNat ++
    cstr "  maxseg=" ++ decimal tsr.tsrMaxseg.toNat
  else []) ++
  (if ofArray tsr.tsrCc ≠ [] then cstr "  cc=" ++ ofArray tsr.tsrCc else []) ++
  (if ofArray tsr.tsrStack ≠ [] then cstr "  stack=" ++ ofArray tsr.tsrStack else []) ++
  cstr "  snd_buf=" ++ decimal tsr.tsrSndBufCc.toNat ++ cstr "/" ++ decimal tsr.tsrSndBufHiwat.toNat ++
  cstr "  rcv_buf=" ++ decimal tsr.tsrRcvBufCc.toNat ++ cstr "/" ++ decimal tsr.tsrRcvBufHiwat.toNat ++
  cstr "  uid=" ++ decimal tsr.tsrUid.toNat ++ cstr "\n"

/-- `-p` leaves the record out. -/
def Options.leavesOut (o : Options) (tsr : TcpStatsRecord) : Bool :=
  o.filterPort ≥ 0 ∧ tsr.tsrLocalPort ≠ portBits o.filterPort ∧ tsr.tsrRemotePort ≠ portBits o.filterPort

/-- The body of the loop over the records: how many have matched, and what has been printed. -/
def printRecord (libc : Libc) (o : Options) (buf : List UInt8) (st : ℕ × CStr) (i : ℕ) : ℕ × CStr :=
  let tsr := TcpStatsRecord.ofBytes (bytesAt buf (i * TCP_STATS_RECORD_SIZE) TCP_STATS_RECORD_SIZE)
  let (matched, out) := st
  if o.leavesOut tsr then (matched, out)
  else (matched + 1, if o.flagCount then out else out ++ recordLine libc i tsr)

/-- The line about the version. -/
def versionLine (ver : TcpstatsVersion) : CStr :=
  cstr "version=" ++ decimal ver.protocolVersion.toNat ++ cstr "  record_size=" ++ decimal ver.recordSize.toNat ++
  cstr "  count_hint=" ++ decimal ver.recordCountHint.toNat ++ cstr "\n"

/-- `READBUF_SIZE`. -/
def READBUF_SIZE : ℕ := 4 * 1024 * 1024

/-- The device. -/
def Options.device (o : Options) : StaticDev := if o.flagAll then .tcpstatsFull else .tcpstats

/-- Its path. -/
def devpath : StaticDev → CStr
  | .tcpstats => cstr "/dev/tcpstats"
  | .tcpstatsFull => cstr "/dev/tcpstats-full"

/-- From the open of the device on. -/
def readDevice (libc : Libc) (w : World Cred) (mallocError : Option Errno) (o : Options) : Except Exit Exit := do
  let sc ← match (tcpstatsOpen w.tun o.device false w.cred (w.openError o.device) w.globOpen).1 with
    | .error e => .error ⟨1, [], perror libc (devpath o.device) e⟩
    | .ok sc => .ok sc
  let sc ← applyFilter libc w o sc
  let version ←
    if o.flagCount then .ok []
    else match tcpstatsIoctl w.tcbIoctl .version sc with
      | (some e, _, _) => .error ⟨1, [], perror libc (cstr "ioctl TCPSTATS_VERSION_CMD") e⟩
      | (none, _, ver) => .ok (versionLine (ver.getD ⟨0, 0, 0, 0⟩))
  match mallocError with
  | some e => .error ⟨1, version, perror libc (cstr "malloc") e⟩
  | none =>
    let r := tcpstatsRead w.kern w.tun w.tcbRead w.sched READBUF_SIZE sc w.globRead
    match r.error with
    | some e => .error ⟨1, version, perror libc (cstr "read") e⟩
    | none =>
      let count := r.moved.length / TCP_STATS_RECORD_SIZE
      let (matched, out) := (List.range count).foldl (printRecord libc o r.moved) (0, [])
      if o.flagCount then .ok ⟨0, decimal matched ++ cstr "\n", []⟩
      else .ok ⟨0, version ++ out ++ cstr "total: " ++ decimal count ++ cstr " sockets (" ++ decimal matched ++
        cstr " matched)\n", []⟩

/-- `main`, with the error of `malloc` if it fails. -/
def readTcpstats (libc : Libc) (w : World Cred) (mallocError : Option Errno) (argv : List Opt) : Exit :=
  let exit : Except Exit Exit := do
    let o ← readOptions libc argv
    if o.filterStr.isSome ∧ (o.flagListen ∨ o.kernelPort ≥ 0) then
      .error ⟨1, [], cstr "error: -f cannot be combined with -L or -P\n"⟩
    else readDevice libc w mallocError o
  match exit with
  | .ok exit => exit
  | .error exit => exit

/-! ### What is shown -/

/-- The filter string that does what the options do. -/
def Options.text (o : Options) : CStr :=
  match o.filterStr with
  | some filterStr => filterStr
  | none => if o.kernelPort ≥ 0 then cstr "local_port=" ++ decimal (portBits o.kernelPort).toNat else []

/-- `-p` asks for the connection. -/
def Options.wants (o : Options) (inp : Inpcb Cred) : Bool :=
  o.filterPort < 0 || ntohs inp.incLport == portBits o.filterPort || ntohs inp.incFport == portBits o.filterPort

/-- The `n`-th record of the read, of some groups of fields. -/
def shownRecord (w : World Cred) (groups : UInt32) (n : ℕ) (inp : Inpcb Cred) : TcpStats.TcpStatsRecord :=
  freshRecord inp groups w.sched.now w.kern.tick (w.sched.ticks n)

/-- What is printed of some connections. -/
def Options.lines (libc : Libc) (o : Options) (w : World Cred) (groups : UInt32) (shown : List (Inpcb Cred)) : CStr :=
  (shown.zipIdx.filter fun p => o.wants p.1).flatMap fun p => recordLine libc p.2 (.mirror (shownRecord w groups p.2 p.1))

theorem freshRecord_ports (inp : Inpcb Cred) (fieldMask : UInt32) (now : Sbintime) (tick : Int32) (ticks : UInt32) :
    (freshRecord inp fieldMask now tick ticks).tsrLocalPort = ntohs inp.incLport ∧
      (freshRecord inp fieldMask now tick ticks).tsrRemotePort = ntohs inp.incFport := by
  have hid := identity_tcpstatsFillRecord .zero inp inp.tcpcb fieldMask now tick ticks
  refine ⟨(congrArg TcpStats.TcpStatsRecord.tsrLocalPort hid).trans ?_,
    (congrArg TcpStats.TcpStatsRecord.tsrRemotePort hid).trans ?_⟩
  all_goals
    unfold tcpstatsFillIdentity
    rcases inp.tcpcb with _ | tp <;> rcases inp.inpSocket with _ | so <;> cases inp.hasVflag INP_IPV6 <;> rfl

theorem leavesOut_record (o : Options) (w : World Cred) (groups : UInt32) (n : ℕ) (inp : Inpcb Cred) :
    o.leavesOut (.mirror (shownRecord w groups n inp)) = !o.wants inp := by
  obtain ⟨hlocal, hremote⟩ := freshRecord_ports inp groups w.sched.now w.kern.tick (w.sched.ticks n)
  have hl : (TcpStatsRecord.mirror (shownRecord w groups n inp)).tsrLocalPort = ntohs inp.incLport := hlocal
  have hr : (TcpStatsRecord.mirror (shownRecord w groups n inp)).tsrRemotePort = ntohs inp.incFport := hremote
  rw [Options.leavesOut, Options.wants, hl, hr]
  by_cases hp : o.filterPort < 0
  · simp [hp, Int32.not_le]
  · simp [hp, Int32.not_lt.mp hp, Bool.beq_eq_decide_eq]

theorem lines_snoc (libc : Libc) (o : Options) (w : World Cred) (groups : UInt32) (shown : List (Inpcb Cred))
    (inp : Inpcb Cred) : o.lines libc w groups (shown ++ [inp]) = o.lines libc w groups shown ++
      if o.wants inp then recordLine libc shown.length (.mirror (shownRecord w groups shown.length inp)) else [] := by
  rw [Options.lines, List.zipIdx_append, List.filter_append, List.flatMap_append]
  cases hwants : o.wants inp <;> simp [hwants, Options.lines]

/-- The loop counts the connections that `-p` asks for, and prints their records. -/
theorem foldl_printRecord (libc : Libc) (o : Options) (w : World Cred) (groups : UInt32) (shown : List (Inpcb Cred)) :
    (List.range shown.length).foldl
        (printRecord libc o ((shown.mapIdx (shownRecord w groups)).flatMap TcpStats.TcpStatsRecord.bytes)) (0, []) =
      (shown.countP o.wants, if o.flagCount then [] else o.lines libc w groups shown) := by
  have hall : ∀ n ≤ shown.length, (List.range n).foldl
      (printRecord libc o ((shown.mapIdx (shownRecord w groups)).flatMap TcpStats.TcpStatsRecord.bytes)) (0, []) =
        ((shown.take n).countP o.wants, if o.flagCount then [] else o.lines libc w groups (shown.take n)) := by
    intro n
    induction n with
    | zero => simp [Options.lines]
    | succ n ih =>
      intro hn
      have hlt : n < (shown.mapIdx (shownRecord w groups)).length := by
        rw [List.length_mapIdx]
        exact hn
      have hrec : TcpStatsRecord.ofBytes (bytesAt
          ((shown.mapIdx (shownRecord w groups)).flatMap TcpStats.TcpStatsRecord.bytes)
          (n * TCP_STATS_RECORD_SIZE) TCP_STATS_RECORD_SIZE) = .mirror (shownRecord w groups n shown[n]) := by
        rw [bytesAt_flatMap hlt, ofBytes_bytes, List.getElem_mapIdx]
      rw [List.range_succ, List.foldl_append, ih (by omega), List.foldl_cons, List.foldl_nil, printRecord, hrec,
        leavesOut_record, List.take_succ_eq_append_getElem hn, List.countP_append, lines_snoc,
        List.length_take_of_le (by omega)]
      cases hwants : o.wants shown[n] <;> cases o.flagCount <;> simp [hwants]
  have hwhole := hall shown.length le_rfl
  rwa [List.take_length] at hwhole

/-! ### The filter of `-L` and `-P` -/

/-- The directive that `-P` stands for. -/
def portDirective (port : UInt16) : Directive := .ports .localEnd ((Vector.replicate 8 0).set 0 (htons port) firstSlot)

theorem slots_portDirective (port : UInt16) :
    ((Vector.replicate 8 0).set 0 (htons port) firstSlot : Vector UInt16 8).toList = [htons port] ++ List.replicate 7 0 := rfl

theorem word_portDirective {port : UInt16} (h : port ≠ 0) :
    (portDirective port).word = cstr "local_port=" ++ decimal port.toNat := by
  have hslots := Directive.takeWhile_slots (slots_portDirective port) (by simpa using (htons_ne_zero h).symm)
  have hvalue : (portDirective port).value = some (decimal port.toNat) := by
    rw [portDirective, Directive.value, hslots, List.map_singleton, portText, ntohs, htons_htons]
    simp [joined]
  have hkey : cstr "local_port=" = (Key.ports .localEnd).name ++ [chr '='] := by decide
  rw [Directive.word, hvalue, hkey, List.append_assoc]
  rfl

theorem proper_portDirective {port : UInt16} (h : port ≠ 0) : (portDirective port).Proper :=
  ⟨[htons port], slots_portDirective port, List.nodup_singleton _, by simpa using (htons_ne_zero h).symm, by simp⟩

/-- A directive by itself is a filter string. -/
theorem textOf_word {d : Directive} (h : d.Proper) (hlen : d.word.length ≤ TSF_PARSE_MAXLEN - 1) : TextOf d.word [d] := by
  have hwords : directives d.word = [d.word] := by
    have hblank : directives (chr ' ' :: d.word) = directives d.word := directives_append_space List.not_mem_nil d.word
    have hone := @directives_words [d]
    rwa [List.flatMap_singleton, List.map_singleton, hblank] at hone
  refine ⟨.inr ⟨hlen, fun c hc => ?_⟩, Nat.succ_le_succ (Nat.zero_le _), ?_⟩
  · exact (Directive.of_isPlain (Directive.isPlain_of_mem_word hc)).1
  · rw [hwords]
    exact .cons (Directive.reads h) .nil

theorem parse_port {port : UInt16} (h : port ≠ 0) :
    tsfParseFilterString (cstr "local_port=" ++ decimal port.toNat) = .ok (meaning [portDirective port]) := by
  have hlen : (portDirective port).word.length ≤ TSF_PARSE_MAXLEN - 1 := by
    have hroom : (Key.ports .localEnd).name.length + (Key.ports .localEnd).room + 1 ≤ TSF_PARSE_MAXLEN - 1 := by decide
    exact (portDirective port).length_word_le.trans hroom
  rw [← word_portDirective h]
  refine tsfParseFilterString_iff.mpr ⟨_, textOf_word (proper_portDirective h) hlen, List.pairwise_singleton _ _, ?_, rfl⟩
  exact ⟨by simp [portDirective], by simp [portDirective], by simp [portDirective]⟩

theorem has_congr {f g : TcpstatsFilter} {bit : UInt32} (h : f.flags &&& KEY_FLAGS = g.flags &&& KEY_FLAGS)
    (hbit : KEY_FLAGS &&& bit = bit) : f.has bit = g.has bit := by
  rw [TcpstatsFilter.has, TcpstatsFilter.has, ← hbit, ← UInt32.and_assoc, ← UInt32.and_assoc, h]

/-- Two filters that match no addresses, and differ in the exclude flags and in what they ask to be filled in, let the same
connections through. -/
theorem passes_congr {f g : TcpstatsFilter} {k : Kernel Cred} {cred : Cred} {gencnt : UInt64} {inp : Inpcb Cred}
    (hflags : f.flags &&& KEY_FLAGS = g.flags &&& KEY_FLAGS) (hstates : f.stateMask = g.stateMask)
    (hlocal : f.localPorts = g.localPorts) (hremote : f.remotePorts = g.remotePorts)
    (hla : g.has TSF_LOCAL_ADDR_MATCH = false) (hra : g.has TSF_REMOTE_ADDR_MATCH = false) :
    (filterStages k cred gencnt f inp).1 = none ↔ (filterStages k cred gencnt g inp).1 = none := by
  have h4 : f.has TSF_IPV4_ONLY = g.has TSF_IPV4_ONLY := has_congr hflags rfl
  have h6 : f.has TSF_IPV6_ONLY = g.has TSF_IPV6_ONLY := has_congr hflags rfl
  have hlp : f.has TSF_LOCAL_PORT_MATCH = g.has TSF_LOCAL_PORT_MATCH := has_congr hflags rfl
  have hrp : f.has TSF_REMOTE_PORT_MATCH = g.has TSF_REMOTE_PORT_MATCH := has_congr hflags rfl
  have hla' : f.has TSF_LOCAL_ADDR_MATCH = false := (has_congr hflags rfl).trans hla
  have hra' : f.has TSF_REMOTE_ADDR_MATCH = false := (has_congr hflags rfl).trans hra
  rw [filterStages_none_iff_stages, filterStages_none_iff_stages]
  simp only [ipVersionStage, stateStage, localPortStage, remotePortStage, portStage, localAddrStage, remoteAddrStage,
    addrStage, h4, h6, hlp, hrp, hla, hla', hra, hra', hstates, hlocal, hremote, Bool.not_false, if_true]

/-- The filter that is built lets the same connections through as that of the string does: `TSF_EXCLUDE_LISTEN` plays no part
in a read. -/
theorem flagFilter_passes (o : Options) {k : Kernel Cred} {cred : Cred} {gencnt : UInt64} {inp : Inpcb Cred} :
    (filterStages k cred gencnt o.flagFilter inp).1 = none ↔
      (filterStages k cred gencnt
        (if o.kernelPort ≥ 0 then meaning [portDirective (portBits o.kernelPort)] else .default) inp).1 = none := by
  obtain ⟨flagAll, flagCount, flagListen, filterPort, kernelPort, filterStr⟩ := o
  by_cases hport : kernelPort ≥ 0
  · have hflags : (meaning [portDirective (portBits kernelPort)]).flags = TSF_LOCAL_PORT_MATCH := rfl
    have hno : ∀ bit, TSF_LOCAL_PORT_MATCH &&& bit = 0 →
        (meaning [portDirective (portBits kernelPort)]).has bit = false := by
      intro bit hbit
      rw [TcpstatsFilter.has, hflags, hbit]
      rfl
    cases flagListen <;> simp only [Options.flagFilter, hport, if_true, Bool.false_eq_true, if_false]
    · exact Iff.rfl
    · have hkept : (0 ||| TSF_EXCLUDE_LISTEN ||| TSF_LOCAL_PORT_MATCH) &&& KEY_FLAGS = TSF_LOCAL_PORT_MATCH &&& KEY_FLAGS := by
        decide
      exact passes_congr hkept rfl rfl rfl (hno _ rfl) (hno _ rfl)
  · cases flagListen <;> simp only [Options.flagFilter, hport, if_true, Bool.false_eq_true, if_false]
    · exact Iff.rfl
    · exact passes_congr rfl rfl rfl rfl rfl rfl

/-- What the options leave alone. -/
theorem flagFilter_fixed (o : Options) : o.flagFilter.version = TSF_VERSION ∧ o.flagFilter.fieldMask = 0 := by
  unfold Options.flagFilter
  dsimp only
  split_ifs <;> exact ⟨rfl, rfl⟩

/-! ### The whole tool -/

/-- The ports of the options. -/
def ValidPort (port : Int32) : Prop := port = -1 ∨ 0 < port ∧ port ≤ 65535

theorem portOption_valid {libc : Libc} {optarg : CStr} {port : Int32} (h : portOption libc optarg = .ok port) :
    0 < port ∧ port ≤ 65535 := by
  unfold portOption at h
  dsimp only at h
  split_ifs at h with hbad
  cases h
  exact ⟨Int32.not_le.mp fun hle => hbad (.inl hle), Int32.not_lt.mp fun hgt => hbad (.inr hgt)⟩

/-- No option makes a port invalid. -/
theorem readOption_valid {libc : Libc} {o o' : Options} {opt : Opt} (h : readOption libc o opt = .ok o')
    (hvalid : ValidPort o.kernelPort) : ValidPort o'.kernelPort := by
  cases opt with
  | P optarg =>
    obtain ⟨port, hport, hset⟩ := Fallible.bind_eq_ok.mp h
    cases hset
    exact .inr (portOption_valid hport)
  | p optarg =>
    obtain ⟨port, -, hset⟩ := Fallible.bind_eq_ok.mp h
    cases hset
    exact hvalid
  | unknown => cases h
  | _ =>
    cases h
    exact hvalid

theorem readOptions_valid {libc : Libc} {argv : List Opt} {o : Options} (h : readOptions libc argv = .ok o) :
    ValidPort o.kernelPort := by
  have hall : ∀ (argv : List Opt) (o o' : Options), argv.foldlM (readOption libc) o = .ok o' →
      ValidPort o.kernelPort → ValidPort o'.kernelPort := by
    intro argv
    induction argv with
    | nil =>
      intro o o' h hvalid
      cases h
      exact hvalid
    | cons opt argv ih =>
      intro o o' h hvalid
      rw [List.foldlM_cons] at h
      obtain ⟨next, hnext, hrest⟩ := Fallible.bind_eq_ok.mp h
      exact ih next o' hrest (readOption_valid hnext hvalid)
  exact hall argv {} o h (.inl rfl)

theorem portBits_ne_zero {port : Int32} (h : 0 < port ∧ port ≤ 65535) : portBits port ≠ 0 := by
  have hle : port.toUInt32.toNat ≤ 65535 := UInt32.le_iff_toNat_le.mp (Int32.toUInt32_le (Int32.le_of_lt h.1) h.2)
  have hpos : 0 < port.toUInt32.toNat := by
    rw [Int32.toNat_toUInt32_of_le (Int32.le_of_lt h.1)]
    have := Int32.lt_iff_toInt_lt.mp h.1
    have hzero : (0 : Int32).toInt = 0 := rfl
    rw [Int32.toNatClampNeg]
    omega
  intro hzero
  have hnat : (portBits port).toNat = 0 := congrArg UInt16.toNat hzero
  rw [portBits, UInt32.toNat_toUInt16] at hnat
  omega

/-- What the tool has installed when it reads lets the same connections through as the filter of the string, and has the same
groups of fields filled in. -/
theorem applyFilter_ok (libc : Libc) (w : World Cred) {o : Options} {sc : Softc Cred} (hvalid : ValidPort o.kernelPort)
    (hfresh : sc.scFilter = .default) (hparse : ∀ s, o.filterStr = some s → ∃ f, tsfParseFilterString s = .ok f) :
    ∃ filt f, applyFilter libc w o sc = .ok { sc with scFilter := filt } ∧ tsfParseFilterString o.text = .ok f ∧
      fieldGroups filt = fieldGroups f ∧ ∀ (k : Kernel Cred) (cred : Cred) (gencnt : UInt64) (inp : Inpcb Cred),
        (filterStages k cred gencnt filt inp).1 = none ↔ (filterStages k cred gencnt f inp).1 = none := by
  have hset : ∀ filt : TcpstatsFilter, filt.version = TSF_VERSION →
      setFilter libc w filt sc = .ok { sc with scFilter := filt } := by
    intro filt hversion
    simp [setFilter, tcpstatsIoctl, hversion]
  cases hstr : o.filterStr with
  | some s =>
    obtain ⟨f, hf⟩ := hparse s hstr
    have hversion : f.version = TSF_VERSION := by
      obtain ⟨ds, -, -, -, rfl⟩ := tsfParseFilterString_iff.mp hf
      exact version_meaning ds
    refine ⟨f, f, ?_, ?_, rfl, fun k cred gencnt inp => Iff.rfl⟩
    · rw [applyFilter, hstr]
      simp only [hf, hset f hversion]
    · rw [Options.text, hstr]
      exact hf
  | none =>
    let f : TcpstatsFilter := if o.kernelPort ≥ 0 then meaning [portDirective (portBits o.kernelPort)] else .default
    have hf : tsfParseFilterString o.text = .ok f := by
      rw [Options.text, hstr]
      dsimp only
      split_ifs with hport
      · have hpos : 0 < o.kernelPort ∧ o.kernelPort ≤ 65535 := hvalid.resolve_left fun h => absurd (h ▸ hport) (by decide)
        rw [parse_port (portBits_ne_zero hpos)]
        exact congrArg Except.ok (if_pos hport).symm
      · exact congrArg Except.ok (if_neg hport).symm
    by_cases hflags : o.flagListen = true ∨ o.kernelPort ≥ 0
    · refine ⟨o.flagFilter, f, ?_, hf, ?_, fun k cred gencnt inp => flagFilter_passes o⟩
      · rw [applyFilter, hstr]
        dsimp only
        rw [if_pos hflags, hset _ (flagFilter_fixed o).1]
      · rw [fieldGroups, if_pos (flagFilter_fixed o).2]
        simp only [f]
        split_ifs <;> rfl
    · obtain ⟨-, hport⟩ := not_or.mp hflags
      refine ⟨.default, f, ?_, hf, ?_, fun k cred gencnt inp => ?_⟩
      · rw [applyFilter, hstr]
        dsimp only
        rw [if_neg hflags, ← hfresh]
      · exact congrArg fieldGroups (if_neg hport).symm
      · rw [show f = .default from if_neg hport]

/-- One read of the tool yields the records of the connections that pass the filter, of the first 13107 of them. -/
theorem tcpstatsRead_shown {w : World Cred} {sc : Softc Cred} (hadm : Admitted w.tun w.sched sc w.globRead)
    (hq : w.sched.Quiet (readDeadline w.tun w.sched.now) w.tcbRead.inpcbs.length) :
    let shown := (w.tcbRead.inpcbs.filter (readEnv w.kern w.tun w.tcbRead w.sched sc).passes).take 13107
    let r := tcpstatsRead w.kern w.tun w.tcbRead w.sched READBUF_SIZE sc w.globRead
    r.error = none ∧
      r.moved = (shown.mapIdx (shownRecord w (fieldGroups sc.scFilter))).flatMap TcpStats.TcpStatsRecord.bytes ∧
      r.moved.length / TCP_STATS_RECORD_SIZE = shown.length := by
  intro shown r
  obtain ⟨herr, hmoved, -⟩ := tcpstatsRead_quiet w.kern READBUF_SIZE hadm hq
  have hlen : READBUF_SIZE / TCP_STATS_RECORD_SIZE = 13107 := by decide
  have hrecords : ((readEnv w.kern w.tun w.tcbRead w.sched sc).recordsOf w.tcbRead.inpcbs).take 13107 =
      shown.mapIdx (shownRecord w (fieldGroups sc.scFilter)) :=
    List.ext_getElem (by simp [shown, ReadEnv.recordsOf]) fun i _ _ => by
      simp only [shown, ReadEnv.recordsOf, List.getElem_take, List.getElem_mapIdx]
      rfl
  rw [hlen, hrecords] at hmoved
  refine ⟨herr, hmoved, ?_⟩
  rw [hmoved, length_flatMap_bytes, List.length_mapIdx, Nat.mul_div_cancel_left _ (by decide)]

/-- Whatever the options are, what the tool prints when nothing interrupts its read is what the filter string `o.text` and `-p`
ask for, among the connections that it may see: those of the first 13107 that the filter selects, in the order of the
table. -/
theorem readTcpstats_exact {libc : Libc} {w : World Cred} {argv : List Opt} {o : Options} {sc : Softc Cred}
    (hopts : readOptions libc argv = .ok o) (halone : o.filterStr.isSome → o.flagListen = false ∧ o.kernelPort < 0)
    (hparse : ∀ s, o.filterStr = some s → ∃ f, tsfParseFilterString s = .ok f)
    (hopen : (tcpstatsOpen w.tun o.device false w.cred (w.openError o.device) w.globOpen).1 = .ok sc)
    (hadm : Admitted w.tun w.sched sc w.globRead)
    (hq : w.sched.Quiet (readDeadline w.tun w.sched.now) w.tcbRead.inpcbs.length) :
    ∃ (ds : List Directive) (p : Inpcb Cred → Bool), TextOf o.text ds ∧
      (∀ inp, p inp = true ↔ inp.inpGencnt ≤ w.tcbRead.ipiGencnt ∧ w.kern.crCanseeinpcb w.cred inp = 0 ∧
        inp ∈ selection Cred ds) ∧
      let shown := (w.tcbRead.inpcbs.filter p).take 13107
      let matched := shown.countP o.wants
      readTcpstats libc w none argv = ⟨0,
        if o.flagCount then decimal matched ++ cstr "\n"
        else versionLine ⟨TCP_STATS_VERSION, TCP_STATS_RECORD_SIZE.toUInt32, w.tcbIoctl.ipiCount, 0⟩ ++
          o.lines libc w (fieldGroups (meaning ds)) shown ++
          cstr "total: " ++ decimal shown.length ++ cstr " sockets (" ++ decimal matched ++ cstr " matched)\n", []⟩ := by
  obtain ⟨hcred, -, hfresh, -⟩ := tcpstatsOpen_ok (Prod.ext hopen rfl)
  obtain ⟨filt, f, happly, hf, hgroups, hpasses⟩ := applyFilter_ok libc w (readOptions_valid hopts) hfresh hparse
  obtain ⟨ds, htext, hpair, -, rfl⟩ := tsfParseFilterString_iff.mp hf
  have hadm' : Admitted w.tun w.sched { sc with scFilter := filt } w.globRead := ⟨hadm.unread, hadm.readers, hadm.interval⟩
  obtain ⟨herr, hmoved, hcount⟩ := tcpstatsRead_shown hadm' hq
  obtain ⟨p, hp⟩ : ∃ p, (readEnv w.kern w.tun w.tcbRead w.sched { sc with scFilter := filt }).passes = p := ⟨_, rfl⟩
  simp only [hgroups, hp] at hmoved hcount
  refine ⟨ds, p, htext, fun inp => ?_, ?_⟩
  · rw [← hp, ReadEnv.passes, Option.isNone_iff_eq_none]
    refine (hpasses _ _ _ inp).trans ?_
    refine (filterStages_meaning hpair (prefixV6_le_of_parse hf) _ _ _ inp).trans ?_
    rw [← hcred]
    exact Iff.rfl
  · have hnone : ¬ (o.filterStr.isSome = true ∧ (o.flagListen = true ∨ o.kernelPort ≥ 0)) := by
      rintro ⟨hsome, hflags⟩
      obtain ⟨hlisten, hport⟩ := halone hsome
      rcases hflags with h | h
      · rw [hlisten] at h
        cases h
      · exact absurd h (Int32.not_le.mpr hport)
    have hloop := foldl_printRecord libc o w (fieldGroups (meaning ds)) ((w.tcbRead.inpcbs.filter p).take 13107)
    rw [← hmoved] at hloop
    unfold readTcpstats
    simp only [hopts, bind, Except.bind, if_neg hnone]
    unfold readDevice
    cases hmode : o.flagCount <;> simp only [hmode, if_true, Bool.false_eq_true, if_false] at hloop ⊢
    · simp only [hopen, happly, bind, Except.bind, herr, hcount, hloop, tcpstatsIoctl, Option.getD_some]
    · simp only [hopen, happly, bind, Except.bind, herr, hcount, hloop]

/-- A C library, as far as the count of a port needs one. -/
def Sample.libc : Libc where
  atoi s := .ofNat (s.foldl (fun n c => n * 10 + (c - chr '0').toNat) 0)
  inetNtop4 addr := joined (chr '.') (addr.map fun b => decimal b.toNat)
  inetNtop6 _ := cstr "::"
  strerror _ := cstr "error"

/-- Two connections of port 443 are counted. -/
theorem readTcpstats_exact_two :
    let o : Options := { flagCount := true, flagListen := true, kernelPort := 443 }
    readTcpstats Sample.libc (growing 2 2) none [.c, .L, .P (cstr "443")] = ⟨0, cstr "2\n", []⟩ ∧
      ∃ ds p, TextOf (cstr "local_port=443") ds ∧
        decimal ((((growing 2 2).tcbRead.inpcbs.filter p).take 13107).countP o.wants) ++ cstr "\n" = cstr "2\n" := by
  intro o
  have hopts : readOptions Sample.libc [.c, .L, .P (cstr "443")] = .ok o := rfl
  have hrun : readTcpstats Sample.libc (growing 2 2) none [.c, .L, .P (cstr "443")] = ⟨0, cstr "2\n", []⟩ := by
    decide +kernel
  obtain ⟨ds, p, htext, -, heq⟩ := readTcpstats_exact (w := growing 2 2) hopts (fun h => absurd h (by decide))
    (fun s h => by cases h) rfl ⟨rfl, rfl, rfl⟩ (Sample.still_quiet _)
  have hstr : o.text = cstr "local_port=443" := by decide
  rw [hstr] at htext
  exact ⟨hrun, ds, p, htext, (congrArg Exit.stdout (heq.symm.trans hrun))⟩

end TcpStats.Client.ReadTcpstats
