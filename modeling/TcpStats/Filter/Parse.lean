import TcpStats.Filter.Struct
import TcpStats.Filter.Error

/-!
# The filter string parser

`tcp_statsdev_filter.c`: strings such as `local_port=443 exclude=listen,timewait` to a
`struct tcpstats_filter`. The C functions write through pointers into a temporary filter
that is copied out only on success, so here each returns the new filter or the failure.

Loops over a token list are recursions on the list `strsep` yields, without the empty
tokens that every such loop skips. The loop over the groups of an IPv6 address goes round
at most nine times (eight groups and one `::`), and is a recursion on that number.
-/

namespace TcpStats

open CString

/-! ### Tables -/

/-- `tsf_state_names`. -/
def tsfStateNames : List (CStr × TcpState) :=
  [(cstr "closed", .CLOSED), (cstr "listen", .LISTEN), (cstr "syn_sent", .SYN_SENT),
    (cstr "syn_received", .SYN_RECEIVED), (cstr "established", .ESTABLISHED),
    (cstr "close_wait", .CLOSE_WAIT), (cstr "fin_wait_1", .FIN_WAIT_1), (cstr "closing", .CLOSING),
    (cstr "last_ack", .LAST_ACK), (cstr "fin_wait_2", .FIN_WAIT_2), (cstr "time_wait", .TIME_WAIT),
    (cstr "timewait", .TIME_WAIT), (cstr "closewait", .CLOSE_WAIT), (cstr "syn_rcvd", .SYN_RECEIVED)]

/-- `tsf_field_groups`. -/
def tsfFieldGroups : List (CStr × UInt32) :=
  [(cstr "identity", TSR_FIELDS_IDENTITY), (cstr "state", TSR_FIELDS_STATE),
    (cstr "congestion", TSR_FIELDS_CONGESTION), (cstr "rtt", TSR_FIELDS_RTT),
    (cstr "sequences", TSR_FIELDS_SEQUENCES), (cstr "counters", TSR_FIELDS_COUNTERS),
    (cstr "timers", TSR_FIELDS_TIMERS), (cstr "buffers", TSR_FIELDS_BUFFERS),
    (cstr "ecn", TSR_FIELDS_ECN), (cstr "names", TSR_FIELDS_NAMES), (cstr "all", TSR_FIELDS_ALL),
    (cstr "default", TSR_FIELDS_DEFAULT)]

/-! ### Numbers -/

/-- A decimal digit. -/
def isDigit (c : UInt8) : Bool := chr '0' ≤ c && c ≤ chr '9'

/-- The value of a decimal digit. -/
def digitVal (c : UInt8) : ℕ := (c - chr '0').toNat

/-- The loop that checks and converts digits in one pass: `val = val * 10 + (c - '0')`. -/
def digits (bad : UInt8 → ParseError) : CStr → ℕ → Except ParseError ℕ
  | [], val => .ok val
  | c :: cs, val => if isDigit c then digits bad cs (val * 10 + digitVal c) else .error (bad c)

/-- `tsf_parse_port_number`. -/
def tsfParsePortNumber (str : CStr) : Except ParseError UInt16 :=
  let len := strnlen str 6
  if str = [] then .error .emptyPort
  else if len > 1 ∧ str.head? = some (chr '0') then .error (.portLeadingZero str)
  else if len > 5 then .error (.portTooManyDigits str)
  else do
    let val ← digits (.portNonDigit str) (str.take len) 0
    if val = 0 then .error .portZero
    else if val > 65535 then .error (.portTooLarge val)
    else .ok (htons val.toUInt16)

/-- The loop of `tsf_parse_port_list`: the tokens still to come, `count`, `ports`. -/
def portLoop (maxports : ℕ) :
    List CStr → ℕ → Vector UInt16 8 → Except ParseError (ℕ × Vector UInt16 8)
  | [], count, ports => .ok (count, ports)
  | tok :: toks, count, ports =>
    if count ≥ maxports then .error (.tooManyPorts maxports)
    else do
      let port ← tsfParsePortNumber tok
      if port ∈ ports.toList.take count then .error (.duplicatePort port)
      else portLoop maxports toks (count + 1) (ports.setIfInBounds count port)

/-- `tsf_parse_port_list`, with the array and the flags it is given. -/
def tsfParsePortList (value : CStr) (ports : Vector UInt16 8) (maxports : ℕ) (flags flagBit : UInt32) :
    Except ParseError (Vector UInt16 8 × UInt32) :=
  if flags &&& flagBit != 0 then .error .duplicatePortDirective
  else do
    let (count, ports) ← portLoop maxports (fields (· == chr ',') value) 0 ports
    if count = 0 then .error .emptyPortList
    else .ok (ports, flags ||| flagBit)

/-! ### States -/

/-- `tsf_lookup_state`: the name is copied, in lower case, to a buffer of 32 bytes. -/
def tsfLookupState (name : CStr) : Except ParseError TcpState :=
  match tsfStateNames.lookup (lower (name.take 31)) with
  | some state => .ok state
  | none => .error (.unknownState name)

/-- The loop of `tsf_parse_exclude_list`: the tokens still to come, `seen`, `f->state_mask`. -/
def excludeLoop : List CStr → UInt16 → UInt16 → Except ParseError UInt16
  | [], _, stateMask => .ok stateMask
  | tok :: toks, seen, stateMask => do
    let state ← tsfLookupState tok
    if seen &&& state.bit != 0 then .error (.duplicateState tok (cstr "exclude"))
    else excludeLoop toks (seen ||| state.bit) (stateMask &&& ~~~state.bit)

/-- `tsf_parse_exclude_list`. -/
def tsfParseExcludeList (value : CStr) (f : TcpstatsFilter) : Except ParseError TcpstatsFilter :=
  if f.has TSF_STATE_INCLUDE_MODE then .error .excludeAndInclude
  else do
    let stateMask ← excludeLoop (fields (· == chr ',') value) 0 f.stateMask
    .ok { f with stateMask }

/-- The loop of `tsf_parse_include_state_list`: the tokens still to come, `seen`, `mask`. -/
def includeLoop : List CStr → UInt16 → UInt16 → Except ParseError UInt16
  | [], _, mask => .ok mask
  | tok :: toks, seen, mask => do
    let state ← tsfLookupState tok
    if seen &&& state.bit != 0 then .error (.duplicateState tok (cstr "include_state"))
    else includeLoop toks (seen ||| state.bit) (mask ||| state.bit)

/-- `tsf_parse_include_state_list`. -/
def tsfParseIncludeStateList (value : CStr) (f : TcpstatsFilter) : Except ParseError TcpstatsFilter :=
  if f.stateMask ≠ 0xFFFF then .error .excludeAndInclude
  else if f.has TSF_STATE_INCLUDE_MODE then .error .duplicateIncludeState
  else do
    let mask ← includeLoop (fields (· == chr ',') value) 0 0
    if mask = 0 then .error .emptyIncludeState
    else .ok { f with stateMask := mask, flags := f.flags ||| TSF_STATE_INCLUDE_MODE }

/-! ### Addresses -/

/-- `tsf_parse_prefix_length`. -/
def tsfParsePrefixLength (str : CStr) (maxPfx : ℕ) : Except ParseError ℕ :=
  let len := strnlen str 4
  if str = [] then .error .emptyPrefix
  else if len > 1 ∧ str.head? = some (chr '0') then .error (.prefixLeadingZero str)
  else do
    let val ← digits (fun _ => .prefixNonDigit str) (str.take len) 0
    if val > maxPfx then .error (.prefixTooLarge val maxPfx) else .ok val

/-- The digits of one octet, four at most: their value, their number and what follows them. -/
def octetDigits : ℕ → CStr → ℕ → ℕ → ℕ × ℕ × CStr
  | 0, p, val, ndigits => (val, ndigits, p)
  | _ + 1, [], val, ndigits => (val, ndigits, [])
  | n + 1, c :: p, val, ndigits =>
    if isDigit c then octetDigits n p (val * 10 + digitVal c) (ndigits + 1) else (val, ndigits, c :: p)

/-- The loop over the octets: how many are missing, the rest of the string, those read. -/
def parseOctets : ℕ → CStr → List ℕ → Except ParseError (List ℕ × CStr)
  | 0, p, octets => .ok (octets, p)
  | n + 1, p, octets =>
    match octetDigits 4 p 0 0 with
    | (val, ndigits, rest) =>
      if ndigits = 0 then .error (.v4Octets octets.length)
      else if ndigits > 1 ∧ p.head? = some (chr '0') then .error .v4LeadingZero
      else if val > 255 then .error (.v4OctetTooLarge val)
      else if n = 0 then parseOctets n rest (octets ++ [val])
      else if rest.head? = some (chr '.') then parseOctets n rest.tail (octets ++ [val])
      else .error (.v4Octets (octets.length + 1))

/-- `(octets[0] << 24) | (octets[1] << 16) | (octets[2] << 8) | octets[3]`. -/
def octetsWord (octets : List ℕ) : UInt32 :=
  ((octets.getD 0 0).toUInt32 <<< 24) ||| ((octets.getD 1 0).toUInt32 <<< 16) |||
    ((octets.getD 2 0).toUInt32 <<< 8) ||| (octets.getD 3 0).toUInt32

/-- The netmask of a prefix length. -/
def v4Mask (pfx : ℕ) : InAddr :=
  if pfx = 0 then ⟨0⟩ else ⟨htonl (~~~((1 <<< (32 - pfx).toUInt32) - 1))⟩

/-- `tsf_parse_ipv4_addr`: the address and its mask. -/
def tsfParseIpv4Addr (str : CStr) : Except ParseError (InAddr × InAddr) := do
  let addrbuf := before (chr '/') str
  let pfx ← match after (chr '/') str with
    | some suffix =>
      if addrbuf.length ≥ 16 then .error .v4TooLong else tsfParsePrefixLength suffix 32
    | none => if strnlen str 16 ≥ 16 then .error .v4TooLong else .ok 32
  let (octets, rest) ← parseOctets 4 addrbuf []
  if rest ≠ [] then .error .v4Trailing
  else
    let addr : InAddr := ⟨htonl (octetsWord octets)⟩
    let mask := v4Mask pfx
    if addr.sAddr &&& ~~~mask.sAddr != 0 then .error (.v4HostBits pfx) else .ok (addr, mask)

/-- The value of a hexadecimal digit, in either case. -/
def hexVal (c : UInt8) : Option ℕ :=
  let c := toLower c
  if chr '0' ≤ c ∧ c ≤ chr '9' then some (c - chr '0').toNat
  else if chr 'a' ≤ c ∧ c ≤ chr 'f' then some ((c - chr 'a').toNat + 10)
  else none

/-- The digits of one group, four at most, up to a `:`, a `/` or the end: their value,
their number and what follows them. -/
def groupDigits : ℕ → CStr → ℕ → ℕ → Except ParseError (ℕ × ℕ × CStr)
  | 0, p, val, seen => .ok (val, seen, p)
  | _ + 1, [], val, seen => .ok (val, seen, [])
  | n + 1, c :: p, val, seen =>
    if c = chr ':' ∨ c = chr '/' then .ok (val, seen, c :: p)
    else match hexVal c with
      | some d => groupDigits n p (val * 16 + d) (seen + 1)
      | none => .error (.v6BadCharacter c)

/-- Where the group loop stands: the rest of the string, the groups read so far
(`groups[0..gi]`), and the place of the `::` if there was one (`double_colon`). -/
structure GroupState where
  p : CStr
  groups : List UInt16
  doubleColon : Option ℕ
  deriving DecidableEq

/-- One group, at the head of the string. -/
def oneGroup (st : GroupState) (p : CStr) : Except ParseError GroupState := do
  let (val, seen, rest) ← groupDigits 4 p 0 0
  if seen = 0 then .error .v6EmptyGroup
  else if val > 0xFFFF then .error (.v6GroupTooLarge val)
  else .ok { st with p := rest, groups := st.groups ++ [val.toUInt16] }

/-- One turn of the group loop: a `::`, or a group with the `:` before it. -/
def groupTurn (st : GroupState) : Except ParseError GroupState :=
  match st.p with
  | c :: p =>
    if c = chr ':' ∧ p.head? = some (chr ':') then
      if st.doubleColon.isSome then .error .v6TwoDoubleColons
      else .ok { st with p := p.tail, doubleColon := some st.groups.length }
    else if c = chr ':' then
      if st.groups = [] ∧ st.doubleColon = none then .error .v6LeadingColon else oneGroup st p
    else oneGroup st (c :: p)
  | [] => .ok st

/-- `while (*p != '\0' && gi < 8)`, for the given number of turns. -/
def groupLoop : ℕ → GroupState → Except ParseError GroupState
  | 0, st => .ok st
  | n + 1, st =>
    if st.p ≠ [] ∧ st.groups.length < 8 then do groupLoop n (← groupTurn st) else .ok st

/-- `groups[8]` after the group loop: `bzero`, then the groups that were read. -/
def GroupState.array (st : GroupState) : Vector UInt16 8 := .ofFn fun i => st.groups.getD i 0

/-- `for (i = ngroups_after - 1; i >= 0; i--)`: each group moves up by `zero_fill`, the last one first. -/
def moveGroups (ngroupsBefore zeroFill : ℕ) : ℕ → Vector UInt16 8 → Vector UInt16 8
  | 0, groups => groups
  | i + 1, groups =>
    moveGroups ngroupsBefore zeroFill i
      (groups.setIfInBounds (ngroupsBefore + zeroFill + i) (groups[ngroupsBefore + i]?.getD 0))

/-- `for (i = 0; i < zero_fill; i++)`: the groups between become 0. -/
def zeroGroups (ngroupsBefore zeroFill : ℕ) (groups : Vector UInt16 8) : Vector UInt16 8 :=
  (List.range zeroFill).foldl (fun groups i => groups.setIfInBounds (ngroupsBefore + i) 0) groups

/-- The eight groups, with the zeros a `::` stands for. -/
def expandGroups (st : GroupState) : Except ParseError (List UInt16) :=
  let gi := st.groups.length
  match st.doubleColon with
  | some ngroupsBefore =>
    let ngroupsAfter := gi - ngroupsBefore
    let totalGroups := ngroupsBefore + ngroupsAfter
    if totalGroups > 7 then .error (.v6TooManyGroups totalGroups)
    else
      let zeroFill := 8 - totalGroups
      let groups := moveGroups ngroupsBefore zeroFill ngroupsAfter st.array
      .ok (zeroGroups ngroupsBefore zeroFill groups).toList
  | none => if gi ≠ 8 then .error (.v6GroupCount gi) else .ok st.array.toList

/-- The sixteen bytes of eight groups, in network byte order. -/
def In6Addr.ofGroups (groups : List UInt16) : In6Addr :=
  ⟨Vector.ofFn fun i : Fin 16 =>
    if i.val % 2 = 0 then (groups.getD (i.val / 2) 0 >>> 8).toUInt8 else (groups.getD (i.val / 2) 0).toUInt8⟩

/-- `(uint8_t)(0xFF << (8 - remainder_bits))`. -/
def byteMask (remainderBits : ℕ) : UInt8 := 0xFF <<< (8 - remainderBits).toUInt8

/-- `tsf_validate_v6_cidr`. -/
def tsfValidateV6Cidr (addr : In6Addr) (pfx : UInt8) : Except ParseError Unit :=
  if pfx = 128 ∨ pfx = 0 then .ok ()
  else
    let fullBytes := pfx.toNat / 8
    let remainderBits := pfx.toNat % 8
    let byte := fun i => addr.s6Addr.toList.getD i 0
    if remainderBits > 0 ∧ byte fullBytes &&& ~~~byteMask remainderBits ≠ 0 then .error (.v6HostBits pfx)
    else
      let first := if remainderBits > 0 then fullBytes + 1 else fullBytes
      if (addr.s6Addr.toList.drop first).all (· == 0) then .ok () else .error (.v6HostBits pfx)

/-- `tsf_parse_ipv6_addr`: the address and its prefix length. -/
def tsfParseIpv6Addr (str : CStr) : Except ParseError (In6Addr × UInt8) := do
  let slash := after (chr '/') str
  let addrbuf := before (chr '/') str
  if slash.isSome ∧ addrbuf.length ≥ 48 then .error .v6TooLong
  else
    let groups ← expandGroups (← groupLoop 9 ⟨addrbuf, [], none⟩)
    let addr := In6Addr.ofGroups groups
    match slash with
    | some suffix =>
      let pfx ← tsfParsePrefixLength suffix 128
      tsfValidateV6Cidr addr pfx.toUInt8
      .ok (addr, pfx.toUInt8)
    | none => .ok (addr, 128)

/-- `tsf_parse_addr`: the family is told by whether the value has a colon. -/
def tsfParseAddr (value : CStr) (f : TcpstatsFilter) (flagBit : UInt32) :
    Except ParseError TcpstatsFilter :=
  if f.has flagBit then .error .duplicateAddrDirective
  else if chr ':' ∈ value then do
    let (addr, pfx) ← tsfParseIpv6Addr value
    if flagBit = TSF_LOCAL_ADDR_MATCH then
      .ok { f with localAddrV6 := addr, localPrefixV6 := pfx, flags := f.flags ||| flagBit }
    else .ok { f with remoteAddrV6 := addr, remotePrefixV6 := pfx, flags := f.flags ||| flagBit }
  else do
    let (addr, mask) ← tsfParseIpv4Addr value
    if flagBit = TSF_LOCAL_ADDR_MATCH then
      .ok { f with localAddrV4 := addr, localMaskV4 := mask, flags := f.flags ||| flagBit }
    else .ok { f with remoteAddrV4 := addr, remoteMaskV4 := mask, flags := f.flags ||| flagBit }

/-! ### Format and fields -/

/-- `tsf_parse_format`. -/
def tsfParseFormat (value : CStr) (f : TcpstatsFilter) : Except ParseError TcpstatsFilter :=
  let value := lower value
  if value = cstr "compact" then .ok { f with format := TSF_FORMAT_COMPACT }
  else if value = cstr "full" then .ok { f with format := TSF_FORMAT_FULL }
  else .error (.unknownFormat value)

/-- The loop of `tsf_parse_field_list`: the tokens still to come, `mask`. -/
def fieldLoop : List CStr → UInt32 → Except ParseError UInt32
  | [], mask => .ok mask
  | tok :: toks, mask =>
    match tsfFieldGroups.lookup (lower tok) with
    | some group => fieldLoop toks (mask ||| group)
    | none => .error (.unknownFieldGroup (lower tok))

/-- `tsf_parse_field_list`. -/
def tsfParseFieldList (value : CStr) (f : TcpstatsFilter) : Except ParseError TcpstatsFilter := do
  let mask ← fieldLoop (fields (· == chr ',') value) 0
  if mask = 0 then .error .emptyFieldList else .ok { f with fieldMask := mask }

/-! ### Directives and whole strings -/

/-- `tsf_parse_directive`. Its `switch` on the first character only saves comparisons. -/
def tsfParseDirective (token : CStr) (f : TcpstatsFilter) : Except ParseError TcpstatsFilter :=
  if after (chr '=') token = some [] then .error (.emptyValue (before (chr '=') token))
  else
    let key := lower (before (chr '=') token)
    match after (chr '=') token with
    | none =>
      if key = cstr "ipv4_only" then .ok { f with flags := f.flags ||| TSF_IPV4_ONLY }
      else if key = cstr "ipv6_only" then .ok { f with flags := f.flags ||| TSF_IPV6_ONLY }
      else .error (.unknownFlag key)
    | some value =>
      if key = cstr "exclude" then tsfParseExcludeList value f
      else if key = cstr "format" then tsfParseFormat value f
      else if key = cstr "fields" then tsfParseFieldList value f
      else if key = cstr "ipv4_only" then .error (.flagWithValue key)
      else if key = cstr "ipv6_only" then .error (.flagWithValue key)
      else if key = cstr "include_state" then tsfParseIncludeStateList value f
      else if key = cstr "local_port" then do
        let (localPorts, flags) ←
          tsfParsePortList value f.localPorts TSF_MAX_PORTS f.flags TSF_LOCAL_PORT_MATCH
        .ok { f with localPorts, flags }
      else if key = cstr "local_addr" then tsfParseAddr value f TSF_LOCAL_ADDR_MATCH
      else if key = cstr "remote_port" then do
        let (remotePorts, flags) ←
          tsfParsePortList value f.remotePorts TSF_MAX_PORTS f.flags TSF_REMOTE_PORT_MATCH
        .ok { f with remotePorts, flags }
      else if key = cstr "remote_addr" then tsfParseAddr value f TSF_REMOTE_ADDR_MATCH
      else .error (.unknownDirective key)

/-- `tsf_validate_filter`. -/
def tsfValidateFilter (f : TcpstatsFilter) : Except ParseError Unit :=
  if f.has TSF_IPV4_ONLY ∧ f.has TSF_IPV6_ONLY then .error .v4OnlyAndV6Only
  else if f.has TSF_LOCAL_ADDR_MATCH ∧ f.localAddrV4 ≠ INADDR_ANY ∧ f.has TSF_IPV6_ONLY then
    .error .v4AddrWithV6Only
  else if f.has TSF_REMOTE_ADDR_MATCH ∧ f.remoteAddrV4 ≠ INADDR_ANY ∧ f.has TSF_IPV6_ONLY then
    .error .v4AddrWithV6Only
  else if f.has TSF_LOCAL_ADDR_MATCH ∧ ¬ IN6_IS_ADDR_UNSPECIFIED f.localAddrV6 ∧ f.has TSF_IPV4_ONLY then
    .error .v6AddrWithV4Only
  else if f.has TSF_REMOTE_ADDR_MATCH ∧ ¬ IN6_IS_ADDR_UNSPECIFIED f.remoteAddrV6 ∧ f.has TSF_IPV4_ONLY then
    .error .v6AddrWithV4Only
  else .ok ()

/-- A blank between directives: `strsep(&p, " \t")`. -/
def isBlank (c : UInt8) : Bool := c == chr ' ' || c == chr '\t'

/-- The tokens of a filter string. -/
def directives (input : CStr) : List CStr := fields isBlank (ofArray input)

/-- A byte the input check refuses. -/
def nonPrintable (c : UInt8) : Bool := c != 0 && (c < 0x20 || c > 0x7E)

/-- The loop over the directives. -/
def parseDirectives : List CStr → TcpstatsFilter → Except ParseError TcpstatsFilter
  | [], f => .ok f
  | token :: tokens, f => do parseDirectives tokens (← tsfParseDirective token f)

/-- `tsf_parse_filter_string` on the first `len` bytes of its input. -/
def tsfParseFilterString (input : CStr) : Except ParseError TcpstatsFilter :=
  if input = [] ∨ input.head? = some 0 then .ok .default
  else if input.length > TSF_PARSE_MAXLEN - 1 then .error (.tooLong input.length)
  else match input.find? nonPrintable with
    | some c => .error (.nonPrintable c (input.findIdx nonPrintable))
    | none =>
      let tokens := directives input
      if tokens.length > TSF_PARSE_MAXDIRECTIVES then
        .error (.tooManyDirectives (TSF_PARSE_MAXDIRECTIVES + 1))
      else if tokens = [] then .ok .default
      else do
        let tmp ← parseDirectives tokens .default
        tsfValidateFilter tmp
        .ok tmp

end TcpStats
