import TcpStats.Kernel.Net
import TcpStats.Lib.CString

/-!
# What the filter parser complains of

Each failure of `tcp_statsdev_filter.c` is a constructor that carries what its message
prints; `ParseError.text` is the message and `ParseError.errno` the code. The message
reaches the caller through `errbuf`, which holds `TSF_ERRBUF_SIZE` bytes.
-/

namespace TcpStats

open CString

/-- `TSF_PARSE_MAXLEN`. -/
def TSF_PARSE_MAXLEN : ℕ := 512

/-- `TSF_PARSE_MAXDIRECTIVES`. -/
def TSF_PARSE_MAXDIRECTIVES : ℕ := 16

/-- `TSF_ERRBUF_SIZE`. -/
def TSF_ERRBUF_SIZE : ℕ := 128

instance errbufPos : Fact (0 < 128) := ⟨by decide⟩

/-- The failures of the filter parser. -/
inductive ParseError where
  /-- `tsf_parse_filter_string`: the string does not fit the parser's buffer. -/
  | tooLong (len : ℕ)
  | nonPrintable (c : UInt8) (offset : ℕ)
  | tooManyDirectives (n : ℕ)
  /-- `tsf_parse_directive`: `key=` with nothing behind it. -/
  | emptyValue (key : CStr)
  | flagWithValue (key : CStr)
  | unknownFlag (key : CStr)
  | unknownDirective (key : CStr)
  /-- `tsf_parse_port_number` and `tsf_parse_port_list`. -/
  | emptyPort
  | portLeadingZero (str : CStr)
  | portTooManyDigits (str : CStr)
  | portNonDigit (str : CStr) (c : UInt8)
  | portZero
  | portTooLarge (val : ℕ)
  | duplicatePortDirective
  | tooManyPorts (maxports : ℕ)
  | duplicatePort (port : UInt16)
  | emptyPortList
  /-- `tsf_lookup_state`, `tsf_parse_exclude_list` and `tsf_parse_include_state_list`. -/
  | unknownState (name : CStr)
  | excludeAndInclude
  | duplicateState (tok : CStr) (list : CStr)
  | duplicateIncludeState
  | emptyIncludeState
  /-- `tsf_parse_prefix_length`. -/
  | emptyPrefix
  | prefixLeadingZero (str : CStr)
  | prefixNonDigit (str : CStr)
  | prefixTooLarge (val maxPfx : ℕ)
  /-- `tsf_parse_ipv4_addr`. -/
  | v4TooLong
  | v4Octets (noctets : ℕ)
  | v4LeadingZero
  | v4OctetTooLarge (val : ℕ)
  | v4Trailing
  | v4HostBits (pfx : ℕ)
  /-- `tsf_parse_ipv6_addr` and `tsf_validate_v6_cidr`. -/
  | v6TooLong
  | v6TwoDoubleColons
  | v6LeadingColon
  | v6BadCharacter (c : UInt8)
  | v6EmptyGroup
  | v6GroupTooLarge (val : ℕ)
  | v6TooManyGroups (n : ℕ)
  | v6GroupCount (n : ℕ)
  | v6HostBits (pfx : UInt8)
  /-- `tsf_parse_addr`. -/
  | duplicateAddrDirective
  /-- `tsf_parse_format` and `tsf_parse_field_list`. -/
  | unknownFormat (value : CStr)
  | unknownFieldGroup (tok : CStr)
  | emptyFieldList
  /-- `tsf_validate_filter`. -/
  | v4OnlyAndV6Only
  | v4AddrWithV6Only
  | v6AddrWithV4Only
  deriving DecidableEq

namespace ParseError

/-- The code returned with the error: only an over-long string has one of its own. -/
def errno : ParseError → Errno
  | tooLong _ => .ENAMETOOLONG
  | _ => .EINVAL

/-- The message, before `snprintf` cuts it to the buffer. -/
def text : ParseError → CStr
  | tooLong len => cstr "filter string too long (" ++ decimal len ++ cstr " > " ++
      decimal (TSF_PARSE_MAXLEN - 1) ++ cstr ")"
  | nonPrintable c i => cstr "non-printable character 0x" ++
      (if c < 16 then cstr "0" else []) ++ hex c.toNat ++ cstr " at offset " ++ decimal i
  | tooManyDirectives n => cstr "too many directives (" ++ decimal n ++ cstr " > " ++
      decimal TSF_PARSE_MAXDIRECTIVES ++ cstr ")"
  | emptyValue key => cstr "directive '" ++ key ++ cstr "' has empty value"
  | flagWithValue key => cstr "'" ++ key ++ cstr "' is a flag and does not accept a value"
  | unknownFlag key => cstr "unknown flag '" ++ key ++ cstr "' (did you mean '" ++ key ++ cstr "=...'?)"
  | unknownDirective key => cstr "unknown directive '" ++ key ++ cstr "'"
  | emptyPort => cstr "empty port number"
  | portLeadingZero str => cstr "port '" ++ str ++ cstr "' has leading zero (octal not supported)"
  | portTooManyDigits str => cstr "port '" ++ str ++ cstr "' too many digits (max 65535)"
  | portNonDigit str c => cstr "port '" ++ str ++ cstr "' contains non-digit character '" ++ [c] ++ cstr "'"
  | portZero => cstr "port 0 is not valid"
  | portTooLarge val => cstr "port " ++ decimal val ++ cstr " exceeds maximum 65535"
  | duplicatePortDirective => cstr "duplicate port directive"
  | tooManyPorts n => cstr "too many ports (max " ++ decimal n ++ cstr " per direction)"
  | duplicatePort port => cstr "duplicate port " ++ decimal (ntohs port).toNat
  | emptyPortList => cstr "empty port list"
  | unknownState name => cstr "unknown state name '" ++ name ++ cstr "'"
  | excludeAndInclude => cstr "'exclude' and 'include_state' are mutually exclusive"
  | duplicateState tok list => cstr "duplicate state '" ++ tok ++ cstr "' in " ++ list ++ cstr " list"
  | duplicateIncludeState => cstr "duplicate 'include_state' directive"
  | emptyIncludeState => cstr "empty include_state list"
  | emptyPrefix => cstr "empty prefix length"
  | prefixLeadingZero str => cstr "prefix length '" ++ str ++ cstr "' has leading zero"
  | prefixNonDigit str => cstr "prefix length '" ++ str ++ cstr "' contains non-digit"
  | prefixTooLarge val maxPfx => cstr "prefix length " ++ decimal val ++ cstr " exceeds maximum " ++
      decimal maxPfx
  | v4TooLong => cstr "IPv4 address too long"
  | v4Octets n => cstr "IPv4 address has " ++ decimal n ++ cstr " octets (expected 4)"
  | v4LeadingZero => cstr "IPv4 octet has leading zero"
  | v4OctetTooLarge val => cstr "IPv4 octet " ++ decimal val ++ cstr " exceeds 255"
  | v4Trailing => cstr "trailing characters after IPv4 address"
  | v4HostBits pfx => cstr "host bits set in IPv4 CIDR (prefix /" ++ decimal pfx ++ cstr ")"
  | v6TooLong => cstr "IPv6 address too long before '/'"
  | v6TwoDoubleColons => cstr "multiple '::' in IPv6 address"
  | v6LeadingColon => cstr "IPv6 address starts with single ':'"
  | v6BadCharacter c => cstr "invalid character '" ++ [c] ++ cstr "' in IPv6 group"
  | v6EmptyGroup => cstr "empty group in IPv6 address"
  | v6GroupTooLarge val => cstr "IPv6 group value 0x" ++ hex val ++ cstr " exceeds 0xFFFF"
  | v6TooManyGroups n => cstr "too many groups (" ++ decimal n ++ cstr ") with '::' in IPv6 address"
  | v6GroupCount n => cstr "IPv6 address has " ++ decimal n ++ cstr " groups (expected 8, or use '::')"
  | v6HostBits pfx => cstr "host bits set in IPv6 CIDR (prefix /" ++ decimal pfx.toNat ++ cstr ")"
  | duplicateAddrDirective => cstr "duplicate address directive"
  | unknownFormat value => cstr "unknown format '" ++ value ++ cstr "' (expected 'compact' or 'full')"
  | unknownFieldGroup tok => cstr "unknown field group '" ++ tok ++ cstr "'"
  | emptyFieldList => cstr "empty field list"
  | v4OnlyAndV6Only => cstr "'ipv4_only' and 'ipv6_only' are mutually exclusive"
  | v4AddrWithV6Only => cstr "IPv4 address conflicts with ipv6_only flag"
  | v6AddrWithV4Only => cstr "IPv6 address conflicts with ipv4_only flag"

/-- The message as it stands in `errbuf`. -/
def errbuf (e : ParseError) : CharBuf 128 := strlcpy 128 e.text

end ParseError

end TcpStats
