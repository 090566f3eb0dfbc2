import TcpStats.Filter.WellFormed

/-!
# Directives as data

`Directive` is what a token says, apart from the filter that it is said to; `Reads` is how a
token says it. The dispatcher reads the token, makes the directive's tests on the filter
(`Directive.Admits`) and applies it (`TcpstatsFilter.apply`): `tsfParseDirective_iff`. Each
directive writes one part of the filter at most, and leaves the others as they are.
-/

namespace TcpStats

open CString Fallible

/-! ### Endpoints -/

/-- The two ends of a connection. -/
inductive Endpoint where
  | localEnd
  | remoteEnd
  deriving DecidableEq

namespace TcpstatsFilter

variable (f : TcpstatsFilter)

def ports : Endpoint → Vector UInt16 8
  | .localEnd => f.localPorts
  | .remoteEnd => f.remotePorts

def addrV4 : Endpoint → InAddr
  | .localEnd => f.localAddrV4
  | .remoteEnd => f.remoteAddrV4

def maskV4 : Endpoint → InAddr
  | .localEnd => f.localMaskV4
  | .remoteEnd => f.remoteMaskV4

def addrV6 : Endpoint → In6Addr
  | .localEnd => f.localAddrV6
  | .remoteEnd => f.remoteAddrV6

def prefixV6 : Endpoint → UInt8
  | .localEnd => f.localPrefixV6
  | .remoteEnd => f.remotePrefixV6

end TcpstatsFilter

/-! ### Directives -/

/-- What a directive can write besides flags. -/
inductive Part where
  | states
  | format
  | fields
  | ports (e : Endpoint)
  | addr (e : Endpoint)
  deriving DecidableEq

/-- The keys of directives. -/
inductive Key where
  | ipv4Only
  | ipv6Only
  | exclude
  | includeState
  | format
  | fields
  | ports (e : Endpoint)
  | addr (e : Endpoint)
  deriving DecidableEq

namespace Key

/-- How it is written, in lower case. -/
def name : Key → CStr
  | ipv4Only => cstr "ipv4_only"
  | ipv6Only => cstr "ipv6_only"
  | exclude => cstr "exclude"
  | includeState => cstr "include_state"
  | format => cstr "format"
  | fields => cstr "fields"
  | ports .localEnd => cstr "local_port"
  | ports .remoteEnd => cstr "remote_port"
  | addr .localEnd => cstr "local_addr"
  | addr .remoteEnd => cstr "remote_addr"

/-- The flag that its directive sets, 0 for none. -/
def bit : Key → UInt32
  | ipv4Only => TSF_IPV4_ONLY
  | ipv6Only => TSF_IPV6_ONLY
  | exclude => 0
  | includeState => TSF_STATE_INCLUDE_MODE
  | format => 0
  | fields => 0
  | ports .localEnd => TSF_LOCAL_PORT_MATCH
  | ports .remoteEnd => TSF_REMOTE_PORT_MATCH
  | addr .localEnd => TSF_LOCAL_ADDR_MATCH
  | addr .remoteEnd => TSF_REMOTE_ADDR_MATCH

/-- The flag that must not be set before its directive, 0 for none. -/
def guard : Key → UInt32
  | ipv4Only => 0
  | ipv6Only => 0
  | exclude => TSF_STATE_INCLUDE_MODE
  | format => 0
  | fields => 0
  | key => key.bit

/-- The part that its directive writes. -/
def part : Key → Option Part
  | ipv4Only => none
  | ipv6Only => none
  | exclude => some .states
  | includeState => some .states
  | format => some .format
  | fields => some .fields
  | ports e => some (.ports e)
  | addr e => some (.addr e)

/-- All of them. -/
def all : List Key :=
  [ipv4Only, ipv6Only, exclude, includeState, format, fields, ports .localEnd, ports .remoteEnd, addr .localEnd,
    addr .remoteEnd]

theorem mem_all (key : Key) : key ∈ all := by
  rcases key with _ | _ | _ | _ | _ | _ | (_ | _) | (_ | _) <;> decide

theorem name_inj {key key' : Key} (h : key.name = key'.name) : key = key' := by
  have hall : ∀ key ∈ all, ∀ key' ∈ all, key.name = key'.name → key = key' := by decide
  exact hall key key.mem_all key' key'.mem_all h

/-- Each flag has a bit of its own. -/
theorem bit_and_iff {key key' : Key} (h : key'.bit ≠ 0) : key.bit &&& key'.bit ≠ 0 ↔ key = key' := by
  have hall : ∀ key ∈ all, ∀ key' ∈ all, key'.bit ≠ 0 → (key.bit &&& key'.bit ≠ 0 ↔ key = key') := by decide
  exact hall key key.mem_all key' key'.mem_all h

end Key

/-- What a directive says. -/
inductive Directive where
  | ipv4Only
  | ipv6Only
  /-- The states that are left of all. -/
  | exclude (kept : UInt16)
  | includeState (mask : UInt16)
  | format (format : UInt32)
  | fields (mask : UInt32)
  | ports (e : Endpoint) (slots : Vector UInt16 8)
  | addrV4 (e : Endpoint) (addr mask : InAddr)
  | addrV6 (e : Endpoint) (addr : In6Addr) (pfx : UInt8)

namespace Directive

/-- The key it is said under. -/
def key : Directive → Key
  | ipv4Only => .ipv4Only
  | ipv6Only => .ipv6Only
  | exclude _ => .exclude
  | includeState _ => .includeState
  | format _ => .format
  | fields _ => .fields
  | ports e _ => .ports e
  | addrV4 e _ _ => .addr e
  | addrV6 e _ _ => .addr e

/-- The states that it leaves of those selected before. -/
def kept : Directive → UInt16
  | exclude kept => kept
  | _ => 0xFFFF

/-- The tests that it makes on the filter. -/
def Admits (d : Directive) (f : TcpstatsFilter) : Prop :=
  f.has d.key.guard = false ∧ (d.key = .includeState → f.stateMask = 0xFFFF)

/-- The second directive may come behind the first. -/
def Compatible (d d' : Directive) : Prop :=
  d.key.bit &&& d'.key.guard = 0 ∧ (d'.key = .includeState → d.kept = 0xFFFF)

instance (d d' : Directive) : Decidable (Compatible d d') := inferInstanceAs (Decidable (_ ∧ _))

end Directive

/-- What it does to the filter. -/
def TcpstatsFilter.apply (f : TcpstatsFilter) (d : Directive) : TcpstatsFilter :=
  match d with
  | .ipv4Only => { f with flags := f.flags ||| TSF_IPV4_ONLY }
  | .ipv6Only => { f with flags := f.flags ||| TSF_IPV6_ONLY }
  | .exclude kept => { f with stateMask := f.stateMask &&& kept }
  | .includeState mask => { f with stateMask := mask, flags := f.flags ||| TSF_STATE_INCLUDE_MODE }
  | .format format => { f with format := format }
  | .fields mask => { f with fieldMask := mask }
  | .ports .localEnd slots => { f with localPorts := slots, flags := f.flags ||| TSF_LOCAL_PORT_MATCH }
  | .ports .remoteEnd slots => { f with remotePorts := slots, flags := f.flags ||| TSF_REMOTE_PORT_MATCH }
  | .addrV4 .localEnd addr mask =>
    { f with localAddrV4 := addr, localMaskV4 := mask, flags := f.flags ||| TSF_LOCAL_ADDR_MATCH }
  | .addrV4 .remoteEnd addr mask =>
    { f with remoteAddrV4 := addr, remoteMaskV4 := mask, flags := f.flags ||| TSF_REMOTE_ADDR_MATCH }
  | .addrV6 .localEnd addr pfx =>
    { f with localAddrV6 := addr, localPrefixV6 := pfx, flags := f.flags ||| TSF_LOCAL_ADDR_MATCH }
  | .addrV6 .remoteEnd addr pfx =>
    { f with remoteAddrV6 := addr, remotePrefixV6 := pfx, flags := f.flags ||| TSF_REMOTE_ADDR_MATCH }

theorem flags_apply (f : TcpstatsFilter) (d : Directive) : (f.apply d).flags = f.flags ||| d.key.bit := by
  cases d with
  | ipv4Only => rfl
  | ipv6Only => rfl
  | exclude kept => exact UInt32.or_zero.symm
  | includeState mask => rfl
  | format format => exact UInt32.or_zero.symm
  | fields mask => exact UInt32.or_zero.symm
  | ports e slots => cases e <;> rfl
  | addrV4 e addr mask => cases e <;> rfl
  | addrV6 e addr pfx => cases e <;> rfl

theorem has_apply (f : TcpstatsFilter) (d : Directive) (b : UInt32) :
    (f.apply d).has b = (f.has b || d.key.bit &&& b != 0) := by
  rw [TcpstatsFilter.has, flags_apply, flags_or_has, TcpstatsFilter.has]

/-! ### Parts of a filter -/

/-- What stands in a part. -/
@[reducible] def Part.Value : Part → Type
  | states => UInt16
  | format => UInt32
  | fields => UInt32
  | ports _ => Vector UInt16 8
  | addr _ => InAddr × InAddr × In6Addr × UInt8

namespace TcpstatsFilter

/-- A part of the filter. -/
def part (f : TcpstatsFilter) : (p : Part) → p.Value
  | .states => f.stateMask
  | .format => f.format
  | .fields => f.fieldMask
  | .ports e => f.ports e
  | .addr e => (f.addrV4 e, f.maskV4 e, f.addrV6 e, f.prefixV6 e)

/-- The flags and the parts are all that there is. -/
theorem ext_part {f g : TcpstatsFilter} (hversion : f.version = g.version) (hflags : f.flags = g.flags)
    (h : ∀ p, f.part p = g.part p) : f = g := by
  have hlocal := h (.addr .localEnd)
  have hremote := h (.addr .remoteEnd)
  have hlports := h (.ports .localEnd)
  have hrports := h (.ports .remoteEnd)
  have hstates := h .states
  have hformat := h .format
  have hfields := h .fields
  cases f
  cases g
  simp only [part, ports, addrV4, maskV4, addrV6, prefixV6, Prod.mk.injEq] at *
  simp [*]

end TcpstatsFilter

/-- A directive leaves the other parts alone. -/
theorem part_apply_of_ne (f : TcpstatsFilter) {d : Directive} {p : Part} (h : d.key.part ≠ some p) :
    (f.apply d).part p = f.part p := by
  cases d with
  | ipv4Only => cases p <;> rfl
  | ipv6Only => cases p <;> rfl
  | exclude kept => cases p <;> first | rfl | exact absurd rfl h
  | includeState mask => cases p <;> first | rfl | exact absurd rfl h
  | format format => cases p <;> first | rfl | exact absurd rfl h
  | fields mask => cases p <;> first | rfl | exact absurd rfl h
  | ports e slots =>
    cases p with
    | ports e' => cases e <;> cases e' <;> first | rfl | exact absurd rfl h
    | addr e' => cases e <;> cases e' <;> rfl
    | _ => cases e <;> rfl
  | addrV4 e addr mask =>
    cases p with
    | ports e' => cases e <;> cases e' <;> rfl
    | addr e' => cases e <;> cases e' <;> first | rfl | exact absurd rfl h
    | _ => cases e <;> rfl
  | addrV6 e addr pfx =>
    cases p with
    | ports e' => cases e <;> cases e' <;> rfl
    | addr e' => cases e <;> cases e' <;> first | rfl | exact absurd rfl h
    | _ => cases e <;> rfl

/-- What it writes to its own part depends on that part only. -/
theorem part_apply_congr {f g : TcpstatsFilter} {d : Directive} {p : Part} (h : f.part p = g.part p) :
    (f.apply d).part p = (g.apply d).part p := by
  by_cases hp : d.key.part = some p
  · cases d with
    | ipv4Only => cases hp
    | ipv6Only => cases hp
    | exclude kept =>
      obtain rfl := Option.some.inj hp
      exact congrArg (· &&& kept) h
    | includeState mask =>
      obtain rfl := Option.some.inj hp
      rfl
    | format format =>
      obtain rfl := Option.some.inj hp
      rfl
    | fields mask =>
      obtain rfl := Option.some.inj hp
      rfl
    | ports e slots =>
      obtain rfl := Option.some.inj hp
      cases e <;> rfl
    | addrV4 e addr mask =>
      obtain rfl := Option.some.inj hp
      have h6 : (f.addrV6 e, f.prefixV6 e) = (g.addrV6 e, g.prefixV6 e) := congrArg (fun v => v.2.2) h
      cases e
      · exact congrArg (fun v => (addr, mask, v)) h6
      · exact congrArg (fun v => (addr, mask, v)) h6
    | addrV6 e addr pfx =>
      obtain rfl := Option.some.inj hp
      have h4 : (f.addrV4 e, f.maskV4 e) = (g.addrV4 e, g.maskV4 e) := congrArg (fun v => (v.1, v.2.1)) h
      cases e
      · exact congrArg (fun v => (v.1, v.2, addr, pfx)) h4
      · exact congrArg (fun v => (v.1, v.2, addr, pfx)) h4
  · rw [part_apply_of_ne f hp, part_apply_of_ne g hp, h]

/-- Directives that write different parts can change places. -/
theorem apply_comm (f : TcpstatsFilter) {d d' : Directive}
    (h : ∀ p, d.key.part = some p → d'.key.part ≠ some p) :
    (f.apply d).apply d' = (f.apply d').apply d := by
  have hversion : ∀ (g : TcpstatsFilter) (d : Directive), (g.apply d).version = g.version := by
    intro g d
    unfold TcpstatsFilter.apply
    split <;> rfl
  refine TcpstatsFilter.ext_part ?_ ?_ fun p => ?_
  · rw [hversion, hversion, hversion, hversion]
  · rw [flags_apply, flags_apply, flags_apply, flags_apply, UInt32.or_assoc, UInt32.or_comm d.key.bit,
      UInt32.or_assoc]
  · by_cases hp : d.key.part = some p
    · rw [part_apply_of_ne _ (h p hp)]
      exact part_apply_congr (part_apply_of_ne f (h p hp)).symm
    · rw [part_apply_of_ne _ hp]
      exact part_apply_congr (part_apply_of_ne f hp)

/-! ### Reading a token -/

/-- The token gives the key a value. -/
structure Says (token : CStr) (key : Key) (value : CStr) : Prop where
  key_eq : directiveKey token = key.name
  value_eq : directiveValue token = some value
  value_ne : value ≠ []

/-- How a token says a directive. -/
inductive Reads (token : CStr) : Directive → Prop where
  | ipv4Only : directiveKey token = cstr "ipv4_only" → directiveValue token = none → Reads token .ipv4Only
  | ipv6Only : directiveKey token = cstr "ipv6_only" → directiveValue token = none → Reads token .ipv6Only
  | exclude {value : CStr} {kept : UInt16} : Says token .exclude value →
      excludeLoop (fields (· == chr ',') value) 0 0xFFFF = .ok kept → Reads token (.exclude kept)
  | includeState {value : CStr} {mask : UInt16} : Says token .includeState value →
      includeLoop (fields (· == chr ',') value) 0 0 = .ok mask → mask ≠ 0 → Reads token (.includeState mask)
  | format {value : CStr} {format : UInt32} : Says token .format value →
      (lower value, format) ∈ tsfFormats → Reads token (.format format)
  | fields {value : CStr} {mask : UInt32} : Says token .fields value →
      fieldLoop (fields (· == chr ',') value) 0 = .ok mask → mask ≠ 0 → Reads token (.fields mask)
  | ports (e : Endpoint) {value : CStr} {count : ℕ} {slots : Vector UInt16 8} : Says token (.ports e) value →
      portLoop TSF_MAX_PORTS (fields (· == chr ',') value) 0 (Vector.replicate 8 0) = .ok (count, slots) →
      0 < count → Reads token (.ports e slots)
  | addrV4 (e : Endpoint) {value : CStr} {addr mask : InAddr} : Says token (.addr e) value → chr ':' ∉ value →
      tsfParseIpv4Addr value = .ok (addr, mask) → Reads token (.addrV4 e addr mask)
  | addrV6 (e : Endpoint) {value : CStr} {addr : In6Addr} {pfx : UInt8} : Says token (.addr e) value →
      chr ':' ∈ value → tsfParseIpv6Addr value = .ok (addr, pfx) → Reads token (.addrV6 e addr pfx)

theorem Reads.key {token : CStr} {d : Directive} (h : Reads token d) : directiveKey token = d.key.name := by
  cases h with
  | ipv4Only hk _ => exact hk
  | ipv6Only hk _ => exact hk
  | exclude hs _ => exact hs.key_eq
  | includeState hs _ _ => exact hs.key_eq
  | format hs _ => exact hs.key_eq
  | fields hs _ _ => exact hs.key_eq
  | ports e hs _ _ => exact hs.key_eq
  | addrV4 e hs _ _ => exact hs.key_eq
  | addrV6 e hs _ _ => exact hs.key_eq

/-! ### The dispatcher -/

/-- The parser of each key is called on its value. -/
theorem tsfParseDirective_value {token value : CStr} {key : Key} (h : Says token key value)
    (f : TcpstatsFilter) :
    tsfParseDirective token f =
      if key.name = cstr "exclude" then tsfParseExcludeList value f
      else if key.name = cstr "format" then tsfParseFormat value f
      else if key.name = cstr "fields" then tsfParseFieldList value f
      else if key.name = cstr "ipv4_only" then .error (.flagWithValue key.name)
      else if key.name = cstr "ipv6_only" then .error (.flagWithValue key.name)
      else if key.name = cstr "include_state" then tsfParseIncludeStateList value f
      else if key.name = cstr "local_port" then do
        let (localPorts, flags) ←
          tsfParsePortList value f.localPorts TSF_MAX_PORTS f.flags TSF_LOCAL_PORT_MATCH
        .ok { f with localPorts, flags }
      else if key.name = cstr "local_addr" then tsfParseAddr value f TSF_LOCAL_ADDR_MATCH
      else if key.name = cstr "remote_port" then do
        let (remotePorts, flags) ←
          tsfParsePortList value f.remotePorts TSF_MAX_PORTS f.flags TSF_REMOTE_PORT_MATCH
        .ok { f with remotePorts, flags }
      else if key.name = cstr "remote_addr" then tsfParseAddr value f TSF_REMOTE_ADDR_MATCH
      else .error (.unknownDirective key.name) := by
  obtain ⟨hkey, hvalue, hne⟩ := h
  have hvalue : after (chr '=') token = some value := hvalue
  have hkey : lower (before (chr '=') token) = key.name := hkey
  have hsome : ¬ some value = some [] := fun heq => hne (Option.some.inj heq)
  unfold tsfParseDirective
  rw [hvalue, if_neg hsome, hkey]

theorem tsfParseDirective_flag {token key : CStr} (hkey : directiveKey token = key)
    (hvalue : directiveValue token = none) (f : TcpstatsFilter) :
    tsfParseDirective token f =
      if key = cstr "ipv4_only" then .ok { f with flags := f.flags ||| TSF_IPV4_ONLY }
      else if key = cstr "ipv6_only" then .ok { f with flags := f.flags ||| TSF_IPV6_ONLY }
      else .error (.unknownFlag key) := by
  have hvalue : after (chr '=') token = none := hvalue
  have hkey : lower (before (chr '=') token) = key := hkey
  have hnone : ¬ none = some ([] : CStr) := fun heq => by cases heq
  unfold tsfParseDirective
  rw [hvalue, if_neg hnone, hkey]

/-- The states to exclude do not depend on those selected before. -/
theorem excludeLoop_and {toks : List CStr} {seen m k r : UInt16} :
    excludeLoop toks seen (m &&& k) = .ok r ↔ ∃ k', excludeLoop toks seen k = .ok k' ∧ r = m &&& k' := by
  induction toks generalizing seen k with
  | nil =>
    simp only [excludeLoop, Except.ok.injEq]
    constructor
    · rintro rfl
      exact ⟨k, rfl, rfl⟩
    · rintro ⟨k', rfl, rfl⟩
      rfl
  | cons tok toks ih =>
    simp only [excludeLoop, bind_eq_ok, ite_error_eq_ok, UInt16.and_assoc, ih]
    constructor
    · rintro ⟨s, hs, hnew, k', hk', rfl⟩
      exact ⟨k', ⟨s, hs, hnew, hk'⟩, rfl⟩
    · rintro ⟨k', ⟨s, hs, hnew, hk'⟩, rfl⟩
      exact ⟨s, hs, hnew, k', hk', rfl⟩

theorem excludeLoop_iff {toks : List CStr} {m r : UInt16} :
    excludeLoop toks 0 m = .ok r ↔ ∃ kept, excludeLoop toks 0 0xFFFF = .ok kept ∧ r = m &&& kept := by
  have hall : m = m &&& 0xFFFF := (UInt16.and_neg_one (a := m)).symm
  conv_lhs => rw [hall]
  exact excludeLoop_and

/-- A port list that is not set is unused. -/
theorem TcpstatsFilter.Formed.ports_unset {f : TcpstatsFilter} (hf : f.Formed) {e : Endpoint}
    (h : f.has (Key.ports e).bit = false) : f.ports e = Vector.replicate 8 0 := by
  have hformed : PortsFormed (f.ports e) (f.has (Key.ports e).bit) := by
    cases e
    · exact hf.localPorts
    · exact hf.remotePorts
  rw [h] at hformed
  obtain ⟨parsed, hslots, -, -, hparsed⟩ := hformed
  obtain rfl : parsed = [] := by simpa using hparsed
  exact Vector.toList_inj.mp (by simpa using hslots)

theorem TcpstatsFilter.has_zero (f : TcpstatsFilter) : f.has 0 = false := by
  simp [TcpstatsFilter.has]

theorem tsfParseDirective_ports {token value : CStr} (e : Endpoint) (h : Says token (.ports e) value)
    {f f' : TcpstatsFilter} :
    tsfParseDirective token f = .ok f' ↔ f.has (Key.ports e).bit = false ∧ ∃ count slots, 0 < count ∧
      portLoop TSF_MAX_PORTS (fields (· == chr ',') value) 0 (f.ports e) = .ok (count, slots) ∧
        f' = f.apply (.ports e slots) := by
  have hcall : ∀ (e : Endpoint) (set : Vector UInt16 8 → UInt32 → TcpstatsFilter),
      (∀ slots, set slots (f.flags ||| (Key.ports e).bit) = f.apply (.ports e slots)) →
      ((do
        let (slots, flags) ← tsfParsePortList value (f.ports e) TSF_MAX_PORTS f.flags (Key.ports e).bit
        .ok (set slots flags)) = .ok f' ↔ f.has (Key.ports e).bit = false ∧ ∃ count slots, 0 < count ∧
          portLoop TSF_MAX_PORTS (fields (· == chr ',') value) 0 (f.ports e) = .ok (count, slots) ∧
            f' = f.apply (.ports e slots)) := by
    intro e set hset
    rw [bind_eq_ok]
    constructor
    · rintro ⟨⟨slots, flags⟩, hlist, hf'⟩
      obtain ⟨hbit, rfl, count, hcount, hloop⟩ := tsfParsePortList_iff.mp hlist
      refine ⟨by simp [TcpstatsFilter.has, hbit], count, slots, hcount, hloop, ?_⟩
      rw [← hset]
      exact (Except.ok.inj hf').symm
    · rintro ⟨hbit, count, slots, hcount, hloop, rfl⟩
      have hbit : f.flags &&& (Key.ports e).bit = 0 := by simpa [TcpstatsFilter.has] using hbit
      refine ⟨_, tsfParsePortList_iff.mpr ⟨hbit, rfl, count, hcount, hloop⟩, ?_⟩
      rw [← hset]
  rw [tsfParseDirective_value h]
  cases e
  · exact hcall .localEnd (fun slots flags => { f with localPorts := slots, flags := flags }) fun _ => rfl
  · exact hcall .remoteEnd (fun slots flags => { f with remotePorts := slots, flags := flags }) fun _ => rfl

theorem tsfParseDirective_addr {token value : CStr} (e : Endpoint) (h : Says token (.addr e) value)
    {f f' : TcpstatsFilter} :
    tsfParseDirective token f = .ok f' ↔ f.has (Key.addr e).bit = false ∧
      ((chr ':' ∉ value ∧ ∃ addr mask, tsfParseIpv4Addr value = .ok (addr, mask) ∧ f' = f.apply (.addrV4 e addr mask)) ∨
        (chr ':' ∈ value ∧ ∃ addr pfx, tsfParseIpv6Addr value = .ok (addr, pfx) ∧ f' = f.apply (.addrV6 e addr pfx))) := by
  have hcall : tsfParseDirective token f = tsfParseAddr value f (Key.addr e).bit := by
    cases e
    · exact tsfParseDirective_value h f
    · exact tsfParseDirective_value h f
  have hremote : TSF_REMOTE_ADDR_MATCH ≠ TSF_LOCAL_ADDR_MATCH := by decide
  rw [hcall, tsfParseAddr_iff]
  refine and_congr_right fun _ => ?_
  constructor
  · intro hstored
    cases e with
    | localEnd =>
      cases hstored with
      | localV6 addr pfx _ hcolon hparse hf => exact .inr ⟨hcolon, addr, pfx, hparse, hf⟩
      | localV4 addr mask _ hcolon hparse hf => exact .inl ⟨hcolon, addr, mask, hparse, hf⟩
      | remoteV6 _ _ hbit => exact absurd rfl hbit
      | remoteV4 _ _ hbit => exact absurd rfl hbit
    | remoteEnd =>
      cases hstored with
      | remoteV6 addr pfx _ hcolon hparse hf => exact .inr ⟨hcolon, addr, pfx, hparse, hf⟩
      | remoteV4 addr mask _ hcolon hparse hf => exact .inl ⟨hcolon, addr, mask, hparse, hf⟩
      | localV6 _ _ hbit => exact absurd hbit hremote
      | localV4 _ _ hbit => exact absurd hbit hremote
  · rintro (⟨hcolon, addr, mask, hparse, rfl⟩ | ⟨hcolon, addr, pfx, hparse, rfl⟩)
    · cases e
      · exact .localV4 addr mask rfl hcolon hparse rfl
      · exact .remoteV4 addr mask hremote hcolon hparse rfl
    · cases e
      · exact .localV6 addr pfx rfl hcolon hparse rfl
      · exact .remoteV6 addr pfx hremote hcolon hparse rfl

/-- The dispatcher reads the token, makes the directive's tests and applies it. -/
theorem tsfParseDirective_iff {token : CStr} {f f' : TcpstatsFilter} (hf : f.Formed) :
    tsfParseDirective token f = .ok f' ↔ ∃ d, Reads token d ∧ d.Admits f ∧ f' = f.apply d := by
  constructor
  · intro h
    have hne : directiveValue token ≠ some [] := by
      unfold tsfParseDirective at h
      exact (ite_error_eq_ok.mp h).1
    have said : ∀ {key : Key} {value : CStr}, directiveKey token = key.name → directiveValue token = some value →
        Says token key value := fun hk hv => ⟨hk, hv, fun hnil => hne (hnil ▸ hv)⟩
    have ports : ∀ (e : Endpoint) {value : CStr}, directiveKey token = (Key.ports e).name →
        directiveValue token = some value → ∃ d, Reads token d ∧ d.Admits f ∧ f' = f.apply d := by
      intro e value hk hv
      obtain ⟨hbit, count, slots, hcount, hloop, hf'⟩ := (tsfParseDirective_ports e (said hk hv)).mp h
      rw [hf.ports_unset hbit] at hloop
      exact ⟨_, .ports e (said hk hv) hloop hcount, ⟨hbit, fun hall => by cases hall⟩, hf'⟩
    have addr : ∀ (e : Endpoint) {value : CStr}, directiveKey token = (Key.addr e).name →
        directiveValue token = some value → ∃ d, Reads token d ∧ d.Admits f ∧ f' = f.apply d := by
      intro e value hk hv
      obtain ⟨hbit, ⟨hcolon, a, m, hparse, hf'⟩ | ⟨hcolon, a, p, hparse, hf'⟩⟩ :=
        (tsfParseDirective_addr e (said hk hv)).mp h
      · exact ⟨_, .addrV4 e (said hk hv) hcolon hparse, ⟨hbit, fun hall => by cases hall⟩, hf'⟩
      · exact ⟨_, .addrV6 e (said hk hv) hcolon hparse, ⟨hbit, fun hall => by cases hall⟩, hf'⟩
    cases tsfParseDirective_effect h with
    | ipv4Only hk hv hf' => exact ⟨_, .ipv4Only hk hv, ⟨f.has_zero, fun hall => by cases hall⟩, hf'⟩
    | ipv6Only hk hv hf' => exact ⟨_, .ipv6Only hk hv, ⟨f.has_zero, fun hall => by cases hall⟩, hf'⟩
    | exclude value hk hv hf' =>
      obtain ⟨hmode, mask, hloop, rfl⟩ := tsfParseExcludeList_iff.mp hf'
      obtain ⟨kept, hkept, rfl⟩ := excludeLoop_iff.mp hloop
      exact ⟨_, .exclude (said hk hv) hkept, ⟨hmode, fun hall => by cases hall⟩, rfl⟩
    | format value hk hv hf' =>
      obtain ⟨format, hname, rfl⟩ := tsfParseFormat_iff.mp hf'
      exact ⟨_, .format (said hk hv) hname, ⟨f.has_zero, fun hall => by cases hall⟩, rfl⟩
    | fields value hk hv hf' =>
      obtain ⟨mask, hzero, hloop, rfl⟩ := tsfParseFieldList_iff.mp hf'
      exact ⟨_, .fields (said hk hv) hloop hzero, ⟨f.has_zero, fun hall => by cases hall⟩, rfl⟩
    | includeState value hk hv hf' =>
      obtain ⟨hmask, hmode, mask, hzero, hloop, rfl⟩ := tsfParseIncludeStateList_iff.mp hf'
      exact ⟨_, .includeState (said hk hv) hloop hzero, ⟨hmode, fun _ => hmask⟩, rfl⟩
    | localPort value _ _ hk hv _ _ => exact ports .localEnd hk hv
    | remotePort value _ _ hk hv _ _ => exact ports .remoteEnd hk hv
    | localAddr value hk hv _ => exact addr .localEnd hk hv
    | remoteAddr value hk hv _ => exact addr .remoteEnd hk hv
  · rintro ⟨d, hreads, ⟨hguard, hall⟩, rfl⟩
    cases hreads with
    | ipv4Only hk hv => exact tsfParseDirective_flag hk hv f
    | ipv6Only hk hv => exact tsfParseDirective_flag hk hv f
    | exclude hs hloop =>
      rw [tsfParseDirective_value hs]
      exact tsfParseExcludeList_iff.mpr ⟨hguard, _, excludeLoop_iff.mpr ⟨_, hloop, rfl⟩, rfl⟩
    | includeState hs hloop hzero =>
      rw [tsfParseDirective_value hs]
      exact tsfParseIncludeStateList_iff.mpr ⟨hall rfl, hguard, _, hzero, hloop, rfl⟩
    | format hs hname =>
      rw [tsfParseDirective_value hs]
      exact tsfParseFormat_iff.mpr ⟨_, hname, rfl⟩
    | fields hs hloop hzero =>
      rw [tsfParseDirective_value hs]
      exact tsfParseFieldList_iff.mpr ⟨_, hzero, hloop, rfl⟩
    | ports e hs hloop hcount =>
      rw [← hf.ports_unset hguard] at hloop
      exact (tsfParseDirective_ports e hs).mpr ⟨hguard, _, _, hcount, hloop, rfl⟩
    | addrV4 e hs hcolon hparse =>
      exact (tsfParseDirective_addr e hs).mpr ⟨hguard, .inl ⟨hcolon, _, _, hparse, rfl⟩⟩
    | addrV6 e hs hcolon hparse =>
      exact (tsfParseDirective_addr e hs).mpr ⟨hguard, .inr ⟨hcolon, _, _, hparse, rfl⟩⟩

end TcpStats
