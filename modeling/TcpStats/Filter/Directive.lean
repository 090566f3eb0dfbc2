import TcpStats.Filter.Parse
import TcpStats.Lib.Bits
import TcpStats.Lib.Fallible
import Mathlib.Data.List.TakeDrop

/-!
# What the directives of a filter string do

`Effect` says once what an accepted directive does to the filter, one case per
directive. From it follows, for whole strings, which flags are set (`has_iff`: those of the
directives that occur).
-/

namespace TcpStats

open CString Fallible

/-! ### Directives -/

/-- The key of a token, as it is compared. -/
def directiveKey (token : CStr) : CStr := lower (before (chr '=') token)

/-- The value of a token, if it has one. -/
def directiveValue (token : CStr) : Option CStr := after (chr '=') token

/-- The flag that the directive of a key sets, 0 for none. -/
def keyBit (key : CStr) : UInt32 :=
  if key = cstr "ipv4_only" then TSF_IPV4_ONLY
  else if key = cstr "ipv6_only" then TSF_IPV6_ONLY
  else if key = cstr "include_state" then TSF_STATE_INCLUDE_MODE
  else if key = cstr "local_port" then TSF_LOCAL_PORT_MATCH
  else if key = cstr "remote_port" then TSF_REMOTE_PORT_MATCH
  else if key = cstr "local_addr" then TSF_LOCAL_ADDR_MATCH
  else if key = cstr "remote_addr" then TSF_REMOTE_ADDR_MATCH
  else 0

/-- What an accepted directive does. -/
inductive Effect (token : CStr) (f f' : TcpstatsFilter) : Prop where
  | ipv4Only : directiveKey token = cstr "ipv4_only" → directiveValue token = none →
      f' = { f with flags := f.flags ||| TSF_IPV4_ONLY } → Effect token f f'
  | ipv6Only : directiveKey token = cstr "ipv6_only" → directiveValue token = none →
      f' = { f with flags := f.flags ||| TSF_IPV6_ONLY } → Effect token f f'
  | exclude (value : CStr) : directiveKey token = cstr "exclude" → directiveValue token = some value →
      tsfParseExcludeList value f = .ok f' → Effect token f f'
  | format (value : CStr) : directiveKey token = cstr "format" → directiveValue token = some value →
      tsfParseFormat value f = .ok f' → Effect token f f'
  | fields (value : CStr) : directiveKey token = cstr "fields" → directiveValue token = some value →
      tsfParseFieldList value f = .ok f' → Effect token f f'
  | includeState (value : CStr) : directiveKey token = cstr "include_state" →
      directiveValue token = some value → tsfParseIncludeStateList value f = .ok f' → Effect token f f'
  | localPort (value : CStr) (ports : Vector UInt16 8) (flags : UInt32) :
      directiveKey token = cstr "local_port" → directiveValue token = some value →
      tsfParsePortList value f.localPorts TSF_MAX_PORTS f.flags TSF_LOCAL_PORT_MATCH = .ok (ports, flags) →
      f' = { f with localPorts := ports, flags := flags } → Effect token f f'
  | remotePort (value : CStr) (ports : Vector UInt16 8) (flags : UInt32) :
      directiveKey token = cstr "remote_port" → directiveValue token = some value →
      tsfParsePortList value f.remotePorts TSF_MAX_PORTS f.flags TSF_REMOTE_PORT_MATCH = .ok (ports, flags) →
      f' = { f with remotePorts := ports, flags := flags } → Effect token f f'
  | localAddr (value : CStr) : directiveKey token = cstr "local_addr" →
      directiveValue token = some value → tsfParseAddr value f TSF_LOCAL_ADDR_MATCH = .ok f' →
      Effect token f f'
  | remoteAddr (value : CStr) : directiveKey token = cstr "remote_addr" →
      directiveValue token = some value → tsfParseAddr value f TSF_REMOTE_ADDR_MATCH = .ok f' →
      Effect token f f'

/-- The dispatcher does one of these. -/
theorem tsfParseDirective_effect {token : CStr} {f f' : TcpstatsFilter}
    (h : tsfParseDirective token f = .ok f') : Effect token f f' := by
  unfold tsfParseDirective at h
  obtain ⟨-, h⟩ := ite_error_eq_ok.mp h
  dsimp only at h
  rcases hval : after (chr '=') token with _ | value
  · simp only [hval] at h
    rcases ite_eq_cases h with ⟨h4, h⟩ | ⟨-, h⟩
    · exact .ipv4Only h4 hval (Except.ok.inj h).symm
    rcases ite_eq_cases h with ⟨h6, h⟩ | ⟨-, h⟩
    · exact .ipv6Only h6 hval (Except.ok.inj h).symm
    cases h
  · simp only [hval] at h
    rcases ite_eq_cases h with ⟨hex, h⟩ | ⟨-, h⟩
    · exact .exclude value hex hval h
    rcases ite_eq_cases h with ⟨hfo, h⟩ | ⟨-, h⟩
    · exact .format value hfo hval h
    rcases ite_eq_cases h with ⟨hfi, h⟩ | ⟨-, h⟩
    · exact .fields value hfi hval h
    -- the flags take no value
    obtain ⟨-, h⟩ := ite_error_eq_ok.mp h
    obtain ⟨-, h⟩ := ite_error_eq_ok.mp h
    rcases ite_eq_cases h with ⟨hin, h⟩ | ⟨-, h⟩
    · exact .includeState value hin hval h
    rcases ite_eq_cases h with ⟨hlp, h⟩ | ⟨-, h⟩
    · obtain ⟨⟨ports, flags⟩, hl, hf⟩ := bind_eq_ok.mp h
      exact .localPort value ports flags hlp hval hl (Except.ok.inj hf).symm
    rcases ite_eq_cases h with ⟨hla, h⟩ | ⟨-, h⟩
    · exact .localAddr value hla hval h
    rcases ite_eq_cases h with ⟨hrp, h⟩ | ⟨-, h⟩
    · obtain ⟨⟨ports, flags⟩, hl, hf⟩ := bind_eq_ok.mp h
      exact .remotePort value ports flags hrp hval hl (Except.ok.inj hf).symm
    rcases ite_eq_cases h with ⟨hra, h⟩ | ⟨-, h⟩
    · exact .remoteAddr value hra hval h
    cases h

/-! What the parsers of the values do, when they accept. -/

theorem tsfParsePortList_iff {value : CStr} {ports ports' : Vector UInt16 8} {maxports : ℕ}
    {flags bit flags' : UInt32} :
    tsfParsePortList value ports maxports flags bit = .ok (ports', flags') ↔
      flags &&& bit = 0 ∧ flags' = flags ||| bit ∧
        ∃ count, 0 < count ∧ portLoop maxports (fields (· == chr ',') value) 0 ports = .ok (count, ports') := by
  unfold tsfParsePortList
  rw [ite_error_eq_ok, bind_eq_ok]
  constructor
  · rintro ⟨hbit, ⟨count, ports''⟩, hloop, h⟩
    obtain ⟨hcount, h⟩ := ite_error_eq_ok.mp h
    obtain ⟨rfl, rfl⟩ := Prod.mk.inj (Except.ok.inj h)
    exact ⟨by simpa using hbit, rfl, count, Nat.pos_of_ne_zero hcount, hloop⟩
  · rintro ⟨hbit, rfl, count, hcount, hloop⟩
    exact ⟨by simpa using hbit, _, hloop, ite_error_eq_ok.mpr ⟨Nat.ne_of_gt hcount, rfl⟩⟩

theorem tsfParseExcludeList_iff {value : CStr} {f f' : TcpstatsFilter} :
    tsfParseExcludeList value f = .ok f' ↔ f.has TSF_STATE_INCLUDE_MODE = false ∧
      ∃ mask, excludeLoop (fields (· == chr ',') value) 0 f.stateMask = .ok mask ∧
        f' = { f with stateMask := mask } := by
  unfold tsfParseExcludeList
  rw [ite_error_eq_ok, bind_eq_ok, Bool.not_eq_true]
  refine and_congr_right fun _ => exists_congr fun mask => and_congr_right fun _ => ?_
  rw [Except.ok.injEq, eq_comm]

theorem tsfParseIncludeStateList_iff {value : CStr} {f f' : TcpstatsFilter} :
    tsfParseIncludeStateList value f = .ok f' ↔ f.stateMask = 0xFFFF ∧ f.has TSF_STATE_INCLUDE_MODE = false ∧
      ∃ mask, mask ≠ 0 ∧ includeLoop (fields (· == chr ',') value) 0 0 = .ok mask ∧
        f' = { f with stateMask := mask, flags := f.flags ||| TSF_STATE_INCLUDE_MODE } := by
  unfold tsfParseIncludeStateList
  rw [ite_error_eq_ok, ite_error_eq_ok, bind_eq_ok, not_not, Bool.not_eq_true]
  refine and_congr_right fun _ => and_congr_right fun _ => exists_congr fun mask => ?_
  rw [ite_error_eq_ok, Except.ok.injEq, and_left_comm, eq_comm (a := f')]

/-- The names of the formats. -/
def tsfFormats : List (CStr × UInt32) :=
  [(cstr "compact", TSF_FORMAT_COMPACT), (cstr "full", TSF_FORMAT_FULL)]

theorem tsfParseFormat_iff {value : CStr} {f f' : TcpstatsFilter} :
    tsfParseFormat value f = .ok f' ↔ ∃ format, (lower value, format) ∈ tsfFormats ∧ f' = { f with format := format } := by
  have hapart : cstr "full" ≠ cstr "compact" := by decide
  unfold tsfParseFormat tsfFormats
  dsimp only
  constructor
  · intro h
    rcases ite_eq_cases h with ⟨hname, h⟩ | ⟨-, h⟩
    · exact ⟨_, by rw [hname]; exact List.mem_cons_self, (Except.ok.inj h).symm⟩
    · obtain ⟨hname, h⟩ := ite_else_error_eq_ok.mp h
      exact ⟨_, by rw [hname]; exact List.mem_cons_of_mem _ List.mem_cons_self, (Except.ok.inj h).symm⟩
  · rintro ⟨format, hmem, rfl⟩
    rcases List.mem_cons.mp hmem with heq | hmem
    · obtain ⟨hname, rfl⟩ := Prod.mk.inj heq
      rw [if_pos hname]
    · obtain ⟨hname, rfl⟩ := Prod.mk.inj (List.mem_singleton.mp hmem)
      rw [if_neg (hname ▸ hapart), if_pos hname]

theorem tsfParseFieldList_iff {value : CStr} {f f' : TcpstatsFilter} :
    tsfParseFieldList value f = .ok f' ↔
      ∃ mask, mask ≠ 0 ∧ fieldLoop (fields (· == chr ',') value) 0 = .ok mask ∧
        f' = { f with fieldMask := mask } := by
  unfold tsfParseFieldList
  rw [bind_eq_ok]
  refine exists_congr fun mask => ?_
  rw [ite_error_eq_ok, Except.ok.injEq, and_left_comm, eq_comm (a := f')]

/-- An address in one of the four places for it. -/
inductive AddrStored (value : CStr) (f : TcpstatsFilter) (bit : UInt32) (f' : TcpstatsFilter) : Prop where
  | localV6 (addr : In6Addr) (pfx : UInt8) : bit = TSF_LOCAL_ADDR_MATCH → chr ':' ∈ value →
      tsfParseIpv6Addr value = .ok (addr, pfx) →
      f' = { f with localAddrV6 := addr, localPrefixV6 := pfx, flags := f.flags ||| bit } →
      AddrStored value f bit f'
  | remoteV6 (addr : In6Addr) (pfx : UInt8) : bit ≠ TSF_LOCAL_ADDR_MATCH → chr ':' ∈ value →
      tsfParseIpv6Addr value = .ok (addr, pfx) →
      f' = { f with remoteAddrV6 := addr, remotePrefixV6 := pfx, flags := f.flags ||| bit } →
      AddrStored value f bit f'
  | localV4 (addr mask : InAddr) : bit = TSF_LOCAL_ADDR_MATCH → chr ':' ∉ value →
      tsfParseIpv4Addr value = .ok (addr, mask) →
      f' = { f with localAddrV4 := addr, localMaskV4 := mask, flags := f.flags ||| bit } →
      AddrStored value f bit f'
  | remoteV4 (addr mask : InAddr) : bit ≠ TSF_LOCAL_ADDR_MATCH → chr ':' ∉ value →
      tsfParseIpv4Addr value = .ok (addr, mask) →
      f' = { f with remoteAddrV4 := addr, remoteMaskV4 := mask, flags := f.flags ||| bit } →
      AddrStored value f bit f'

theorem tsfParseAddr_iff {value : CStr} {f f' : TcpstatsFilter} {bit : UInt32} :
    tsfParseAddr value f bit = .ok f' ↔ f.has bit = false ∧ AddrStored value f bit f' := by
  unfold tsfParseAddr
  rw [ite_error_eq_ok, Bool.not_eq_true]
  refine and_congr_right fun _ => ?_
  constructor
  · intro h
    split_ifs at h with hcolon hlocal hlocal
    · obtain ⟨⟨addr, pfx⟩, hparse, h⟩ := bind_eq_ok.mp h
      exact .localV6 addr pfx hlocal hcolon hparse (Except.ok.inj h).symm
    · obtain ⟨⟨addr, pfx⟩, hparse, h⟩ := bind_eq_ok.mp h
      exact .remoteV6 addr pfx hlocal hcolon hparse (Except.ok.inj h).symm
    · obtain ⟨⟨addr, mask⟩, hparse, h⟩ := bind_eq_ok.mp h
      exact .localV4 addr mask hlocal hcolon hparse (Except.ok.inj h).symm
    · obtain ⟨⟨addr, mask⟩, hparse, h⟩ := bind_eq_ok.mp h
      exact .remoteV4 addr mask hlocal hcolon hparse (Except.ok.inj h).symm
  · intro h
    cases h with
    | localV6 addr pfx hlocal hcolon hparse hf =>
      rw [if_pos hcolon]
      exact bind_eq_ok.mpr ⟨_, hparse, (if_pos hlocal).trans (congrArg _ hf.symm)⟩
    | remoteV6 addr pfx hlocal hcolon hparse hf =>
      rw [if_pos hcolon]
      exact bind_eq_ok.mpr ⟨_, hparse, (if_neg hlocal).trans (congrArg _ hf.symm)⟩
    | localV4 addr mask hlocal hcolon hparse hf =>
      rw [if_neg hcolon]
      exact bind_eq_ok.mpr ⟨_, hparse, (if_pos hlocal).trans (congrArg _ hf.symm)⟩
    | remoteV4 addr mask hlocal hcolon hparse hf =>
      rw [if_neg hcolon]
      exact bind_eq_ok.mpr ⟨_, hparse, (if_neg hlocal).trans (congrArg _ hf.symm)⟩

theorem AddrStored.keeps {value : CStr} {f f' : TcpstatsFilter} {bit : UInt32}
    (h : AddrStored value f bit f') :
    f'.flags = f.flags ||| bit ∧ f'.localPorts = f.localPorts ∧ f'.remotePorts = f.remotePorts ∧
      f'.stateMask = f.stateMask := by
  cases h with
  | localV6 _ _ _ _ _ hf => subst hf; exact ⟨rfl, rfl, rfl, rfl⟩
  | remoteV6 _ _ _ _ _ hf => subst hf; exact ⟨rfl, rfl, rfl, rfl⟩
  | localV4 _ _ _ _ _ hf => subst hf; exact ⟨rfl, rfl, rfl, rfl⟩
  | remoteV4 _ _ _ _ _ hf => subst hf; exact ⟨rfl, rfl, rfl, rfl⟩

/-! ### Flags -/

/-- A directive sets its flag and no other. -/
theorem Effect.flags {token : CStr} {f f' : TcpstatsFilter} (h : Effect token f f') :
    f'.flags = f.flags ||| keyBit (directiveKey token) := by
  have hzero : ∀ key, keyBit key = 0 → f.flags = f.flags ||| keyBit key := by
    intro key hk
    rw [hk, UInt32.or_zero]
  cases h with
  | ipv4Only hk _ hf =>
    subst hf
    rw [hk]
    rfl
  | ipv6Only hk _ hf =>
    subst hf
    rw [hk]
    rfl
  | exclude value hk _ h =>
    obtain ⟨-, mask, -, rfl⟩ := tsfParseExcludeList_iff.mp h
    exact hzero _ (by rw [hk]; rfl)
  | format value hk _ h =>
    obtain ⟨format, -, rfl⟩ := tsfParseFormat_iff.mp h
    exact hzero _ (by rw [hk]; rfl)
  | fields value hk _ h =>
    obtain ⟨mask, -, -, rfl⟩ := tsfParseFieldList_iff.mp h
    exact hzero _ (by rw [hk]; rfl)
  | includeState value hk _ h =>
    obtain ⟨-, -, mask, -, -, rfl⟩ := tsfParseIncludeStateList_iff.mp h
    rw [hk]
    rfl
  | localPort value ports flags hk _ h hf =>
    subst hf
    rw [hk]
    exact (tsfParsePortList_iff.mp h).2.1
  | remotePort value ports flags hk _ h hf =>
    subst hf
    rw [hk]
    exact (tsfParsePortList_iff.mp h).2.1
  | localAddr value hk _ h =>
    rw [hk]
    exact (tsfParseAddr_iff.mp h).2.keeps.1
  | remoteAddr value hk _ h =>
    rw [hk]
    exact (tsfParseAddr_iff.mp h).2.keeps.1

/-- Setting flags and testing for one. -/
theorem flags_or_has (flags bits bit : UInt32) :
    ((flags ||| bits) &&& bit != 0) = (flags &&& bit != 0 || bits &&& bit != 0) := by
  rw [Bits.or_and_right32, Bool.eq_iff_iff]
  simp [imp_iff_not_or]

/-- The rule for a run over directives: what every one of them keeps. -/
theorem parseDirectives_inv {I : List CStr → TcpstatsFilter → Prop} {tokens : List CStr}
    {f f' : TcpstatsFilter} (h : parseDirectives tokens f = .ok f') (init : I [] f)
    (keep : ∀ pre token f f', I pre f → Effect token f f' → I (pre ++ [token]) f') : I tokens f' := by
  have : ∀ (tokens pre : List CStr) (f : TcpstatsFilter), parseDirectives tokens f = .ok f' → I pre f →
      I (pre ++ tokens) f' := by
    intro tokens
    induction tokens with
    | nil =>
      intro pre f h hI
      obtain rfl := Except.ok.inj h
      simpa using hI
    | cons token tokens ih =>
      intro pre f h hI
      obtain ⟨g, hg, h⟩ := bind_eq_ok.mp h
      have := ih (pre ++ [token]) g h (keep pre token f g hI (tsfParseDirective_effect hg))
      simpa using this
  exact this tokens [] f h init

theorem parseDirectives_append {xs ys : List CStr} {f f' : TcpstatsFilter} :
    parseDirectives (xs ++ ys) f = .ok f' ↔
      ∃ g, parseDirectives xs f = .ok g ∧ parseDirectives ys g = .ok f' := by
  induction xs generalizing f with
  | nil => simp [parseDirectives]
  | cons x xs ih =>
    simp only [List.cons_append, parseDirectives, bind_eq_ok, ih]
    constructor
    · rintro ⟨h, hx, g, hg, hys⟩
      exact ⟨g, ⟨h, hx, hg⟩, hys⟩
    · rintro ⟨g, ⟨h, hx, hg⟩, hys⟩
      exact ⟨h, hx, g, hg, hys⟩

/-- The directives of a string with one more word. -/
theorem directives_append {s word : CStr} (hs : 0 ∉ s) (hword : ofArray word = word) (hne : word ≠ [])
    (hblank : ∀ c ∈ word, isBlank c = false) : directives (s ++ chr ' ' :: word) = directives s ++ [word] := by
  have hzero : 0 ∉ s ++ chr ' ' :: word := by
    have hword0 : 0 ∉ word := hword ▸ ofArray_zero_notMem word
    simp only [List.mem_append, List.mem_cons, not_or]
    exact ⟨hs, by decide, hword0⟩
  have hone : fields isBlank word = [word] := by
    rw [fields, List.splitOnP_eq_singleton hblank]
    simp [hne]
  rw [directives, ofArray_of_notMem hzero, fields_append (by decide), hone, directives, ofArray_of_notMem hs]

/-- What an accepted string says, if it says anything. -/
theorem tsfParseFilterString_directives {input : CStr} {f : TcpstatsFilter}
    (h : tsfParseFilterString input = .ok f) :
    parseDirectives (directives input) .default = .ok f := by
  unfold tsfParseFilterString at h
  split_ifs at h with hempty hlong
  · have : directives input = [] := by
      rcases input with _ | ⟨c, cs⟩
      · rfl
      · have hc : c = 0 := by simpa using hempty
        simp [directives, ofArray, hc, fields]
    rw [this]
    exact h
  · split at h
    · cases h
    · dsimp only at h
      split_ifs at h with hmany hnone
      · rw [hnone]
        exact h
      · obtain ⟨tmp, htmp, h⟩ := bind_eq_ok.mp h
        obtain ⟨-, -, h⟩ := bind_eq_ok.mp h
        rw [htmp, ← h]

/-- A flag is set exactly if one of the directives sets it. -/
theorem has_iff {input : CStr} {f : TcpstatsFilter} (h : tsfParseFilterString input = .ok f)
    (bit : UInt32) :
    f.has bit = true ↔ ∃ token ∈ directives input, keyBit (directiveKey token) &&& bit ≠ 0 := by
  refine parseDirectives_inv (I := fun pre f => f.has bit = true ↔
    ∃ token ∈ pre, keyBit (directiveKey token) &&& bit ≠ 0) (tsfParseFilterString_directives h) ?_ ?_
  · simp [TcpstatsFilter.has, TcpstatsFilter.default]
  · intro pre token f f' hI he
    rw [TcpstatsFilter.has, he.flags, flags_or_has, Bool.or_eq_true, ← TcpstatsFilter.has, hI]
    simp [or_and_right, exists_or]

end TcpStats
