import TcpStats.Lib.Fallible
import Mathlib.Data.List.Basic
import Mathlib.Data.Nat.Notation
import Mathlib.Tactic.SplitIfs

/-!
# The arguments of the echo client

`parse_client_args` of `tcp-echo`: a loop over the arguments that replaces the default values of a
configuration, with the texts of its errors. Every value is checked where it is read and apart from
the others (`parseClientArgs_valid`); nothing is checked about two values together.
-/

namespace TcpStats.Echo

open Fallible

/-! ### Numbers -/

/-- Why a text is no number. -/
inductive ParseIntError where
  | empty
  | invalidDigit
  | posOverflow
  deriving DecidableEq

def ParseIntError.text : ParseIntError → String
  | empty => "cannot parse integer from empty string"
  | invalidDigit => "invalid digit found in string"
  | posOverflow => "number too large to fit in target type"

/-- The digits that are left, after those whose value is `val`. -/
def digits (max val : ℕ) : List Char → Except ParseIntError ℕ
  | [] => .ok val
  | c :: rest =>
    if c.isDigit then
      let val := val * 10 + (c.toNat - '0'.toNat)
      if max < val then .error .posOverflow else digits max val rest
    else .error .invalidDigit

/-- `parse` of an unsigned type whose largest number is `max`. -/
def parseUnsigned (max : ℕ) : List Char → Except ParseIntError ℕ
  | [] => .error .empty
  | ['+'] => .error .invalidDigit
  | '+' :: rest => digits max 0 rest
  | s => digits max 0 s

theorem digits_le {max val n : ℕ} {s : List Char} (hval : val ≤ max) (h : digits max val s = .ok n) :
    n ≤ max := by
  induction s generalizing val with
  | nil =>
    obtain rfl := Except.ok.inj h
    exact hval
  | cons c rest ih =>
    simp only [digits] at h
    split_ifs at h with hdigit hmax
    exact ih (Nat.not_lt.mp hmax) h

/-- What is read fits the type. -/
theorem parseUnsigned_le {max n : ℕ} {s : List Char} (h : parseUnsigned max s = .ok n) : n ≤ max := by
  unfold parseUnsigned at h
  split at h
  · cases h
  · cases h
  · exact digits_le (Nat.zero_le _) h
  · exact digits_le (Nat.zero_le _) h

/-- The characters that `trim` takes away. -/
def isWhitespace (c : Char) : Bool :=
  let n := c.toNat
  9 ≤ n && n ≤ 13 || n == 0x20 || n == 0x85 || n == 0xA0 || n == 0x1680 || 0x2000 ≤ n && n ≤ 0x200A ||
    n == 0x2028 || n == 0x2029 || n == 0x202F || n == 0x205F || n == 0x3000

def trim (s : List Char) : List Char := ((s.dropWhile isWhitespace).reverse.dropWhile isWhitespace).reverse

/-! ### The configuration -/

/-- Maximum number of ports allowed. -/
def MAX_PORTS : ℕ := 10

/-- Maximum number of connections allowed. -/
def MAX_CONNECTIONS : ℕ := 200000

/-- Client mode configuration, the durations in seconds. -/
structure ClientConfig where
  host : String := "127.0.0.1"
  ports : List UInt16 := []
  connections : UInt32 := 10
  rate : UInt64 := 1024
  rampDuration : UInt64 := 10
  reportInterval : UInt64 := 10
  /-- 0 is infinite. -/
  duration : UInt64 := 0
  payloadSize : UInt64 := 1024
  deriving DecidableEq

/-- One port of the list. -/
def parsePort (p : List Char) : Except String UInt16 :=
  match parseUnsigned (UInt16.size - 1) (trim p) with
  | .ok n => .ok (.ofNat n)
  | .error e => .error s!"invalid port '{String.ofList p}': {e.text}"

/-- `parse_ports`. -/
def parsePorts (s : String) : Except String (List UInt16) :=
  match (s.toList.splitOn ',').mapM parsePort with
  | .error msg => .error msg
  | .ok ports =>
    if ports.isEmpty then .error "at least one port is required"
    else if MAX_PORTS < ports.length then .error s!"max {MAX_PORTS} ports allowed"
    else if 0 ∈ ports then .error "port 0 is not allowed"
    else .ok ports

/-- The value of an option that is a number: at most `max`, and not zero where it has to be positive. -/
def parseNumber (name : String) (max : ℕ) (positive : Bool) (val : String) : Except String ℕ :=
  match parseUnsigned max val.toList with
  | .error e => .error s!"invalid {name} value: {e.text}"
  | .ok n => if positive && n == 0 then .error s!"{name} must be positive" else .ok n

/-- What an option does with its value. None for a text that is no option with a value. -/
def clientOption : String → Option (ClientConfig → String → Except String ClientConfig)
  | "--host" => some fun config val => .ok { config with host := val }
  | "--ports" => some fun config val => (parsePorts val).map fun ports => { config with ports := ports }
  | "--connections" => some fun config val => do
    let n ← parseNumber "--connections" (UInt32.size - 1) true val
    if MAX_CONNECTIONS < n then .error s!"--connections max is {MAX_CONNECTIONS}"
    else .ok { config with connections := .ofNat n }
  | "--rate" => some fun config val =>
    (parseNumber "--rate" (UInt64.size - 1) true val).map fun r =>
      { config with rate := .ofNat r }
  | "--ramp-duration" => some fun config val =>
    (parseNumber "--ramp-duration" (UInt64.size - 1) false val).map fun secs =>
      { config with rampDuration := .ofNat secs }
  | "--report-interval" => some fun config val =>
    (parseNumber "--report-interval" (UInt64.size - 1) true val).map fun secs =>
      { config with reportInterval := .ofNat secs }
  | "--duration" => some fun config val =>
    (parseNumber "--duration" (UInt64.size - 1) false val).map fun secs =>
      { config with duration := .ofNat secs }
  | "--payload-size" => some fun config val =>
    (parseNumber "--payload-size" (UInt64.size - 1) true val).map fun sz =>
      { config with payloadSize := .ofNat sz }
  | _ => none

/-- What ends the parser before it has a configuration. -/
inductive ArgsStop where
  | error (msg : String)
  /-- The usage is printed, and the process exits. -/
  | usage
  deriving DecidableEq

/-- The loop over the arguments that are left. -/
def clientArgsLoop (config : ClientConfig) : List String → Except ArgsStop ClientConfig
  | [] => .ok config
  | arg :: rest =>
    match clientOption arg with
    | some set =>
      match rest with
      | [] => .error (.error s!"{arg} requires a value")
      | val :: rest =>
        match set config val with
        | .error msg => .error (.error msg)
        | .ok config => clientArgsLoop config rest
    | none =>
      if arg = "--help" ∨ arg = "-h" then .error .usage
      else .error (.error s!"unknown client argument: {arg}")

/-- `parse_client_args`. -/
def parseClientArgs (args : List String) : Except ArgsStop ClientConfig :=
  match clientArgsLoop {} args with
  | .error stop => .error stop
  | .ok config => if config.ports.isEmpty then .error (.error "--ports is required") else .ok config

/-! ### What is accepted -/

/-- What each option has checked, which the default values pass as well. -/
structure ClientConfig.Checked (config : ClientConfig) : Prop where
  ports : config.ports.length ≤ MAX_PORTS ∧ 0 ∉ config.ports
  connections : 0 < config.connections.toNat ∧ config.connections.toNat ≤ MAX_CONNECTIONS
  rate : 0 < config.rate.toNat
  reportInterval : 0 < config.reportInterval.toNat
  payloadSize : 0 < config.payloadSize.toNat

theorem ClientConfig.Checked.default : ClientConfig.Checked {} where
  ports := ⟨Nat.zero_le _, List.not_mem_nil⟩
  connections := by decide
  rate := by decide
  reportInterval := by decide
  payloadSize := by decide

theorem parsePorts_ok {s : String} {ports : List UInt16} (h : parsePorts s = .ok ports) :
    ports ≠ [] ∧ ports.length ≤ MAX_PORTS ∧ 0 ∉ ports := by
  unfold parsePorts at h
  rcases hread : (s.toList.splitOn ',').mapM parsePort with msg | read
  · simp [hread] at h
  · simp only [hread] at h
    split_ifs at h with hempty hmany hzero
    obtain rfl := Except.ok.inj h
    exact ⟨by simpa using hempty, Nat.not_lt.mp hmany, hzero⟩

theorem parseNumber_ok {name val : String} {max n : ℕ} {positive : Bool}
    (h : parseNumber name max positive val = .ok n) :
    n ≤ max ∧ (positive = true → 0 < n) := by
  unfold parseNumber at h
  rcases hread : parseUnsigned max val.toList with e | m
  · simp [hread] at h
  · simp only [hread] at h
    split_ifs at h with hzero
    obtain rfl := Except.ok.inj h
    refine ⟨parseUnsigned_le hread, fun hpos => Nat.pos_of_ne_zero ?_⟩
    simpa [hpos] using hzero

/-- A word that has to be positive. -/
theorem ofNat_pos {name val : String} {n : ℕ} (h : parseNumber name (UInt64.size - 1) true val = .ok n) :
    0 < (UInt64.ofNat n).toNat := by
  obtain ⟨hle, hpos⟩ := parseNumber_ok h
  rw [UInt64.toNat_ofNat_of_lt' (Nat.lt_of_le_sub_one (by decide) hle)]
  exact hpos rfl

/-- What an option stores has passed its checks, and it leaves the rest as it is. -/
theorem clientOption_checked {arg val : String} {set : ClientConfig → String → Except String ClientConfig}
    {config config' : ClientConfig} (hopt : clientOption arg = some set) (hset : set config val = .ok config')
    (h : config.Checked) : config'.Checked := by
  unfold clientOption at hopt
  split at hopt
  case h_1 =>
    obtain rfl := Option.some.inj hopt
    obtain rfl := Except.ok.inj hset
    exact ⟨h.ports, h.connections, h.rate, h.reportInterval, h.payloadSize⟩
  case h_2 =>
    obtain rfl := Option.some.inj hopt
    obtain ⟨ports, hread, rfl⟩ := map_eq_ok.mp hset
    exact ⟨(parsePorts_ok hread).2, h.connections, h.rate, h.reportInterval, h.payloadSize⟩
  case h_3 =>
    obtain rfl := Option.some.inj hopt
    obtain ⟨n, hread, hset⟩ := bind_eq_ok.mp hset
    split_ifs at hset with hmany
    obtain rfl := Except.ok.inj hset
    obtain ⟨hle, hpos⟩ := parseNumber_ok hread
    have hn : (UInt32.ofNat n).toNat = n := UInt32.toNat_ofNat_of_lt' (Nat.lt_of_le_sub_one (by decide) hle)
    refine ⟨h.ports, ?_, h.rate, h.reportInterval, h.payloadSize⟩
    change 0 < (UInt32.ofNat n).toNat ∧ (UInt32.ofNat n).toNat ≤ MAX_CONNECTIONS
    rw [hn]
    exact ⟨hpos rfl, Nat.not_lt.mp hmany⟩
  case h_4 =>
    obtain rfl := Option.some.inj hopt
    obtain ⟨r, hread, rfl⟩ := map_eq_ok.mp hset
    exact ⟨h.ports, h.connections, ofNat_pos hread, h.reportInterval, h.payloadSize⟩
  case h_5 =>
    obtain rfl := Option.some.inj hopt
    obtain ⟨secs, -, rfl⟩ := map_eq_ok.mp hset
    exact ⟨h.ports, h.connections, h.rate, h.reportInterval, h.payloadSize⟩
  case h_6 =>
    obtain rfl := Option.some.inj hopt
    obtain ⟨secs, hread, rfl⟩ := map_eq_ok.mp hset
    exact ⟨h.ports, h.connections, h.rate, ofNat_pos hread, h.payloadSize⟩
  case h_7 =>
    obtain rfl := Option.some.inj hopt
    obtain ⟨secs, -, rfl⟩ := map_eq_ok.mp hset
    exact ⟨h.ports, h.connections, h.rate, h.reportInterval, h.payloadSize⟩
  case h_8 =>
    obtain rfl := Option.some.inj hopt
    obtain ⟨sz, hread, rfl⟩ := map_eq_ok.mp hset
    exact ⟨h.ports, h.connections, h.rate, h.reportInterval, ofNat_pos hread⟩
  case h_9 => cases hopt

theorem clientArgsLoop_checked {config config' : ClientConfig} {args : List String}
    (h : clientArgsLoop config args = .ok config') (hc : config.Checked) : config'.Checked := by
  fun_induction clientArgsLoop config args with
  | case1 config =>
    obtain rfl := Except.ok.inj h
    exact hc
  | case4 config arg set hopt val rest config₁ hset ih => exact ih h (clientOption_checked hopt hset hc)
  | case2 | case3 | case5 | case6 => cases h

/-- An accepted configuration has passed the checks of every option, and has a port. -/
theorem parseClientArgs_checked {args : List String} {config : ClientConfig}
    (h : parseClientArgs args = .ok config) :
    config.Checked ∧ config.ports ≠ [] := by
  unfold parseClientArgs at h
  rcases hloop : clientArgsLoop {} args with stop | read
  · simp [hloop] at h
  · simp only [hloop] at h
    split_ifs at h with hempty
    obtain rfl := Except.ok.inj h
    exact ⟨clientArgsLoop_checked hloop .default, by simpa using hempty⟩

end TcpStats.Echo
