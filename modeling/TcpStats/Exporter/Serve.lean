import Mathlib.Algebra.Order.Ring.Rat
import TcpStats.Exporter.Collector
import TcpStats.Lib.Machine
import TcpStats.Lib.Throttle

/-!
# The exporter

`main` of the exporter answers requests one after the other. It turns away what comes too soon behind the last request that
it admitted, counts what it admits, and collects a snapshot when it is asked for the metrics. What it answers depends on the
requests before only through the number of those admitted and the time of the last (`serve_exact`); in particular the limit
of requests at one time never turns one away. And what it admits is spaced by the rate, up to the errors of floating point
(`admitted_spaced`).
-/

namespace TcpStats.Exporter

open CString Machine

/-! ### Requests -/

/-- A request: when it is looked at, in nanoseconds, what it asks for, and the snapshot that is collected if it asks for one, or
the text of an error. -/
structure Request where
  time : ℕ
  method : CStr
  url : CStr
  collected : Except CStr Snapshot

/-- A response, with the content type where it is given. -/
structure Response where
  status : ℕ
  body : CStr
  contentType : Option CStr
  deriving DecidableEq

/-- `Config`, as far as `main` goes by it. The rate is one whose inverse is in the normal range. -/
structure Config where
  maxConcurrent : UInt32
  maxQueryRate : ℚ

/-- `Config::default`. -/
def Config.default : Config := ⟨2, 2⟩

/-- The variables of `main` and of the module. -/
structure State where
  lastRequestTime : Option ℕ
  activeRequests : UInt32
  httpRequestsTotal : UInt64
  lastLatency : ℚ

/-- Before the first request. -/
def State.init : State := ⟨none, 0, 0, 0⟩

/-- `Duration::as_secs_f64`, of a duration in nanoseconds. -/
def asSecsF64 (d : ℕ) : ℚ :=
  Binary64.add (Binary64.ofWord (.ofNat (d / 10 ^ 9))) (Binary64.div (Binary64.ofWord (.ofNat (d % 10 ^ 9))) (10 ^ 9))

/-- `min_interval_secs`. -/
def minIntervalSecs (config : Config) : ℚ := Binary64.div 1 config.maxQueryRate

/-- It is less than the interval since a request. -/
def tooSoon (config : Config) (prev now : ℕ) : Bool := asSecsF64 (now - prev) < minIntervalSecs config

/-- The answer to a request that comes too soon. -/
def rateLimited : Response := ⟨429, cstr "rate limit exceeded\n", none⟩

/-- The answer to a request that is one too many. -/
def tooManyRequests : Response := ⟨429, cstr "too many concurrent requests\n", none⟩

/-- `handle_root`. -/
def handleRoot : Response := ⟨200, cstr "tcpstats-exporter\nMetrics at /metrics\n", none⟩

/-- `handle_metrics`. -/
def handleMetrics (collected : Except CStr Snapshot) (s : State) : Response × State :=
  match collected with
  | .ok snapshot =>
    let s := { s with lastLatency := snapshot.durationSecs }
    (⟨200, render snapshot s.httpRequestsTotal s.lastLatency,
      some (cstr "text/plain; version=0.0.4; charset=utf-8")⟩, s)
  | .error e => (⟨500, cstr "collection failed: " ++ e ++ [chr '\n'], none⟩, s)

/-- What `main` makes of an admitted request. -/
def route (r : Request) (s : State) : Response × State :=
  if r.method = cstr "GET" ∧ r.url = cstr "/metrics" then handleMetrics r.collected s
  else if r.method = cstr "GET" ∧ r.url = cstr "/" then (handleRoot, s)
  else (⟨404, cstr "not found\n", none⟩, s)

/-- The body of the loop of `main`. -/
def serve (config : Config) (r : Request) (s : State) : Response × State :=
  if s.lastRequestTime.any (tooSoon config · r.time) then (rateLimited, s)
  else
    let s := { s with lastRequestTime := some r.time }
    let active := s.activeRequests
    let s := { s with activeRequests := s.activeRequests + 1 }
    if active ≥ config.maxConcurrent then (tooManyRequests, { s with activeRequests := s.activeRequests - 1 })
    else
      let s := { s with httpRequestsTotal := s.httpRequestsTotal + 1 }
      let (response, s) := route r s
      (response, { s with activeRequests := s.activeRequests - 1 })

/-! ### What it answers -/

/-- The requests that are admitted. -/
def admitted (config : Config) (rs : List Request) : List Request :=
  Throttle.pass (fun a b => tooSoon config a.time b.time) none rs

/-- The answer to the `n`-th request that is admitted. -/
def answer (n : ℕ) (r : Request) : Response :=
  if r.method = cstr "GET" ∧ r.url = cstr "/metrics" then
    match r.collected with
    | .ok snapshot => ⟨200, render snapshot (.ofNat n) snapshot.durationSecs,
      some (cstr "text/plain; version=0.0.4; charset=utf-8")⟩
    | .error e => ⟨500, cstr "collection failed: " ++ e ++ [chr '\n'], none⟩
  else if r.method = cstr "GET" ∧ r.url = cstr "/" then handleRoot
  else ⟨404, cstr "not found\n", none⟩

/-- What is left behind by some requests. -/
structure After (config : Config) (rs : List Request) (s : State) : Prop where
  last : s.lastRequestTime = (admitted config rs).getLast?.map Request.time
  active : s.activeRequests = 0
  total : s.httpRequestsTotal = .ofNat (admitted config rs).length

theorem admitted_snoc (config : Config) (rs : List Request) (r : Request) :
    admitted config (rs ++ [r]) = admitted config rs ++
      if ((admitted config rs).getLast?).any (fun a => tooSoon config a.time r.time) then [] else [r] :=
  Throttle.pass_snoc none rs r

theorem route_eq (r : Request) (s : State) {n : ℕ} (h : s.httpRequestsTotal = .ofNat n) :
    (route r s).1 = answer n r ∧ (route r s).2.lastRequestTime = s.lastRequestTime ∧
      (route r s).2.activeRequests = s.activeRequests ∧ (route r s).2.httpRequestsTotal = s.httpRequestsTotal := by
  unfold route answer
  split_ifs
  · rcases r.collected with e | snapshot
    · exact ⟨rfl, rfl, rfl, rfl⟩
    · exact ⟨by rw [handleMetrics, h], rfl, rfl, rfl⟩
  · exact ⟨rfl, rfl, rfl, rfl⟩
  · exact ⟨rfl, rfl, rfl, rfl⟩

theorem After.init (config : Config) : After config [] .init := ⟨rfl, rfl, rfl⟩

/-- A step: the answer, and what is left behind. -/
theorem After.serve {config : Config} (hlimit : 0 < config.maxConcurrent) {rs : List Request} {s : State}
    (h : After config rs s) (r : Request) :
    (serve config r s).1 = (if ((admitted config rs).getLast?).any (fun a => tooSoon config a.time r.time) then rateLimited
      else answer ((admitted config rs).length + 1) r) ∧ After config (rs ++ [r]) (serve config r s).2 := by
  have hsoon : s.lastRequestTime.any (tooSoon config · r.time) =
      ((admitted config rs).getLast?).any (fun a => tooSoon config a.time r.time) := by
    rw [h.last, Option.any_map]
  rw [Exporter.serve, hsoon]
  by_cases hlate : ((admitted config rs).getLast?).any (fun a => tooSoon config a.time r.time) = true
  · have hsame : admitted config (rs ++ [r]) = admitted config rs := by
      rw [admitted_snoc, if_pos hlate, List.append_nil]
    rw [if_pos hlate, if_pos hlate]
    exact ⟨rfl, hsame ▸ h.last, h.active, hsame ▸ h.total⟩
  · have hnext : admitted config (rs ++ [r]) = admitted config rs ++ [r] := by rw [admitted_snoc, if_neg hlate]
    have hfree : ¬ s.activeRequests ≥ config.maxConcurrent := by
      rw [h.active]
      exact UInt32.not_le.mpr hlimit
    have htotal : s.httpRequestsTotal + 1 = .ofNat ((admitted config rs).length + 1) := by
      rw [h.total]
      exact (UInt64.ofNat_add _ 1).symm
    obtain ⟨hanswer, hlast, hactive, hcount⟩ := route_eq r
      { s with
        lastRequestTime := some r.time
        activeRequests := s.activeRequests + 1
        httpRequestsTotal := s.httpRequestsTotal + 1 } htotal
    rw [if_neg hlate, if_neg hlate]
    dsimp only
    rw [if_neg hfree]
    refine ⟨hanswer, ?_, ?_, ?_⟩
    · rw [hnext, List.getLast?_concat]
      exact hlast
    · refine (congrArg (· - 1) hactive).trans ?_
      rw [h.active]
      exact show (0 : UInt32) + 1 - 1 = 0 by decide
    · rw [hnext, List.length_append]
      exact hcount.trans htotal

theorem after_run (config : Config) (hlimit : 0 < config.maxConcurrent) (rs : List Request) :
    After config rs (final (serve config) rs .init) :=
  final_inv (After.init config) (fun _ r h => (h.serve hlimit r).2) rs

/-- The answer that is due to a request behind some others. -/
theorem answer_due (config : Config) (hlimit : 0 < config.maxConcurrent) (rs : List Request) (r : Request) :
    (serve config r (final (serve config) rs .init)).1 =
      if ((admitted config rs).getLast?).any (fun a => tooSoon config a.time r.time) then rateLimited
      else answer ((admitted config rs).length + 1) r :=
  ((after_run config hlimit rs).serve hlimit r).1

/-- Each request gets the answer that is due to it, by the requests that were admitted before. -/
theorem serve_exact (config : Config) (hlimit : 0 < config.maxConcurrent) (rs : List Request) (i : ℕ) :
    (answers (serve config) rs .init)[i]? = rs[i]?.map fun r =>
      let before := admitted config (rs.take i)
      if before.getLast?.any fun a => tooSoon config a.time r.time then rateLimited else answer (before.length + 1) r := by
  rw [getElem?_answers]
  exact congrArg (Option.map · rs[i]?) (funext fun r => answer_due config hlimit (rs.take i) r)

/-- Three requests for the root, a tenth of a second and half a second behind the first. -/
def Sample.three : List Request :=
  [0, 100000000, 500000000].map fun time => ⟨time, cstr "GET", cstr "/", .error []⟩

theorem serve_exact_three : 0 < Config.default.maxConcurrent ∧
    (answers (serve Config.default) Sample.three .init)[1]? = some rateLimited ∧
    (answers (serve Config.default) Sample.three .init)[2]? = some handleRoot :=
  ⟨by decide, (serve_exact Config.default (by decide) Sample.three 1).trans (by decide +kernel),
    (serve_exact Config.default (by decide) Sample.three 2).trans (by decide +kernel)⟩

/-! ### How fast it answers -/

/-- The seconds of a duration, as far as a word holds them. -/
def wordSecs (d : ℕ) : ℚ := (UInt64.ofNat (d / 10 ^ 9)).toNat + (UInt64.ofNat (d % 10 ^ 9)).toNat / 10 ^ 9

/-- Each of the two parts is rounded as a word, one of them is divided, and they are added. -/
theorem asSecsF64_near (d : ℕ) : Binary64.Near 3 (wordSecs d) (asSecsF64 d) := by
  have hword : ∀ n, Binary64.Near 1 (UInt64.ofNat n).toNat (Binary64.ofWord (.ofNat n)) := fun n =>
    (Binary64.Near.self (Nat.cast_nonneg _)).round
  exact (((hword _).mono (by decide)).add ((hword _).div (by norm_num)).round).round

theorem wordSecs_eq {d : ℕ} (h : d < 2 ^ 64 * 10 ^ 9) : wordSecs d = d / 10 ^ 9 := by
  have hd : ((10 ^ 9 * (d / 10 ^ 9) + d % 10 ^ 9 : ℕ) : ℚ) = d := by rw [Nat.div_add_mod]
  have hsecs : (UInt64.ofNat (d / 10 ^ 9)).toNat = d / 10 ^ 9 :=
    UInt64.toNat_ofNat_of_lt' (Nat.div_lt_of_lt_mul (by rwa [Nat.mul_comm]))
  have hnanos : (UInt64.ofNat (d % 10 ^ 9)).toNat = d % 10 ^ 9 :=
    UInt64.toNat_ofNat_of_lt' ((Nat.mod_lt d (by decide)).trans (by decide))
  rw [wordSecs, hsecs, hnanos, ← hd]
  push_cast
  ring

theorem wordSecs_le (d : ℕ) : wordSecs d ≤ d / 10 ^ 9 := by
  have hd : ((10 ^ 9 * (d / 10 ^ 9) + d % 10 ^ 9 : ℕ) : ℚ) = d := by rw [Nat.div_add_mod]
  have hword : ∀ n, ((UInt64.ofNat n).toNat : ℚ) ≤ n := fun n => by
    exact_mod_cast UInt64.toNat_ofNat' ▸ Nat.mod_le n _
  calc wordSecs d ≤ ((d / 10 ^ 9 : ℕ) : ℚ) + ((d % 10 ^ 9 : ℕ) : ℚ) / 10 ^ 9 :=
        add_le_add (hword _) (div_le_div_of_nonneg_right (hword _) (by norm_num))
    _ = d / 10 ^ 9 := by
        rw [← hd]
        push_cast
        ring

theorem minIntervalSecs_near {config : Config} (hrate : 0 < config.maxQueryRate) :
    Binary64.Near 1 (1 / config.maxQueryRate) (minIntervalSecs config) :=
  (Binary64.Near.self (by positivity)).round

/-- What is not too soon is late enough. -/
theorem late_of_not_tooSoon {config : Config} (hrate : 0 < config.maxQueryRate) {prev now : ℕ}
    (h : tooSoon config prev now = false) :
    (1 - 1 / 2 ^ 50) / config.maxQueryRate ≤ (now : ℚ) / 10 ^ 9 - prev / 10 ^ 9 := by
  have hinv : 0 < 1 / config.maxQueryRate := by positivity
  -- the errors of four operations are no more than this
  have herror : (1 - 1 / 2 ^ 50) * (1 + Binary64.eps) ^ 3 ≤ (1 - Binary64.eps) ^ 1 := by norm_num [Binary64.eps]
  have hcube : 0 < (1 + Binary64.eps) ^ 3 := by norm_num [Binary64.eps]
  have hbound : 1 / config.maxQueryRate * (1 - Binary64.eps) ^ 1 ≤
      ((now - prev : ℕ) : ℚ) / 10 ^ 9 * (1 + Binary64.eps) ^ 3 :=
    calc 1 / config.maxQueryRate * (1 - Binary64.eps) ^ 1
        ≤ minIntervalSecs config := (minIntervalSecs_near hrate).low
      _ ≤ asSecsF64 (now - prev) := not_lt.mp (of_decide_eq_false h)
      _ ≤ wordSecs (now - prev) * (1 + Binary64.eps) ^ 3 := (asSecsF64_near _).high
      _ ≤ ((now - prev : ℕ) : ℚ) / 10 ^ 9 * (1 + Binary64.eps) ^ 3 :=
        mul_le_mul_of_nonneg_right (wordSecs_le _) hcube.le
  have hlate : (1 - 1 / 2 ^ 50) * (1 / config.maxQueryRate) ≤ ((now - prev : ℕ) : ℚ) / 10 ^ 9 := by
    refine le_of_mul_le_mul_right ?_ hcube
    nlinarith
  have hafter : prev ≤ now := by
    by_contra hbefore
    rw [Nat.sub_eq_zero_of_le (by omega), Nat.cast_zero, zero_div] at hlate
    exact absurd hlate (not_le.mpr (mul_pos (by norm_num) hinv))
  rw [Nat.cast_sub hafter] at hlate
  linarith [mul_one_div (1 - 1 / 2 ^ 50) config.maxQueryRate, sub_div (now : ℚ) prev (10 ^ 9)]

/-- What is late enough is not too soon. -/
theorem not_tooSoon_of_late {config : Config} (hrate : 0 < config.maxQueryRate) {prev now : ℕ}
    (hclock : now < 2 ^ 64 * 10 ^ 9)
    (h : (1 + 1 / 2 ^ 50) / config.maxQueryRate ≤ ((now - prev : ℕ) : ℚ) / 10 ^ 9) : tooSoon config prev now = false := by
  have hinv : 0 < 1 / config.maxQueryRate := by positivity
  have herror : (1 + Binary64.eps) ^ 1 ≤ (1 + 1 / 2 ^ 50) * (1 - Binary64.eps) ^ 3 := by norm_num [Binary64.eps]
  have hcube : 0 < (1 - Binary64.eps) ^ 3 := by norm_num [Binary64.eps]
  refine decide_eq_false (not_lt.mpr ?_)
  calc minIntervalSecs config
      ≤ 1 / config.maxQueryRate * (1 + Binary64.eps) ^ 1 := (minIntervalSecs_near hrate).high
    _ ≤ 1 / config.maxQueryRate * ((1 + 1 / 2 ^ 50) * (1 - Binary64.eps) ^ 3) := by gcongr
    _ = (1 + 1 / 2 ^ 50) / config.maxQueryRate * (1 - Binary64.eps) ^ 3 := by ring
    _ ≤ ((now - prev : ℕ) : ℚ) / 10 ^ 9 * (1 - Binary64.eps) ^ 3 := mul_le_mul_of_nonneg_right h hcube.le
    _ = wordSecs (now - prev) * (1 - Binary64.eps) ^ 3 := by
        rw [wordSecs_eq (lt_of_le_of_lt (Nat.sub_le now prev) hclock)]
    _ ≤ asSecsF64 (now - prev) := (asSecsF64_near _).low

/-- Any `n + 1` requests that are admitted one after another take at least `n` times the interval of the rate, but for a part
that is too small to notice. -/
theorem admitted_spaced (config : Config) (hrate : 0 < config.maxQueryRate) (rs : List Request) {i n : ℕ}
    (h : i + n < (admitted config rs).length) :
    n * ((1 - 1 / 2 ^ 50) / config.maxQueryRate) ≤
      ((admitted config rs)[i + n].time : ℚ) / 10 ^ 9 - (admitted config rs)[i].time / 10 ^ 9 := by
  have hchain : ((admitted config rs).map fun r => (r.time : ℚ) / 10 ^ 9).IsChain fun a b =>
      (1 - 1 / 2 ^ 50) / config.maxQueryRate ≤ b - a := by
    refine List.isChain_map_of_isChain _ (fun a b hab => ?_) (Throttle.isChain_pass none rs)
    exact late_of_not_tooSoon hrate hab
  have hspaced := Throttle.spaced_of_isChain hchain (i := i) (n := n) (by rwa [List.length_map])
  simpa only [List.getElem_map, nsmul_eq_mul] using hspaced

theorem admitted_spaced_three : 0 < Config.default.maxQueryRate ∧
    ∃ h : 0 + 1 < (admitted Config.default Sample.three).length, (1 : ℕ) * ((1 - 1 / 2 ^ 50) / Config.default.maxQueryRate) ≤
      ((admitted Config.default Sample.three)[0 + 1].time : ℚ) / 10 ^ 9 - (admitted Config.default Sample.three)[0].time / 10 ^ 9 :=
  have hrate : 0 < Config.default.maxQueryRate := by norm_num [Config.default]
  have htwo : 0 + 1 < (admitted Config.default Sample.three).length := by decide +kernel
  ⟨hrate, htwo, admitted_spaced Config.default hrate Sample.three htwo⟩

end TcpStats.Exporter
