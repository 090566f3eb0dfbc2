import TcpStats.Lib.Binary64
import TcpStats.Lib.Retry
import TcpStats.Lib.Run

/-!
# The rate limiter of the echo client

`rate.rs` of `tcp-echo`: a token bucket that the writers of all connections share. A writer acquires
tokens by a retry loop on the atomic counter; a thread of its own refills it every 50 ms, by a load
and a store. The atomic steps of any number of calls and of the refill loop are taken in any order.

The bucket never holds more than one second of tokens (`tokens_le_rate`). What is acquired between the
load and the store of a refill is handed out again by the store, unless the cap cuts the refill
off; as long as that does not happen, no more is acquired than refilled (`limiter_conserves`).
-/

namespace TcpStats.Echo

open Retry Transition

/-! ### The bucket -/

/-- `REFILL_INTERVAL.as_secs_f64()`: no seconds, and 50 million nanoseconds. -/
def refillInterval : ℚ :=
  Binary64.add (Binary64.ofWord 0) (Binary64.div (Binary64.ofWord 50000000) (Binary64.ofWord 1000000000))

/-- `tokens_per_refill`. -/
def tokensPerRefill (rate : UInt64) : UInt64 :=
  Binary64.toWord ⌈Binary64.mul (Binary64.ofWord rate) refillInterval⌉

/-- What `try_acquire` stores after it has loaded the counter; it gives up if there are too few. -/
def acquire (amount current : UInt64) : Option UInt64 :=
  if current < amount then none else some (current - amount)

/-- `saturating_add`. -/
def saturatingAdd (a b : UInt64) : UInt64 := .ofNat (min (a.toNat + b.toNat) (2 ^ 64 - 1))

/-- What the refill loop stores after it has loaded the counter. -/
def refilled (rate current : UInt64) : UInt64 := min (saturatingAdd current (tokensPerRefill rate)) rate

/-- The default rate. -/
example : tokensPerRefill 1024 = 52 := by decide +kernel

theorem acquire_some {amount current rest : UInt64} (h : acquire amount current = some rest) :
    amount ≤ current ∧ amount.toNat + rest.toNat = current.toNat := by
  unfold acquire at h
  split_ifs at h with hfew
  obtain rfl := Option.some.inj h
  have hle : amount ≤ current := UInt64.not_lt.mp hfew
  have hnat := UInt64.le_iff_toNat_le.mp hle
  refine ⟨hle, ?_⟩
  rw [UInt64.toNat_sub_of_le _ _ hle]
  omega

theorem toNat_min (a b : UInt64) : (min a b).toNat = min a.toNat b.toNat := by
  change (if a ≤ b then a else b).toNat = _
  split_ifs with h
  · rw [min_eq_left (UInt64.le_iff_toNat_le.mp h)]
  · rw [min_eq_right (UInt64.le_iff_toNat_le.mp (UInt64.le_of_lt (UInt64.not_le.mp h)))]

theorem toNat_saturatingAdd (a b : UInt64) :
    (saturatingAdd a b).toNat = min (a.toNat + b.toNat) (2 ^ 64 - 1) := by
  have hsize : UInt64.size = 2 ^ 64 := rfl
  exact UInt64.toNat_ofNat_of_lt' (by omega)

/-- A refill fills the bucket up to one second of tokens. -/
theorem toNat_refilled (rate current : UInt64) :
    (refilled rate current).toNat = min (current.toNat + (tokensPerRefill rate).toNat) rate.toNat := by
  have := rate.toNat_lt
  rw [refilled, toNat_min, toNat_saturatingAdd]
  omega

/-! ### Writers and the refill loop side by side -/

/-- The limiter, and all the calls of `try_acquire` so far. -/
structure Limiter where
  tokens : UInt64
  calls : List (Phase UInt64 UInt64)
  /-- What the refill loop has loaded and not yet replaced. -/
  pending : Option UInt64
  /-- How many refills have been stored. -/
  refills : ℕ
  /-- How many tokens have been acquired. -/
  acquired : ℕ
  deriving DecidableEq

/-- What happens next. -/
inductive LimiterEvent where
  /-- A writer calls `try_acquire`. -/
  | call (amount : UInt64)
  /-- The next step of a call, and whether a compare-exchange fails without a reason. -/
  | go (i : ℕ) (fails : Bool)
  | refillLoad
  | refillStore

/-- The tokens of a call that has just got to here. -/
def taken : Phase UInt64 UInt64 → ℕ
  | .finished amount true => amount.toNat
  | _ => 0

namespace Limiter

/-- `RateLimiter::new`. -/
def init : Limiter := ⟨0, [], none, 0, 0⟩

/-- A call has made a step, after which the counter is `tokens`. -/
def callTo (s : Limiter) (i : ℕ) (tokens : UInt64) (c : Phase UInt64 UInt64) : Limiter :=
  { s with tokens := tokens, calls := s.calls.set i c, acquired := s.acquired + taken c }

/-- The store of a refill that has loaded `current`. -/
def store (s : Limiter) (rate current : UInt64) : Limiter :=
  { s with tokens := refilled rate current, pending := none, refills := s.refills + 1 }

end Limiter

/-- An event, where it can happen. -/
def limiterStep (rate : UInt64) (s : Limiter) : LimiterEvent → Option Limiter
  | .call amount => some { s with calls := s.calls ++ [.entered amount] }
  | .go i fails => (s.calls[i]?).bind fun c =>
    (c.step acquire s.tokens fails).map fun r => s.callTo i r.1 r.2
  | .refillLoad => if s.pending.isNone then some { s with pending := some s.tokens } else none
  | .refillStore => s.pending.map (s.store rate)

/-- The step relation. -/
def LimiterStep (rate : UInt64) (s : Limiter) (e : LimiterEvent) (s' : Limiter) : Prop :=
  limiterStep rate s e = some s'

/-- All that a step can do. -/
inductive LimiterMove (rate : UInt64) (s : Limiter) (e : LimiterEvent) (s' : Limiter) : Prop where
  | call (amount : UInt64) : s' = { s with calls := s.calls ++ [.entered amount] } → LimiterMove rate s e s'
  | go (i : ℕ) (fails : Bool) (c c' : Phase UInt64 UInt64) (tokens : UInt64) : e = .go i fails →
      s.calls[i]? = some c → c.step acquire s.tokens fails = some (tokens, c') →
      s' = s.callTo i tokens c' → LimiterMove rate s e s'
  | load : s' = { s with pending := some s.tokens } → LimiterMove rate s e s'
  | store (current : UInt64) : s.pending = some current → s' = s.store rate current →
      LimiterMove rate s e s'

theorem limiterStep_move {rate : UInt64} {s s' : Limiter} {e : LimiterEvent} (h : LimiterStep rate s e s') :
    LimiterMove rate s e s' := by
  unfold LimiterStep at h
  cases e with
  | call amount => exact .call amount (Option.some.inj h).symm
  | go i fails =>
    obtain ⟨c, hc, h⟩ := Option.bind_eq_some_iff.mp h
    obtain ⟨⟨tokens, c'⟩, hstep, h⟩ := Option.map_eq_some_iff.mp h
    exact .go i fails c c' tokens rfl hc hstep h.symm
  | refillLoad =>
    simp only [limiterStep] at h
    split_ifs at h
    exact .load (Option.some.inj h).symm
  | refillStore =>
    obtain ⟨current, hpending, h⟩ := Option.map_eq_some_iff.mp h
    exact .store current hpending h.symm

/-! ### The cap -/

/-- Every call that has loaded the counter stores what is left of its value, and the bucket is not
overfull. -/
structure Capped (rate : UInt64) (s : Limiter) : Prop where
  sound : ∀ c ∈ s.calls, c.Sound acquire
  cap : s.tokens ≤ rate

theorem Capped.init (rate : UInt64) : Capped rate .init where
  sound c hc := by simp [Limiter.init] at hc
  cap := UInt64.zero_le

/-- A call's step leaves the counter alone, or takes its tokens from it. -/
theorem Capped.tokens {rate : UInt64} {s : Limiter} (h : Capped rate s) {i : ℕ} {fails : Bool}
    {c c' : Phase UInt64 UInt64} {tokens : UInt64} (hc : s.calls[i]? = some c)
    (hstep : c.step acquire s.tokens fails = some (tokens, c')) :
    tokens = s.tokens ∨ acquire c.op s.tokens = some tokens ∧ c' = .finished c.op true :=
  (step_move hstep).cell (h.sound c (List.mem_of_getElem? hc))

theorem Capped.step {rate : UInt64} {s s' : Limiter} {e : LimiterEvent} (h : Capped rate s)
    (hstep : LimiterStep rate s e s') : Capped rate s' := by
  cases limiterStep_move hstep with
  | call amount hs =>
    subst hs
    exact ⟨List.forall_mem_append.mpr ⟨h.sound, List.forall_mem_singleton.mpr trivial⟩, h.cap⟩
  | go i fails c c' tokens _ hc hmove hs =>
    subst hs
    refine ⟨forall_mem_set h.sound (step_move hmove).sound, ?_⟩
    change tokens ≤ rate
    rcases h.tokens hc hmove with rfl | ⟨htake, -⟩
    · exact h.cap
    · have hcap := UInt64.le_iff_toNat_le.mp h.cap
      have hleft := (acquire_some htake).2
      exact UInt64.le_iff_toNat_le.mpr (by omega)
  | load hs =>
    subst hs
    exact ⟨h.sound, h.cap⟩
  | store current _ hs =>
    subst hs
    refine ⟨h.sound, UInt64.le_iff_toNat_le.mpr ?_⟩
    change (refilled rate current).toNat ≤ rate.toNat
    rw [toNat_refilled]
    omega

/-- The bucket never holds more than one second of tokens. -/
theorem tokens_le_rate {rate : UInt64} {es : List LimiterEvent} {s : Limiter}
    (h : Run (LimiterStep rate) .init es s) :
    s.tokens ≤ rate :=
  (h.inv (I := Capped rate) (Capped.init rate) fun _ _ _ => Capped.step).cap

/-- No call for so much has got beyond its load. -/
def NoneBegun (amount : UInt64) (s : Limiter) : Prop :=
  ∀ c ∈ s.calls, c.op = amount → c = .entered amount ∨ c = .finished amount false

/-- A call for more than that never succeeds. -/
theorem never_acquires {rate amount : UInt64} {es : List LimiterEvent} {s : Limiter}
    (h : Run (LimiterStep rate) .init es s) (hmore : rate < amount) : .finished amount true ∉ s.calls := by
  have hinv : Capped rate s ∧ NoneBegun amount s := by
    refine h.inv (I := fun s => Capped rate s ∧ NoneBegun amount s)
      ⟨Capped.init rate, by simp [NoneBegun, Limiter.init]⟩ ?_
    rintro u e v ⟨hcap, hcalls⟩ hstep
    refine ⟨hcap.step hstep, ?_⟩
    cases limiterStep_move hstep with
    | call amount' hs =>
      subst hs
      exact List.forall_mem_append.mpr
        ⟨hcalls, List.forall_mem_singleton.mpr fun hop => .inl (congrArg _ hop)⟩
    | go i fails c c' tokens _ hc hmove hs =>
      subst hs
      refine forall_mem_set hcalls fun hop => ?_
      have hmv := step_move hmove
      have hfew : acquire amount u.tokens = none := by
        have hlt := UInt64.lt_iff_toNat_lt.mp hmore
        have hle := UInt64.le_iff_toNat_le.mp hcap.cap
        exact if_pos (UInt64.lt_iff_toNat_lt.mpr (by omega))
      -- With the cap, a call for so much gives up after its load.
      rcases hcalls c (List.mem_of_getElem? hc) (hmv.op_eq.symm.trans hop) with rfl | rfl
      · cases hmv with
        | giveUp _ => exact .inr rfl
        | load hup =>
          rw [hfew] at hup
          cases hup
      · cases hmv
    | load hs =>
      subst hs
      exact hcalls
    | store current _ hs =>
      subst hs
      exact hcalls
  intro hwon
  rcases hinv.2 _ hwon rfl with hc | hc <;> cases hc

/-! ### The budget -/

/-- No more is acquired than refilled, and the bucket is not overfull. -/
structure Conserved (rate : UInt64) (s : Limiter) : Prop where
  budget : s.acquired + s.tokens.toNat ≤ s.refills * (tokensPerRefill rate).toNat
  cap : s.tokens ≤ rate

/-- What a compare-exchange that succeeds leaves in the bucket. -/
def Limiter.leaves (s : Limiter) : LimiterEvent → Option UInt64
  | .go i fails =>
    match s.calls[i]? with
    | some (.loaded _ old new) => if s.tokens = old ∧ fails = false then some new else none
    | _ => none
  | _ => none

/-- Nothing is acquired between the load and the store of a refill, unless so much is left that the
refill is cut off by the cap all the same. -/
def Undivided (rate : UInt64) (s : Limiter) (e : LimiterEvent) : Prop :=
  s.pending.isSome = true → ∀ left ∈ s.leaves e, rate.toNat ≤ left.toNat + (tokensPerRefill rate).toNat

instance (rate : UInt64) (s : Limiter) (e : LimiterEvent) : Decidable (Undivided rate s e) :=
  @instDecidableForall _ _ inferInstance (Option.decidableForallMem (s.leaves e))

/-- Only a compare-exchange that succeeds changes the bucket. -/
theorem step_leaves {s : Limiter} {i : ℕ} {fails : Bool} {c c' : Phase UInt64 UInt64} {tokens : UInt64}
    (hc : s.calls[i]? = some c) (hstep : c.step acquire s.tokens fails = some (tokens, c')) :
    tokens = s.tokens ∨ s.leaves (.go i fails) = some tokens := by
  cases c with
  | entered amount =>
    cases step_move hstep with
    | giveUp _ => exact .inl rfl
    | load _ => exact .inl rfl
  | loaded amount old new =>
    by_cases hwon : s.tokens = old ∧ fails = false
    · simp only [Phase.step, if_pos hwon, Option.some.injEq, Prod.mk.injEq] at hstep
      simp only [Limiter.leaves, hc, if_pos hwon]
      exact .inr (congrArg some hstep.1)
    · simp only [Phase.step, if_neg hwon, Option.some.injEq, Prod.mk.injEq] at hstep
      exact .inl hstep.1.symm
  | finished amount won => cases hstep

/-- What is acquired leaves the bucket. -/
theorem Capped.balance {rate : UInt64} {s : Limiter} (h : Capped rate s) {i : ℕ} {fails : Bool}
    {c c' : Phase UInt64 UInt64} {tokens : UInt64} (hc : s.calls[i]? = some c)
    (hstep : c.step acquire s.tokens fails = some (tokens, c')) :
    taken c' + tokens.toNat = s.tokens.toNat := by
  have hsound := h.sound c (List.mem_of_getElem? hc)
  cases step_move hstep with
  | giveUp _ => exact Nat.zero_add _
  | load _ => exact Nat.zero_add _
  | retry => exact Nat.zero_add _
  | win => exact (acquire_some hsound).2

/-- Between refills the budget is kept, and during one the refill stores what it would if it had loaded
the counter now. -/
structure Budgeted (rate : UInt64) (s : Limiter) : Prop where
  capped : Capped rate s
  budget : s.acquired + s.tokens.toNat ≤ s.refills * (tokensPerRefill rate).toNat
  fresh : ∀ current, s.pending = some current → refilled rate current = refilled rate s.tokens

/-- Where the cap cuts a refill off it makes no difference how much of the bucket is left. -/
theorem refilled_of_cut {rate left current : UInt64} (hcut : rate.toNat ≤ left.toNat + (tokensPerRefill rate).toNat)
    (hle : left.toNat ≤ current.toNat) : refilled rate current = refilled rate left := by
  rw [← UInt64.toNat_inj, toNat_refilled, toNat_refilled, min_eq_right hcut, min_eq_right (by omega)]

theorem Budgeted.step {rate : UInt64} {s s' : Limiter} {e : LimiterEvent} (h : Budgeted rate s)
    (hstep : LimiterStep rate s e s') (hund : Undivided rate s e) : Budgeted rate s' := by
  refine ⟨h.capped.step hstep, ?_, ?_⟩
  · have hbudget := h.budget
    cases limiterStep_move hstep with
    | call amount hs =>
      subst hs
      exact hbudget
    | go i fails c c' tokens _ hc hmove hs =>
      subst hs
      have hbalance := h.capped.balance hc hmove
      change s.acquired + taken c' + tokens.toNat ≤ s.refills * (tokensPerRefill rate).toNat
      omega
    | load hs =>
      subst hs
      exact hbudget
    | store current hpending hs =>
      subst hs
      have hrefill := toNat_refilled rate s.tokens
      change s.acquired + (refilled rate current).toNat ≤ (s.refills + 1) * (tokensPerRefill rate).toNat
      rw [h.fresh current hpending, Nat.succ_mul]
      omega
  · cases limiterStep_move hstep with
    | call amount hs =>
      subst hs
      exact h.fresh
    | go i fails c c' tokens he hc hmove hs =>
      subst hs he
      intro current hpending
      have hpending : s.pending = some current := hpending
      refine (h.fresh current hpending).trans ?_
      show refilled rate s.tokens = refilled rate tokens
      rcases step_leaves hc hmove with htokens | hleft
      · rw [htokens]
      · have hbalance := h.capped.balance hc hmove
        exact refilled_of_cut (hund (by rw [hpending]; rfl) tokens hleft) (by omega)
    | load hs =>
      subst hs
      intro current hpending
      obtain rfl := Option.some.inj hpending
      rfl
    | store current _ hs =>
      subst hs
      intro current hpending
      cases hpending

/-- In every run in which nothing is acquired between the load and the store of a refill that the cap does
not cut off, the limiter issues no more than it refills, and the bucket is never overfull. -/
theorem limiter_conserves (rate : UInt64) (es : List LimiterEvent) (s : Limiter)
    (h : Run (restrict (LimiterStep rate) (Undivided rate)) .init es s) : Conserved rate s := by
  have hinv : Budgeted rate s := by
    refine h.inv (I := Budgeted rate) ⟨Capped.init rate, Nat.zero_le _, ?_⟩ ?_
    · intro current hpending
      cases hpending
    rintro u e v hu ⟨hstep, hund⟩
    exact hu.step hstep hund
  exact ⟨hinv.budget, hinv.capped.cap⟩

/-- A step, if it does not divide a refill. -/
def undividedStep (rate : UInt64) (s : Limiter) (e : LimiterEvent) : Option Limiter :=
  if Undivided rate s e then limiterStep rate s e else none

theorem undividedStep_restrict (rate : UInt64) (s : Limiter) (e : LimiterEvent) (s' : Limiter)
    (h : undividedStep rate s e = some s') : restrict (LimiterStep rate) (Undivided rate) s e s' := by
  unfold undividedStep at h
  split_ifs at h with hund
  exact ⟨h, hund⟩

/-- A refill and a call that takes 50 of its 52 tokens. -/
theorem limiter_conserves_one : ∃ s, Run (restrict (LimiterStep 1024) (Undivided 1024)) .init
    [.refillLoad, .refillStore, .call 50, .go 0 false, .go 0 false] s ∧ s.acquired = 50 ∧
      Conserved 1024 s := by
  have hreplay : replay (undividedStep 1024)
      [.refillLoad, .refillStore, .call 50, .go 0 false, .go 0 false] .init =
        some ⟨2, [.finished 50 true], none, 1, 50⟩ := by
    decide +kernel
  have run := replay_run (undividedStep_restrict 1024) hreplay
  exact ⟨_, run, rfl, limiter_conserves 1024 _ _ run⟩

/-- The call's compare-exchange comes between the load and the store of the second refill: 50 tokens are
acquired and 104 are in the bucket, where 104 have been refilled. -/
theorem divided_overissues : ∃ es s, Run (LimiterStep 1024) .init es s ∧
    s.acquired + s.tokens.toNat = 154 ∧ s.refills * (tokensPerRefill 1024).toNat = 104 ∧
      ¬ Conserved 1024 s := by
  have hreplay : replay (limiterStep 1024)
      [.refillLoad, .refillStore, .call 50, .go 0 false, .refillLoad, .go 0 false, .refillStore] .init =
        some ⟨104, [.finished 50 true], none, 2, 50⟩ := by
    decide +kernel
  have hbudget : 2 * (tokensPerRefill 1024).toNat = 104 := by decide +kernel
  refine ⟨_, _, replay_run (fun _ _ _ h => h) hreplay, rfl, hbudget, fun h => ?_⟩
  have hle := h.budget
  change 50 + 104 ≤ 2 * (tokensPerRefill 1024).toNat at hle
  omega

end TcpStats.Echo
