import TcpStats.Echo.ClientArgs
import TcpStats.Echo.RateLimiter
import Mathlib.Logic.Function.Iterate

/-!
# What a client configuration can send

A writer of `client.rs` waits until it has acquired as many tokens as its payload has bytes. The bucket
is filled up to the rate and no further, and the arguments are accepted whatever the rate and the
size of the payload are to each other: a configuration can send if and only if its payload is no
larger than its rate (`canSend_iff`).
-/

namespace TcpStats.Echo

open Retry Transition

/-! ### The wait of a writer -/

/-- `make_payload`, where there is memory for it. -/
def makePayload (size : ℕ) : List UInt8 := (List.range size).map fun i => .ofNat (i % 256)

/-- How many tokens `writer_loop` asks for: `payload.len()`. -/
def writeAmount (config : ClientConfig) : UInt64 := .ofNat (makePayload config.payloadSize.toNat).length

/-- Whether a writer that no other disturbs gets its tokens, where its compare-exchange fails so many
times without a reason. -/
def tryAcquire (config : ClientConfig) (tokens : UInt64) (fails : ℕ) : Bool :=
  (alone acquire (writeAmount config) tokens fails).2

/-- From every level of the bucket there is a number of refills after which a writer gets its tokens. -/
def ClientConfig.CanSend (config : ClientConfig) : Prop :=
  ∀ tokens, ∃ k, ∀ fails, tryAcquire config ((refilled config.rate)^[k] tokens) fails = true

theorem writeAmount_eq (config : ClientConfig) : writeAmount config = config.payloadSize := by
  rw [writeAmount, makePayload, List.length_map, List.length_range, UInt64.ofNat_toNat]

/-- The writer gets its tokens if they are there. -/
theorem tryAcquire_iff (config : ClientConfig) (tokens : UInt64) (fails : ℕ) :
    tryAcquire config tokens fails = true ↔ config.payloadSize ≤ tokens := by
  rw [tryAcquire, alone_eq, writeAmount_eq, acquire]
  split_ifs with hfew
  · simpa using hfew
  · simpa using hfew

/-! ### Refills without a writer -/

/-- Every refill adds at least one token. -/
theorem tokensPerRefill_pos {rate : UInt64} (h : 0 < rate.toNat) : 0 < (tokensPerRefill rate).toNat := by
  have hinterval : 0 < refillInterval :=
    Binary64.add_positive (Binary64.ofWord_nonneg 0)
      (Binary64.div_positive (Binary64.ofWord_pos (by decide)) (Binary64.ofWord_pos (by decide)))
  exact Binary64.toWord_ceil_pos (Binary64.mul_positive (Binary64.ofWord_pos h) hinterval)

/-- The bucket after some refills. -/
theorem toNat_refills (rate tokens : UInt64) (k : ℕ) :
    ((refilled rate)^[k + 1] tokens).toNat =
      min (tokens.toNat + (k + 1) * (tokensPerRefill rate).toNat) rate.toNat := by
  induction k with
  | zero => simpa using toNat_refilled rate tokens
  | succ k ih =>
    rw [Function.iterate_succ_apply', toNat_refilled, ih, Nat.succ_mul (k + 1)]
    omega

/-- As many refills as the amount has tokens are enough for it, and so are more. -/
theorem le_refills {rate amount : UInt64} (hrate : 0 < rate.toNat) (hamount : 0 < amount.toNat)
    (hle : amount ≤ rate) (tokens : UInt64) {k : ℕ} (hk : amount.toNat ≤ k) :
    amount ≤ (refilled rate)^[k] tokens := by
  obtain ⟨k, rfl⟩ := Nat.exists_eq_succ_of_ne_zero (show k ≠ 0 by omega)
  have hstep : k + 1 ≤ (k + 1) * (tokensPerRefill rate).toNat :=
    Nat.le_mul_of_pos_right _ (tokensPerRefill_pos hrate)
  have hcap := UInt64.le_iff_toNat_le.mp hle
  refine UInt64.le_iff_toNat_le.mpr ?_
  rw [Nat.succ_eq_add_one, toNat_refills]
  omega

/-- From an empty bucket no number of refills is enough for more than the rate. -/
theorem refills_le_rate (rate : UInt64) (k : ℕ) : (refilled rate)^[k] 0 ≤ rate := by
  cases k with
  | zero => exact UInt64.zero_le
  | succ k =>
    refine UInt64.le_iff_toNat_le.mpr ?_
    rw [toNat_refills]
    exact min_le_right _ _

/-! ### Accepted configurations -/

/-- A writer of a configuration whose payload is no larger than its rate gets its tokens, after so many
refills and from then on. -/
theorem ClientConfig.Checked.sends {config : ClientConfig} (h : config.Checked)
    (hle : config.payloadSize ≤ config.rate) (tokens : UInt64) {k : ℕ} (hk : config.payloadSize.toNat ≤ k)
    (fails : ℕ) :
    tryAcquire config ((refilled config.rate)^[k] tokens) fails = true :=
  (tryAcquire_iff _ _ _).mpr (le_refills h.rate h.payloadSize hle tokens hk)

theorem ClientConfig.CanSend.le {config : ClientConfig} (h : config.CanSend) :
    config.payloadSize ≤ config.rate := by
  obtain ⟨k, hk⟩ := h 0
  exact UInt64.le_trans ((tryAcquire_iff _ _ 0).mp (hk 0)) (refills_le_rate _ k)

/-- An accepted configuration can send if and only if its payload is no larger than its rate. -/
theorem canSend_iff (args : List String) (config : ClientConfig) (h : parseClientArgs args = .ok config) :
    config.CanSend ↔ config.payloadSize ≤ config.rate := by
  constructor
  · exact ClientConfig.CanSend.le
  · intro hle tokens
    exact ⟨config.payloadSize.toNat, (parseClientArgs_checked h).1.sends hle tokens le_rfl⟩

/-- The default values. -/
theorem canSend_default : parseClientArgs ["--ports", "9001"] = .ok { ports := [9001] } ∧
    ({ ports := [9001] } : ClientConfig).CanSend := by
  have hparse : parseClientArgs ["--ports", "9001"] = .ok { ports := [9001] } := by decide +kernel
  exact ⟨hparse, (canSend_iff _ _ hparse).mpr (by decide)⟩

/-- Half the default rate, with the default payload. -/
theorem undersized_rate : ∃ config, parseClientArgs ["--ports", "9001", "--rate", "512"] = .ok config ∧
    ¬ config.CanSend := by
  have hparse : parseClientArgs ["--ports", "9001", "--rate", "512"] =
      .ok { ports := [9001], rate := 512 } := by
    decide +kernel
  exact ⟨_, hparse, fun h => absurd h.le (by decide)⟩

/-- With any number of writers and in any order of their steps, none of them ever sends. -/
theorem undersized_never_acquires {config : ClientConfig} {es : List LimiterEvent} {s : Limiter}
    (h : Run (LimiterStep config.rate) .init es s) (hmore : config.rate < config.payloadSize) :
    .finished (writeAmount config) true ∉ s.calls := by
  rw [writeAmount_eq]
  exact never_acquires h hmore

end TcpStats.Echo
