import TcpStats.Device.Balance
import TcpStats.Lib.Retry

/-!
# The longest read

`TSF_STAT_MAX` raises `read_duration_ns_max` to the duration of a read by a load and a
compare-and-set, again and again until the duration is stored or the counter is as high already. The
reads run side by side, and their steps are taken in any order: the counter loses none of the
durations (`statMax_lossless`). A read that no other disturbs does in one step what `Stats.timed`
says (`timed_eq_alone`).
-/

namespace TcpStats

open Retry Transition

/-- `TSF_STAT_MAX`: what is stored for `_new` when `_cur` has been loaded; nothing if the loop is left. -/
def tsfStatMax (new cur : UInt64) : Option UInt64 := if new ≤ cur then none else some new

/-- The steps of the reads that are at the end: each is a call with its duration. -/
abbrev StatMaxStep : Pool UInt64 UInt64 → PoolEvent UInt64 → Pool UInt64 UInt64 → Prop :=
  Pool.Step tsfStatMax

theorem tsfStatMax_raises : Raises tsfStatMax where
  givesUp h := by
    unfold tsfStatMax at h
    split_ifs at h with hle
    exact hle
  stores h := by
    unfold tsfStatMax at h
    split_ifs at h with hle
    obtain rfl := Option.some.inj h
    exact ⟨rfl, UInt64.le_of_lt (UInt64.not_le.mp hle)⟩

/-- A read alone, however often its compare-and-set fails without a reason. -/
theorem timed_eq_alone (s : Stats) (elapsed : Sbintime) (fails : ℕ) :
    (s.timed elapsed).readDurationNsMax =
      (alone tsfStatMax (elapsedNs elapsed) s.readDurationNsMax fails).1 := by
  change (if s.readDurationNsMax ≤ elapsedNs elapsed then elapsedNs elapsed else s.readDurationNsMax) = _
  rw [alone_eq, tsfStatMax]
  split_ifs with hle hge hge
  · exact UInt64.le_antisymm hge hle
  · rfl
  · rfl
  · exact absurd (UInt64.le_of_lt (UInt64.not_le.mp hle)) hge

/-- The larger of two words is one of them, and the least word that is as large as both. -/
instance lawfulOrderMaxUInt64 : Std.LawfulOrderMax UInt64 where
  max_eq_or a b := by
    change (if a ≤ b then b else a) = a ∨ (if a ≤ b then b else a) = b
    split_ifs
    · exact .inr rfl
    · exact .inl rfl
  max_le_iff a b c := by
    change (if a ≤ b then b else a) ≤ c ↔ a ≤ c ∧ b ≤ c
    split_ifs with hle
    · exact ⟨fun h => ⟨UInt64.le_trans hle h, h⟩, And.right⟩
    · have hge : b ≤ a := UInt64.le_of_lt (UInt64.not_le.mp hle)
      exact ⟨fun h => ⟨h, UInt64.le_trans hge h⟩, And.left⟩

/-- Any number of reads, and their steps in any order: the counter does not get lower, it always holds its
first value or the duration of a read, and once all reads are through it holds the greatest of these. -/
theorem statMax_lossless (first : UInt64) (es es' : List (PoolEvent UInt64)) (s s' : Pool UInt64 UInt64)
    (h : Run StatMaxStep ⟨first, []⟩ es s) (h' : Run StatMaxStep s es' s') :
    s.cell ≤ s'.cell ∧ (s.cell = first ∨ s.cell ∈ s.ops) ∧
      ((∀ c ∈ s.calls, c.Finished) → (first :: s.ops).max? = some s.cell) :=
  ⟨Pool.cell_mono tsfStatMax_raises h h', List.mem_cons.mp (Pool.Highest.of_run tsfStatMax_raises h).mem,
    Pool.cell_greatest tsfStatMax_raises h⟩

/-- A read of 5 ns loads the counter before one of 7 ns has stored its duration: the compare-and-set of the
first fails, and at the end the counter holds 7. -/
theorem statMax_lossless_two : ∃ s, Run StatMaxStep ⟨3, []⟩
    [.call 5, .call 7, .go 0 false, .go 1 false, .go 1 false, .go 0 false, .go 0 false] s ∧
      s.calls = [.finished 5 false, .finished 7 true] ∧ ([3, 5, 7] : List UInt64).max? = some s.cell := by
  have hreplay : replay (Pool.step tsfStatMax)
      [.call 5, .call 7, .go 0 false, .go 1 false, .go 1 false, .go 0 false, .go 0 false] ⟨3, []⟩ =
        some ⟨7, [.finished 5 false, .finished 7 true]⟩ := by
    decide
  have run : Run StatMaxStep ⟨3, []⟩
      [.call 5, .call 7, .go 0 false, .go 1 false, .go 1 false, .go 0 false, .go 0 false]
        ⟨7, [.finished 5 false, .finished 7 true]⟩ := replay_run (fun _ _ _ h => h) hreplay
  refine ⟨_, run, rfl, (statMax_lossless 3 _ [] _ _ run (.nil _)).2.2 ?_⟩
  intro c hc
  simp only [List.mem_cons, List.not_mem_nil, or_false] at hc
  rcases hc with rfl | rfl
  · trivial
  · trivial

end TcpStats
