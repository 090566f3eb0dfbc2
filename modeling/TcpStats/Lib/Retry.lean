import TcpStats.Lib.Run
import Mathlib.Data.List.Basic
import Mathlib.Data.Nat.Notation

/-!
# Retry loops on an atomic cell

A call that changes a shared cell by a loop: it loads the cell, gives up or works out a new value,
and stores that by a compare-and-set; when the compare-and-set fails it begins again. A
compare-and-set may fail though the values are equal. `Phase.step` is one atomic step of a call, and
`Move` says once what it can do: of all its steps only a compare-and-set that succeeds changes the
cell, and it applies the operation to the value that the cell has then (`Move.cell`).

A `Pool` is a cell with any number of calls on it, whose steps are taken in any order. When each call
raises the cell to a value of its own, the cell only grows (`Pool.cell_mono`), and in the end it holds
the greatest of the values (`Pool.cell_greatest`).
-/

namespace Retry

variable {Op V : Type*}

/-- How far a call has come. -/
inductive Phase (Op V : Type*) where
  /-- Before the load. -/
  | entered (op : Op)
  /-- Before the compare-and-set of the value loaded by the new one. -/
  | loaded (op : Op) (old new : V)
  /-- Returned, having changed the cell or given up. -/
  | finished (op : Op) (won : Bool)
  deriving DecidableEq

/-- The operation. -/
def Phase.op : Phase Op V → Op
  | entered op => op
  | loaded op _ _ => op
  | finished op _ => op

section Step

variable [DecidableEq V] (update : Op → V → Option V)

/-- The next step of a call, with the cell and whether a compare-and-set fails without a reason: the
new cell and how far the call is then. None when it has returned. -/
def Phase.step (v : V) (fails : Bool) : Phase Op V → Option (V × Phase Op V)
  | entered op =>
    match update op v with
    | none => some (v, finished op false)
    | some new => some (v, loaded op v new)
  | loaded op old new =>
    if v = old ∧ fails = false then some (new, finished op true) else some (v, entered op)
  | finished _ _ => none

/-- All that a step can do. -/
inductive Move (v : V) : Phase Op V → V → Phase Op V → Prop where
  | giveUp {op : Op} : update op v = none → Move v (.entered op) v (.finished op false)
  | load {op : Op} {new : V} : update op v = some new → Move v (.entered op) v (.loaded op v new)
  /-- The compare-and-set fails. -/
  | retry {op : Op} {old new : V} : Move v (.loaded op old new) v (.entered op)
  /-- The compare-and-set succeeds. -/
  | win {op : Op} {new : V} : Move v (.loaded op v new) new (.finished op true)

variable {update}

theorem step_move {v w : V} {fails : Bool} {p q : Phase Op V} (h : p.step update v fails = some (w, q)) :
    Move update v p w q := by
  cases p with
  | entered op =>
    rcases hup : update op v with _ | new
    · simp only [Phase.step, hup, Option.some.injEq, Prod.mk.injEq] at h
      obtain ⟨rfl, rfl⟩ := h
      exact .giveUp hup
    · simp only [Phase.step, hup, Option.some.injEq, Prod.mk.injEq] at h
      obtain ⟨rfl, rfl⟩ := h
      exact .load hup
  | loaded op old new =>
    by_cases hcas : v = old ∧ fails = false
    · simp only [Phase.step, if_pos hcas, Option.some.injEq, Prod.mk.injEq] at h
      obtain ⟨rfl, rfl⟩ := h
      obtain ⟨rfl, -⟩ := hcas
      exact .win
    · simp only [Phase.step, if_neg hcas, Option.some.injEq, Prod.mk.injEq] at h
      obtain ⟨rfl, rfl⟩ := h
      exact .retry
  | finished op won => simp [Phase.step] at h

end Step

/-! ### What a call keeps -/

/-- The new value of a call that has loaded the cell is that of its operation. -/
def Phase.Sound (update : Op → V → Option V) : Phase Op V → Prop
  | entered _ => True
  | loaded op old new => update op old = some new
  | finished _ _ => True

section Moves

variable {update : Op → V → Option V} {v w : V} {p q : Phase Op V}

theorem Move.sound (h : Move update v p w q) : q.Sound update := by
  cases h with
  | giveUp _ => trivial
  | load hup => exact hup
  | retry => trivial
  | win => trivial

theorem Move.op_eq (h : Move update v p w q) : q.op = p.op := by
  cases h <;> rfl

/-- A step leaves the cell alone, or applies the operation to it and is the last of its call. -/
theorem Move.cell (h : Move update v p w q) (hp : p.Sound update) :
    w = v ∨ update p.op v = some w ∧ q = .finished p.op true := by
  cases h with
  | giveUp _ => exact .inl rfl
  | load _ => exact .inl rfl
  | retry => exact .inl rfl
  | win => exact .inr ⟨hp, rfl⟩

end Moves

/-! ### A call alone -/

/-- A call that no other disturbs, whose compare-and-set fails so many times without a reason: the
cell, and whether it was changed. -/
def alone (update : Op → V → Option V) (op : Op) (v : V) : ℕ → V × Bool
  | 0 =>
    match update op v with
    | none => (v, false)
    | some new => (new, true)
  | fails + 1 =>
    match update op v with
    | none => (v, false)
    | some _ => alone update op v fails

/-- The failures make no difference. -/
theorem alone_eq (update : Op → V → Option V) (op : Op) (v : V) (fails : ℕ) :
    alone update op v fails = ((update op v).getD v, (update op v).isSome) := by
  induction fails with
  | zero => cases hup : update op v <;> simp [alone, hup]
  | succ fails ih =>
    rcases hup : update op v with _ | new
    · simp [alone, hup]
    · rw [alone, hup]
      simpa only [hup] using ih

/-- The steps of a call alone, by whether its compare-and-set fails at each. -/
def soloSteps [DecidableEq V] (update : Op → V → Option V) :
    List Bool → V × Phase Op V → Option (V × Phase Op V)
  | [], s => some s
  | fails :: rest, (v, p) => (p.step update v fails).bind (soloSteps update rest)

/-- They lead to where `alone` says. -/
theorem soloSteps_alone [DecidableEq V] (update : Op → V → Option V) (op : Op) (v : V) (fails : ℕ) :
    ∃ flags, soloSteps update flags (v, .entered op) =
      some ((alone update op v fails).1, .finished op (alone update op v fails).2) := by
  induction fails with
  | zero =>
    rcases hup : update op v with _ | new
    · exact ⟨[false], by simp [soloSteps, Phase.step, alone, hup]⟩
    · exact ⟨[false, false], by simp [soloSteps, Phase.step, alone, hup]⟩
  | succ fails ih =>
    rcases hup : update op v with _ | new
    · exact ⟨[false], by simp [soloSteps, Phase.step, alone, hup]⟩
    · obtain ⟨flags, h⟩ := ih
      exact ⟨false :: true :: flags, by simpa [soloSteps, Phase.step, alone, hup] using h⟩

/-! ### Many calls -/

/-- A cell, and all the calls on it so far. -/
structure Pool (Op V : Type*) where
  cell : V
  calls : List (Phase Op V)
  deriving DecidableEq

/-- What happens next. -/
inductive PoolEvent (Op : Type*) where
  | call (op : Op)
  /-- The next step of a call, and whether a compare-and-set fails without a reason. -/
  | go (i : ℕ) (fails : Bool)

/-- What holds of every call, and of a step that one of them makes, holds of every call then. -/
theorem forall_mem_set {P : Phase Op V → Prop} {calls : List (Phase Op V)} {i : ℕ} {c : Phase Op V}
    (h : ∀ d ∈ calls, P d) (hc : P c) : ∀ d ∈ calls.set i c, P d := by
  intro d hd
  rcases List.mem_or_eq_of_mem_set hd with hd | rfl
  · exact h d hd
  · exact hc

namespace Pool

section Step

variable [DecidableEq V] (update : Op → V → Option V)

/-- An event, where it can happen. -/
def step (s : Pool Op V) : PoolEvent Op → Option (Pool Op V)
  | .call op => some { s with calls := s.calls ++ [.entered op] }
  | .go i fails => (s.calls[i]?).bind fun c =>
    (c.step update s.cell fails).map fun r => ⟨r.1, s.calls.set i r.2⟩

/-- The step relation. -/
def Step (s : Pool Op V) (e : PoolEvent Op) (s' : Pool Op V) : Prop := s.step update e = some s'

/-- All that a step can do. -/
inductive Moves (s s' : Pool Op V) : Prop where
  | call (op : Op) : s' = { s with calls := s.calls ++ [.entered op] } → Moves s s'
  | go (i : ℕ) (c c' : Phase Op V) (v : V) : s.calls[i]? = some c → Move update s.cell c v c' →
      s' = ⟨v, s.calls.set i c'⟩ → Moves s s'

variable {update}

theorem Step.moves {s s' : Pool Op V} {e : PoolEvent Op} (h : Step update s e s') : Moves update s s' := by
  unfold Step at h
  cases e with
  | call op => exact .call op (Option.some.inj h).symm
  | go i fails =>
    obtain ⟨c, hc, h⟩ := Option.bind_eq_some_iff.mp h
    obtain ⟨⟨v, c'⟩, hstep, h⟩ := Option.map_eq_some_iff.mp h
    exact .go i c c' v hc (step_move hstep) h.symm

end Step

/-- The operations of the calls. -/
def ops (s : Pool Op V) : List Op := s.calls.map Phase.op

/-- Every call that has loaded the cell stores what its operation makes of the value. -/
def Sound (update : Op → V → Option V) (s : Pool Op V) : Prop := ∀ c ∈ s.calls, c.Sound update

variable {update : Op → V → Option V} {s s' : Pool Op V}

theorem ops_call (op : Op) :
    ({ s with calls := s.calls ++ [.entered op] } : Pool Op V).ops = s.ops ++ [op] :=
  List.map_append

/-- A step of a call leaves the operations as they are. -/
theorem ops_go {i : ℕ} {c c' : Phase Op V} {v : V} (hc : s.calls[i]? = some c) (hop : c'.op = c.op) :
    (⟨v, s.calls.set i c'⟩ : Pool Op V).ops = s.ops := by
  have hops : s.ops[i]? = some c.op := by rw [ops, List.getElem?_map, hc, Option.map_some]
  rw [ops, List.map_set, hop]
  obtain ⟨hi, hget⟩ := List.getElem?_eq_some_iff.mp hops
  rw [← hget]
  exact List.set_getElem_self hi

theorem op_mem {c : Phase Op V} (hc : c ∈ s.calls) : c.op ∈ s.ops := List.mem_map_of_mem hc

theorem Sound.moves (h : s.Sound update) (hmove : Moves update s s') : s'.Sound update := by
  cases hmove with
  | call op hs =>
    subst hs
    exact List.forall_mem_append.mpr ⟨h, List.forall_mem_singleton.mpr trivial⟩
  | go i c c' v _ hmove hs =>
    subst hs
    exact forall_mem_set h hmove.sound

end Pool

/-! ### Raising a cell -/

/-- An update raises the cell to its operation's value, and gives up where the cell is as high already. -/
structure Raises [LE V] (update : V → V → Option V) : Prop where
  givesUp : ∀ {new cur}, update new cur = none → new ≤ cur
  stores : ∀ {new cur w}, update new cur = some w → w = new ∧ cur ≤ new

/-- The call has returned. -/
def Phase.Finished : Phase Op V → Prop
  | entered _ => False
  | loaded _ _ _ => False
  | finished _ _ => True

namespace Pool

variable [LE V] [Std.IsLinearOrder V] {update : V → V → Option V} {s s' : Pool V V} {v₀ : V}

/-- A step does not lower the cell. -/
theorem Moves.cell_le (h : Moves update s s') (hr : Raises update) (hs : s.Sound update) :
    s.cell ≤ s'.cell := by
  cases h with
  | call op hs' =>
    subst hs'
    exact Std.le_refl _
  | go i c c' v hc hmove hs' =>
    subst hs'
    rcases hmove.cell (hs c (List.mem_of_getElem? hc)) with rfl | ⟨hup, -⟩
    · exact Std.le_refl _
    · obtain ⟨rfl, hle⟩ := hr.stores hup
      exact hle

/-- The cell holds its first value or that of a call, and is as high as the first value and those of the
calls that have returned. -/
structure Highest (update : V → V → Option V) (v₀ : V) (s : Pool V V) : Prop where
  sound : s.Sound update
  mem : s.cell ∈ v₀ :: s.ops
  start : v₀ ≤ s.cell
  returned : ∀ c ∈ s.calls, c.Finished → c.op ≤ s.cell

theorem Highest.init : Highest update v₀ ⟨v₀, []⟩ where
  sound := List.forall_mem_nil _
  mem := List.mem_cons_self
  start := Std.le_refl _
  returned := List.forall_mem_nil _

theorem Highest.moves (h : Highest update v₀ s) (hr : Raises update) (hmove : Moves update s s') :
    Highest update v₀ s' := by
  have hle := hmove.cell_le hr h.sound
  refine ⟨h.sound.moves hmove, ?_, Std.le_trans h.start hle, ?_⟩
  · cases hmove with
    | call op hs =>
      subst hs
      rw [ops_call, ← List.cons_append]
      exact List.mem_append_left _ h.mem
    | go i c c' v hc hmove hs =>
      subst hs
      rw [ops_go hc hmove.op_eq]
      rcases hmove.cell (h.sound c (List.mem_of_getElem? hc)) with rfl | ⟨hup, -⟩
      · exact h.mem
      · obtain ⟨rfl, -⟩ := hr.stores hup
        exact List.mem_cons_of_mem _ (op_mem (List.mem_of_getElem? hc))
  · cases hmove with
    | call op hs =>
      subst hs
      exact List.forall_mem_append.mpr ⟨h.returned, List.forall_mem_singleton.mpr False.elim⟩
    | go i c c' v hc hmove hs =>
      subst hs
      refine forall_mem_set (fun d hd hdone => Std.le_trans (h.returned d hd hdone) hle) ?_
      -- The call that has made the step returns only by giving up or by storing its value.
      intro hdone
      have hsound := h.sound c (List.mem_of_getElem? hc)
      cases hmove with
      | giveUp hup => exact hr.givesUp hup
      | load _ => exact hdone.elim
      | retry => exact hdone.elim
      | win =>
        obtain ⟨rfl, -⟩ := hr.stores hsound
        exact Std.le_refl _

variable [DecidableEq V] {es es' : List (PoolEvent V)}

theorem Highest.of_run (hr : Raises update) (h : Transition.Run (Step update) ⟨v₀, []⟩ es s) :
    Highest update v₀ s :=
  h.inv (I := Highest update v₀) .init fun _ _ _ hu hstep => hu.moves hr hstep.moves

/-- From a state on that a run has reached, the cell does not get lower. -/
theorem cell_mono (hr : Raises update) (h : Transition.Run (Step update) ⟨v₀, []⟩ es s)
    (h' : Transition.Run (Step update) s es' s') : s.cell ≤ s'.cell := by
  have hinv : Highest update v₀ s' ∧ s.cell ≤ s'.cell := by
    refine h'.inv (I := fun t => Highest update v₀ t ∧ s.cell ≤ t.cell) ⟨.of_run hr h, Std.le_refl _⟩ ?_
    rintro u e v ⟨hu, hle⟩ hstep
    exact ⟨hu.moves hr hstep.moves, Std.le_trans hle (hstep.moves.cell_le hr hu.sound)⟩
  exact hinv.2

/-- When all calls have returned, the cell holds the greatest of its first value and theirs. -/
theorem cell_greatest [Max V] [Std.LawfulOrderMax V] (hr : Raises update)
    (h : Transition.Run (Step update) ⟨v₀, []⟩ es s) (hdone : ∀ c ∈ s.calls, c.Finished) :
    (v₀ :: s.ops).max? = some s.cell := by
  have hinv := Highest.of_run hr h
  refine List.max?_eq_some_iff.mpr ⟨hinv.mem, fun p hp => ?_⟩
  rcases List.mem_cons.mp hp with rfl | hp
  · exact hinv.start
  · obtain ⟨c, hc, rfl⟩ := List.mem_map.mp hp
    exact hinv.returned c hc (hdone c hc)

end Pool

end Retry
