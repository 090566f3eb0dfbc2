import Mathlib.Data.List.Basic
import Mathlib.Data.List.TakeDrop
import Mathlib.Data.Nat.Notation

/-!
# Pipes

A reliable stream from one sender to one receiver: what is taken out of it is what was put in, in
the same order and without gaps. A pipe keeps all that was ever put into it, so that `received` is a
beginning of `sent` by construction (`received_prefix`), and `inFlight` is the rest.
-/

/-- A stream of items. -/
@[ext]
structure Pipe (α : Type*) where
  /-- All that was put in so far. -/
  sent : List α
  /-- How many items have been taken out. -/
  taken : ℕ
  /-- Nothing more will be put in. -/
  closed : Bool
  fits : taken ≤ sent.length
  deriving DecidableEq

namespace Pipe

variable {α : Type*}

/-- A new one. -/
def empty : Pipe α := ⟨[], 0, false, Nat.zero_le _⟩

variable (p : Pipe α)

/-- What has been taken out. -/
def received : List α := p.sent.take p.taken

/-- What has been put in and not yet taken out. -/
def inFlight : List α := p.sent.drop p.taken

/-- Some items are put in. -/
def push (items : List α) : Pipe α where
  sent := p.sent ++ items
  taken := p.taken
  closed := p.closed
  fits := by
    have := p.fits
    simp only [List.length_append]
    omega

/-- The next `n` items are taken out, or all there are. -/
def take (n : ℕ) : Pipe α where
  sent := p.sent
  taken := min (p.taken + n) p.sent.length
  closed := p.closed
  fits := Nat.min_le_right _ _

/-- The sender's end is closed. -/
def close : Pipe α := { p with closed := true }

@[simp] theorem sent_push (items : List α) : (p.push items).sent = p.sent ++ items := rfl

@[simp] theorem closed_push (items : List α) : (p.push items).closed = p.closed := rfl

@[simp] theorem sent_take (n : ℕ) : (p.take n).sent = p.sent := rfl

@[simp] theorem closed_take (n : ℕ) : (p.take n).closed = p.closed := rfl

@[simp] theorem taken_push (items : List α) : (p.push items).taken = p.taken := rfl

@[simp] theorem taken_close : p.close.taken = p.taken := rfl

@[simp] theorem sent_empty : (empty : Pipe α).sent = [] := rfl

@[simp] theorem received_empty : (empty : Pipe α).received = [] := rfl

@[simp] theorem taken_empty : (empty : Pipe α).taken = 0 := rfl

@[simp] theorem closed_empty : (empty : Pipe α).closed = false := rfl

@[simp] theorem sent_close : p.close.sent = p.sent := rfl

@[simp] theorem closed_close : p.close.closed = true := rfl

@[simp] theorem received_close : p.close.received = p.received := rfl

@[simp] theorem inFlight_close : p.close.inFlight = p.inFlight := rfl

theorem received_append_inFlight : p.received ++ p.inFlight = p.sent := List.take_append_drop _ _

theorem received_prefix : p.received <+: p.sent := List.take_prefix _ _

@[simp] theorem length_received : p.received.length = p.taken := List.length_take_of_le p.fits

@[simp] theorem received_push (items : List α) : (p.push items).received = p.received :=
  List.take_append_of_le_length p.fits

theorem received_take (n : ℕ) : (p.take n).received = p.received ++ p.inFlight.take n := by
  rw [received, received, inFlight, ← List.take_add]
  change p.sent.take (min (p.taken + n) p.sent.length) = _
  rcases Nat.le_total (p.taken + n) p.sent.length with h | h
  · rw [Nat.min_eq_left h]
  · rw [Nat.min_eq_right h, List.take_length, List.take_of_length_le h]

theorem length_inFlight : p.inFlight.length = p.sent.length - p.taken := List.length_drop

theorem taken_take {n : ℕ} (h : n ≤ p.inFlight.length) : (p.take n).taken = p.taken + n := by
  rw [length_inFlight] at h
  have := p.fits
  exact Nat.min_eq_left (by omega)

/-- When nothing is on its way, all has been received. -/
theorem received_eq_sent (h : p.inFlight = []) : p.received = p.sent := by
  have := p.received_append_inFlight
  rwa [h, List.append_nil] at this

end Pipe
