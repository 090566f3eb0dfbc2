import TcpStats.Lib.Bytes

/-!
# Code that may panic

A function of a language with checked arithmetic and checked slices returns a value, returns an
error, or panics. The operations here panic where the language's do: an addition or a
multiplication that overflows a 64-bit word, a subtraction below zero, a division by zero, an
index or a range outside the buffer. A buffer in memory is a `Slice`: it is no longer than the
largest signed word.
-/

namespace Panic

open Bytes

/-- What ends a function before it has a value. -/
inductive Stop (ε : Type*) where
  /-- An error that it returns. -/
  | error (e : ε)
  /-- A panic. -/
  | panic
  deriving DecidableEq

/-- A buffer in memory. -/
structure Slice where
  bytes : List UInt8
  /-- No allocation is larger than `isize::MAX`. -/
  fits : bytes.length < 2 ^ 63

variable {ε α β : Type}

/-- `a + b` on 64-bit words. -/
def add (a b : ℕ) : Except (Stop ε) ℕ := if a + b < 2 ^ 64 then .ok (a + b) else .error .panic

/-- `a - b`. -/
def sub (a b : ℕ) : Except (Stop ε) ℕ := if b ≤ a then .ok (a - b) else .error .panic

/-- `a * b` on 64-bit words. -/
def mul (a b : ℕ) : Except (Stop ε) ℕ := if a * b < 2 ^ 64 then .ok (a * b) else .error .panic

/-- `a / b`. -/
def div (a b : ℕ) : Except (Stop ε) ℕ := if b ≠ 0 then .ok (a / b) else .error .panic

/-- `buf[i]`. -/
def index (buf : List UInt8) (i : ℕ) : Except (Stop ε) UInt8 :=
  if i < buf.length then .ok (u8At buf i) else .error .panic

/-- `&buf[start..stop]`. -/
def slice (buf : List UInt8) (start stop : ℕ) : Except (Stop ε) (List UInt8) :=
  if start ≤ stop ∧ stop ≤ buf.length then .ok (bytesAt buf start (stop - start)) else .error .panic

/-- `[buf[offset], .., buf[offset + n - 1]]`. -/
def indices (buf : List UInt8) (offset n : ℕ) : Except (Stop ε) (List UInt8) :=
  (List.range n).mapM fun i => index buf (offset + i)

@[simp] theorem ok_bind (a : α) (f : α → Except (Stop ε) β) : (Except.ok a >>= f) = f a := rfl

@[simp] theorem error_bind (e : Stop ε) (f : α → Except (Stop ε) β) : (Except.error e >>= f) = .error e := rfl

@[simp] theorem pure_eq_ok (a : α) : (pure a : Except (Stop ε) α) = .ok a := rfl

@[simp] theorem throw_eq_error (e : Stop ε) : (throw e : Except (Stop ε) α) = .error e := rfl

theorem add_ok {a b : ℕ} (h : a + b < 2 ^ 64) : add a b = (.ok (a + b) : Except (Stop ε) ℕ) := if_pos h

theorem add_panic {a b : ℕ} (h : ¬ a + b < 2 ^ 64) :
    add a b = (.error .panic : Except (Stop ε) ℕ) := if_neg h

theorem sub_ok {a b : ℕ} (h : b ≤ a) : sub a b = (.ok (a - b) : Except (Stop ε) ℕ) := if_pos h

theorem mul_ok {a b : ℕ} (h : a * b < 2 ^ 64) : mul a b = (.ok (a * b) : Except (Stop ε) ℕ) := if_pos h

theorem div_ok {a b : ℕ} (h : b ≠ 0) : div a b = (.ok (a / b) : Except (Stop ε) ℕ) := if_pos h

theorem index_ok {buf : List UInt8} {i : ℕ} (h : i < buf.length) :
    index buf i = (.ok (u8At buf i) : Except (Stop ε) UInt8) := if_pos h

theorem slice_ok {buf : List UInt8} {start stop : ℕ} (h : start ≤ stop) (hlen : stop ≤ buf.length) :
    slice buf start stop = (.ok (bytesAt buf start (stop - start)) : Except (Stop ε) (List UInt8)) :=
  if_pos ⟨h, hlen⟩

/-- A range that ends before it begins. -/
theorem slice_panic {buf : List UInt8} {start stop : ℕ} (h : stop < start) :
    slice buf start stop = (.error .panic : Except (Stop ε) (List UInt8)) :=
  if_neg fun hle => absurd hle.1 (Nat.not_le.mpr h)

/-- A traversal in which nothing fails. -/
theorem mapM_ok {f : α → Except ε β} {g : α → β} {l : List α} (h : ∀ x ∈ l, f x = .ok (g x)) :
    l.mapM f = .ok (l.map g) := by
  induction l with
  | nil => rfl
  | cons x l ih =>
    rw [List.mapM_cons, h x (List.mem_cons_self ..), ih fun y hy => h y (List.mem_cons_of_mem _ hy)]
    rfl

theorem indices_ok {buf : List UInt8} {offset n : ℕ} (h : offset + n ≤ buf.length) :
    indices buf offset n = (.ok (bytesAt buf offset n) : Except (Stop ε) (List UInt8)) := by
  have hindex : ∀ i ∈ List.range n,
      index buf (offset + i) = (.ok (u8At buf (offset + i)) : Except (Stop ε) UInt8) := by
    intro i hi
    have := List.mem_range.mp hi
    exact index_ok (by omega)
  rw [indices, mapM_ok hindex]
  congr 1
  refine List.ext_getElem (by rw [bytesAt]; simp; omega) fun i hi _ => ?_
  have hin : i < n := by simpa using hi
  have hlt : offset + i < buf.length := by omega
  simp [bytesAt, u8At, hlt]

end Panic
