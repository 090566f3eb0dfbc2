import TcpStats.Lib.Panic
import Mathlib.Tactic.SplitIfs

/-!
# Reading the list of control blocks

`read_pcblist_validated` of `sysctl.rs`: the list is read again as long as the generations in its header
and its trailer differ, up to a number of retries. The length that the header gives says where the
trailer is, and the kernel is not trusted with it: whatever the buffers are, no index is outside
them, and what is returned is the last buffer read, with its generation
(`readPcblistValidated_honest`).
-/

namespace TcpStats.Client

open Bytes Panic

/-- `SysctlError`, over the errors of the operating system. -/
inductive SysctlError (IoError : Type) where
  | nameToMib (name : String) (source : IoError)
  | readFailed (name : String) (source : IoError)
  | generationMismatch (name : String) (retries : UInt32)
  | tooSmall (got need : ℕ)
  | unsupportedPlatform
  deriving DecidableEq

variable {IoError : Type}

/-- `XINPGEN_MIN_SIZE`. -/
def XINPGEN_MIN_SIZE : ℕ := 24

/-- `u32::from_ne_bytes`, on a little-endian machine. -/
def u32FromNeBytes (bs : List UInt8) : UInt32 := .ofNat (leNat bs)

/-- `u64::from_ne_bytes`. -/
def u64FromNeBytes (bs : List UInt8) : UInt64 := .ofNat (leNat bs)

/-- The bytes `buf[offset + k], .., buf[offset + k + n - 1]`, each with its own sums. -/
def indicesFrom (buf : List UInt8) (offset k n : ℕ) : Except (Stop (SysctlError IoError)) (List UInt8) :=
  (List.range n).mapM fun i => do index buf (← add offset (k + i))

/-- The checks of an attempt on what it has read, and the generations of the header and the trailer. -/
def generations (buf : List UInt8) : Except (Stop (SysctlError IoError)) (UInt64 × UInt64) :=
  if buf.length < XINPGEN_MIN_SIZE then throw (.error (.tooSmall buf.length XINPGEN_MIN_SIZE))
  else do
    let headerLen := (u32FromNeBytes (← indices buf 0 4)).toNat
    let headerGen := u64FromNeBytes (← indices buf 8 8)
    if buf.length < headerLen then throw (.error (.tooSmall buf.length headerLen))
    else
      let trailerOffset ← sub buf.length headerLen
      let need ← add trailerOffset 16
      if need > buf.length then throw (.error (.tooSmall buf.length need))
      else
        let trailerGen := u64FromNeBytes (← indicesFrom buf trailerOffset 8 8)
        return (headerGen, trailerGen)

/-- One attempt, with what `read_sysctl` has returned: the result of the function, if it is the last. -/
def attemptRead (name : String) (maxRetries : UInt32) (attempt : ℕ)
    (read : Except (SysctlError IoError) Slice) :
    Except (Stop (SysctlError IoError)) (Option (Slice × UInt64)) :=
  match read with
  | .error e => throw (.error e)
  | .ok buf => do
    let gens ← generations buf.bytes
    if gens.1 = gens.2 then return some (buf, gens.1)
    else if attempt = maxRetries.toNat then throw (.error (.generationMismatch name maxRetries))
    else return none

/-- What `read_pcblist_validated` does. -/
structure PcblistRead (IoError : Type) where
  result : Except (Stop (SysctlError IoError)) (Slice × UInt64)
  /-- How many times `read_sysctl` was called. -/
  reads : ℕ

/-- The attempts that are left of those from 0 to `max_retries`, after `n` calls of `read_sysctl`; behind
them is `unreachable!()`. -/
def attemptLoop (name : String) (maxRetries : UInt32) (reads : ℕ → Except (SysctlError IoError) Slice) :
    ℕ → ℕ → PcblistRead IoError
  | 0, n => ⟨.error .panic, n⟩
  | left + 1, n =>
    match attemptRead name maxRetries (maxRetries.toNat - left) (reads n) with
    | .error stop => ⟨.error stop, n + 1⟩
    | .ok (some r) => ⟨.ok r, n + 1⟩
    | .ok none => attemptLoop name maxRetries reads left (n + 1)

/-- `read_pcblist_validated`, where the calls of `read_sysctl` return what `reads` says, one after
another. -/
def readPcblistValidated (name : String) (maxRetries : UInt32)
    (reads : ℕ → Except (SysctlError IoError) Slice) :
    PcblistRead IoError :=
  attemptLoop name maxRetries reads (maxRetries.toNat + 1) 0

/-! ### One attempt -/

/-- The length that a header gives. -/
def headerLength (buf : List UInt8) : ℕ := (u32At buf 0).toNat

theorem indicesFrom_ok {buf : List UInt8} {offset k n : ℕ} (h : offset + k + n ≤ buf.length)
    (hbuf : buf.length < 2 ^ 63) : indicesFrom buf offset k n =
      (.ok (bytesAt buf (offset + k) n) : Except (Stop (SysctlError IoError)) (List UInt8)) := by
  have hindex : ∀ i < n, index buf (offset + k + i) =
      (.ok (u8At buf (offset + k + i)) : Except (Stop (SysctlError IoError)) UInt8) :=
    fun i hi => index_ok (by omega)
  rw [← indices_ok h, indicesFrom, indices, mapM_ok fun i hi => hindex i (List.mem_range.mp hi)]
  refine mapM_ok fun i hi => ?_
  have hi := List.mem_range.mp hi
  rw [add_ok (by omega), ok_bind, ← Nat.add_assoc]
  exact hindex i hi

/-- The checks cover every index. -/
theorem generations_eq (buf : Slice) : generations buf.bytes = (
    if buf.bytes.length < XINPGEN_MIN_SIZE then .error (.error (.tooSmall buf.bytes.length XINPGEN_MIN_SIZE))
    else if buf.bytes.length < headerLength buf.bytes then
      .error (.error (.tooSmall buf.bytes.length (headerLength buf.bytes)))
    else if headerLength buf.bytes < 16 then
      .error (.error (.tooSmall buf.bytes.length (buf.bytes.length - headerLength buf.bytes + 16)))
    else .ok (u64At buf.bytes 8, u64At buf.bytes (buf.bytes.length - headerLength buf.bytes + 8)) :
      Except (Stop (SysctlError IoError)) (UInt64 × UInt64)) := by
  have hfits := buf.fits
  unfold generations
  by_cases hmin : buf.bytes.length < XINPGEN_MIN_SIZE
  · rw [if_pos hmin, if_pos hmin]
    rfl
  rw [if_neg hmin, if_neg hmin]
  rw [XINPGEN_MIN_SIZE, Nat.not_lt] at hmin
  have hword : (u32FromNeBytes (bytesAt buf.bytes 0 4)).toNat = headerLength buf.bytes := rfl
  rw [indices_ok (by omega), ok_bind, indices_ok (by omega), ok_bind, hword]
  by_cases hlong : buf.bytes.length < headerLength buf.bytes
  · rw [if_pos hlong, if_pos hlong]
    rfl
  rw [if_neg hlong, if_neg hlong, sub_ok (Nat.not_lt.mp hlong), ok_bind, add_ok (by omega), ok_bind]
  by_cases hshort : headerLength buf.bytes < 16
  · rw [if_pos (by omega), if_pos hshort]
    rfl
  · rw [if_neg (by omega), if_neg hshort, indicesFrom_ok (by omega) hfits]
    rfl

/-- The buffer has a header and a trailer. -/
structure Framed (buf : List UInt8) : Prop where
  min_le : XINPGEN_MIN_SIZE ≤ buf.length
  le_header : 16 ≤ headerLength buf
  header_le : headerLength buf ≤ buf.length

theorem generations_ok {buf : Slice} {gens : UInt64 × UInt64}
    (h : generations buf.bytes = (.ok gens : Except (Stop (SysctlError IoError)) _)) :
    Framed buf.bytes ∧
      gens = (u64At buf.bytes 8, u64At buf.bytes (buf.bytes.length - headerLength buf.bytes + 8)) := by
  rw [generations_eq] at h
  split_ifs at h with hmin hlong hshort
  exact ⟨⟨Nat.not_lt.mp hmin, Nat.not_lt.mp hshort, Nat.not_lt.mp hlong⟩, (Except.ok.inj h).symm⟩

theorem generations_ne_panic (buf : Slice) :
    generations buf.bytes ≠ (.error .panic : Except (Stop (SysctlError IoError)) _) := by
  rw [generations_eq]
  split_ifs <;> simp

/-- What an attempt can come to: a buffer whose generations are the same, a further attempt where there is
one, or an error. -/
inductive Attempted (maxRetries : UInt32) (attempt : ℕ) (read : Except (SysctlError IoError) Slice) :
    Except (Stop (SysctlError IoError)) (Option (Slice × UInt64)) → Prop where
  | done {buf : Slice} : read = .ok buf → Framed buf.bytes →
      u64At buf.bytes (buf.bytes.length - headerLength buf.bytes + 8) = u64At buf.bytes 8 →
      Attempted maxRetries attempt read (.ok (some (buf, u64At buf.bytes 8)))
  | again : attempt ≠ maxRetries.toNat → Attempted maxRetries attempt read (.ok none)
  | failed (e : SysctlError IoError) : Attempted maxRetries attempt read (.error (.error e))

theorem attemptRead_attempted (name : String) (maxRetries : UInt32) (attempt : ℕ)
    (read : Except (SysctlError IoError) Slice) :
    Attempted maxRetries attempt read (attemptRead name maxRetries attempt read) := by
  unfold attemptRead
  rcases read with e | buf
  · exact .failed e
  rcases hgens : (generations buf.bytes : Except (Stop (SysctlError IoError)) _) with (e | _) | gens
  · simp only [hgens, error_bind]
    exact .failed e
  · exact absurd hgens (generations_ne_panic buf)
  · obtain ⟨hframed, rfl⟩ := generations_ok hgens
    simp only [hgens, ok_bind]
    split_ifs with heq hlast
    · exact .done rfl hframed heq.symm
    · exact .failed _
    · exact .again hlast

/-! ### All attempts -/

/-- The result is the last buffer read: it has a header and a trailer, and both have its generation. -/
structure Honest (reads : ℕ → Except (SysctlError IoError) Slice) (r : PcblistRead IoError) (buf : Slice)
    (gen : UInt64) : Prop where
  last : reads (r.reads - 1) = .ok buf
  framed : Framed buf.bytes
  header : u64At buf.bytes 8 = gen
  trailer : u64At buf.bytes (buf.bytes.length - headerLength buf.bytes + 8) = gen

/-- The function returns after one to `left` reads more than `n`, and what it returns is honest. -/
structure Settled (reads : ℕ → Except (SysctlError IoError) Slice) (n left : ℕ)
    (r : PcblistRead IoError) : Prop where
  returns : r.result ≠ .error .panic
  some_read : n < r.reads
  reads_le : r.reads ≤ n + left
  honest : ∀ buf gen, r.result = .ok (buf, gen) → Honest reads r buf gen

theorem Settled.mono {reads : ℕ → Except (SysctlError IoError) Slice} {n m left more : ℕ}
    {r : PcblistRead IoError}
    (h : Settled reads n left r) (hn : m ≤ n) (hleft : n + left ≤ m + more) : Settled reads m more r :=
  ⟨h.returns, hn.trans_lt h.some_read, h.reads_le.trans hleft, h.honest⟩

/-- An attempt returns, or it is not the last and the next one follows. -/
theorem attemptLoop_step (name : String) (maxRetries : UInt32)
    (reads : ℕ → Except (SysctlError IoError) Slice)
    (left n : ℕ) : Settled reads n 1 (attemptLoop name maxRetries reads (left + 1) n) ∨
      maxRetries.toNat - left ≠ maxRetries.toNat ∧
        attemptLoop name maxRetries reads (left + 1) n = attemptLoop name maxRetries reads left (n + 1) := by
  have hone := attemptRead_attempted name maxRetries (maxRetries.toNat - left) (reads n)
  rw [attemptLoop]
  generalize attemptRead name maxRetries (maxRetries.toNat - left) (reads n) = out at hone ⊢
  cases hone with
  | @done buf hread hframed htrailer =>
    refine .inl ⟨by simp, Nat.lt_succ_self n, le_rfl, fun buf' gen h => ?_⟩
    obtain ⟨rfl, rfl⟩ := Prod.mk.inj (Except.ok.inj h)
    exact ⟨hread, hframed, rfl, htrailer⟩
  | again hmore => exact .inr ⟨hmore, rfl⟩
  | failed e => exact .inl ⟨by simp, Nat.lt_succ_self n, le_rfl, fun _ _ h => by cases h⟩

/-- With an attempt left the loop returns: the last attempt asks for no other. -/
theorem attemptLoop_settled (name : String) (maxRetries : UInt32)
    (reads : ℕ → Except (SysctlError IoError) Slice) (left n : ℕ) (hleft : left ≤ maxRetries.toNat) :
    Settled reads n (left + 1) (attemptLoop name maxRetries reads (left + 1) n) := by
  induction left generalizing n with
  | zero =>
    rcases attemptLoop_step name maxRetries reads 0 n with h | ⟨hmore, -⟩
    · exact h
    · exact absurd (Nat.sub_zero _) hmore
  | succ left ih =>
    rcases attemptLoop_step name maxRetries reads (left + 1) n with h | ⟨-, hnext⟩
    · exact h.mono le_rfl (by omega)
    · rw [hnext]
      exact (ih (n + 1) (by omega)).mono (by omega) (by omega)

/-- For every number of retries and whatever the calls of `read_sysctl` return: the function does not
panic, so that no index is out of range and `unreachable!()` is not reached; it reads at most once more
than there are retries; and it returns nothing but the last buffer read, where the header and the trailer
are within the buffer and both give the generation that it returns. -/
theorem readPcblistValidated_honest (IoError : Type) (name : String) (maxRetries : UInt32)
    (reads : ℕ → Except (SysctlError IoError) Slice) :
    (readPcblistValidated name maxRetries reads).result ≠ .error .panic ∧
      (readPcblistValidated name maxRetries reads).reads ≤ maxRetries.toNat + 1 ∧
      ∀ buf gen, (readPcblistValidated name maxRetries reads).result = .ok (buf, gen) →
        Honest reads (readPcblistValidated name maxRetries reads) buf gen := by
  have h := attemptLoop_settled name maxRetries reads maxRetries.toNat 0 le_rfl
  exact ⟨h.returns, h.reads_le.trans (by omega), h.honest⟩

end TcpStats.Client
