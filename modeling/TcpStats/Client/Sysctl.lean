import TcpStats.Client.Pcblist

/-!
# Values of `sysctl`

A value is read in two calls, with some room for it to grow in between: what is returned is the value at the second call,
and what has outgrown the room is refused as a whole (`readSysctl_eq_ok_iff`). The counters of TCP are picked out of an
array of words by their places in it, whatever its length (`readU64At_words`).
-/

namespace TcpStats.Client

open Bytes

variable {IoError : Type}

/-! ### `read_sysctl` -/

/-- A value of `sysctl`: the size that is given for it first, and the value itself when it is read later. -/
structure Node (IoError : Type) where
  size : Except IoError ℕ
  value : Except IoError (List UInt8)

/-- The second call of `sysctlbyname`: the value at the beginning of the buffer and its length, or `ENOMEM`. -/
def Node.fill (node : Node IoError) (enomem : IoError) (buf : List UInt8) : Except IoError (List UInt8 × ℕ) :=
  match node.value with
  | .error e => .error e
  | .ok value =>
    if value.length ≤ buf.length then .ok (value ++ buf.drop value.length, value.length) else .error enomem

/-- `read_sysctl`. -/
def readSysctl (enomem : IoError) (name : String) (node : Node IoError) :
    Except (SysctlError IoError) (List UInt8) :=
  match node.size with
  | .error e => .error (.readFailed name e)
  | .ok size =>
    let allocSize := size + size / 4
    match node.fill enomem (List.replicate allocSize 0) with
    | .error e => .error (.readFailed name e)
    | .ok (buf, actualSize) => .ok (buf.take actualSize)

/-- What is returned is the value as it was at the second call, whole, which has not grown by more than a quarter since the
first. -/
theorem readSysctl_eq_ok_iff {enomem : IoError} {name : String} {node : Node IoError} {buf : List UInt8} :
    readSysctl enomem name node = .ok buf ↔
      node.value = .ok buf ∧ ∃ size, node.size = .ok size ∧ buf.length ≤ size + size / 4 := by
  unfold readSysctl Node.fill
  rcases node with ⟨_ | size, _ | value⟩
  · simp
  · simp
  · simp
  · simp only [List.length_replicate, Except.ok.injEq, exists_eq_left']
    split_ifs with hroom
    · simp only [List.take_left', Except.ok.injEq]
      exact ⟨fun h => ⟨h, h ▸ hroom⟩, fun h => h.1⟩
    · simp only [false_iff, not_and]
      rintro rfl
      exact hroom

/-! ### `read_tcp_stats` -/

/-- The counters of `TcpSysStats`. -/
structure TcpSysStats where
  connattempt : UInt64
  accepts : UInt64
  connects : UInt64
  drops : UInt64
  sndtotal : UInt64
  sndbyte : UInt64
  sndrexmitpack : UInt64
  sndrexmitbyte : UInt64
  rcvtotal : UInt64
  rcvbyte : UInt64
  rcvduppack : UInt64
  rcvbadsum : UInt64
  deriving DecidableEq

/-- `read_u64_at`: the word at an index, 0 if the buffer ends before. -/
def readU64At (buf : List UInt8) (idx : ℕ) : UInt64 :=
  if idx * 8 + 8 > buf.length then 0 else u64At buf (idx * 8)

/-- What `read_tcp_stats` makes of the value of `net.inet.tcp.stats`. -/
def tcpStats (buf : List UInt8) : TcpSysStats where
  connattempt := readU64At buf 0
  accepts := readU64At buf 1
  connects := readU64At buf 2
  drops := readU64At buf 3
  sndtotal := readU64At buf 11
  sndbyte := readU64At buf 13
  sndrexmitpack := readU64At buf 16
  sndrexmitbyte := readU64At buf 17
  rcvtotal := readU64At buf 24
  rcvbyte := readU64At buf 26
  rcvduppack := readU64At buf 28
  rcvbadsum := readU64At buf 33

/-- `read_tcp_stats`. -/
def readTcpStats (enomem : IoError) (node : Node IoError) : Except (SysctlError IoError) TcpSysStats :=
  (readSysctl enomem "net.inet.tcp.stats" node).map tcpStats

/-- An index picks out a word of the array, and 0 behind its end. -/
theorem readU64At_words (words : List UInt64) (idx : ℕ) :
    readU64At (words.flatMap le64) idx = words.getD idx 0 := by
  induction words generalizing idx with
  | nil => rfl
  | cons w words ih =>
    rw [List.flatMap_cons]
    cases idx with
    | zero =>
      rw [readU64At, if_neg (by simp), List.getD_cons_zero]
      exact u64At_of_bytesAt ((bytesAt_append_left (by simp) _).trans (bytesAt_self rfl))
    | succ idx =>
      rw [List.getD_cons_succ, ← ih idx, readU64At, readU64At, List.length_append, length_le64]
      have hbytes : bytesAt (le64 w ++ words.flatMap le64) ((idx + 1) * 8) 8 =
          bytesAt (words.flatMap le64) (idx * 8) 8 := by
        rw [bytesAt_append_right (by rw [length_le64]; omega), length_le64, Nat.add_mul, Nat.one_mul,
          Nat.add_sub_cancel_right]
      have hword : u64At (le64 w ++ words.flatMap le64) ((idx + 1) * 8) = u64At (words.flatMap le64) (idx * 8) :=
        congrArg (fun bs => UInt64.ofNat (leNat bs)) hbytes
      rw [hword]
      refine if_congr ?_ rfl rfl
      omega

end TcpStats.Client
