import TcpStats.Profile.Invariant
import TcpStats.Lib.Snprintf

/-!
# Listing the profiles

A read of `dev.tcpstats.profile_set` prints one line for each profile into a buffer of 2048
bytes and passes as many bytes on as `snprintf` would have printed. The test after each
line stops the loop once the buffer is full, but lets the line that overran it count in
full: `listing_within_iff` says that what is passed on lies in the buffer exactly if the
lines fit, or if some of the first of them fill it to the last byte.
-/

namespace TcpStats

open CString Machine

/-- `sizeof(buf)`. -/
def LISTING_BUFSIZE : ℕ := 2048

/-- `"%s: %s\n"`, of the name and the filter string. -/
def TcpstatsProfile.line (prof : TcpstatsProfile) : CStr :=
  prof.name.str ++ cstr ": " ++ prof.filterStr.str ++ cstr "\n"

/-- The loop over the profiles: those still to come, `buf` and `pos`. -/
def listLoop : List TcpstatsProfile → Cells → ℕ → Cells × ℕ
  | [], buf, pos => (buf, pos)
  | prof :: profiles, buf, pos =>
    let (buf, n) := snprintf buf pos (LISTING_BUFSIZE - pos) prof.line
    let pos := pos + n
    if pos ≥ LISTING_BUFSIZE - 1 then (buf, pos) else listLoop profiles buf pos

/-- What is handed to `SYSCTL_OUT`. -/
structure SysctlOut where
  src : Cells
  len : ℕ

/-- `tcpstats_profile_set_handler`, read. The buffer is not initialised. -/
def tcpstatsProfileSetList (s : ProfileStore) : SysctlOut :=
  let (buf, pos) := listLoop s.profiles (fun _ => none) 0
  if pos = 0 then ⟨.literal (cstr "(none)\n"), 8⟩ else ⟨buf, pos + 1⟩

/-- What is passed on is no more than the buffer holds, and has been written. -/
def SysctlOut.Within (out : SysctlOut) : Prop := out.len ≤ LISTING_BUFSIZE ∧ out.src.Written out.len

instance (out : SysctlOut) : Decidable out.Within := inferInstanceAs (Decidable (_ ∧ _))

/-! ### Lines -/

/-- The lines, one after the other. -/
def allLines (profiles : List TcpstatsProfile) : CStr := profiles.flatMap TcpstatsProfile.line

/-- The lines fit the buffer, or some of the first of them fill it to the last byte. -/
def LinesFit (profiles : List TcpstatsProfile) : Prop :=
  (allLines profiles).length ≤ LISTING_BUFSIZE - 1 ∨
    ∃ j, (allLines (profiles.take j)).length = LISTING_BUFSIZE - 1

/-! ### The loop -/

theorem length_allLines_cons (prof : TcpstatsProfile) (profiles : List TcpstatsProfile) :
    (allLines (prof :: profiles)).length = prof.line.length + (allLines profiles).length := by
  rw [allLines, List.flatMap_cons, List.length_append]
  rfl

theorem listLoop_cons (prof : TcpstatsProfile) (profiles : List TcpstatsProfile) (buf : Cells) (pos : ℕ) :
    listLoop (prof :: profiles) buf pos =
      if pos + prof.line.length ≥ LISTING_BUFSIZE - 1 then
        ((snprintf buf pos (LISTING_BUFSIZE - pos) prof.line).1, pos + prof.line.length)
      else listLoop profiles (snprintf buf pos (LISTING_BUFSIZE - pos) prof.line).1
        (pos + prof.line.length) :=
  rfl

/-- Where the loop ends, from any position from which it still prints. -/
theorem listLoop_pos {profiles : List TcpstatsProfile} {buf : Cells} {pos : ℕ}
    (hpos : pos < LISTING_BUFSIZE - 1) :
    (listLoop profiles buf pos).2 ≤ LISTING_BUFSIZE - 1 ↔
      pos + (allLines profiles).length ≤ LISTING_BUFSIZE - 1 ∨
        ∃ j, pos + (allLines (profiles.take j)).length = LISTING_BUFSIZE - 1 := by
  induction profiles generalizing buf pos with
  | nil => simpa [listLoop, allLines] using fun h : pos = _ => h.le
  | cons prof profiles ih =>
    have htake : (∃ j, pos + (allLines ((prof :: profiles).take j)).length = LISTING_BUFSIZE - 1) ↔
        ∃ j, pos + prof.line.length + (allLines (profiles.take j)).length = LISTING_BUFSIZE - 1 := by
      constructor
      · rintro ⟨j, hj⟩
        cases j with
        | zero =>
          rw [List.take_zero, allLines, List.flatMap_nil, List.length_nil] at hj
          omega
        | succ j =>
          rw [List.take_succ_cons, length_allLines_cons, ← Nat.add_assoc] at hj
          exact ⟨j, hj⟩
      · rintro ⟨j, hj⟩
        refine ⟨j + 1, ?_⟩
        rw [List.take_succ_cons, length_allLines_cons, ← Nat.add_assoc]
        exact hj
    rw [htake, length_allLines_cons, ← Nat.add_assoc, listLoop_cons]
    split_ifs with hfull
    · -- the loop stops: the position is that after this line
      constructor
      · rintro h
        have : pos + prof.line.length = LISTING_BUFSIZE - 1 := by omega
        exact .inr ⟨0, this⟩
      · rintro (h | ⟨j, hj⟩)
        · omega
        · omega
    · exact ih (by omega)

/-- As long as the loop stays in the buffer, it has written what lies before its position, and
a terminator once there is a line. -/
theorem listLoop_written {profiles : List TcpstatsProfile} {buf : Cells} {pos : ℕ}
    (hpos : pos < LISTING_BUFSIZE - 1) (hbuf : pos ≠ 0 → buf.Written (pos + 1))
    (hend : (listLoop profiles buf pos).2 ≤ LISTING_BUFSIZE - 1)
    (hsome : (listLoop profiles buf pos).2 ≠ 0) :
    (listLoop profiles buf pos).1.Written ((listLoop profiles buf pos).2 + 1) := by
  induction profiles generalizing buf pos with
  | nil => exact hbuf hsome
  | cons prof profiles ih =>
    have hbefore : buf.Written pos := by
      intro i hi
      exact hbuf (by omega) i (by omega)
    have hline : pos + prof.line.length ≤ LISTING_BUFSIZE - 1 →
        (snprintf buf pos (LISTING_BUFSIZE - pos) prof.line).1.Written (pos + prof.line.length + 1) := by
      intro hfits
      exact snprintf_fits (by omega) hbefore
    rw [listLoop_cons] at hend hsome ⊢
    split_ifs at hend hsome ⊢ with hfull
    · exact hline hend
    · exact ih (by omega) (fun _ => hline (by omega)) hend hsome

/-- A listing stays in its buffer exactly if the lines fit, or fill it to the last byte. -/
theorem list_within_iff (s : ProfileStore) :
    (tcpstatsProfileSetList s).Within ↔ LinesFit s.profiles := by
  have hpos := @listLoop_pos s.profiles (fun _ => none) 0 (by decide)
  simp only [Nat.zero_add] at hpos
  rw [LinesFit, ← hpos]
  simp only [tcpstatsProfileSetList]
  split_ifs with hzero
  · rw [hzero]
    exact ⟨fun _ => Nat.zero_le _, fun _ => by decide⟩
  · constructor
    · rintro ⟨hlen, -⟩
      exact Nat.le_sub_one_of_lt hlen
    · intro h
      exact ⟨Nat.succ_le_of_lt (Nat.lt_of_le_sub_one (by decide) h),
        listLoop_written (by decide) (fun h => absurd rfl h) h hzero⟩

/-- Whatever has been written to the profiles, listing them stays in the buffer exactly if
their lines fit, or fill it to the last byte. -/
theorem listing_within_iff (ws : List ProfileWrite) :
    (tcpstatsProfileSetList (final profileWrite ws .init)).Within ↔
      LinesFit (final profileWrite ws .init).profiles :=
  list_within_iff _

/-- A write that creates a profile of the name whose filter string is all blanks. -/
def blankProfile (name : Char) : ProfileWrite :=
  .profileSet (.ok (chr name :: chr ' ' :: List.replicate 511 (chr ' '))) true

/-- Four profiles with filter strings of 511 bytes: 2060 bytes of lines. -/
theorem listing_overruns : ¬ (tcpstatsProfileSetList
    (final profileWrite (['a', 'b', 'c', 'd'].map blankProfile) .init)).Within := by
  decide +kernel

end TcpStats
