import TcpStats.Lib.CString

/-!
# Lines and words

Texts of ASCII characters, cut into lines and words, and trimmed at both ends. Lines that are written one by one are the
lines that are read (`lines_unlines`), and trimming takes away just what is put around a text (`trimMatches_quoted`).
-/

namespace CString

/-! ### Lines -/

/-- Lines, with a newline behind each. -/
def unlines (ls : List CStr) : CStr := ls.flatMap (· ++ [chr '\n'])

/-- A line without a carriage return at its end. -/
def chomp (line : CStr) : CStr := if line.getLast? = some (chr '\r') then line.dropLast else line

/-- `str::lines`. -/
def lines (s : CStr) : List CStr :=
  let parts := s.splitOnP (· = chr '\n')
  let last := parts.getLastD []
  parts.dropLast.map chomp ++ if last = [] then [] else [last]

/-- A text is cut where a newline ends a line. -/
theorem splitOnP_unlines (ls : List CStr) (h : ∀ l ∈ ls, chr '\n' ∉ l) (rest : CStr) :
    (unlines ls ++ rest).splitOnP (· = chr '\n') = ls ++ rest.splitOnP (· = chr '\n') := by
  induction ls with
  | nil => rfl
  | cons l ls ih =>
    obtain ⟨hl, hls⟩ := List.forall_mem_cons.mp h
    have hcut : unlines (l :: ls) ++ rest = l ++ chr '\n' :: (unlines ls ++ rest) := by
      rw [unlines, List.flatMap_cons, List.append_assoc, List.append_assoc]
      rfl
    have hplain : ∀ c ∈ l, decide (c = chr '\n') = false := fun c hc =>
      decide_eq_false fun h => hl (h ▸ hc)
    rw [hcut, List.splitOnP_append_cons_of_forall_mem hplain _ (decide_eq_true rfl), ih hls, List.cons_append]

theorem chomp_of_notMem {line : CStr} (h : chr '\r' ∉ line) : chomp line = line :=
  if_neg fun hlast => h (List.mem_of_getLast? hlast)

/-- The lines of a text of lines. -/
theorem lines_unlines {ls : List CStr} (h : ∀ l ∈ ls, chr '\n' ∉ l ∧ chr '\r' ∉ l) : lines (unlines ls) = ls := by
  have hparts : (unlines ls).splitOnP (· = chr '\n') = ls ++ [[]] := by
    have hcut := splitOnP_unlines ls (fun l hl => (h l hl).1) []
    rwa [List.append_nil, List.splitOnP_nil] at hcut
  have hchomp : ls.map chomp = ls :=
    (List.map_congr_left fun l hl => chomp_of_notMem (h l hl).2).trans (List.map_id ls)
  simp [lines, hparts, hchomp]

/-! ### Words -/

/-- `char::is_whitespace`. -/
def isWhitespace (c : UInt8) : Bool := c = chr ' ' || (9 ≤ c && c ≤ 13)

/-- `str::split_whitespace`. -/
def splitWhitespace (s : CStr) : List CStr := fields isWhitespace s

/-- A text without a delimiter is one field. -/
theorem fields_of_forall {delim : UInt8 → Bool} {s : CStr} (hne : s ≠ []) (h : ∀ c ∈ s, delim c = false) :
    fields delim s = [s] := by
  rw [fields, List.splitOnP_eq_singleton h]
  simp [hne]

/-! ### Trimming -/

/-- `str::trim_end_matches`. -/
def trimEnd (p : UInt8 → Bool) (s : CStr) : CStr := (s.reverse.dropWhile p).reverse

/-- `str::trim_matches`. -/
def trimMatches (p : UInt8 → Bool) (s : CStr) : CStr := trimEnd p (s.dropWhile p)

/-- `str::trim`. -/
def trim (s : CStr) : CStr := trimMatches isWhitespace s

variable {p : UInt8 → Bool}

/-- What begins with another character still does. -/
theorem trimMatches_cons {c : UInt8} (h : p c = false) (s : CStr) : trimMatches p (c :: s) = c :: trimEnd p s := by
  have hc : ¬ p c = true := by simp [h]
  rw [trimMatches, List.dropWhile_cons_of_neg hc, trimEnd, trimEnd, List.reverse_cons, List.dropWhile_append]
  split_ifs with hempty
  · rw [List.isEmpty_iff.mp hempty, List.dropWhile_cons_of_neg hc]
    rfl
  · rw [List.reverse_append]
    rfl

theorem trimEnd_of_last {s : CStr} (h : ∀ c ∈ s.getLast?, p c = false) : trimEnd p s = s := by
  rw [trimEnd]
  rcases List.eq_nil_or_concat s with rfl | ⟨t, c, rfl⟩
  · rfl
  · have hc : ¬ p c = true := by simp [h c (by simp)]
    rw [List.concat_eq_append, List.reverse_append, List.reverse_singleton, List.singleton_append,
      List.dropWhile_cons_of_neg hc, List.reverse_cons, List.reverse_reverse]

/-- What begins and ends with other characters stays as it is. -/
theorem trimMatches_of_ends {s : CStr} (hhead : ∀ c ∈ s.head?, p c = false) (hlast : ∀ c ∈ s.getLast?, p c = false) :
    trimMatches p s = s := by
  cases s with
  | nil => rfl
  | cons c s =>
    rw [trimMatches, List.dropWhile_cons_of_neg (by simp [hhead c rfl])]
    exact trimEnd_of_last hlast

/-- What is put around a text is taken away. -/
theorem trimMatches_quoted {q q' : UInt8} (hq : p q = true) (hq' : p q' = true) {s : CStr} (h : ∀ c ∈ s, p c = false) :
    trimMatches p (q :: (s ++ [q'])) = s := by
  have hend : trimEnd p (s ++ [q']) = s := by
    rw [trimEnd, List.reverse_append, List.reverse_singleton, List.singleton_append, List.dropWhile_cons_of_pos hq']
    exact trimEnd_of_last fun c hc => h c (List.mem_of_getLast? hc)
  rw [trimMatches, List.dropWhile_cons_of_pos hq]
  cases s with
  | nil => simp [hq', trimEnd]
  | cons c s => rwa [List.cons_append, List.dropWhile_cons_of_neg (by simp [h c]), ← List.cons_append]

end CString
