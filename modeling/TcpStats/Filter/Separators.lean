import TcpStats.Filter.Language

/-!
# Words and the blanks between them

`Separators.join` is a string made of words, with runs of blanks behind each and before the first. Its
words are the tokens of the string (`directives_join`), whatever the runs. But the scan for bytes
that cannot be printed comes before the string is cut, and refuses the tab that it is cut at: the
runs can be changed for others exactly if that makes no difference in tabs, or the words are
refused anyway (`separators_iff`).
-/

namespace TcpStats

open CString Fallible

/-! ### Cutting at blanks -/

/-- A word is the one word of itself. -/
theorem fields_word {w : CStr} (hne : w ≠ []) (h : ∀ c ∈ w, isBlank c = false) :
    fields isBlank w = [w] := by
  rw [fields, List.splitOnP_eq_singleton h]
  simp [hne]

/-- Blanks before a string. -/
theorem fields_blanks_append {s : CStr} (h : ∀ c ∈ s, isBlank c = true) (t : CStr) :
    fields isBlank (s ++ t) = fields isBlank t := by
  induction s with
  | nil => rfl
  | cons c s ih =>
    obtain ⟨hc, hs⟩ := List.forall_mem_cons.mp h
    have hcut := fields_append hc [] (s ++ t)
    rw [List.nil_append] at hcut
    rw [List.cons_append, hcut, ih hs]
    rfl

/-- A word with blanks behind it. -/
theorem fields_word_append {w s : CStr} (hne : w ≠ []) (hw : ∀ c ∈ w, isBlank c = false)
    (hs : ∀ c ∈ s, isBlank c = true)
    (hs0 : s ≠ []) (t : CStr) : fields isBlank (w ++ s ++ t) = w :: fields isBlank t := by
  obtain ⟨c, s, rfl⟩ := List.exists_cons_of_ne_nil hs0
  obtain ⟨hc, hs⟩ := List.forall_mem_cons.mp hs
  rw [List.append_assoc, List.cons_append, fields_append hc, fields_word hne hw, fields_blanks_append hs,
    List.singleton_append]

/-! ### Joining -/

/-- A word of a filter string. -/
structure IsWord (w : CStr) : Prop where
  ne_nil : w ≠ []
  noBlank : ∀ c ∈ w, isBlank c = false
  noNul : 0 ∉ w

/-- Runs of blanks: one at the head of a string, and one behind each of its words, where only the last
may be missing. -/
structure Separators where
  lead : CStr
  behind : List CStr
  blank : ∀ s ∈ lead :: behind, ∀ c ∈ s, isBlank c = true
  apart : ∀ s ∈ behind.dropLast, s ≠ []

namespace Separators

/-- The words, with the runs around them. -/
def join (sep : Separators) (ws : List CStr) : CStr :=
  sep.lead ++ (List.zipWith (· ++ ·) ws sep.behind).flatten

/-- There are as many runs as words. -/
structure Fits (sep : Separators) (ws : List CStr) : Prop where
  length_eq : sep.behind.length = ws.length
  words : ∀ w ∈ ws, IsWord w

end Separators

/-- The words and the runs behind them, in turn. -/
theorem fields_zipWith {ws ss : List CStr} (hlen : ss.length = ws.length) (hws : ∀ w ∈ ws, IsWord w)
    (hblank : ∀ s ∈ ss, ∀ c ∈ s, isBlank c = true) (hapart : ∀ s ∈ ss.dropLast, s ≠ []) :
    fields isBlank (List.zipWith (· ++ ·) ws ss).flatten = ws := by
  induction ws generalizing ss with
  | nil => rw [List.zipWith_nil_left]; rfl
  | cons w ws ih =>
    obtain ⟨s, ss, rfl⟩ := List.exists_cons_of_length_pos (by rw [hlen]; exact Nat.succ_pos _)
    obtain ⟨hw, hws⟩ := List.forall_mem_cons.mp hws
    obtain ⟨hs, hss⟩ := List.forall_mem_cons.mp hblank
    rw [List.length_cons, List.length_cons, Nat.add_right_cancel_iff] at hlen
    rw [List.zipWith_cons_cons, List.flatten_cons]
    rcases ss with _ | ⟨s', ss⟩
    · -- the last word, which may have nothing behind it
      obtain rfl := List.length_eq_zero_iff.mp hlen.symm
      rw [List.zipWith_nil_left, List.flatten_nil]
      by_cases hs0 : s = []
      · rw [hs0, List.append_nil, List.append_nil, fields_word hw.ne_nil hw.noBlank]
      · rw [fields_word_append hw.ne_nil hw.noBlank hs hs0]
        rfl
    · rw [List.dropLast_cons_cons] at hapart
      obtain ⟨hs0, hapart⟩ := List.forall_mem_cons.mp hapart
      rw [fields_word_append hw.ne_nil hw.noBlank hs hs0, ih hlen hws hss hapart]

namespace Separators.Fits

variable {sep : Separators} {ws : List CStr}

/-- The bytes of a joined string. -/
theorem join_perm (h : sep.Fits ws) :
    (sep.join ws).Perm (sep.lead ++ (ws.flatten ++ sep.behind.flatten)) := by
  have hzip : ∀ {ws ss : List CStr}, ss.length = ws.length →
      (List.zipWith (· ++ ·) ws ss).flatten.Perm (ws.flatten ++ ss.flatten) := by
    intro ws
    induction ws with
    | nil =>
      intro ss hlen
      obtain rfl := List.length_eq_zero_iff.mp hlen
      exact .refl _
    | cons w ws ih =>
      intro ss hlen
      obtain ⟨s, ss, rfl⟩ := List.exists_cons_of_length_pos (by rw [hlen]; exact Nat.succ_pos _)
      rw [List.zipWith_cons_cons, List.flatten_cons, List.flatten_cons, List.flatten_cons, List.append_assoc,
        List.append_assoc]
      refine List.Perm.append_left w (((ih (Nat.succ.inj hlen)).append_left s).trans ?_)
      exact List.perm_append_comm_assoc ..
  exact (hzip h.length_eq).append_left _

theorem mem_of_word (h : sep.Fits ws) {w : CStr} (hw : w ∈ ws) {c : UInt8} (hc : c ∈ w) :
    c ∈ sep.join ws := by
  refine h.join_perm.mem_iff.mpr (List.mem_append_right _ (List.mem_append_left _ ?_))
  exact List.mem_flatten.mpr ⟨w, hw, hc⟩

theorem word_or_blank (h : sep.Fits ws) {c : UInt8} (hc : c ∈ sep.join ws) :
    (∃ w ∈ ws, c ∈ w) ∨ isBlank c = true := by
  have hmem := h.join_perm.mem_iff.mp hc
  rw [List.mem_append, List.mem_append, List.mem_flatten, List.mem_flatten] at hmem
  rcases hmem with hlead | hword | ⟨s, hs, hc⟩
  · exact .inr (sep.blank _ List.mem_cons_self c hlead)
  · exact .inl hword
  · exact .inr (sep.blank s (List.mem_cons_of_mem _ hs) c hc)

theorem zero_notMem (h : sep.Fits ws) : 0 ∉ sep.join ws := by
  intro hmem
  rcases h.word_or_blank hmem with ⟨w, hw, hc⟩ | hblank
  · exact (h.words w hw).noNul hc
  · exact absurd hblank (by decide)

/-- The words of a joined string. -/
theorem directives_join (h : sep.Fits ws) : directives (sep.join ws) = ws := by
  rw [directives, ofArray_of_notMem h.zero_notMem, Separators.join,
    fields_blanks_append (sep.blank _ List.mem_cons_self),
    fields_zipWith h.length_eq h.words (fun s hs => sep.blank s (List.mem_cons_of_mem _ hs)) sep.apart]

/-- The bytes of a joined string will do if those of its words do, and none is a tab. -/
theorem lexical_iff (h : sep.Fits ws) :
    Lexical (sep.join ws) ↔ (sep.join ws).length ≤ TSF_PARSE_MAXLEN - 1 ∧
    (∀ w ∈ ws, ∀ c ∈ w, nonPrintable c = false) ∧ chr '\t' ∉ sep.join ws := by
  have hhead : (sep.join ws).head? ≠ some 0 := fun hhead => h.zero_notMem (List.mem_of_head? hhead)
  rw [Lexical, or_iff_right hhead]
  refine and_congr_right fun _ => ?_
  constructor
  · intro hprint
    refine ⟨fun w hw c hc => hprint c (h.mem_of_word hw hc), fun htab => ?_⟩
    exact absurd (hprint _ htab) (by decide)
  · rintro ⟨hwords, htab⟩ c hc
    rcases h.word_or_blank hc with ⟨w, hw, hcw⟩ | hblank
    · exact hwords w hw c hcw
    · rcases Bool.or_eq_true_iff.mp hblank with hspace | htab'
      · rw [beq_iff_eq.mp hspace]
        decide
      · exact absurd (beq_iff_eq.mp htab' ▸ hc) htab

end Separators.Fits

/-! ### What the words mean -/

/-- The words make a filter: they can be printed, there are sixteen at most, each reads as a directive, and
no two directives, and no families, exclude one another. -/
structure WordsMean (ws : List CStr) (f : TcpstatsFilter) : Prop where
  printable : ∀ w ∈ ws, ∀ c ∈ w, nonPrintable c = false
  few : ws.length ≤ TSF_PARSE_MAXDIRECTIVES
  reads : ∃ ds, List.Forall₂ Reads ws ds ∧ ds.Pairwise Directive.Compatible ∧ FamiliesAgree ds ∧ f = meaning ds

theorem parse_join_iff {sep : Separators} {ws : List CStr} (h : sep.Fits ws)
    (hlen : (sep.join ws).length ≤ TSF_PARSE_MAXLEN - 1) {f : TcpstatsFilter} :
    tsfParseFilterString (sep.join ws) = .ok f ↔ chr '\t' ∉ sep.join ws ∧ WordsMean ws f := by
  rw [tsfParseFilterString_iff]
  constructor
  · rintro ⟨ds, ⟨hlex, hfew, hreads⟩, hpair, hagree, rfl⟩
    obtain ⟨-, hprint, htab⟩ := h.lexical_iff.mp hlex
    rw [h.directives_join] at hreads
    exact ⟨htab, hprint, hreads.length_eq ▸ hfew, ds, hreads, hpair, hagree, rfl⟩
  · rintro ⟨htab, hprint, hfew, ds, hreads, hpair, hagree, rfl⟩
    refine ⟨ds, ⟨h.lexical_iff.mpr ⟨hlen, hprint, htab⟩, hreads.length_eq ▸ hfew, ?_⟩, hpair, hagree, rfl⟩
    rw [h.directives_join]
    exact hreads

/-- When separators are interchangeable: for the words of a string, and for none. -/
theorem separators_iff {ws : List CStr} {sep sep' : Separators} (h : sep.Fits ws) (h' : sep'.Fits ws)
    (hlen : (sep.join ws).length ≤ TSF_PARSE_MAXLEN - 1) (hlen' : (sep'.join ws).length ≤ TSF_PARSE_MAXLEN - 1)
    {s : CStr} (hblank : ∀ c ∈ s, isBlank c = true) (hslen : s.length ≤ TSF_PARSE_MAXLEN - 1) :
    (returned (sep.join ws) = returned (sep'.join ws) ↔
      (chr '\t' ∈ sep.join ws ↔ chr '\t' ∈ sep'.join ws) ∨ ¬ ∃ f, WordsMean ws f) ∧
      (returned s = .ok .default ↔ chr '\t' ∉ s) := by
  constructor
  · rw [returned_eq_iff (fun hlong => not_lt.mpr hlen hlong.2) (fun hlong => not_lt.mpr hlen' hlong.2)]
    simp only [parse_join_iff h hlen, parse_join_iff h' hlen']
    constructor
    · intro hsame
      by_contra hno
      obtain ⟨htabs, hmean⟩ := not_or.mp hno
      obtain ⟨f, hf⟩ := not_not.mp hmean
      have := hsame f
      rw [and_iff_left hf, and_iff_left hf, not_iff_not] at this
      exact htabs this
    · rintro (htabs | hnone) f
      · rw [htabs]
      · exact iff_of_false (fun hf => hnone ⟨f, hf.2⟩) fun hf => hnone ⟨f, hf.2⟩
  · -- blanks only are what stands before no word
    let lead : Separators := ⟨s, [], by simpa using hblank, by simp⟩
    have hjoin : lead.join [] = s := List.append_nil s
    have hfits : lead.Fits [] := ⟨rfl, by simp⟩
    have hmean : WordsMean [] .default :=
      ⟨by simp, Nat.zero_le _, [], .nil, .nil, ⟨by simp, by simp, by simp⟩, rfl⟩
    rw [returned_eq_ok_iff, ← hjoin, parse_join_iff hfits (by rw [hjoin]; exact hslen), and_iff_left hmean]

/-- One space between two words. -/
def oneSpace : Separators where
  lead := []
  behind := [cstr " ", []]
  blank := by decide +kernel
  apart := by decide

/-- Spaces around two words as well. -/
def wideSpace : Separators where
  lead := cstr " "
  behind := [cstr "  ", cstr " "]
  blank := by decide +kernel
  apart := by decide

/-- Two words with one space or more between them, and a string of spaces. -/
theorem spaces_interchangeable :
    returned (oneSpace.join [cstr "ipv4_only", cstr "format=full"]) =
      returned (wideSpace.join [cstr "ipv4_only", cstr "format=full"]) ∧ returned (cstr "  ") = .ok .default := by
  have hword : ∀ w ∈ [cstr "ipv4_only", cstr "format=full"], IsWord w :=
    List.forall_mem_cons.mpr ⟨⟨by decide, by decide +kernel, by decide⟩,
      List.forall_mem_singleton.mpr ⟨by decide, by decide +kernel, by decide⟩⟩
  have hone : oneSpace.Fits [cstr "ipv4_only", cstr "format=full"] := ⟨rfl, hword⟩
  have hwide : wideSpace.Fits [cstr "ipv4_only", cstr "format=full"] := ⟨rfl, hword⟩
  have hspaces : ∀ c ∈ cstr "  ", isBlank c = true := by decide +kernel
  obtain ⟨hwords, hblanks⟩ := separators_iff hone hwide (by decide) (by decide) hspaces (by decide)
  exact ⟨hwords.mpr (.inl (by decide)), hblanks.mpr (by decide)⟩

/-- The words `ipv4_only` and `format=full` with a space between them, and with a tab. -/
theorem tab_refused : (∃ f, returned (cstr "ipv4_only format=full") = .ok f) ∧
    returned (cstr "ipv4_only\tformat=full") = .error .EINVAL ∧ returned (cstr "\t") = .error .EINVAL :=
  ⟨exists_ok_of_isOk (by decide), by decide, by decide⟩

end TcpStats
