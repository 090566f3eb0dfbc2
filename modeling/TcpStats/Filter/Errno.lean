import TcpStats.Filter.WellFormed

/-!
# The codes that the parser returns

`tsf_parse_filter_string` returns 0 with a filter, `ENAMETOOLONG` for a string that does not fit
its buffer, and `EINVAL` for every other failure (`returned_error`). `Einval` is carried through
the parsers as they call one another.
-/

namespace TcpStats

open CString

/-- The computation fails with `EINVAL` only. -/
def Einval {α : Type} (x : Except ParseError α) : Prop := ∀ e, x = .error e → e.errno = .EINVAL

namespace Einval

variable {α β : Type} {x y : Except ParseError α}

theorem ok (a : α) : Einval (.ok a : Except ParseError α) := by
  intro e h
  cases h

theorem error {e : ParseError} (h : e.errno = .EINVAL) : Einval (.error e : Except ParseError α) := by
  rintro e' ⟨⟩
  exact h

theorem ite {p : Prop} [Decidable p] (hx : Einval x) (hy : Einval y) : Einval (if p then x else y) := by
  split_ifs
  · exact hx
  · exact hy

theorem bind {f : α → Except ParseError β} (hx : Einval x) (hf : ∀ a, Einval (f a)) : Einval (x >>= f) := by
  intro e h
  rcases x with e' | a
  · exact hx e (congrArg _ (Except.error.inj h))
  · exact hf a e h

end Einval

/-! ### Numbers and lists -/

theorem einval_digits {bad : UInt8 → ParseError} (hbad : ∀ c, (bad c).errno = .EINVAL) (str : CStr)
    (val : ℕ) :
    Einval (digits bad str val) := by
  induction str generalizing val with
  | nil => exact .ok val
  | cons c cs ih => exact .ite (ih _) (.error (hbad c))

theorem einval_tsfParsePortNumber (str : CStr) : Einval (tsfParsePortNumber str) :=
  .ite (.error rfl) <| .ite (.error rfl) <| .ite (.error rfl) <| .bind (einval_digits (fun _ => rfl) _ _) fun _ =>
    .ite (.error rfl) <| .ite (.error rfl) (.ok _)

theorem einval_portLoop (maxports : ℕ) (toks : List CStr) (count : ℕ) (ports : Vector UInt16 8) :
    Einval (portLoop maxports toks count ports) := by
  induction toks generalizing count ports with
  | nil => exact .ok _
  | cons tok toks ih =>
    exact .ite (.error rfl) <| .bind (einval_tsfParsePortNumber tok) fun port => .ite (.error rfl) (ih _ _)

theorem einval_tsfParsePortList (value : CStr) (ports : Vector UInt16 8) (maxports : ℕ)
    (flags bit : UInt32) :
    Einval (tsfParsePortList value ports maxports flags bit) :=
  .ite (.error rfl) <| .bind (einval_portLoop _ _ _ _) fun _ => .ite (.error rfl) (.ok _)

theorem einval_tsfLookupState (name : CStr) : Einval (tsfLookupState name) := by
  unfold tsfLookupState
  split
  · exact .ok _
  · exact .error rfl

theorem einval_excludeLoop (toks : List CStr) (seen mask : UInt16) :
    Einval (excludeLoop toks seen mask) := by
  induction toks generalizing seen mask with
  | nil => exact .ok _
  | cons tok toks ih => exact .bind (einval_tsfLookupState tok) fun _ => .ite (.error rfl) (ih _ _)

theorem einval_tsfParseExcludeList (value : CStr) (f : TcpstatsFilter) :
    Einval (tsfParseExcludeList value f) :=
  .ite (.error rfl) <| .bind (einval_excludeLoop _ _ _) fun _ => .ok _

theorem einval_includeLoop (toks : List CStr) (seen mask : UInt16) :
    Einval (includeLoop toks seen mask) := by
  induction toks generalizing seen mask with
  | nil => exact .ok _
  | cons tok toks ih => exact .bind (einval_tsfLookupState tok) fun _ => .ite (.error rfl) (ih _ _)

theorem einval_tsfParseIncludeStateList (value : CStr) (f : TcpstatsFilter) :
    Einval (tsfParseIncludeStateList value f) :=
  .ite (.error rfl) <| .ite (.error rfl) <| .bind (einval_includeLoop _ _ _) fun _ => .ite (.error rfl) (.ok _)

theorem einval_tsfParseFormat (value : CStr) (f : TcpstatsFilter) : Einval (tsfParseFormat value f) :=
  .ite (.ok _) <| .ite (.ok _) (.error rfl)

theorem einval_fieldLoop (toks : List CStr) (mask : UInt32) : Einval (fieldLoop toks mask) := by
  induction toks generalizing mask with
  | nil => exact .ok _
  | cons tok toks ih =>
    rw [fieldLoop]
    split
    · exact ih _
    · exact .error rfl

theorem einval_tsfParseFieldList (value : CStr) (f : TcpstatsFilter) : Einval (tsfParseFieldList value f) :=
  .bind (einval_fieldLoop _ _) fun _ => .ite (.error rfl) (.ok _)

/-! ### Addresses -/

theorem einval_tsfParsePrefixLength (str : CStr) (maxPfx : ℕ) : Einval (tsfParsePrefixLength str maxPfx) :=
  .ite (.error rfl) <| .ite (.error rfl) <| .bind (einval_digits (fun _ => rfl) _ _) fun _ => .ite (.error rfl) (.ok _)

theorem einval_parseOctets (n : ℕ) (p : CStr) (octets : List ℕ) : Einval (parseOctets n p octets) := by
  induction n generalizing p octets with
  | zero => exact .ok _
  | succ n ih =>
    exact .ite (.error rfl) <| .ite (.error rfl) <| .ite (.error rfl) <| .ite (ih _ _) <| .ite (ih _ _) (.error rfl)

theorem einval_tsfParseIpv4Addr (str : CStr) : Einval (tsfParseIpv4Addr str) := by
  rw [tsfParseIpv4Addr_eq]
  refine .bind ?_ fun _ => .bind (einval_parseOctets _ _ _) fun _ => .ite (.error rfl) <| .ite (.error rfl) (.ok _)
  unfold v4Prefix
  split
  · exact .ite (.error rfl) (einval_tsfParsePrefixLength _ _)
  · exact .ite (.error rfl) (.ok _)

theorem einval_groupDigits (n : ℕ) (p : CStr) (val seen : ℕ) : Einval (groupDigits n p val seen) := by
  induction n generalizing p val seen with
  | zero => exact .ok _
  | succ n ih =>
    rcases p with _ | ⟨c, p⟩
    · exact .ok _
    · refine .ite (.ok _) ?_
      split
      · exact ih _ _ _
      · exact .error rfl

theorem einval_oneGroup (st : GroupState) (p : CStr) : Einval (oneGroup st p) :=
  .bind (einval_groupDigits _ _ _ _) fun _ => .ite (.error rfl) <| .ite (.error rfl) (.ok _)

theorem einval_groupTurn (st : GroupState) : Einval (groupTurn st) := by
  unfold groupTurn
  split
  · exact .ite (.ite (.error rfl) (.ok _)) <| .ite (.ite (.error rfl) (einval_oneGroup _ _)) (einval_oneGroup _ _)
  · exact .ok _

theorem einval_groupLoop (n : ℕ) (st : GroupState) : Einval (groupLoop n st) := by
  induction n generalizing st with
  | zero => exact .ok _
  | succ n ih => exact .ite (.bind (einval_groupTurn st) ih) (.ok _)

theorem einval_expandGroups (st : GroupState) : Einval (expandGroups st) := by
  unfold expandGroups
  dsimp only
  split
  · exact .ite (.error rfl) (.ok _)
  · exact .ite (.error rfl) (.ok _)

theorem einval_tsfValidateV6Cidr (addr : In6Addr) (pfx : UInt8) : Einval (tsfValidateV6Cidr addr pfx) :=
  .ite (.ok _) <| .ite (.error rfl) <| .ite (.ok _) (.error rfl)

theorem einval_tsfParseIpv6Addr (str : CStr) : Einval (tsfParseIpv6Addr str) := by
  refine .ite (.error rfl) <| .bind (einval_groupLoop _ _) fun st => .bind (einval_expandGroups st) fun groups => ?_
  split
  · exact .bind (einval_tsfParsePrefixLength _ _) fun _ => .bind (einval_tsfValidateV6Cidr _ _) fun _ => .ok _
  · exact .ok _

theorem einval_tsfParseAddr (value : CStr) (f : TcpstatsFilter) (bit : UInt32) :
    Einval (tsfParseAddr value f bit) :=
  .ite (.error rfl) <| .ite (.bind (einval_tsfParseIpv6Addr value) fun _ => .ite (.ok _) (.ok _))
    (.bind (einval_tsfParseIpv4Addr value) fun _ => .ite (.ok _) (.ok _))

/-! ### Directives and strings -/

theorem einval_tsfParseDirective (token : CStr) (f : TcpstatsFilter) :
    Einval (tsfParseDirective token f) := by
  refine .ite (.error rfl) ?_
  split
  · exact .ite (.ok _) <| .ite (.ok _) (.error rfl)
  · exact .ite (einval_tsfParseExcludeList _ _) <| .ite (einval_tsfParseFormat _ _) <|
      .ite (einval_tsfParseFieldList _ _) <| .ite (.error rfl) <| .ite (.error rfl) <|
      .ite (einval_tsfParseIncludeStateList _ _) <| .ite (.bind (einval_tsfParsePortList _ _ _ _ _) fun _ => .ok _) <|
      .ite (einval_tsfParseAddr _ _ _) <| .ite (.bind (einval_tsfParsePortList _ _ _ _ _) fun _ => .ok _) <|
      .ite (einval_tsfParseAddr _ _ _) (.error rfl)

theorem einval_parseDirectives (tokens : List CStr) (f : TcpstatsFilter) :
    Einval (parseDirectives tokens f) := by
  induction tokens generalizing f with
  | nil => exact .ok f
  | cons token tokens ih => exact .bind (einval_tsfParseDirective token f) ih

theorem einval_tsfValidateFilter (f : TcpstatsFilter) : Einval (tsfValidateFilter f) :=
  .ite (.error rfl) <| .ite (.error rfl) <| .ite (.error rfl) <| .ite (.error rfl) <| .ite (.error rfl) (.ok _)

/-- The string does not fit the buffer. -/
def TooLong (input : CStr) : Prop := input.head? ≠ some 0 ∧ TSF_PARSE_MAXLEN - 1 < input.length

theorem einval_tsfParseFilterString {input : CStr} (h : ¬ TooLong input) :
    Einval (tsfParseFilterString input) := by
  unfold tsfParseFilterString
  split_ifs with hempty hlong
  · exact .ok _
  · exact absurd ⟨fun hhead => hempty (.inr hhead), hlong⟩ h
  · split
    · exact .error rfl
    · exact .ite (.error rfl) <| .ite (.ok _) <| .bind (einval_parseDirectives _ _) fun _ =>
        .bind (einval_tsfValidateFilter _) fun _ => .ok _

/-- What the caller of the parser sees: a filter, or a code. -/
def returned (input : CStr) : Except Errno TcpstatsFilter :=
  (tsfParseFilterString input).mapError ParseError.errno

theorem returned_eq_ok_iff {input : CStr} {f : TcpstatsFilter} :
    returned input = .ok f ↔ tsfParseFilterString input = .ok f := by
  unfold returned
  rcases tsfParseFilterString input with e | g
  · simp [Except.mapError]
  · simp [Except.mapError]

theorem returned_tooLong {input : CStr} (h : TooLong input) : returned input = .error .ENAMETOOLONG := by
  obtain ⟨hhead, hlong⟩ := h
  have hne : input ≠ [] := by
    rintro rfl
    cases hlong
  unfold returned tsfParseFilterString
  rw [if_neg (not_or.mpr ⟨hne, hhead⟩), if_pos hlong]
  rfl

theorem returned_error {input : CStr} (h : ¬ TooLong input) {e : Errno} (he : returned input = .error e) :
    e = .EINVAL := by
  have heinval := einval_tsfParseFilterString h
  unfold returned at he
  rcases hparse : tsfParseFilterString input with e' | f
  · rw [hparse] at he
    exact Except.error.inj he ▸ heinval e' hparse
  · rw [hparse] at he
    cases he

/-- Two strings that are not too long have the same result if they are accepted with the same filters. -/
theorem returned_eq_iff {s t : CStr} (hs : ¬ TooLong s) (ht : ¬ TooLong t) :
    returned s = returned t ↔ ∀ f, tsfParseFilterString s = .ok f ↔ tsfParseFilterString t = .ok f := by
  simp only [← returned_eq_ok_iff]
  constructor
  · intro h f
    rw [h]
  · intro h
    rcases hrs : returned s with e | f
    · rcases hrt : returned t with e' | g
      · rw [returned_error hs hrs, returned_error ht hrt]
      · rw [(h g).mpr hrt] at hrs
        cases hrs
    · exact ((h f).mp hrs).symm

end TcpStats
