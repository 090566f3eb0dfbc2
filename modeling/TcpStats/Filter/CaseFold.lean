import TcpStats.Filter.Errno
import TcpStats.Lib.Lockstep

/-!
# Case

The parser brings keys, names and hexadecimal digits to lower case one by one, each where it
compares them. Here it runs on a string and on the same string in lower case, side by side: each
of its functions ends in the same way on both (`Folds`), and so does the whole
(`tsfParseFilterString_lower`). Only the texts of the errors can differ.
-/

namespace TcpStats

open CString Lockstep

/-- The errors have one code. -/
def SameCode (e e' : ParseError) : Prop := e.errno = e'.errno

/-- Two runs of the parser with related results, or failures of one code. -/
abbrev Folds {α β : Type} (r : α → β → Prop) (x : Except ParseError α) (y : Except ParseError β) : Prop :=
  Alike SameCode r x y

theorem folds_refl {α : Type} (x : Except ParseError α) : Folds Eq x x :=
  .refl (q := SameCode) (fun _ => rfl) (fun _ => rfl) x

/-! ### Bytes -/

theorem not_isLetter_of_isDigit {c : UInt8} (h : isDigit c = true) : ¬ IsLetter c := by
  have hall : ∀ c, isDigit c = true → ¬ IsLetter c := forall_byte (by decide +kernel)
  exact hall c h

theorem isDigit_toLower (c : UInt8) : isDigit (toLower c) = isDigit c := by
  revert c
  exact forall_byte (by decide +kernel)

theorem isBlank_toLower (c : UInt8) : isBlank (toLower c) = isBlank c := by
  revert c
  exact forall_byte (by decide +kernel)

theorem nonPrintable_toLower (c : UInt8) : nonPrintable (toLower c) = nonPrintable c := by
  revert c
  exact forall_byte (by decide +kernel)

theorem hexVal_toLower (c : UInt8) : hexVal (toLower c) = hexVal c := by
  rw [hexVal, toLower_toLower, hexVal]

theorem comma_toLower (c : UInt8) : (toLower c == chr ',') = (c == chr ',') :=
  Bool.eq_iff_iff.mpr (by rw [beq_iff_eq, beq_iff_eq, toLower_eq_iff (by decide)])

/-! ### Numbers and lists -/

theorem digits_lower {bad bad' : UInt8 → ParseError} (hbad : ∀ c c', SameCode (bad c) (bad' c'))
    (str : CStr) (val : ℕ) :
    Folds Eq (digits bad (lower str) val) (digits bad' str val) := by
  induction str generalizing val with
  | nil => exact .ok rfl
  | cons c cs ih =>
    rw [lower_cons, digits, digits]
    by_cases hc : isDigit c = true
    · rw [toLower_of_not_isLetter (not_isLetter_of_isDigit hc)]
      exact .ite Iff.rfl (ih _) (.error (hbad _ _))
    · rw [isDigit_toLower, if_neg hc, if_neg hc]
      exact .error (hbad _ _)

theorem tsfParsePortNumber_lower (str : CStr) :
    Folds Eq (tsfParsePortNumber (lower str)) (tsfParsePortNumber str) := by
  have hzero := head?_lower_iff (d := chr '0') (by decide) str
  unfold tsfParsePortNumber
  dsimp only
  rw [strnlen_lower, lower_take]
  refine .ite lower_eq_nil_iff (.error rfl) <| .ite (and_congr_right' hzero) (.error rfl) <|
    .ite Iff.rfl (.error rfl) <| .bind_eq (digits_lower (by intro _ _; rfl) _ _) fun val => ?_
  exact .ite Iff.rfl (.error rfl) <| .ite Iff.rfl (.error rfl) (.ok rfl)

theorem portLoop_lower (maxports : ℕ) (toks : List CStr) (count : ℕ) (ports : Vector UInt16 8) :
    Folds Eq (portLoop maxports (toks.map lower) count ports) (portLoop maxports toks count ports) := by
  induction toks generalizing count ports with
  | nil => exact .ok rfl
  | cons tok toks ih =>
    exact .ite Iff.rfl (.error rfl) <| .bind_eq (tsfParsePortNumber_lower tok) fun port =>
      .ite Iff.rfl (.error rfl) (ih _ _)

/-- The items of a value. -/
theorem items_lower (value : CStr) :
    fields (· == chr ',') (lower value) = (fields (· == chr ',') value).map lower :=
  fields_lower comma_toLower value

theorem tsfParsePortList_lower (value : CStr) (ports : Vector UInt16 8) (maxports : ℕ)
    (flags bit : UInt32) :
    Folds Eq (tsfParsePortList (lower value) ports maxports flags bit)
      (tsfParsePortList value ports maxports flags bit) := by
  unfold tsfParsePortList
  rw [items_lower]
  exact .ite Iff.rfl (.error rfl) <| .bind_eq (portLoop_lower _ _ _ _) fun r => .ite Iff.rfl (.error rfl) (.ok rfl)

/-- The buffer for the name takes as many bytes in either case. -/
theorem tsfLookupState_lower (name : CStr) :
    Folds Eq (tsfLookupState (lower name)) (tsfLookupState name) := by
  unfold tsfLookupState
  rw [lower_take, lower_lower]
  rcases tsfStateNames.lookup (lower (name.take 31)) with _ | state
  · exact .error rfl
  · exact .ok rfl

theorem excludeLoop_lower (toks : List CStr) (seen mask : UInt16) :
    Folds Eq (excludeLoop (toks.map lower) seen mask) (excludeLoop toks seen mask) := by
  induction toks generalizing seen mask with
  | nil => exact .ok rfl
  | cons tok toks ih =>
    exact .bind_eq (tsfLookupState_lower tok) fun state => .ite Iff.rfl (.error rfl) (ih _ _)

theorem tsfParseExcludeList_lower (value : CStr) (f : TcpstatsFilter) :
    Folds Eq (tsfParseExcludeList (lower value) f) (tsfParseExcludeList value f) := by
  unfold tsfParseExcludeList
  rw [items_lower]
  exact .ite Iff.rfl (.error rfl) <| .bind_eq (excludeLoop_lower _ _ _) fun mask => .ok rfl

theorem includeLoop_lower (toks : List CStr) (seen mask : UInt16) :
    Folds Eq (includeLoop (toks.map lower) seen mask) (includeLoop toks seen mask) := by
  induction toks generalizing seen mask with
  | nil => exact .ok rfl
  | cons tok toks ih =>
    exact .bind_eq (tsfLookupState_lower tok) fun state => .ite Iff.rfl (.error rfl) (ih _ _)

theorem tsfParseIncludeStateList_lower (value : CStr) (f : TcpstatsFilter) :
    Folds Eq (tsfParseIncludeStateList (lower value) f) (tsfParseIncludeStateList value f) := by
  unfold tsfParseIncludeStateList
  rw [items_lower]
  exact .ite Iff.rfl (.error rfl) <| .ite Iff.rfl (.error rfl) <| .bind_eq (includeLoop_lower _ _ _) fun mask =>
    .ite Iff.rfl (.error rfl) (.ok rfl)

theorem tsfParseFormat_lower (value : CStr) (f : TcpstatsFilter) :
    Folds Eq (tsfParseFormat (lower value) f) (tsfParseFormat value f) := by
  unfold tsfParseFormat
  rw [lower_lower]
  exact .ite Iff.rfl (.ok rfl) <| .ite Iff.rfl (.ok rfl) (.error rfl)

theorem fieldLoop_lower (toks : List CStr) (mask : UInt32) :
    Folds Eq (fieldLoop (toks.map lower) mask) (fieldLoop toks mask) := by
  induction toks generalizing mask with
  | nil => exact .ok rfl
  | cons tok toks ih =>
    rw [List.map_cons, fieldLoop, fieldLoop, lower_lower]
    rcases tsfFieldGroups.lookup (lower tok) with _ | group
    · exact .error rfl
    · exact ih _

theorem tsfParseFieldList_lower (value : CStr) (f : TcpstatsFilter) :
    Folds Eq (tsfParseFieldList (lower value) f) (tsfParseFieldList value f) := by
  unfold tsfParseFieldList
  rw [items_lower]
  exact .bind_eq (fieldLoop_lower _ _) fun mask => .ite Iff.rfl (.error rfl) (.ok rfl)

/-! ### Addresses -/

theorem tsfParsePrefixLength_lower (str : CStr) (maxPfx : ℕ) :
    Folds Eq (tsfParsePrefixLength (lower str) maxPfx) (tsfParsePrefixLength str maxPfx) := by
  have hzero := head?_lower_iff (d := chr '0') (by decide) str
  unfold tsfParsePrefixLength
  dsimp only
  rw [strnlen_lower, lower_take]
  refine .ite lower_eq_nil_iff (.error rfl) <| .ite (and_congr_right' hzero) (.error rfl) <|
    .bind_eq (digits_lower (by intro _ _; rfl) _ _) fun val => ?_
  exact .ite Iff.rfl (.error rfl) (.ok rfl)

/-- The rest of the string that a loop over digits leaves, in lower case. -/
def lowerRest (r : ℕ × ℕ × CStr) : ℕ × ℕ × CStr := (r.1, r.2.1, lower r.2.2)

theorem octetDigits_lower (n : ℕ) (p : CStr) (val seen : ℕ) :
    octetDigits n (lower p) val seen = lowerRest (octetDigits n p val seen) := by
  induction n generalizing p val seen with
  | zero => rfl
  | succ n ih =>
    rcases p with _ | ⟨c, p⟩
    · rfl
    · rw [lower_cons, octetDigits, octetDigits]
      by_cases hc : isDigit c = true
      · rw [toLower_of_not_isLetter (not_isLetter_of_isDigit hc), if_pos hc, if_pos hc]
        exact ih _ _ _
      · rw [isDigit_toLower, if_neg hc, if_neg hc]
        rfl

theorem parseOctets_lower (n : ℕ) (p : CStr) (octets : List ℕ) :
    Folds (fun r r' => r = (r'.1, lower r'.2)) (parseOctets n (lower p) octets) (parseOctets n p octets) := by
  induction n generalizing p octets with
  | zero => exact .ok rfl
  | succ n ih =>
    have hzero := head?_lower_iff (d := chr '0') (by decide) p
    rw [parseOctets, parseOctets, octetDigits_lower]
    rcases octetDigits 4 p 0 0 with ⟨val, ndigits, rest⟩
    have hdot := head?_lower_iff (d := chr '.') (by decide) rest
    have htail : (lower rest).tail = lower rest.tail := List.map_tail.symm
    refine .ite Iff.rfl (.error rfl) <| .ite (and_congr_right' hzero) (.error rfl) <|
      .ite Iff.rfl (.error rfl) <| .ite Iff.rfl (ih _ _) <| .ite hdot ?_ (.error rfl)
    have hrest := ih rest.tail (octets ++ [val])
    rw [← htail] at hrest
    exact hrest

theorem v4Prefix_lower (str : CStr) : Folds Eq (v4Prefix (lower str)) (v4Prefix str) := by
  unfold v4Prefix
  rw [after_lower (by decide), before_lower (by decide), length_lower, strnlen_lower]
  rcases after (chr '/') str with _ | suffix
  · exact .ite Iff.rfl (.error rfl) (.ok rfl)
  · exact .ite Iff.rfl (.error rfl) (tsfParsePrefixLength_lower _ _)

theorem tsfParseIpv4Addr_lower (str : CStr) :
    Folds Eq (tsfParseIpv4Addr (lower str)) (tsfParseIpv4Addr str) := by
  rw [tsfParseIpv4Addr_eq, tsfParseIpv4Addr_eq, before_lower (by decide)]
  refine .bind_eq (v4Prefix_lower str) fun pfx => .bind_map (parseOctets_lower _ _ _) fun r => ?_
  exact .ite (not_congr lower_eq_nil_iff) (.error rfl) <| .ite Iff.rfl (.error rfl) (.ok rfl)

theorem groupDigits_lower (n : ℕ) (p : CStr) (val seen : ℕ) :
    Folds (fun r r' => r = lowerRest r') (groupDigits n (lower p) val seen) (groupDigits n p val seen) := by
  induction n generalizing p val seen with
  | zero => exact .ok rfl
  | succ n ih =>
    rcases p with _ | ⟨c, p⟩
    · exact .ok rfl
    · rw [lower_cons, groupDigits, groupDigits, hexVal_toLower]
      refine .ite (or_congr (toLower_eq_iff (by decide)) (toLower_eq_iff (by decide))) (.ok rfl) ?_
      rcases hexVal c with _ | d
      · exact .error rfl
      · exact ih _ _ _

/-- What is left to read, in lower case. -/
def GroupState.lower (st : GroupState) : GroupState := { st with p := CString.lower st.p }

theorem oneGroup_lower (st : GroupState) (p : CStr) :
    Folds (fun r r' => r = r'.lower) (oneGroup st.lower (lower p)) (oneGroup st p) := by
  refine .bind_map (groupDigits_lower _ _ _ _) fun r => ?_
  exact .ite Iff.rfl (.error rfl) <| .ite Iff.rfl (.error rfl) (.ok rfl)

theorem groupTurn_lower (st : GroupState) :
    Folds (fun r r' => r = r'.lower) (groupTurn st.lower) (groupTurn st) := by
  rcases st with ⟨_ | ⟨c, p⟩, groups, gap⟩
  · exact .ok rfl
  · have hcolon : toLower c = chr ':' ↔ c = chr ':' := toLower_eq_iff (by decide)
    have hnext := head?_lower_iff (d := chr ':') (by decide) p
    have htail : (lower p).tail = lower p.tail := List.map_tail.symm
    have hgroup := oneGroup_lower ⟨c :: p, groups, gap⟩
    have hgap := congrArg (GroupState.mk · groups (some groups.length)) htail
    exact .ite (and_congr hcolon hnext) (.ite Iff.rfl (.error rfl) (.ok hgap)) <|
      .ite hcolon (.ite Iff.rfl (.error rfl) (hgroup p)) (hgroup (c :: p))

theorem groupLoop_lower (n : ℕ) (st : GroupState) :
    Folds (fun r r' => r = r'.lower) (groupLoop n st.lower) (groupLoop n st) := by
  induction n generalizing st with
  | zero => exact .ok rfl
  | succ n ih =>
    exact .ite (and_congr_left' (not_congr lower_eq_nil_iff)) (.bind_map (groupTurn_lower st) ih) (.ok rfl)

/-- What is left to read does not count. -/
theorem expandGroups_lower (st : GroupState) : expandGroups st.lower = expandGroups st := rfl

theorem tsfParseIpv6Addr_lower (str : CStr) :
    Folds Eq (tsfParseIpv6Addr (lower str)) (tsfParseIpv6Addr str) := by
  unfold tsfParseIpv6Addr
  dsimp only
  rw [after_lower (by decide), before_lower (by decide), length_lower, Option.isSome_map]
  refine .ite Iff.rfl (.error rfl) <| .bind_map (groupLoop_lower 9 ⟨_, _, _⟩) fun st => ?_
  rw [expandGroups_lower]
  refine .bind_eq (folds_refl _) fun groups => ?_
  rcases after (chr '/') str with _ | suffix
  · exact .ok rfl
  · exact .bind_eq (tsfParsePrefixLength_lower _ _) fun pfx => folds_refl _

theorem tsfParseAddr_lower (value : CStr) (f : TcpstatsFilter) (bit : UInt32) :
    Folds Eq (tsfParseAddr (lower value) f bit) (tsfParseAddr value f bit) := by
  exact .ite Iff.rfl (.error rfl) <| .ite (mem_lower_iff (by decide))
    (.bind_eq (tsfParseIpv6Addr_lower value) fun r => folds_refl _)
    (.bind_eq (tsfParseIpv4Addr_lower value) fun r => folds_refl _)

/-! ### Directives and strings -/

theorem tsfParseDirective_lower (token : CStr) (f : TcpstatsFilter) :
    Folds Eq (tsfParseDirective (lower token) f) (tsfParseDirective token f) := by
  have ports : ∀ (value : CStr) (slots : Vector UInt16 8) (bit : UInt32)
      (set : Vector UInt16 8 × UInt32 → TcpstatsFilter),
      Folds Eq (tsfParsePortList (lower value) slots TSF_MAX_PORTS f.flags bit >>= fun r => .ok (set r))
        (tsfParsePortList value slots TSF_MAX_PORTS f.flags bit >>= fun r => .ok (set r)) := by
    intro value slots bit set
    exact .bind_eq (tsfParsePortList_lower _ _ _ _ _) fun r => .ok rfl
  unfold tsfParseDirective
  rw [after_lower (by decide), before_lower (by decide), lower_lower]
  rcases after (chr '=') token with _ | value
  · exact .ite Iff.rfl (.error rfl) <| .ite Iff.rfl (.ok rfl) <| .ite Iff.rfl (.ok rfl) (.error rfl)
  · have hempty : some (lower value) = some [] ↔ some value = some [] := by
      rw [Option.some_inj, Option.some_inj, lower_eq_nil_iff]
    exact .ite hempty (.error rfl) <| .ite Iff.rfl (tsfParseExcludeList_lower _ _) <|
      .ite Iff.rfl (tsfParseFormat_lower _ _) <| .ite Iff.rfl (tsfParseFieldList_lower _ _) <|
      .ite Iff.rfl (.error rfl) <| .ite Iff.rfl (.error rfl) <|
      .ite Iff.rfl (tsfParseIncludeStateList_lower _ _) <| .ite Iff.rfl (ports _ _ _ _) <|
      .ite Iff.rfl (tsfParseAddr_lower _ _ _) <| .ite Iff.rfl (ports _ _ _ _) <|
      .ite Iff.rfl (tsfParseAddr_lower _ _ _) (.error rfl)

theorem parseDirectives_lower (tokens : List CStr) (f : TcpstatsFilter) :
    Folds Eq (parseDirectives (tokens.map lower) f) (parseDirectives tokens f) := by
  induction tokens generalizing f with
  | nil => exact .ok rfl
  | cons token tokens ih =>
    exact .bind_eq (tsfParseDirective_lower token f) ih

theorem directives_lower (input : CStr) : directives (lower input) = (directives input).map lower := by
  rw [directives, ofArray_lower, fields_lower isBlank_toLower, directives]

theorem tsfParseFilterString_lower (input : CStr) :
    Folds Eq (tsfParseFilterString (lower input)) (tsfParseFilterString input) := by
  have hfirst := head?_lower_iff (d := 0) (by decide) input
  have hscan : (lower input).find? nonPrintable = (input.find? nonPrintable).map toLower := by
    rw [lower, List.find?_map, show nonPrintable ∘ toLower = nonPrintable from funext nonPrintable_toLower]
  unfold tsfParseFilterString
  rw [length_lower, hscan, directives_lower]
  refine .ite (or_congr lower_eq_nil_iff hfirst) (.ok rfl) <| .ite Iff.rfl (.error rfl) ?_
  rcases input.find? nonPrintable with _ | c
  · exact .ite (by rw [List.length_map]) (.error rfl) <| .ite List.map_eq_nil_iff (.ok rfl) <|
      .bind_eq (parseDirectives_lower _ _) fun f => folds_refl _
  · exact .error rfl

/-- A string and the same string in lower case have one result: the same filter or the same code. -/
theorem case_insensitive (s : CStr) : returned (lower s) = returned s :=
  (tsfParseFilterString_lower s).mapError_eq

end TcpStats
