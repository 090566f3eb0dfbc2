import TcpStats.Filter.Syntax
import TcpStats.Filter.Errno

/-!
# Which filter strings are accepted

A string is accepted if its bytes will do (`Lexical`), it has at most sixteen words, each of them
reads as a directive, no two of the directives are incompatible, and the families they ask for
agree (`FamiliesAgree`). The filter is then what the directives make of the default one, in
their order (`meaning`): `tsfParseFilterString_iff`.
-/

namespace TcpStats

open CString Fallible

/-! ### Runs of directives -/

theorem stateMask_apply (f : TcpstatsFilter) {d : Directive} (h : d.key ≠ .includeState) :
    (f.apply d).stateMask = f.stateMask &&& d.kept := by
  have hall : f.stateMask = f.stateMask &&& 0xFFFF := (UInt16.and_neg_one (a := f.stateMask)).symm
  cases d with
  | ipv4Only => exact hall
  | ipv6Only => exact hall
  | exclude kept => rfl
  | includeState mask => exact absurd rfl h
  | format format => exact hall
  | fields mask => exact hall
  | ports e slots => cases e <;> exact hall
  | addrV4 e addr mask => cases e <;> exact hall
  | addrV6 e addr pfx => cases e <;> exact hall

/-- Behind a directive the tests of another pass if they pass before it and the two are compatible. -/
theorem admits_apply {f : TcpstatsFilter} {d d' : Directive} :
    d'.Admits (f.apply d) ↔ d'.Admits f ∧ d.Compatible d' := by
  have hguard : (f.apply d).has d'.key.guard = false ↔
      f.has d'.key.guard = false ∧ d.key.bit &&& d'.key.guard = 0 := by
    rw [has_apply, Bool.or_eq_false_iff, bne_eq_false_iff_eq]
  unfold Directive.Admits Directive.Compatible
  rw [hguard, and_and_and_comm]
  refine and_congr_right fun ⟨_, hbit⟩ => ?_
  rw [← forall_and]
  refine forall_congr' fun hall => ?_
  have hd : d.key ≠ .includeState := by
    intro hd
    rw [hd, hall] at hbit
    exact absurd hbit (by decide)
  rw [stateMask_apply f hd]
  exact UInt16.and_eq_neg_one_iff

/-- A run of directives is accepted if each word reads as one, each passes its tests on the filter that
the run starts from, and no two of them are incompatible. -/
theorem parseDirectives_iff {tokens : List CStr} {f f' : TcpstatsFilter} (hf : f.Formed) :
    parseDirectives tokens f = .ok f' ↔ ∃ ds, List.Forall₂ Reads tokens ds ∧ ds.Pairwise Directive.Compatible ∧
      (∀ d ∈ ds, d.Admits f) ∧ f' = ds.foldl TcpstatsFilter.apply f := by
  induction tokens generalizing f with
  | nil =>
    constructor
    · intro h
      exact ⟨[], .nil, .nil, by simp, (Except.ok.inj h).symm⟩
    · rintro ⟨ds, hreads, -, -, rfl⟩
      obtain rfl := List.forall₂_nil_left_iff.mp hreads
      rfl
  | cons token tokens ih =>
    constructor
    · intro h
      obtain ⟨g, hg, h⟩ := bind_eq_ok.mp h
      have hgf := (tsfParseDirective_effect hg).formed hf
      obtain ⟨d, hread, hadmits, rfl⟩ := (tsfParseDirective_iff hf).mp hg
      obtain ⟨ds, hreads, hpair, hall, rfl⟩ := (ih hgf).mp h
      have hall : ∀ d' ∈ ds, d'.Admits f ∧ d.Compatible d' := fun d' hd' => admits_apply.mp (hall d' hd')
      exact ⟨d :: ds, .cons hread hreads, .cons (fun d' hd' => (hall d' hd').2) hpair,
        List.forall_mem_cons.mpr ⟨hadmits, fun d' hd' => (hall d' hd').1⟩, rfl⟩
    · rintro ⟨ds, hreads, hpair, hall, rfl⟩
      obtain ⟨d, ds, hread, hrest, rfl⟩ := List.forall₂_cons_left_iff.mp hreads
      obtain ⟨hcompat, hpair⟩ := List.pairwise_cons.mp hpair
      obtain ⟨hadmits, hall⟩ := List.forall_mem_cons.mp hall
      have hg := (tsfParseDirective_iff hf).mpr ⟨d, hread, hadmits, rfl⟩
      refine bind_eq_ok.mpr ⟨_, hg, (ih ((tsfParseDirective_effect hg).formed hf)).mpr ?_⟩
      exact ⟨ds, hrest, hpair, fun d' hd' => admits_apply.mpr ⟨hall d' hd', hcompat d' hd'⟩, rfl⟩

/-- What a string of directives means. -/
def meaning (ds : List Directive) : TcpstatsFilter := ds.foldl TcpstatsFilter.apply .default

/-- The default filter passes all tests. -/
theorem admits_default (d : Directive) : d.Admits .default :=
  ⟨by simp [TcpstatsFilter.has, TcpstatsFilter.default], fun _ => rfl⟩

theorem parseDirectives_default_iff {tokens : List CStr} {f : TcpstatsFilter} :
    parseDirectives tokens .default = .ok f ↔
      ∃ ds, List.Forall₂ Reads tokens ds ∧ ds.Pairwise Directive.Compatible ∧ f = meaning ds := by
  rw [parseDirectives_iff formed_default]
  refine exists_congr fun ds => and_congr_right fun _ => and_congr_right fun _ => ?_
  rw [and_iff_right fun d _ => admits_default d, meaning]

/-! ### What stands in a filter -/

/-- A flag is set if one of the directives sets it. -/
theorem has_meaning (ds : List Directive) (b : UInt32) :
    (meaning ds).has b = true ↔ ∃ d ∈ ds, d.key.bit &&& b ≠ 0 := by
  have hrun : ∀ f : TcpstatsFilter, (ds.foldl TcpstatsFilter.apply f).has b = true ↔
      f.has b = true ∨ ∃ d ∈ ds, d.key.bit &&& b ≠ 0 := by
    induction ds with
    | nil => simp
    | cons d ds ih =>
      intro f
      rw [List.foldl_cons, ih, has_apply, Bool.or_eq_true, List.exists_mem_cons_iff, or_assoc, bne_iff_ne]
  rw [meaning, hrun]
  simp [TcpstatsFilter.has, TcpstatsFilter.default]

/-- A part that no directive writes. -/
theorem part_foldl_of_ne {ds : List Directive} {p : Part} (h : ∀ d ∈ ds, d.key.part ≠ some p)
    (f : TcpstatsFilter) :
    (ds.foldl TcpstatsFilter.apply f).part p = f.part p := by
  induction ds generalizing f with
  | nil => rfl
  | cons d ds ih =>
    obtain ⟨hd, hds⟩ := List.forall_mem_cons.mp h
    rw [List.foldl_cons, ih hds, part_apply_of_ne f hd]

/-- A part that one directive writes. -/
theorem part_foldl_of_mem {ds : List Directive} {d : Directive} {p : Part}
    (h : ds.Pairwise fun d d' => d.key.part = some p → d'.key.part ≠ some p) (hd : d ∈ ds) (hp : d.key.part = some p)
    (f : TcpstatsFilter) : (ds.foldl TcpstatsFilter.apply f).part p = (f.apply d).part p := by
  induction ds generalizing f with
  | nil => cases hd
  | cons d' ds ih =>
    obtain ⟨hhead, htail⟩ := List.pairwise_cons.mp h
    rw [List.foldl_cons]
    rcases List.mem_cons.mp hd with rfl | hd
    · exact part_foldl_of_ne (fun d' hd' => hhead d' hd' hp) _
    · rw [ih htail hd]
      exact part_apply_congr (part_apply_of_ne f fun hp' => hhead d hd hp' hp)

/-- The directives that write an address. -/
theorem key_eq_addr_iff {d : Directive} {e : Endpoint} :
    d.key = .addr e ↔ (∃ addr mask, d = .addrV4 e addr mask) ∨ ∃ addr pfx, d = .addrV6 e addr pfx := by
  cases d <;> simp [Directive.key]

theorem Key.part_eq_addr_iff {key : Key} {e : Endpoint} : key.part = some (.addr e) ↔ key = .addr e := by
  cases key <;> simp [Key.part]

/-- An address is written once. -/
theorem Directive.Compatible.addr_ne {d d' : Directive} (h : d.Compatible d') {e : Endpoint}
    (hd : d.key = .addr e) : d'.key ≠ .addr e := by
  intro hd'
  have hclash := h.1
  rw [hd, hd'] at hclash
  cases e
  · exact absurd hclash (by decide)
  · exact absurd hclash (by decide)

/-- The address of an endpoint is the one its directive gives. -/
theorem part_addr_meaning {ds : List Directive} (h : ds.Pairwise Directive.Compatible) {d : Directive}
    (hd : d ∈ ds) {e : Endpoint} (hkey : d.key = .addr e) :
    (meaning ds).part (.addr e) = (TcpstatsFilter.default.apply d).part (.addr e) := by
  refine part_foldl_of_mem (h.imp fun hcompat => ?_) hd (Key.part_eq_addr_iff.mpr hkey) _
  rw [Key.part_eq_addr_iff, Ne, Key.part_eq_addr_iff]
  exact hcompat.addr_ne

theorem addrV4_meaning {ds : List Directive} (h : ds.Pairwise Directive.Compatible) {e : Endpoint}
    {addr mask : InAddr} (hd : .addrV4 e addr mask ∈ ds) :
    (meaning ds).addrV4 e = addr ∧ (meaning ds).maskV4 e = mask ∧ (meaning ds).addrV6 e = .unspecified ∧
      (meaning ds).prefixV6 e = 0 := by
  have hpart := part_addr_meaning h hd rfl
  have hdefault : (TcpstatsFilter.default.apply (.addrV4 e addr mask)).part (.addr e) =
      (addr, mask, .unspecified, 0) := by
    cases e <;> rfl
  simpa only [TcpstatsFilter.part, Prod.mk.injEq] using hpart.trans hdefault

theorem addrV6_meaning {ds : List Directive} (h : ds.Pairwise Directive.Compatible) {e : Endpoint}
    {addr : In6Addr} {pfx : UInt8} (hd : .addrV6 e addr pfx ∈ ds) :
    (meaning ds).addrV4 e = INADDR_ANY ∧ (meaning ds).maskV4 e = INADDR_ANY ∧ (meaning ds).addrV6 e = addr ∧
      (meaning ds).prefixV6 e = pfx := by
  have hpart := part_addr_meaning h hd rfl
  have hdefault : (TcpstatsFilter.default.apply (.addrV6 e addr pfx)).part (.addr e) =
      (INADDR_ANY, INADDR_ANY, addr, pfx) := by
    cases e <;> rfl
  simpa only [TcpstatsFilter.part, Prod.mk.injEq] using hpart.trans hdefault

/-! ### Families -/

/-- The flag of a key is set if a directive of the key is there. -/
theorem has_bit_meaning {ds : List Directive} {key : Key} (h : key.bit ≠ 0) :
    (meaning ds).has key.bit = true ↔ ∃ d ∈ ds, d.key = key := by
  simp only [has_meaning, Key.bit_and_iff h]

theorem exists_ipv4Only_iff {ds : List Directive} : (∃ d ∈ ds, d.key = .ipv4Only) ↔ .ipv4Only ∈ ds := by
  constructor
  · rintro ⟨d, hd, hkey⟩
    cases d <;> first | exact hd | cases hkey
  · exact fun hd => ⟨_, hd, rfl⟩

theorem exists_ipv6Only_iff {ds : List Directive} : (∃ d ∈ ds, d.key = .ipv6Only) ↔ .ipv6Only ∈ ds := by
  constructor
  · rintro ⟨d, hd, hkey⟩
    cases d <;> first | exact hd | cases hkey
  · exact fun hd => ⟨_, hd, rfl⟩

/-- The families that the directives ask for. A network of zeros is of no family. -/
structure FamiliesAgree (ds : List Directive) : Prop where
  onlyOne : ¬ (.ipv4Only ∈ ds ∧ .ipv6Only ∈ ds)
  v6Only : .ipv6Only ∈ ds → ∀ e addr mask, .addrV4 e addr mask ∈ ds → addr = INADDR_ANY
  v4Only : .ipv4Only ∈ ds → ∀ e addr pfx, .addrV6 e addr pfx ∈ ds → addr = .unspecified

/-- The check across the directives, for both endpoints at once. -/
theorem tsfValidateFilter_iff {f : TcpstatsFilter} :
    tsfValidateFilter f = .ok () ↔ ¬ (f.has TSF_IPV4_ONLY = true ∧ f.has TSF_IPV6_ONLY = true) ∧
      ∀ e, f.has (Key.addr e).bit = true → (f.has TSF_IPV6_ONLY = true → f.addrV4 e = INADDR_ANY) ∧
        (f.has TSF_IPV4_ONLY = true → f.addrV6 e = .unspecified) := by
  unfold tsfValidateFilter
  simp only [ite_error_eq_ok, IN6_IS_ADDR_UNSPECIFIED_iff]
  constructor
  · rintro ⟨honly, hl4, hr4, hl6, hr6, -⟩
    refine ⟨honly, fun e hset => ⟨fun h6 => ?_, fun h4 => ?_⟩⟩
    · cases e
      · exact not_not.mp fun hne => hl4 ⟨hset, hne, h6⟩
      · exact not_not.mp fun hne => hr4 ⟨hset, hne, h6⟩
    · cases e
      · exact not_not.mp fun hne => hl6 ⟨hset, hne, h4⟩
      · exact not_not.mp fun hne => hr6 ⟨hset, hne, h4⟩
  · rintro ⟨honly, haddr⟩
    refine ⟨honly, ?_, ?_, ?_, ?_, trivial⟩
    · rintro ⟨hset, hne, h6⟩
      exact hne ((haddr .localEnd hset).1 h6)
    · rintro ⟨hset, hne, h6⟩
      exact hne ((haddr .remoteEnd hset).1 h6)
    · rintro ⟨hset, hne, h4⟩
      exact hne ((haddr .localEnd hset).2 h4)
    · rintro ⟨hset, hne, h4⟩
      exact hne ((haddr .remoteEnd hset).2 h4)

theorem tsfValidateFilter_meaning {ds : List Directive} (h : ds.Pairwise Directive.Compatible) :
    tsfValidateFilter (meaning ds) = .ok () ↔ FamiliesAgree ds := by
  have h4only : (meaning ds).has TSF_IPV4_ONLY = true ↔ .ipv4Only ∈ ds := by
    rw [show TSF_IPV4_ONLY = Key.ipv4Only.bit from rfl, has_bit_meaning (by decide), exists_ipv4Only_iff]
  have h6only : (meaning ds).has TSF_IPV6_ONLY = true ↔ .ipv6Only ∈ ds := by
    rw [show TSF_IPV6_ONLY = Key.ipv6Only.bit from rfl, has_bit_meaning (by decide), exists_ipv6Only_iff]
  have haddr : ∀ e, (meaning ds).has (Key.addr e).bit = true ↔ ∃ d ∈ ds, d.key = .addr e := by
    intro e
    cases e
    · exact has_bit_meaning (by decide)
    · exact has_bit_meaning (by decide)
  rw [tsfValidateFilter_iff, h4only, h6only]
  simp only [haddr]
  constructor
  · rintro ⟨honly, hall⟩
    refine ⟨honly, fun h6 e addr mask hd => ?_, fun h4 e addr pfx hd => ?_⟩
    · rw [← (addrV4_meaning h hd).1]
      exact (hall e ⟨_, hd, rfl⟩).1 h6
    · rw [← (addrV6_meaning h hd).2.2.1]
      exact (hall e ⟨_, hd, rfl⟩).2 h4
  · rintro ⟨honly, hv6, hv4⟩
    refine ⟨honly, ?_⟩
    rintro e ⟨d, hd, hkey⟩
    rcases key_eq_addr_iff.mp hkey with ⟨addr, mask, rfl⟩ | ⟨addr, pfx, rfl⟩
    · obtain ⟨haddr4, -, haddr6, -⟩ := addrV4_meaning h hd
      rw [haddr4, haddr6]
      exact ⟨fun h6 => hv6 h6 e addr mask hd, fun _ => rfl⟩
    · obtain ⟨haddr4, -, haddr6, -⟩ := addrV6_meaning h hd
      rw [haddr4, haddr6]
      exact ⟨fun _ => rfl, fun h4 => hv4 h4 e addr pfx hd⟩

/-! ### Tokens and directives -/

/-- A token is read as one of the directives. -/
theorem exists_read {tokens : List CStr} {ds : List Directive} (h : List.Forall₂ Reads tokens ds)
    {token : CStr} (htoken : token ∈ tokens) : ∃ d ∈ ds, Reads token d := by
  induction h with
  | nil => cases htoken
  | cons hread _ ih =>
    rcases List.mem_cons.mp htoken with rfl | htoken
    · exact ⟨_, List.mem_cons_self, hread⟩
    · obtain ⟨d, hd, hread⟩ := ih htoken
      exact ⟨d, List.mem_cons_of_mem _ hd, hread⟩

/-- A directive is read from one of the tokens. -/
theorem exists_token {tokens : List CStr} {ds : List Directive} (h : List.Forall₂ Reads tokens ds)
    {d : Directive} (hd : d ∈ ds) : ∃ token ∈ tokens, Reads token d := by
  induction h with
  | nil => cases hd
  | cons hread _ ih =>
    rcases List.mem_cons.mp hd with rfl | hd
    · exact ⟨_, List.mem_cons_self, hread⟩
    · obtain ⟨token, htoken, hread⟩ := ih hd
      exact ⟨token, List.mem_cons_of_mem _ htoken, hread⟩

/-- A key occurs among the tokens if a directive of that key is read. -/
theorem occurs_iff {tokens : List CStr} {ds : List Directive} (h : List.Forall₂ Reads tokens ds)
    {key : Key} :
    Occurs key.name tokens ↔ ∃ d ∈ ds, d.key = key := by
  constructor
  · rintro ⟨token, htoken, hkey⟩
    obtain ⟨d, hd, hread⟩ := exists_read h htoken
    exact ⟨d, hd, Key.name_inj (hread.key.symm.trans hkey)⟩
  · rintro ⟨d, hd, rfl⟩
    obtain ⟨token, htoken, hread⟩ := exists_token h hd
    exact ⟨token, htoken, hread.key⟩

/-! ### Strings -/

/-- The bytes of the string will do: there are not too many and all can be printed, or the first is
the terminator. -/
def Lexical (input : CStr) : Prop :=
  input.head? = some 0 ∨ input.length ≤ TSF_PARSE_MAXLEN - 1 ∧ ∀ c ∈ input, nonPrintable c = false

/-- The string is a text of the directives: its words say them, one each. -/
structure TextOf (input : CStr) (ds : List Directive) : Prop where
  lexical : Lexical input
  few : ds.length ≤ TSF_PARSE_MAXDIRECTIVES
  reads : List.Forall₂ Reads (directives input) ds

/-- The strings that are accepted, and their filters. -/
theorem tsfParseFilterString_iff {input : CStr} {f : TcpstatsFilter} :
    tsfParseFilterString input = .ok f ↔
      ∃ ds, TextOf input ds ∧ ds.Pairwise Directive.Compatible ∧ FamiliesAgree ds ∧ f = meaning ds := by
  have hstring : tsfParseFilterString input = .ok f ↔ Lexical input ∧
      (directives input).length ≤ TSF_PARSE_MAXDIRECTIVES ∧ parseDirectives (directives input) .default = .ok f ∧
        tsfValidateFilter f = .ok () := by
    by_cases hhead : input.head? = some 0
    · have hnone : directives input = [] := by
        obtain ⟨cs, rfl⟩ := List.head?_eq_some_iff.mp hhead
        simp [directives, ofArray, fields]
      have hdefault : tsfValidateFilter .default = .ok () := by decide
      unfold tsfParseFilterString
      rw [if_pos (.inr hhead), hnone]
      constructor
      · intro h
        obtain rfl := Except.ok.inj h
        exact ⟨.inl hhead, Nat.zero_le _, rfl, hdefault⟩
      · rintro ⟨-, -, h, -⟩
        exact h
    · rw [tsfParseFilterString_ok_iff hhead, Lexical, or_iff_right hhead, and_assoc, List.find?_eq_none]
      simp only [Bool.not_eq_true]
  rw [hstring, parseDirectives_default_iff]
  constructor
  · rintro ⟨hlex, hfew, ⟨ds, hreads, hpair, rfl⟩, hvalid⟩
    exact ⟨ds, ⟨hlex, hreads.length_eq ▸ hfew, hreads⟩, hpair, (tsfValidateFilter_meaning hpair).mp hvalid, rfl⟩
  · rintro ⟨ds, ⟨hlex, hfew, hreads⟩, hpair, hagree, rfl⟩
    exact ⟨hlex, hreads.length_eq ▸ hfew, ⟨ds, hreads, hpair, rfl⟩, (tsfValidateFilter_meaning hpair).mpr hagree⟩

/-- A string that is not accepted is refused. -/
theorem refused_iff {input : CStr} :
    (∃ e, tsfParseFilterString input = .error e) ↔
      ¬ ∃ ds, TextOf input ds ∧ ds.Pairwise Directive.Compatible ∧ FamiliesAgree ds := by
  have haccepted : (∃ ds, TextOf input ds ∧ ds.Pairwise Directive.Compatible ∧ FamiliesAgree ds) ↔
      ∃ f, tsfParseFilterString input = .ok f := by
    simp only [tsfParseFilterString_iff]
    constructor
    · rintro ⟨ds, htext, hpair, hagree⟩
      exact ⟨_, ds, htext, hpair, hagree, rfl⟩
    · rintro ⟨f, ds, htext, hpair, hagree, -⟩
      exact ⟨ds, htext, hpair, hagree⟩
  rw [haccepted]
  rcases tsfParseFilterString input with e | f
  · simp
  · simp

end TcpStats
