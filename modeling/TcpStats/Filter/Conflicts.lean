import TcpStats.Filter.Addresses

/-!
# Strings that say too much or too little

A string may ask for one family and give an address of the other (`Conflict`), give a directive
twice, or give a list without items (`Improper`). The parser refuses the first unless all
addresses of the wrong family are zero, by which its check tells that there is none
(`conflict_caught_iff`), and the second but for `format`, `fields` and an empty `exclude`, where
nothing looks for it (`improper_refused_iff`).
-/

namespace TcpStats

open CString Fallible

/-! ### Families -/

/-- The string asks for one family, and gives an address in the syntax of the other. -/
def Conflict (input : CStr) : Prop :=
  Occurs Key.ipv6Only.name (directives input) ∧ (∃ e value, GivesAddr input e value ∧ chr ':' ∉ value) ∨
    Occurs Key.ipv4Only.name (directives input) ∧ ∃ e value, GivesAddr input e value ∧ chr ':' ∈ value

/-- A conflict that is missed: the string breaks no other rule, and every address of the family that it
does not ask for is of zeros. -/
structure ZeroConflict (input : CStr) : Prop where
  conflict : Conflict input
  sound : ∃ ds, TextOf input ds ∧ ds.Pairwise Directive.Compatible ∧ ¬ (.ipv4Only ∈ ds ∧ .ipv6Only ∈ ds)
  v4Zero : Occurs Key.ipv6Only.name (directives input) → ∀ e value, GivesAddr input e value → chr ':' ∉ value →
    ∃ mask, tsfParseIpv4Addr value = .ok (INADDR_ANY, mask)
  v6Zero : Occurs Key.ipv4Only.name (directives input) → ∀ e value, GivesAddr input e value → chr ':' ∈ value →
    ∃ pfx, tsfParseIpv6Addr value = .ok (.unspecified, pfx)

theorem occurs_ipv4Only_iff {input : CStr} {ds : List Directive} (h : TextOf input ds) :
    Occurs Key.ipv4Only.name (directives input) ↔ .ipv4Only ∈ ds :=
  (occurs_iff h.reads).trans exists_ipv4Only_iff

theorem occurs_ipv6Only_iff {input : CStr} {ds : List Directive} (h : TextOf input ds) :
    Occurs Key.ipv6Only.name (directives input) ↔ .ipv6Only ∈ ds :=
  (occurs_iff h.reads).trans exists_ipv6Only_iff

/-- The addresses of the directives are those that the string gives. -/
theorem addrV4_mem_iff {input : CStr} {ds : List Directive} (h : TextOf input ds) {e : Endpoint}
    {addr mask : InAddr} :
    .addrV4 e addr mask ∈ ds ↔
      ∃ value, GivesAddr input e value ∧ chr ':' ∉ value ∧ tsfParseIpv4Addr value = .ok (addr, mask) := by
  constructor
  · intro hd
    obtain ⟨token, htoken, hread⟩ := exists_token h.reads hd
    cases hread with
    | addrV4 _ hs hcolon hparse => exact ⟨_, ⟨token, htoken, hs.key_eq, hs.value_eq⟩, hcolon, hparse⟩
  · rintro ⟨value, hgives, hcolon, hparse⟩
    rcases hgives.directive h with ⟨-, addr', mask', hparse', hd⟩ | ⟨hcolon', -⟩
    · obtain ⟨rfl, rfl⟩ := Prod.mk.inj (Except.ok.inj (hparse.symm.trans hparse'))
      exact hd
    · exact absurd hcolon' hcolon

theorem addrV6_mem_iff {input : CStr} {ds : List Directive} (h : TextOf input ds) {e : Endpoint}
    {addr : In6Addr} {pfx : UInt8} :
    .addrV6 e addr pfx ∈ ds ↔
      ∃ value, GivesAddr input e value ∧ chr ':' ∈ value ∧ tsfParseIpv6Addr value = .ok (addr, pfx) := by
  constructor
  · intro hd
    obtain ⟨token, htoken, hread⟩ := exists_token h.reads hd
    cases hread with
    | addrV6 _ hs hcolon hparse => exact ⟨_, ⟨token, htoken, hs.key_eq, hs.value_eq⟩, hcolon, hparse⟩
  · rintro ⟨value, hgives, hcolon, hparse⟩
    rcases hgives.directive h with ⟨hcolon', -⟩ | ⟨-, addr', pfx', hparse', hd⟩
    · exact absurd hcolon hcolon'
    · obtain ⟨rfl, rfl⟩ := Prod.mk.inj (Except.ok.inj (hparse.symm.trans hparse'))
      exact hd

/-- When a conflict of families is caught. -/
theorem conflict_caught_iff (input : CStr) :
    (Conflict input → ∃ e, tsfParseFilterString input = .error e) ↔ ¬ ZeroConflict input := by
  constructor
  · rintro hcaught ⟨hconflict, ⟨ds, htext, hpair, honly⟩, hv4, hv6⟩
    refine refused_iff.mp (hcaught hconflict) ⟨ds, htext, hpair, honly, ?_, ?_⟩
    · intro h6 e addr mask hd
      obtain ⟨value, hgives, hcolon, hparse⟩ := (addrV4_mem_iff htext).mp hd
      obtain ⟨mask', hzero⟩ := hv4 ((occurs_ipv6Only_iff htext).mpr h6) e value hgives hcolon
      exact (Prod.mk.inj (Except.ok.inj (hparse.symm.trans hzero))).1
    · intro h4 e addr pfx hd
      obtain ⟨value, hgives, hcolon, hparse⟩ := (addrV6_mem_iff htext).mp hd
      obtain ⟨pfx', hzero⟩ := hv6 ((occurs_ipv4Only_iff htext).mpr h4) e value hgives hcolon
      exact (Prod.mk.inj (Except.ok.inj (hparse.symm.trans hzero))).1
  · intro hno hconflict
    refine refused_iff.mpr ?_
    rintro ⟨ds, htext, hpair, hagree⟩
    refine hno ⟨hconflict, ⟨ds, htext, hpair, hagree.onlyOne⟩, ?_, ?_⟩
    · intro h6 e value hgives hcolon
      rcases hgives.directive htext with ⟨-, addr, mask, hparse, hd⟩ | ⟨hcolon', -⟩
      · obtain rfl := hagree.v6Only ((occurs_ipv6Only_iff htext).mp h6) e addr mask hd
        exact ⟨mask, hparse⟩
      · exact absurd hcolon' hcolon
    · intro h4 e value hgives hcolon
      rcases hgives.directive htext with ⟨hcolon', -⟩ | ⟨-, addr, pfx, hparse, hd⟩
      · exact absurd hcolon hcolon'
      · obtain rfl := hagree.v4Only ((occurs_ipv4Only_iff htext).mp h4) e addr pfx hd
        exact ⟨pfx, hparse⟩

/-- The whole of IPv4 with `ipv6_only`, and `::` with `ipv4_only`. -/
theorem zero_conflict_accepted :
    (Conflict (cstr "ipv6_only local_addr=0.0.0.0/0") ∧
      ∃ f, tsfParseFilterString (cstr "ipv6_only local_addr=0.0.0.0/0") = .ok f) ∧
      Conflict (cstr "remote_addr=:: ipv4_only") ∧
        ∃ f, tsfParseFilterString (cstr "remote_addr=:: ipv4_only") = .ok f := by
  refine ⟨⟨.inl ⟨⟨cstr "ipv6_only", by decide, by decide⟩, .localEnd, cstr "0.0.0.0/0", ?_, by decide⟩,
    exists_ok_of_isOk (by decide)⟩, .inr ⟨⟨cstr "ipv4_only", by decide, by decide⟩, .remoteEnd, cstr "::", ?_, by decide⟩,
    exists_ok_of_isOk (by decide)⟩
  · exact ⟨cstr "local_addr=0.0.0.0/0", by decide, by decide, by decide⟩
  · exact ⟨cstr "remote_addr=::", by decide, by decide, by decide⟩

/-! ### Repeated directives and empty lists -/

/-- The keys that may occur once. -/
def onceKeys : List Key :=
  [.format, .fields, .ports .localEnd, .ports .remoteEnd, .addr .localEnd, .addr .remoteEnd, .includeState]

/-- The keys whose values are lists. -/
def listKeys : List Key := [.ports .localEnd, .ports .remoteEnd, .exclude, .includeState, .fields]

/-- The key occurs more than once. -/
def Twice (key : Key) (input : CStr) : Prop :=
  2 ≤ (directives input).countP fun token => directiveKey token = key.name

/-- A directive of the key has no item. -/
def EmptyList (key : Key) (input : CStr) : Prop :=
  ∃ token ∈ directives input, directiveKey token = key.name ∧ ∀ item, ¬ HasItem token item

/-- The string repeats a directive that may occur once, or has a list without items. -/
def Improper (input : CStr) : Prop :=
  (∃ key ∈ onceKeys, Twice key input) ∨ ∃ key ∈ listKeys, EmptyList key input

theorem countP_reads {tokens : List CStr} {ds : List Directive} (h : List.Forall₂ Reads tokens ds)
    (key : Key) :
    (tokens.countP fun token => directiveKey token = key.name) = ds.countP fun d => d.key = key := by
  induction h with
  | nil => rfl
  | @cons token d tokens ds hread _ ih =>
    have hiff : directiveKey token = key.name ↔ d.key = key := by
      rw [hread.key]
      exact ⟨Key.name_inj, fun h => by rw [h]⟩
    rw [List.countP_cons, List.countP_cons, ih]
    simp only [hiff]

/-- A directive that sets the flag it asks not to be set is there once at most. -/
theorem countP_le_one {ds : List Directive} (h : ds.Pairwise Directive.Compatible) {key : Key}
    (hkey : key.bit &&& key.guard ≠ 0) : (ds.countP fun d => d.key = key) ≤ 1 := by
  have hfilter : (ds.filter fun d => d.key = key).Pairwise Directive.Compatible := h.filter _
  have hall : ∀ d ∈ ds.filter fun d => d.key = key, d.key = key :=
    fun d hd => by simpa using (List.mem_filter.mp hd).2
  rw [List.countP_eq_length_filter]
  generalize ds.filter (fun d => d.key = key) = same at hfilter hall ⊢
  rcases same with _ | ⟨d, _ | ⟨d', rest⟩⟩
  · exact Nat.zero_le _
  · exact le_refl 1
  · have hclash := ((List.pairwise_cons.mp hfilter).1 d' List.mem_cons_self).1
    rw [hall d List.mem_cons_self, hall d' (List.mem_cons_of_mem _ List.mem_cons_self)] at hclash
    exact absurd hclash hkey

/-- The lists that are read have items, those of `exclude` apart. -/
theorem Reads.has_item {token : CStr} {d : Directive} (h : Reads token d) {key : Key} (hkey : d.key = key)
    (hlist : key ∈ listKeys) (hexclude : key ≠ .exclude) : ∃ item, HasItem token item := by
  have item : ∀ {value : CStr}, directiveValue token = some value →
      CString.fields (· == chr ',') value ≠ [] → ∃ item, HasItem token item := by
    intro value hvalue hne
    obtain ⟨item, hitem⟩ := List.exists_mem_of_ne_nil _ hne
    exact ⟨item, value, hvalue, hitem⟩
  subst hkey
  cases h with
  | ipv4Only _ _ => simp [Directive.key, listKeys] at hlist
  | ipv6Only _ _ => simp [Directive.key, listKeys] at hlist
  | exclude _ _ => exact absurd rfl hexclude
  | includeState hs hloop hzero =>
    refine item hs.value_eq fun hnil => hzero ?_
    rw [hnil] at hloop
    exact (Except.ok.inj hloop).symm
  | format _ _ => simp [Directive.key, listKeys] at hlist
  | fields hs hloop hzero =>
    refine item hs.value_eq fun hnil => hzero ?_
    rw [hnil] at hloop
    exact (Except.ok.inj hloop).symm
  | ports e hs hloop hcount =>
    refine item hs.value_eq fun hnil => ?_
    rw [hnil] at hloop
    obtain ⟨rfl, -⟩ := Prod.mk.inj (Except.ok.inj hloop)
    exact Nat.lt_irrefl 0 hcount
  | addrV4 e _ _ _ => simp [Directive.key, listKeys] at hlist
  | addrV6 e _ _ _ => simp [Directive.key, listKeys] at hlist

/-- The string breaks no other rule: its bytes will do, its words are at most sixteen and each reads as a
directive, no two exclude one another, and their families agree. -/
def Grammatical (input : CStr) : Prop :=
  ∃ ds, TextOf input ds ∧ ds.Pairwise Directive.Compatible ∧ FamiliesAgree ds

/-- When a repeated directive or an empty list is refused. -/
theorem improper_refused_iff (input : CStr) :
    (Improper input → ∃ e, tsfParseFilterString input = .error e) ↔
      ¬ (Grammatical input ∧ (Twice .format input ∨ Twice .fields input ∨ EmptyList .exclude input)) := by
  rw [refused_iff, ← Grammatical]
  constructor
  · rintro hrefused ⟨hgrammatical, hkind⟩
    refine hrefused ?_ hgrammatical
    rcases hkind with hformat | hfields | hexclude
    · exact .inl ⟨.format, by simp [onceKeys], hformat⟩
    · exact .inl ⟨.fields, by simp [onceKeys], hfields⟩
    · exact .inr ⟨.exclude, by simp [listKeys], hexclude⟩
  · rintro hno himproper ⟨ds, htext, hpair, hagree⟩
    refine hno ⟨⟨ds, htext, hpair, hagree⟩, ?_⟩
    rcases himproper with ⟨key, honce, htwice⟩ | ⟨key, hlist, token, htoken, hkey, hitems⟩
    · by_cases hkey : key.bit &&& key.guard = 0
      · have hkinds : ∀ key ∈ onceKeys, key.bit &&& key.guard = 0 → key = .format ∨ key = .fields := by decide
        rcases hkinds key honce hkey with rfl | rfl
        · exact .inl htwice
        · exact .inr (.inl htwice)
      · have hle := countP_le_one hpair hkey
        rw [← countP_reads htext.reads] at hle
        exact absurd htwice (Nat.not_le.mpr (Nat.lt_succ_of_le hle))
    · obtain ⟨d, hd, hread⟩ := exists_read htext.reads htoken
      by_cases hexclude : key = .exclude
      · subst hexclude
        exact .inr (.inr ⟨token, htoken, hkey, hitems⟩)
      · have hdkey : d.key = key := Key.name_inj (hread.key.symm.trans hkey)
        obtain ⟨item, hitem⟩ := hread.has_item hdkey hlist hexclude
        exact absurd hitem (hitems item)

/-- One of each kind that is accepted. -/
theorem improper_accepted :
    (Twice .format (cstr "format=compact format=full") ∧
      ∃ f, tsfParseFilterString (cstr "format=compact format=full") = .ok f) ∧
      (Twice .fields (cstr "fields=all fields=rtt") ∧
        ∃ f, tsfParseFilterString (cstr "fields=all fields=rtt") = .ok f) ∧
      EmptyList .exclude (cstr "exclude=,") ∧ ∃ f, tsfParseFilterString (cstr "exclude=,") = .ok f := by
  refine ⟨⟨?_, exists_ok_of_isOk (by decide)⟩, ⟨?_, exists_ok_of_isOk (by decide)⟩,
    ⟨cstr "exclude=,", by decide, by decide, ?_⟩, exists_ok_of_isOk (by decide)⟩
  · unfold Twice
    decide
  · unfold Twice
    decide
  · rintro item ⟨value, hvalue, hitem⟩
    obtain rfl : cstr "," = value := Option.some.inj hvalue
    have hnone : fields (· == chr ',') (cstr ",") = [] := by decide
    rw [hnone] at hitem
    cases hitem

end TcpStats
