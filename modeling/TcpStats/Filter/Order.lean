import TcpStats.Filter.Separators
import TcpStats.Filter.Conflicts
import Mathlib.Data.List.Pairwise

/-!
# The order of directives

Directives of different keys write different parts of the filter, `exclude` and `include_state` apart,
and can change places. These two exclude one another, which the second finds out from what the
first has written: `exclude` from the flag of `include_state`, but `include_state` from the state
mask, on which an `exclude` without names leaves no trace. So the order of a string matters
exactly if it has that `exclude` and an `include_state`, and is right otherwise (`order_iff`).
-/

namespace TcpStats

open CString Fallible

/-! ### Directives of different keys -/

/-- The two keys are those of the state lists. -/
def StateKeys (key key' : Key) : Prop :=
  key = .exclude ∧ key' = .includeState ∨ key = .includeState ∧ key' = .exclude

instance (key key' : Key) : Decidable (StateKeys key key') := inferInstanceAs (Decidable (_ ∨ _))

theorem compatible_of_key_ne {d d' : Directive} (hne : d.key ≠ d'.key)
    (hstates : ¬ (d.key = .includeState ∧ d'.key = .exclude))
    (hall : d'.key = .includeState → d.kept = 0xFFFF) : d.Compatible d' := by
  have hbits : ∀ key ∈ Key.all, ∀ key' ∈ Key.all, key ≠ key' → ¬ (key = .includeState ∧ key' = .exclude) →
      key.bit &&& key'.guard = 0 := by
    decide
  exact ⟨hbits _ d.key.mem_all _ d'.key.mem_all hne hstates, hall⟩

/-- A directive other than `exclude` leaves all states. -/
theorem kept_of_key_ne {d : Directive} (h : d.key ≠ .exclude) : d.kept = 0xFFFF := by
  cases d with
  | exclude kept => exact absurd rfl h
  | _ => rfl

/-- Directives of different keys can change places, when they are not those of the state lists. -/
theorem apply_comm_of_key_ne (f : TcpstatsFilter) {d d' : Directive} (hne : d.key ≠ d'.key)
    (hstates : ¬ StateKeys d.key d'.key) : (f.apply d).apply d' = (f.apply d').apply d := by
  have hparts : ∀ key ∈ Key.all, ∀ key' ∈ Key.all, key ≠ key' → ¬ StateKeys key key' →
      key.part = none ∨ key'.part ≠ key.part := by
    decide
  refine apply_comm f fun p hp => ?_
  rcases hparts _ d.key.mem_all _ d'.key.mem_all hne hstates with hnone | hpart
  · rw [hnone] at hp
    cases hp
  · rwa [hp] at hpart

/-! ### Permuted directives -/

section

variable {ds ds' : List Directive}

theorem familiesAgree_perm (h : ds'.Perm ds) (hagree : FamiliesAgree ds) : FamiliesAgree ds' where
  onlyOne := fun ⟨h4, h6⟩ => hagree.onlyOne ⟨h.mem_iff.mp h4, h.mem_iff.mp h6⟩
  v6Only h6 e addr mask hd := hagree.v6Only (h.mem_iff.mp h6) e addr mask (h.mem_iff.mp hd)
  v4Only h4 e addr pfx hd := hagree.v4Only (h.mem_iff.mp h4) e addr pfx (h.mem_iff.mp hd)

/-- Without the two state lists the order of directives of different keys does not matter. -/
theorem meaning_perm (h : ds'.Perm ds) (hkeys : (ds.map Directive.key).Nodup)
    (hstates : ∀ d ∈ ds, ∀ d' ∈ ds, ¬ StateKeys d.key d'.key) : meaning ds' = meaning ds := by
  refine (h.symm.foldl_eq' (fun d hd d' hd' f => ?_) _).symm
  by_cases heq : d = d'
  · rw [heq]
  · have hne : d.key ≠ d'.key := fun hkey => heq (List.inj_on_of_nodup_map hkeys hd hd' hkey)
    exact apply_comm_of_key_ne f hne (hstates d hd d' hd')

theorem pairwise_compatible_of_keys (hkeys : (ds.map Directive.key).Nodup)
    (hstates : ∀ d ∈ ds, ∀ d' ∈ ds, ¬ StateKeys d.key d'.key) : ds.Pairwise Directive.Compatible := by
  refine (List.pairwise_map.mp hkeys).imp_of_mem fun {d d'} hd hd' hne => ?_
  refine compatible_of_key_ne hne (fun hboth => hstates d hd d' hd' (.inr hboth)) fun hin => ?_
  exact kept_of_key_ne fun hex => hstates d hd d' hd' (.inl ⟨hex, hin⟩)

end

/-! ### Permuted words -/

namespace Separators.Fits

variable {sep : Separators} {ws ws' : List CStr}

theorem perm (h : sep.Fits ws) (hperm : ws'.Perm ws) : sep.Fits ws' :=
  ⟨h.length_eq.trans hperm.length_eq.symm, fun w hw => h.words w (hperm.mem_iff.mp hw)⟩

theorem join_perm_join (h : sep.Fits ws) (hperm : ws'.Perm ws) : (sep.join ws').Perm (sep.join ws) :=
  (h.perm hperm).join_perm.trans (((hperm.flatten.append_right _).append_left _).trans h.join_perm.symm)

/-- Permuted words say the permuted directives. -/
theorem textOf_perm (h : sep.Fits ws) (hperm : ws'.Perm ws) {ds : List Directive}
    (htext : TextOf (sep.join ws) ds) :
    ∃ ds', ds'.Perm ds ∧ TextOf (sep.join ws') ds' := by
  obtain ⟨hlex, hfew, hreads⟩ := htext
  have hjoin := h.join_perm_join hperm
  obtain ⟨hlen, hprint, htab⟩ := h.lexical_iff.mp hlex
  rw [h.directives_join] at hreads
  obtain ⟨ds', hreads', hds⟩ := List.perm_comp_forall₂ hperm hreads
  refine ⟨ds', hds, (h.perm hperm).lexical_iff.mpr ⟨?_, ?_, ?_⟩, hds.length_eq ▸ hfew, ?_⟩
  · rw [hjoin.length_eq]
    exact hlen
  · exact fun w hw => hprint w (hperm.mem_iff.mp hw)
  · rw [hjoin.mem_iff]
    exact htab
  · rw [(h.perm hperm).directives_join]
    exact hreads'

/-- The keys of the words are those of their directives. -/
theorem keys_nodup (h : sep.Fits ws) (hkeys : (ws.map directiveKey).Nodup) {ds : List Directive}
    (htext : TextOf (sep.join ws) ds) : (ds.map Directive.key).Nodup := by
  have hreads := htext.reads
  rw [h.directives_join] at hreads
  have hmap : ws.map directiveKey = (ds.map Directive.key).map Key.name := by
    clear htext hkeys h
    induction hreads with
    | nil => rfl
    | cons hread _ ih => rw [List.map_cons, List.map_cons, List.map_cons, ih, hread.key]
  rw [hmap] at hkeys
  exact hkeys.of_map

end Separators.Fits

/-- An `exclude` leaves all states exactly if it has no names. -/
theorem Reads.exclude_all_iff {token : CStr} {kept : UInt16} (h : Reads token (.exclude kept)) :
    kept = 0xFFFF ↔ ∀ item, ¬ HasItem token item := by
  cases h with
  | exclude hs hloop =>
    simp only [hasItem_iff hs.value_eq]
    constructor
    · rintro rfl item hitem
      have hnames : ∀ toks, excludeLoop toks 0 0xFFFF = .ok 0xFFFF → toks = [] := by
        intro toks htoks
        rcases toks with _ | ⟨tok, toks⟩
        · rfl
        · obtain ⟨s, hs, -⟩ := bind_eq_ok.mp htoks
          have hkept := (excludeLoop_ok htoks s).mp (hasState_all s)
          exact absurd ((tsfLookupState_ok hs s).mpr rfl) (hkept.2 tok List.mem_cons_self)
      rw [hnames _ hloop] at hitem
      cases hitem
    · intro hnone
      rw [List.eq_nil_iff_forall_not_mem.mpr hnone] at hloop
      exact (Except.ok.inj hloop).symm

theorem emptyList_exclude_iff {input : CStr} {ds : List Directive} (h : TextOf input ds) :
    EmptyList .exclude input ↔ .exclude 0xFFFF ∈ ds := by
  constructor
  · rintro ⟨token, htoken, hkey, hitems⟩
    obtain ⟨d, hd, hread⟩ := exists_read h.reads htoken
    have hdkey : d.key = .exclude := Key.name_inj (hread.key.symm.trans hkey)
    cases d with
    | exclude kept => exact hread.exclude_all_iff.mpr hitems ▸ hd
    | _ => cases hdkey
  · intro hd
    obtain ⟨token, htoken, hread⟩ := exists_token h.reads hd
    exact ⟨token, htoken, hread.key, hread.exclude_all_iff.mp rfl⟩

/-- The order of the string matters: it has an `exclude` without names and an `include_state`, and no other
fault than that these are two. -/
structure OrderMatters (input : CStr) : Prop where
  sound : ∃ ds, TextOf input ds ∧ FamiliesAgree ds
  exclude : EmptyList .exclude input
  includeState : Occurs Key.includeState.name (directives input)

/-- Of two state lists, one of which may follow the other, the `exclude` has no names. -/
theorem exclude_all_of_compatible {d d' : Directive} (h : d.Compatible d' ∨ d'.Compatible d)
    (hex : d.key = .exclude) (hin : d'.key = .includeState) : d = .exclude 0xFFFF := by
  rcases h with hcompat | hcompat
  · cases d with
    | exclude kept =>
      obtain rfl : kept = 0xFFFF := hcompat.2 hin
      rfl
    | _ => cases hex
  · -- behind an `include_state` its flag is found
    have hclash := hcompat.1
    rw [hex, hin] at hclash
    exact absurd hclash (by decide)

/-- The order of an accepted string with both state lists matters. -/
theorem orderMatters_of_accepted {input : CStr} {f : TcpstatsFilter} (hf : tsfParseFilterString input = .ok f)
    (hexclude : Occurs Key.exclude.name (directives input))
    (hinclude : Occurs Key.includeState.name (directives input)) : OrderMatters input := by
  obtain ⟨ds, htext, hpair, hagree, -⟩ := tsfParseFilterString_iff.mp hf
  obtain ⟨d, hd, hex⟩ := (occurs_iff htext.reads).mp hexclude
  obtain ⟨d', hd', hin⟩ := (occurs_iff htext.reads).mp hinclude
  have : Std.Symm fun a b : Directive => a.Compatible b ∨ b.Compatible a := ⟨fun _ _ => Or.symm⟩
  have heither : ds.Pairwise fun a b => a.Compatible b ∨ b.Compatible a := hpair.imp Or.inl
  have hne : d ≠ d' := by
    rintro rfl
    rw [hex] at hin
    cases hin
  obtain rfl := exclude_all_of_compatible (heither.forall hd hd' hne) hex hin
  exact ⟨⟨ds, htext, hagree⟩, (emptyList_exclude_iff htext).mpr hd, hinclude⟩

section

variable {sep : Separators} {ws ws' : List CStr}

theorem orderMatters_perm (h : sep.Fits ws) (hperm : ws'.Perm ws) (hmatters : OrderMatters (sep.join ws)) :
    OrderMatters (sep.join ws') := by
  obtain ⟨⟨ds, htext, hagree⟩, ⟨token, htoken, hexclude⟩, ⟨token', htoken', hinclude⟩⟩ := hmatters
  obtain ⟨ds', hds, htext'⟩ := h.textOf_perm hperm htext
  rw [h.directives_join, ← hperm.mem_iff, ← (h.perm hperm).directives_join] at htoken htoken'
  exact ⟨⟨ds', htext', familiesAgree_perm hds hagree⟩, ⟨token, htoken, hexclude⟩, ⟨token', htoken', hinclude⟩⟩

/-- Otherwise a string that is accepted is accepted in every order, with the same filter. -/
theorem accepted_perm (h : sep.Fits ws) (hkeys : (ws.map directiveKey).Nodup) (hperm : ws'.Perm ws)
    (hno : ¬ OrderMatters (sep.join ws)) {f : TcpstatsFilter} (hf : tsfParseFilterString (sep.join ws) = .ok f) :
    tsfParseFilterString (sep.join ws') = .ok f := by
  obtain ⟨ds, htext, hpair, hagree, rfl⟩ := tsfParseFilterString_iff.mp hf
  have hdkeys := h.keys_nodup hkeys htext
  -- the two state lists are not both there
  have hapart : ∀ d ∈ ds, ∀ d' ∈ ds, d.key = .exclude → d'.key = .includeState → False :=
    fun d hd d' hd' hex hin => hno (orderMatters_of_accepted hf ((occurs_iff htext.reads).mpr ⟨d, hd, hex⟩)
      ((occurs_iff htext.reads).mpr ⟨d', hd', hin⟩))
  have hstates : ∀ d ∈ ds, ∀ d' ∈ ds, ¬ StateKeys d.key d'.key := by
    rintro d hd d' hd' (⟨hex, hin⟩ | ⟨hin, hex⟩)
    · exact hapart d hd d' hd' hex hin
    · exact hapart d' hd' d hd hex hin
  obtain ⟨ds', hds, htext'⟩ := h.textOf_perm hperm htext
  have hdkeys' : (ds'.map Directive.key).Nodup := (hds.map _).nodup_iff.mpr hdkeys
  have hstates' : ∀ d ∈ ds', ∀ d' ∈ ds', ¬ StateKeys d.key d'.key :=
    fun d hd d' hd' => hstates d (hds.mem_iff.mp hd) d' (hds.mem_iff.mp hd')
  exact tsfParseFilterString_iff.mpr ⟨ds', htext', pairwise_compatible_of_keys hdkeys' hstates',
    familiesAgree_perm hds hagree, (meaning_perm hds hdkeys hstates).symm⟩

/-- With the `exclude` at its head such a string is accepted. -/
theorem exclude_first (h : sep.Fits ws) (hkeys : (ws.map directiveKey).Nodup)
    (hmatters : OrderMatters (sep.join ws)) :
    ∃ ws', ws'.Perm ws ∧ ∃ f, tsfParseFilterString (sep.join ws') = .ok f := by
  obtain ⟨⟨ds, htext, hagree⟩, ⟨token, htoken, hkey, hitems⟩, -⟩ := hmatters
  rw [h.directives_join] at htoken
  have hperm : (token :: ws.erase token).Perm ws := (List.perm_cons_erase htoken).symm
  obtain ⟨ds', hds, htext'⟩ := h.textOf_perm hperm htext
  have hreads := htext'.reads
  rw [(h.perm hperm).directives_join] at hreads
  obtain ⟨d, rest, hread, -, rfl⟩ := List.forall₂_cons_left_iff.mp hreads
  have hdkey : d.key = .exclude := Key.name_inj (hread.key.symm.trans hkey)
  have hkept : d.kept = 0xFFFF := by
    cases d with
    | exclude kept => exact hread.exclude_all_iff.mpr hitems
    | _ => rfl
  have hdkeys : ((d :: rest).map Directive.key).Nodup := (hds.map _).nodup_iff.mpr (h.keys_nodup hkeys htext)
  rw [List.map_cons, List.nodup_cons, List.mem_map] at hdkeys
  have hne : ∀ d' ∈ rest, d'.key ≠ .exclude := fun d' hd' heq => hdkeys.1 ⟨d', hd', heq.trans hdkey.symm⟩
  refine ⟨_, hperm, _, tsfParseFilterString_iff.mpr ⟨_, htext', .cons ?_ ?_, familiesAgree_perm hds hagree, rfl⟩⟩
  · intro d' hd'
    refine compatible_of_key_ne (fun heq => hne d' hd' (heq.symm.trans hdkey)) (fun hboth => ?_) fun _ => hkept
    exact hne d' hd' hboth.2
  · refine pairwise_compatible_of_keys hdkeys.2 ?_
    rintro d' hd' d'' hd'' (⟨hex, -⟩ | ⟨-, hex⟩)
    · exact hne d' hd' hex
    · exact hne d'' hd'' hex

/-- With the `include_state` at its head it is refused. -/
theorem includeState_first (h : sep.Fits ws) (hmatters : OrderMatters (sep.join ws)) :
    ∃ ws', ws'.Perm ws ∧ ∀ f, tsfParseFilterString (sep.join ws') ≠ .ok f := by
  obtain ⟨-, ⟨token, htoken, hkey, -⟩, ⟨token', htoken', hkey'⟩⟩ := hmatters
  rw [h.directives_join] at htoken htoken'
  have hperm : (token' :: ws.erase token').Perm ws := (List.perm_cons_erase htoken').symm
  refine ⟨_, hperm, fun f hf => ?_⟩
  obtain ⟨ds, htext, hpair, -, -⟩ := tsfParseFilterString_iff.mp hf
  have hreads := htext.reads
  rw [(h.perm hperm).directives_join] at hreads
  obtain ⟨d', rest, hread', hrest, rfl⟩ := List.forall₂_cons_left_iff.mp hreads
  have hother : token ≠ token' := by
    rintro rfl
    exact absurd (hkey.symm.trans hkey') (by decide)
  obtain ⟨d, hd, hread⟩ := exists_read hrest ((List.mem_erase_of_ne hother).mpr htoken)
  have hclash := ((List.pairwise_cons.mp hpair).1 d hd).1
  rw [Key.name_inj (hread'.key.symm.trans hkey'), Key.name_inj (hread.key.symm.trans hkey)] at hclash
  exact absurd hclash (by decide)

/-- A string with an `exclude` that has a name and an `include_state` is refused in every order. -/
theorem refused_in_every_order (h : sep.Fits ws) (hperm : ws'.Perm ws)
    (hexclude : Occurs Key.exclude.name (directives (sep.join ws)))
    (hinclude : Occurs Key.includeState.name (directives (sep.join ws)))
    (hnames : ¬ EmptyList .exclude (sep.join ws)) : ∃ e, returned (sep.join ws') = .error e := by
  rcases hret : returned (sep.join ws') with e | f
  · exact ⟨e, rfl⟩
  · have hwords : ∀ token, token ∈ directives (sep.join ws) ↔ token ∈ directives (sep.join ws') := by
      intro token
      rw [h.directives_join, (h.perm hperm).directives_join, hperm.mem_iff]
    simp only [Occurs, hwords] at hexclude hinclude
    obtain ⟨token, htoken, hkey, hitems⟩ :=
      (orderMatters_of_accepted (returned_eq_ok_iff.mp hret) hexclude hinclude).exclude
    exact absurd ⟨token, (hwords token).mpr htoken, hkey, hitems⟩ hnames

/-- When the order of directives of different keys does not matter. The two state lists exclude one another
in every order, when the `exclude` has a name. -/
theorem order_iff (h : sep.Fits ws) (hkeys : (ws.map directiveKey).Nodup) :
    ((∀ ws', ws'.Perm ws → returned (sep.join ws') = returned (sep.join ws)) ↔ ¬ OrderMatters (sep.join ws)) ∧
      (Occurs Key.exclude.name (directives (sep.join ws)) →
        Occurs Key.includeState.name (directives (sep.join ws)) → ¬ EmptyList .exclude (sep.join ws) →
        ∀ ws', ws'.Perm ws → ∃ e, returned (sep.join ws') = .error e) := by
  refine ⟨⟨fun hsame hmatters => ?_, fun hno ws' hperm => ?_⟩, fun hexclude hinclude hnames ws' hperm =>
    refused_in_every_order h hperm hexclude hinclude hnames⟩
  · obtain ⟨first, hfirst, f, hf⟩ := exclude_first h hkeys hmatters
    obtain ⟨second, hsecond, hrefused⟩ := includeState_first h hmatters
    have hboth := (hsame first hfirst).trans (hsame second hsecond).symm
    rw [returned_eq_ok_iff.mpr hf] at hboth
    exact hrefused f (returned_eq_ok_iff.mp hboth.symm)
  · have hlen := (h.join_perm_join hperm).length_eq
    have hhead : ∀ {ws}, sep.Fits ws → (sep.join ws).head? ≠ some 0 :=
      fun h hhead => h.zero_notMem (List.mem_of_head? hhead)
    by_cases hlong : TSF_PARSE_MAXLEN - 1 < (sep.join ws).length
    · rw [returned_tooLong ⟨hhead h, hlong⟩, returned_tooLong ⟨hhead (h.perm hperm), hlen ▸ hlong⟩]
    · refine (returned_eq_iff (fun hl => hlong (hlen ▸ hl.2)) fun hl => hlong hl.2).mpr fun f => ⟨fun hf => ?_, ?_⟩
      · have hno' : ¬ OrderMatters (sep.join ws') :=
          fun hmatters => hno (orderMatters_perm (h.perm hperm) hperm.symm hmatters)
        exact accepted_perm (h.perm hperm) ((hperm.map _).nodup_iff.mpr hkeys) hperm.symm hno' hf
      · exact accepted_perm h hkeys hperm hno

end

/-- An `exclude` with a name and a port list in either order, and this `exclude` and an `include_state`. -/
theorem exclude_ports_either_order :
    returned (oneSpace.join [cstr "exclude=listen", cstr "local_port=443"]) =
        returned (oneSpace.join [cstr "local_port=443", cstr "exclude=listen"]) ∧
      ∀ ws', ws'.Perm [cstr "exclude=listen", cstr "include_state=established"] →
        ∃ e, returned (oneSpace.join ws') = .error e := by
  have hexclude : IsWord (cstr "exclude=listen") := ⟨by decide, by decide +kernel, by decide⟩
  have hports : IsWord (cstr "local_port=443") := ⟨by decide, by decide +kernel, by decide⟩
  have hinclude : IsWord (cstr "include_state=established") := ⟨by decide, by decide +kernel, by decide⟩
  constructor
  · have hfits : oneSpace.Fits [cstr "local_port=443", cstr "exclude=listen"] :=
      ⟨rfl, List.forall_mem_cons.mpr ⟨hports, List.forall_mem_singleton.mpr hexclude⟩⟩
    refine (order_iff hfits (by decide)).1.mpr (fun hmatters => ?_) _ (List.Perm.swap ..)
    have hinclude := hmatters.includeState
    rw [hfits.directives_join] at hinclude
    obtain ⟨token, htoken, hkey⟩ := hinclude
    have hnone : ∀ token ∈ [cstr "local_port=443", cstr "exclude=listen"],
        directiveKey token ≠ Key.includeState.name := by
      decide +kernel
    exact hnone token htoken hkey
  · have hfits : oneSpace.Fits [cstr "exclude=listen", cstr "include_state=established"] :=
      ⟨rfl, List.forall_mem_cons.mpr ⟨hexclude, List.forall_mem_singleton.mpr hinclude⟩⟩
    refine (order_iff hfits (by decide)).2 ?_ ?_ ?_
    · rw [hfits.directives_join]
      exact ⟨_, List.mem_cons_self, by decide⟩
    · rw [hfits.directives_join]
      exact ⟨_, List.mem_cons_of_mem _ List.mem_cons_self, by decide⟩
    · rintro ⟨token, htoken, hkey, hitems⟩
      rw [hfits.directives_join] at htoken
      have honly : ∀ token ∈ [cstr "exclude=listen", cstr "include_state=established"],
          directiveKey token = Key.exclude.name → token = cstr "exclude=listen" := by
        decide +kernel
      obtain rfl := honly token htoken hkey
      exact hitems (cstr "listen") ⟨cstr "listen", by decide, by decide⟩

/-- An `exclude` without names, before an `include_state` and behind it. -/
theorem blank_exclude_order :
    ([cstr "exclude=,", cstr "include_state=established"].map directiveKey).Nodup ∧
      (∃ f, returned (oneSpace.join [cstr "exclude=,", cstr "include_state=established"]) = .ok f) ∧
      returned (oneSpace.join [cstr "include_state=established", cstr "exclude=,"]) = .error .EINVAL :=
  ⟨by decide, exists_ok_of_isOk (by decide), by decide⟩

end TcpStats
