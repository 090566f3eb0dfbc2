import TcpStats.Filter.Ipv6

/-!
# Which texts are IPv6 addresses

`Literal` is the grammar: a spelling of an address, with a prefix length behind it that
leaves no host bits, or with none. The parser accepts every literal, and some texts more
(`Sloppy`): it does not miss a `:` after four digits, takes one more after the `::`, does not
look at what stands behind the eighth group, and passes any address with `/0`. A text has
only one reading (`Reading.unique`), so that none of these is a literal read in another way,
and on every other text the parser and the grammar agree (`accepted_iff_literal_iff`).
-/

namespace TcpStats

open CString

/-! ### A text has one reading -/

/-- Digits that end before more digits are four. -/
theorem GroupText.not_ends_append {t t' : GroupText} {a : CStr} (ha : a ≠ [])
    (h : t'.digits = t.digits ++ a) (rest : CStr) : ¬ t.Ends (a ++ rest) := by
  obtain ⟨c, cs, rfl⟩ := List.exists_cons_of_ne_nil ha
  rintro (hfour | hnil | hhead)
  · have := t'.short
    rw [h, List.length_append, List.length_cons] at this
    omega
  · cases hnil
  · obtain rfl := Option.some.inj hhead
    have := t'.hex (chr ':') (h ▸ List.mem_append_right _ List.mem_cons_self)
    rw [hexVal_colon] at this
    cases this

theorem GroupText.unique {t t' : GroupText} {x x' : CStr} (h : t.digits ++ x = t'.digits ++ x')
    (hx : t.Ends x) (hx' : t'.Ends x') : t = t' ∧ x = x' := by
  have hdigits : t.digits = t'.digits ∧ x = x' := by
    rcases List.append_eq_append_iff.mp h with ⟨a, hd, rfl⟩ | ⟨a, hd, rfl⟩
    · by_cases ha : a = []
      · rw [ha, List.append_nil] at hd
        exact ⟨hd.symm, by rw [ha, List.nil_append]⟩
      · exact absurd hx (GroupText.not_ends_append ha hd x')
    · by_cases ha : a = []
      · rw [ha, List.append_nil] at hd
        exact ⟨hd, by rw [ha, List.nil_append]⟩
      · exact absurd hx' (GroupText.not_ends_append ha hd x)
  cases t
  cases t'
  exact ⟨by simpa using hdigits.1, hdigits.2⟩

theorem Group.unique {g g' : Group} {x x' : CStr} (h : g.text ++ x = g'.text ++ x') (hx : g.Ends x)
    (hx' : g'.Ends x') : g = g' ∧ x = x' := by
  rcases g with ⟨t, _ | _⟩
  · rcases g' with ⟨t', _ | _⟩
    · obtain ⟨rfl, rfl⟩ := GroupText.unique h hx hx'
      exact ⟨rfl, rfl⟩
    · exact absurd (congrArg List.head? h) (t.head_ne_colon x)
  · rcases g' with ⟨t', _ | _⟩
    · exact absurd (congrArg List.head? h).symm (t'.head_ne_colon x')
    · obtain ⟨rfl, rfl⟩ := GroupText.unique (List.cons.inj h).2 hx hx'
      exact ⟨rfl, rfl⟩

/-- A text at which a run of groups ends: nothing, or a `::`. -/
def AtGap (rest : CStr) : Prop := rest = [] ∨ ∃ q, rest = chr ':' :: chr ':' :: q

theorem Group.not_atGap (g : Group) (x : CStr) : ¬ AtGap (g.text ++ x) := by
  rintro (hnil | ⟨q, hq⟩)
  · exact g.text_ne_nil (List.append_eq_nil_iff.mp hnil).1
  · rcases g with ⟨t, _ | _⟩
    · exact t.head_ne_colon x (by rw [show t.digits ++ x = _ from hq]; rfl)
    · have htail := (List.cons.inj hq).2
      exact t.head_ne_colon x (by rw [show t.digits ++ x = _ from htail]; rfl)

/-- Two runs of at most `m` groups that a text begins with are the same, when each goes on as long as
it can. -/
theorem run_unique {gs gs' : List Group} {rest rest' : CStr} (m : ℕ)
    (h : runText gs ++ rest = runText gs' ++ rest') (hends : RunEnds gs rest) (hends' : RunEnds gs' rest')
    (hle : gs.length ≤ m) (hle' : gs'.length ≤ m) (hstop : gs.length < m → AtGap rest)
    (hstop' : gs'.length < m → AtGap rest') : gs = gs' ∧ rest = rest' := by
  induction gs generalizing gs' m with
  | nil =>
    cases gs' with
    | nil => exact ⟨rfl, h⟩
    | cons g' gs' =>
      rw [runText_nil, List.nil_append, runText_cons] at h
      have hgap : AtGap rest := hstop (lt_of_lt_of_le (Nat.succ_pos _) hle')
      exact absurd (h ▸ hgap) (g'.not_atGap _)
  | cons g gs ih =>
    cases gs' with
    | nil =>
      rw [runText_nil, List.nil_append, runText_cons] at h
      have hgap : AtGap rest' := hstop' (lt_of_lt_of_le (Nat.succ_pos _) hle)
      exact absurd (h ▸ hgap) (g.not_atGap _)
    | cons g' gs' =>
      rw [runText_cons, runText_cons] at h
      obtain ⟨rfl, htail⟩ := Group.unique h hends.1 hends'.1
      rw [List.length_cons] at hle hle'
      obtain ⟨rfl, rfl⟩ := ih (m - 1) htail hends.2 hends'.2 (by omega) (by omega)
        (fun hlt => hstop (by rw [List.length_cons]; omega)) (fun hlt => hstop' (by rw [List.length_cons]; omega))
      exact ⟨rfl, rfl⟩

theorem Reading.unique {r r' : Reading} (hr : r.Formed) (hr' : r'.Formed) (h : r.text = r'.text) :
    r = r' := by
  cases r with
  | full gs rest =>
    obtain ⟨height, -, hends, -⟩ := hr
    cases r' with
    | full gs' rest' =>
      obtain ⟨height', -, hends', -⟩ := hr'
      obtain ⟨rfl, rfl⟩ := run_unique 8 h hends hends' (by omega) (by omega) (by omega) (by omega)
      rfl
    | gap a b =>
      obtain ⟨hmany, -, hends', -⟩ := hr'
      obtain ⟨rfl, -⟩ := run_unique 8 h hends hends' (by omega) (by omega) (by omega) fun _ => .inr ⟨_, rfl⟩
      omega
  | gap a b =>
    obtain ⟨hmany, -, hends, hendsb⟩ := hr
    cases r' with
    | full gs' rest' =>
      obtain ⟨height', -, hends', -⟩ := hr'
      obtain ⟨rfl, -⟩ := run_unique 8 h hends hends' (by omega) (by omega) (fun _ => .inr ⟨_, rfl⟩) (by omega)
      omega
    | gap a' b' =>
      obtain ⟨hmany', -, hends', hendsb'⟩ := hr'
      obtain ⟨rfl, hrest⟩ := run_unique 8 h hends hends' (by omega) (by omega) (fun _ => .inr ⟨_, rfl⟩)
        fun _ => .inr ⟨_, rfl⟩
      have hb : runText b ++ [] = runText b' ++ [] := by
        rw [(List.cons.inj (List.cons.inj hrest).2).2]
      obtain ⟨rfl, -⟩ := run_unique 8 hb hendsb hendsb' (by omega) (by omega) (fun _ => .inl rfl) fun _ => .inl rfl
      rfl

/-! ### Liberties -/

/-- The reading takes liberties with the grammar: groups behind one another without a `:`, a `:`
behind the `::`, or text behind the eighth group. -/
def Reading.Slips : Reading → Prop
  | full gs rest => (∃ g ∈ gs.tail, g.colon = false) ∨ rest ≠ []
  | gap a b => (∃ g ∈ a.tail, g.colon = false) ∨ (∃ g ∈ b.head?, g.colon = true) ∨ ∃ g ∈ b.tail, g.colon = false

/-- A run of groups without such liberties. -/
theorem eq_separated {gs : List Group} (hhead : ∀ g ∈ gs.head?, g.colon = false)
    (htail : ¬ ∃ g ∈ gs.tail, g.colon = false) : gs = separated (gs.map Group.toGroupText) := by
  rcases gs with _ | ⟨⟨t, colon⟩, gs⟩
  · rfl
  · obtain rfl : colon = false := hhead _ rfl
    have hcolons : gs = colons (gs.map Group.toGroupText) := by
      rw [colons, List.map_map]
      refine (List.map_id gs).symm.trans (List.map_congr_left fun g hg => ?_)
      rcases g with ⟨t, _ | _⟩
      · exact absurd ⟨_, hg, rfl⟩ htail
      · rfl
    rw [List.map_cons, separated, ← hcolons]

theorem separated_not_slip (ts : List GroupText) : ¬ ∃ g ∈ (separated ts).tail, g.colon = false := by
  rintro ⟨g, hg, hcolon⟩
  rcases ts with _ | ⟨t, ts⟩
  · cases hg
  · obtain ⟨u, -, rfl⟩ := List.mem_map.mp hg
    cases hcolon

/-- A reading without liberties is that of a spelling, and it is the only one. -/
theorem Reading.Formed.spells_iff {r : Reading} (h : r.Formed) : Spells r.text r.values ↔ ¬ r.Slips := by
  constructor
  · intro hspells
    obtain ⟨r', hformed, htext, -, hkind⟩ := hspells.reading
    obtain rfl := Reading.unique hformed h htext
    rcases hkind with ⟨ts, rfl⟩ | ⟨a, b, rfl⟩
    · rintro (htail | hrest)
      · exact separated_not_slip ts htail
      · exact hrest rfl
    · rintro (ha | ⟨g, hg, hcolon⟩ | hb)
      · exact separated_not_slip a ha
      · rw [separated_head b g hg] at hcolon
        cases hcolon
      · exact separated_not_slip b hb
  · intro hslips
    cases r with
    | full gs rest =>
      obtain ⟨height, hhead, -, -⟩ := h
      obtain ⟨htail, hrest⟩ := not_or.mp hslips
      rw [not_not.mp hrest, eq_separated hhead htail, Reading.text, runText_separated, Reading.values,
        map_value_separated, List.append_nil]
      exact .full _ (by rw [List.length_map, height])
    | gap a b =>
      obtain ⟨hmany, hhead, -, -⟩ := h
      obtain ⟨ha, hslips⟩ := not_or.mp hslips
      obtain ⟨hcolon, hb⟩ := not_or.mp hslips
      have hbhead : ∀ g ∈ b.head?, g.colon = false := fun g hg => by
        rcases hg' : g.colon with _ | _
        · rfl
        · exact absurd ⟨g, hg, hg'⟩ hcolon
      have hspells := Spells.compressed (a.map Group.toGroupText) (b.map Group.toGroupText)
        (8 - (a.length + b.length)) (by omega) (by rw [List.length_map, List.length_map]; omega)
      rw [← runText_separated, ← runText_separated, ← eq_separated hhead ha, ← eq_separated hbhead hb, List.map_map,
        List.map_map, List.append_assoc] at hspells
      exact hspells

/-! ### The grammar -/

/-- An IPv6 literal: an address, alone or with the length of a prefix that holds all of its bits. -/
inductive Literal : CStr → Prop where
  | plain {s : CStr} {vs : List UInt16} : Spells s vs → Literal s
  | withPrefix {s : CStr} {vs : List UInt16} (p : ℕ) : Spells s vs → p ≤ 128 →
      (In6Addr.ofGroups vs).HostBitsZero p → Literal (s ++ chr '/' :: decimal p)

/-- The parser returns 0. -/
def Accepted (str : CStr) : Prop := ∃ v, tsfParseIpv6Addr str = .ok v

/-- The texts that are accepted and are no literals: those whose reading takes liberties, and any
address but `::` with the prefix length 0. -/
inductive Sloppy : CStr → Prop where
  | plain (r : Reading) : r.Formed → r.Slips → Sloppy r.text
  | withPrefix (r : Reading) (p : ℕ) : r.Formed → r.text.length < 48 → p ≤ 128 →
      (p = 0 ∨ (In6Addr.ofGroups r.values).HostBitsZero p) →
      (r.Slips ∨ p = 0 ∧ In6Addr.ofGroups r.values ≠ .unspecified) → Sloppy (r.text ++ chr '/' :: decimal p)

/-- A text with or without a `/`. -/
theorem slash_cases (str : CStr) :
    chr '/' ∉ str ∨ ∃ s suffix, str = s ++ chr '/' :: suffix ∧ chr '/' ∉ s := by
  by_cases h : chr '/' ∈ str
  · obtain ⟨s, suffix, hsplit, hs⟩ := List.eq_append_cons_of_mem h
    exact .inr ⟨s, suffix, hsplit, hs⟩
  · exact .inl h

theorem hostBitsZero_zero_iff {addr : In6Addr} : addr.HostBitsZero 0 ↔ addr = .unspecified := by
  rw [In6Addr.HostBitsZero, show 128 = 8 * 16 from rfl, Bits.zero_from_iff (Nat.zero_le _)]
  have hzero : addr = .unspecified ↔ ∀ i < 16, addr.byte i = 0 := by
    constructor
    · rintro rfl i hi
      rw [In6Addr.byte_of_lt _ hi]
      exact Vector.getElem_replicate hi
    · intro h
      refine congrArg In6Addr.mk (Vector.ext fun i hi => ?_)
      rw [Vector.getElem_replicate hi, ← h i hi, addr.byte_of_lt hi]
  rw [hzero]
  constructor
  · rintro ⟨-, h⟩ i hi
    exact h i hi (Nat.zero_le _)
  · exact fun h => ⟨fun hrem => absurd hrem (Nat.lt_irrefl 0), fun i hi _ => h i hi⟩

/-- A literal is a text whose reading takes no liberties. -/
theorem Literal.reading {str : CStr} (h : Literal str) :
    (∃ r : Reading, r.Formed ∧ ¬ r.Slips ∧ str = r.text) ∨
      ∃ (r : Reading) (p : ℕ), r.Formed ∧ ¬ r.Slips ∧ r.text.length < 48 ∧ p ≤ 128 ∧
        (In6Addr.ofGroups r.values).HostBitsZero p ∧ str = r.text ++ chr '/' :: decimal p := by
  cases h with
  | plain hs =>
    obtain ⟨r, hformed, rfl, rfl, -⟩ := hs.reading
    exact .inl ⟨r, hformed, hformed.spells_iff.mp hs, rfl⟩
  | withPrefix p hs hp hhost =>
    have hlen := hs.length_lt
    obtain ⟨r, hformed, rfl, rfl, -⟩ := hs.reading
    exact .inr ⟨r, p, hformed, hformed.spells_iff.mp hs, hlen, hp, hhost, rfl⟩

theorem Accepted.of_literal {str : CStr} (h : Literal str) : Accepted str := by
  rcases h.reading with ⟨r, hformed, -, rfl⟩ | ⟨r, p, hformed, -, hlen, hp, hhost, rfl⟩
  · exact ⟨_, (tsfParseIpv6Addr_plain hformed.slash_notMem).mpr ⟨r, hformed, rfl, rfl, rfl⟩⟩
  · exact ⟨_, (tsfParseIpv6Addr_withPrefix hformed.slash_notMem).mpr
      ⟨r, p, hformed, rfl, rfl, hlen, hp, rfl, .inr hhost, rfl⟩⟩

theorem Accepted.of_sloppy {str : CStr} (h : Sloppy str) : Accepted str := by
  cases h with
  | plain r hformed _ => exact ⟨_, (tsfParseIpv6Addr_plain hformed.slash_notMem).mpr ⟨r, hformed, rfl, rfl, rfl⟩⟩
  | withPrefix r p hformed hlen hp hhost _ =>
    have hslash := hformed.slash_notMem
    exact ⟨_, (tsfParseIpv6Addr_withPrefix hslash).mpr ⟨r, p, hformed, rfl, rfl, hlen, hp, rfl, hhost, rfl⟩⟩

/-- A text that is accepted is a literal, unless it is one of the others. -/
theorem Accepted.literal {str : CStr} (h : Accepted str) (hn : ¬ Sloppy str) : Literal str := by
  obtain ⟨⟨addr, pfx⟩, h⟩ := h
  rcases slash_cases str with hslash | ⟨s, suffix, rfl, hslash⟩
  · obtain ⟨r, hformed, rfl, -, -⟩ := (tsfParseIpv6Addr_plain hslash).mp h
    exact .plain (hformed.spells_iff.mpr fun hslips => hn (.plain r hformed hslips))
  · obtain ⟨r, p, hformed, rfl, rfl, hlen, hp, rfl, hhost, -⟩ := (tsfParseIpv6Addr_withPrefix hslash).mp h
    have hslips : ¬ r.Slips := fun hslips => hn (.withPrefix r p hformed hlen hp hhost (.inl hslips))
    refine .withPrefix p (hformed.spells_iff.mpr hslips) hp ?_
    rcases hhost with rfl | hhost
    · by_contra hbits
      refine hn (.withPrefix r 0 hformed hlen hp (.inl rfl) (.inr ⟨rfl, ?_⟩))
      exact fun hzero => hbits (hostBitsZero_zero_iff.mpr hzero)
    · exact hhost

/-- None of the others is a literal. -/
theorem Sloppy.not_literal {str : CStr} (h : Sloppy str) : ¬ Literal str := by
  intro hlit
  cases h with
  | plain r hformed hslips =>
    rcases hlit.reading with ⟨r', hformed', hstrict, htext⟩ | ⟨r', p', -, -, -, -, -, htext⟩
    · obtain rfl := Reading.unique hformed hformed' htext
      exact hstrict hslips
    · exact hformed.slash_notMem (htext ▸ List.mem_append_right _ List.mem_cons_self)
  | withPrefix r p hformed _ _ _ hslips =>
    have hslash := hformed.slash_notMem
    rcases hlit.reading with ⟨r', hformed', -, htext⟩ | ⟨r', p', hformed', hstrict, -, -, hhost, htext⟩
    · exact hformed'.slash_notMem (htext ▸ List.mem_append_right _ List.mem_cons_self)
    · have hbefore := congrArg (before (chr '/')) htext
      have hafter := congrArg (after (chr '/')) htext
      rw [before_append hslash, before_append hformed'.slash_notMem] at hbefore
      rw [after_append hslash, after_append hformed'.slash_notMem, Option.some.injEq] at hafter
      obtain rfl := Reading.unique hformed hformed' hbefore
      obtain rfl := decimal_inj hafter
      rcases hslips with hslips | ⟨rfl, hbits⟩
      · exact hstrict hslips
      · exact hbits (hostBitsZero_zero_iff.mp hhost)

/-- On a text the parser and the grammar agree exactly if it is none of these. -/
theorem accepted_iff_literal_iff (str : CStr) : (Accepted str ↔ Literal str) ↔ ¬ Sloppy str := by
  constructor
  · exact fun h hn => hn.not_literal (h.mp (.of_sloppy hn))
  · exact fun hn => ⟨fun h => h.literal hn, .of_literal⟩

/-- Text behind the eighth group, groups run together, a third `:`, and an address with `/0`: one text
of each kind, accepted and no literal. -/
theorem sloppy_texts_accepted :
    (Accepted (cstr "1:1:1:1:1:1:1:1:x") ∧ ¬ Literal (cstr "1:1:1:1:1:1:1:1:x")) ∧
      (Accepted (cstr "11112222::") ∧ ¬ Literal (cstr "11112222::")) ∧
      (Accepted (cstr ":::1") ∧ ¬ Literal (cstr ":::1")) ∧ Accepted (cstr "::1/0") ∧ ¬ Literal (cstr "::1/0") := by
  let one : GroupText := ⟨cstr "1", by decide, by decide, by decide +kernel⟩
  let ones : GroupText := ⟨cstr "1111", by decide, by decide, by decide +kernel⟩
  let twos : GroupText := ⟨cstr "2222", by decide, by decide, by decide +kernel⟩
  have htrailing : Sloppy (cstr "1:1:1:1:1:1:1:1:x") :=
    .plain (.full (separated (List.replicate 8 one)) (cstr ":x"))
      ⟨rfl, separated_head _, runEnds_separated (.inr rfl), by decide⟩ (.inr (by decide))
  have hjoined : Sloppy (cstr "11112222::") :=
    .plain (.gap [⟨ones, false⟩, ⟨twos, false⟩] []) ⟨by decide, by simp, ⟨.inl rfl, .inl rfl, trivial⟩, trivial⟩
      (.inl ⟨⟨twos, false⟩, List.mem_cons_self, rfl⟩)
  have hcolon : Sloppy (cstr ":::1") :=
    .plain (.gap [] [⟨one, true⟩]) ⟨by decide, by simp, trivial, ⟨.inr (.inl rfl), trivial⟩⟩
      (.inr (.inl ⟨⟨one, true⟩, rfl, rfl⟩))
  have hzero : Sloppy (cstr "::1/0") :=
    .withPrefix (.gap [] [⟨one, false⟩]) 0 ⟨by decide, by simp, trivial, ⟨.inr (.inl rfl), trivial⟩⟩ (by decide)
      (by decide) (.inl rfl) (.inr ⟨rfl, by decide⟩)
  exact ⟨⟨.of_sloppy htrailing, htrailing.not_literal⟩, ⟨.of_sloppy hjoined, hjoined.not_literal⟩,
    ⟨.of_sloppy hcolon, hcolon.not_literal⟩, .of_sloppy hzero, hzero.not_literal⟩

end TcpStats
