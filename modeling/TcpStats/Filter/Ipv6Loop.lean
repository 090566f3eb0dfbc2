import TcpStats.Filter.Directive

/-!
# How the text of an IPv6 address is taken apart

The group loop of `tsf_parse_ipv6_addr` takes the text of an address apart into groups, each
of one to four digits and with or without a `:` before it, and at most one `::`. A `Reading`
is such a way to take a text apart, in the most liberal sense that the loop allows;
`readGroups_iff` shows that the loop and the expansion of the `::` accept exactly the texts
with a reading, and give the groups of the reading. The expansion is two loops in the array of the
groups; what they leave there is `toList_zeroGroups_moveGroups`.
-/

namespace TcpStats

open CString Fallible

/-! ### Groups -/

/-- The value of hexadecimal digits, after a value read before. -/
def hexFold (digits : CStr) (val : ℕ) : ℕ := digits.foldl (fun val c => val * 16 + (hexVal c).getD 0) val

/-- The digits of a group: one to four. -/
structure GroupText where
  digits : CStr
  nonempty : digits ≠ []
  short : digits.length ≤ 4
  hex : ∀ c ∈ digits, (hexVal c).isSome

/-- A group of sixteen bits. -/
def GroupText.value (t : GroupText) : UInt16 := (hexFold t.digits 0).toUInt16

/-- A group as it is taken from the text: with or without a `:` before it. -/
structure Group extends GroupText where
  colon : Bool

/-- Its part of the text. -/
def Group.text (g : Group) : CStr := if g.colon then chr ':' :: g.digits else g.digits

/-- A run of groups. -/
def runText (gs : List Group) : CStr := gs.flatMap Group.text

@[simp] theorem runText_nil : runText [] = [] := rfl

theorem runText_cons (g : Group) (gs : List Group) (rest : CStr) :
    runText (g :: gs) ++ rest = g.text ++ (runText gs ++ rest) := by
  rw [runText, List.flatMap_cons, List.append_assoc, ← runText]

/-- The digits of a group end: there are four of them, or a `:` or nothing follows. -/
def GroupText.Ends (t : GroupText) (rest : CStr) : Prop :=
  t.digits.length = 4 ∨ rest = [] ∨ rest.head? = some (chr ':')

/-- Each group of a run ends where the next begins. -/
def RunEnds : List Group → CStr → Prop
  | [], _ => True
  | g :: gs, rest => g.Ends (runText gs ++ rest) ∧ RunEnds gs rest

/-- The digits that count are those of either case. -/
theorem hexVal_eq_some_iff {c : UInt8} {d : ℕ} : hexVal c = some d ↔
    (cstr "0123456789abcdef")[d]? = some c ∨ (cstr "0123456789ABCDEF")[d]? = some c := by
  constructor
  · intro h
    have hall : ∀ n < 256, (hexVal (UInt8.ofNat n)).all (fun d =>
        (cstr "0123456789abcdef")[d]? = some (UInt8.ofNat n) ∨
          (cstr "0123456789ABCDEF")[d]? = some (UInt8.ofNat n)) = true := by
      decide +kernel
    have hc := hall c.toNat c.toNat_lt
    rw [UInt8.ofNat_toNat, h] at hc
    exact of_decide_eq_true hc
  · have hdigits : ∀ d < 16, (cstr "0123456789abcdef")[d]?.bind hexVal = some d ∧
        (cstr "0123456789ABCDEF")[d]?.bind hexVal = some d := by
      decide
    rintro (h | h)
    · have := (hdigits d (List.getElem?_eq_some_iff.mp h).1).1
      rwa [h] at this
    · have := (hdigits d (List.getElem?_eq_some_iff.mp h).1).2
      rwa [h] at this

theorem hexVal_lt {c : UInt8} {d : ℕ} (h : hexVal c = some d) : d < 16 := by
  rcases hexVal_eq_some_iff.mp h with h | h
  · exact (List.getElem?_eq_some_iff.mp h).1
  · exact (List.getElem?_eq_some_iff.mp h).1

theorem hexVal_colon : hexVal (chr ':') = none := by decide

theorem hexVal_slash : hexVal (chr '/') = none := by decide

theorem hexFold_lt {digits : CStr} {val n : ℕ} (h : val < n) :
    hexFold digits val < n * 16 ^ digits.length := by
  induction digits generalizing val n with
  | nil => simpa [hexFold] using h
  | cons c cs ih =>
    have hd : (hexVal c).getD 0 < 16 := by
      rcases hc : hexVal c with _ | d
      · decide
      · exact hexVal_lt hc
    have hnext : val * 16 + (hexVal c).getD 0 < n * 16 := by omega
    rw [List.length_cons, Nat.pow_succ', ← Nat.mul_assoc]
    exact ih hnext

theorem GroupText.hexFold_le (t : GroupText) : hexFold t.digits 0 ≤ 0xFFFF := by
  have hfold : hexFold t.digits 0 < 1 * 16 ^ t.digits.length := hexFold_lt (by decide)
  have hpow : 16 ^ t.digits.length ≤ 16 ^ 4 := Nat.pow_le_pow_right (by decide) t.short
  omega

/-! ### The loop -/

/-- The digits that are taken from a text without `/`: as many as there are, up to the number
that is asked for. -/
theorem groupDigits_iff {n val seen v k : ℕ} {p rest : CStr} (hp : chr '/' ∉ p) :
    groupDigits n p val seen = .ok (v, k, rest) ↔
      ∃ ds, p = ds ++ rest ∧ ds.length ≤ n ∧ (∀ c ∈ ds, (hexVal c).isSome) ∧
        (ds.length = n ∨ rest = [] ∨ rest.head? = some (chr ':')) ∧ v = hexFold ds val ∧ k = seen + ds.length := by
  induction n generalizing p val seen with
  | zero =>
    rw [groupDigits, Except.ok.injEq, Prod.mk.injEq, Prod.mk.injEq]
    constructor
    · rintro ⟨rfl, rfl, rfl⟩
      exact ⟨[], rfl, le_refl 0, nofun, .inl rfl, rfl, rfl⟩
    · rintro ⟨ds, rfl, hlen, -, -, rfl, rfl⟩
      obtain rfl := List.length_eq_zero_iff.mp (Nat.le_zero.mp hlen)
      exact ⟨rfl, rfl, rfl⟩
  | succ n ih =>
    rcases p with _ | ⟨c, p⟩
    · rw [groupDigits, Except.ok.injEq, Prod.mk.injEq, Prod.mk.injEq]
      constructor
      · rintro ⟨rfl, rfl, rfl⟩
        exact ⟨[], rfl, Nat.zero_le _, nofun, .inr (.inl rfl), rfl, rfl⟩
      · rintro ⟨ds, hsplit, -, -, -, rfl, rfl⟩
        obtain ⟨rfl, rfl⟩ := List.append_eq_nil_iff.mp hsplit.symm
        exact ⟨rfl, rfl, rfl⟩
    have hslash : c ≠ chr '/' := fun h => hp (h ▸ List.mem_cons_self)
    have hp' : chr '/' ∉ p := fun h => hp (List.mem_cons_of_mem c h)
    rw [groupDigits]
    by_cases hcolon : c = chr ':'
    · rw [if_pos (.inl hcolon), Except.ok.injEq, Prod.mk.injEq, Prod.mk.injEq]
      constructor
      · rintro ⟨rfl, rfl, rfl⟩
        exact ⟨[], rfl, Nat.zero_le _, nofun, .inr (.inr (by rw [hcolon]; rfl)), rfl, rfl⟩
      · rintro ⟨ds, hsplit, -, hhex, -, rfl, rfl⟩
        rcases ds with _ | ⟨d, ds⟩
        · exact ⟨rfl, rfl, hsplit⟩
        · obtain ⟨rfl, -⟩ := List.cons.inj hsplit
          have := hhex c List.mem_cons_self
          rw [hcolon, hexVal_colon] at this
          cases this
    · rw [if_neg (not_or.mpr ⟨hcolon, hslash⟩)]
      -- a run of digits that ends before this byte ends at a `:`
      have hempty : ∀ rest, ¬ (c :: p = [] ++ rest ∧ (([] : CStr).length = n + 1 ∨ rest = [] ∨
          rest.head? = some (chr ':'))) := by
        rintro rest ⟨rfl, hn | hnil | hhead⟩
        · cases hn
        · cases hnil
        · exact hcolon (Option.some.inj hhead)
      rcases hd : hexVal c with _ | d
      · constructor
        · intro h
          cases h
        · rintro ⟨ds, hsplit, -, hhex, hends, -, -⟩
          rcases ds with _ | ⟨d, ds⟩
          · exact absurd ⟨hsplit, hends⟩ (hempty rest)
          · obtain ⟨rfl, -⟩ := List.cons.inj hsplit
            have := hhex c List.mem_cons_self
            rw [hd] at this
            cases this
      · dsimp only
        rw [ih hp']
        constructor
        · rintro ⟨ds, rfl, hlen, hhex, hends, rfl, rfl⟩
          refine ⟨c :: ds, rfl, Nat.succ_le_succ hlen, ?_, hends.imp_left (congrArg (· + 1)), ?_, ?_⟩
          · exact List.forall_mem_cons.mpr ⟨by rw [hd]; rfl, hhex⟩
          · rw [hexFold, hexFold, List.foldl_cons, hd, Option.getD_some]
          · rw [List.length_cons]
            omega
        · rintro ⟨ds, hsplit, hlen, hhex, hends, rfl, rfl⟩
          rcases ds with _ | ⟨b, ds⟩
          · exact absurd ⟨hsplit, hends⟩ (hempty rest)
          · obtain ⟨rfl, rfl⟩ := List.cons.inj hsplit
            refine ⟨ds, rfl, Nat.le_of_succ_le_succ hlen, (List.forall_mem_cons.mp hhex).2,
              hends.imp_left Nat.succ.inj, ?_, ?_⟩
            · rw [hexFold, hexFold, List.foldl_cons, hd, Option.getD_some]
            · rw [List.length_cons]
              omega

/-- One group is read: its digits, up to where they end. -/
theorem oneGroup_iff {st st' : GroupState} {p : CStr} (hp : chr '/' ∉ p) :
    oneGroup st p = .ok st' ↔
      ∃ t : GroupText, p = t.digits ++ st'.p ∧ t.Ends st'.p ∧
        st' = { st with p := st'.p, groups := st.groups ++ [t.value] } := by
  unfold oneGroup
  rw [bind_eq_ok]
  constructor
  · rintro ⟨⟨val, seen, rest⟩, hdigits, h⟩
    obtain ⟨hzero, h⟩ := ite_error_eq_ok.mp h
    obtain ⟨-, h⟩ := ite_error_eq_ok.mp h
    obtain rfl := Except.ok.inj h
    obtain ⟨ds, hsplit, hlen, hhex, hends, rfl, hseen⟩ := (groupDigits_iff hp).mp hdigits
    have hne : ds ≠ [] := by
      rintro rfl
      exact hzero (by simpa using hseen)
    exact ⟨⟨ds, hne, hlen, hhex⟩, hsplit, hends, rfl⟩
  · rintro ⟨t, hsplit, hends, hst⟩
    have hdigits : groupDigits 4 p 0 0 = .ok (hexFold t.digits 0, t.digits.length, st'.p) :=
      (groupDigits_iff hp).mpr ⟨t.digits, hsplit, t.short, t.hex, hends, rfl, (Nat.zero_add _).symm⟩
    refine ⟨_, hdigits, ?_⟩
    dsimp only
    rw [if_neg (mt List.length_eq_zero_iff.mp t.nonempty), if_neg (not_lt.mpr t.hexFold_le), hst]
    rfl

/-- What a turn of the loop can do. -/
inductive Turn (st st' : GroupState) : Prop where
  /-- It passes the `::`, which there is one of. -/
  | gap : st.p = chr ':' :: chr ':' :: st'.p → st.doubleColon = none →
      st' = { st with p := st'.p, doubleColon := some st.groups.length } → Turn st st'
  /-- It takes a group, which only at the very beginning may not have a `:` before it. -/
  | group (g : Group) : st.p = g.text ++ st'.p → g.Ends st'.p →
      (g.colon = true → ¬ (st.groups = [] ∧ st.doubleColon = none)) →
      st' = { st with p := st'.p, groups := st.groups ++ [g.value] } → Turn st st'

/-- A group does not begin with a `:` of its own. -/
theorem GroupText.head_ne_colon (t : GroupText) (rest : CStr) :
    (t.digits ++ rest).head? ≠ some (chr ':') := by
  intro h
  obtain ⟨c, cs, hcs⟩ := List.exists_cons_of_ne_nil t.nonempty
  rw [hcs, List.cons_append, List.head?_cons, Option.some.injEq] at h
  have := t.hex c (hcs ▸ List.mem_cons_self)
  rw [h, hexVal_colon] at this
  cases this

theorem groupTurn_iff {st st' : GroupState} (hne : st.p ≠ []) (hslash : chr '/' ∉ st.p) :
    groupTurn st = .ok st' ↔ Turn st st' := by
  obtain ⟨c, p, hp⟩ := List.exists_cons_of_ne_nil hne
  have hslash' : chr '/' ∉ p := fun h => hslash (hp ▸ List.mem_cons_of_mem c h)
  have hturn : groupTurn st =
      if c = chr ':' ∧ p.head? = some (chr ':') then
        if st.doubleColon.isSome then .error .v6TwoDoubleColons
        else .ok { st with p := p.tail, doubleColon := some st.groups.length }
      else if c = chr ':' then
        if st.groups = [] ∧ st.doubleColon = none then .error .v6LeadingColon else oneGroup st p
      else oneGroup st (c :: p) := by
    unfold groupTurn
    rw [hp]
  rw [hturn]
  constructor
  · intro h
    rcases ite_eq_cases h with ⟨⟨hc, hhead⟩, h⟩ | ⟨-, h⟩
    · obtain ⟨hnone, h⟩ := ite_error_eq_ok.mp h
      obtain rfl := Except.ok.inj h
      refine .gap ?_ (Option.not_isSome_iff_eq_none.mp hnone) rfl
      rw [hp, hc]
      exact congrArg _ (List.eq_cons_of_mem_head? hhead)
    rcases ite_eq_cases h with ⟨hc, h⟩ | ⟨-, h⟩
    · obtain ⟨hfirst, h⟩ := ite_error_eq_ok.mp h
      obtain ⟨t, hsplit, hends, hst⟩ := (oneGroup_iff hslash').mp h
      refine .group ⟨t, true⟩ ?_ hends (fun _ => hfirst) hst
      rw [hp, hc, hsplit]
      rfl
    · obtain ⟨t, hsplit, hends, hst⟩ := (oneGroup_iff (hp ▸ hslash)).mp h
      exact .group ⟨t, false⟩ (hp.trans hsplit) hends nofun hst
  · intro h
    cases h with
    | gap hgap hnone hst =>
      obtain ⟨rfl, rfl⟩ := List.cons.inj (hp.symm.trans hgap)
      rw [if_pos ⟨rfl, rfl⟩, if_neg (by simp [hnone]), hst]
      rfl
    | group g hsplit hends hfirst hst =>
      rcases g with ⟨t, _ | _⟩
      · have hhead := t.head_ne_colon st'.p
        have htext : c :: p = t.digits ++ st'.p := hp.symm.trans hsplit
        have hc : c ≠ chr ':' := by
          rw [← htext] at hhead
          exact fun hc => hhead (hc ▸ rfl)
        rw [if_neg fun h => hc h.1, if_neg hc]
        exact (oneGroup_iff (hp ▸ hslash)).mpr ⟨t, htext, hends, hst⟩
      · obtain ⟨rfl, htext⟩ : c = chr ':' ∧ p = t.digits ++ st'.p := List.cons.inj (hp.symm.trans hsplit)
        have hhead := t.head_ne_colon st'.p
        rw [if_neg fun h => hhead (htext ▸ h.2), if_pos rfl, if_neg (hfirst rfl)]
        exact (oneGroup_iff hslash').mpr ⟨t, htext, hends, hst⟩

/-- The loop stops at the end of the text, and after eight groups. -/
theorem groupLoop_stop {st : GroupState} (h : st.p = [] ∨ 8 ≤ st.groups.length) (n : ℕ) :
    groupLoop n st = .ok st := by
  rcases n with _ | n
  · rfl
  · exact if_neg fun hgo => h.elim hgo.1 (not_le.mpr hgo.2)

theorem groupLoop_turn {st st' : GroupState} (hne : st.p ≠ []) (hroom : st.groups.length < 8)
    (hslash : chr '/' ∉ st.p) (h : Turn st st') (n : ℕ) : groupLoop (n + 1) st = groupLoop n st' := by
  rw [groupLoop, if_pos ⟨hne, hroom⟩, (groupTurn_iff hne hslash).mpr h]
  rfl

theorem Group.text_ne_nil (g : Group) : g.text ≠ [] := by
  unfold Group.text
  split_ifs
  · exact List.cons_ne_nil _ _
  · exact g.nonempty

/-- The state after a run of groups. -/
def GroupState.after (st : GroupState) (gs : List Group) (rest : CStr) : GroupState :=
  { st with p := rest, groups := st.groups ++ gs.map fun g => g.value }

@[simp] theorem after_p (st : GroupState) (gs : List Group) (rest : CStr) : (st.after gs rest).p = rest := rfl
@[simp] theorem after_groups (st : GroupState) (gs : List Group) (rest : CStr) :
    (st.after gs rest).groups = st.groups ++ gs.map fun g => g.value := rfl
@[simp] theorem after_doubleColon (st : GroupState) (gs : List Group) (rest : CStr) :
    (st.after gs rest).doubleColon = st.doubleColon := rfl

/-- A first group has no `:` before it. -/
def MayBegin (st : GroupState) (gs : List Group) : Prop :=
  ∀ g ∈ gs.head?, g.colon = true → ¬ (st.groups = [] ∧ st.doubleColon = none)

/-- The loop takes a run of groups one by one. -/
theorem groupLoop_run {gs : List Group} {rest : CStr} {st : GroupState} (hp : st.p = runText gs ++ rest)
    (hslash : chr '/' ∉ st.p) (hends : RunEnds gs rest) (hlen : st.groups.length + gs.length ≤ 8)
    (hfirst : MayBegin st gs) (n : ℕ) : groupLoop (n + gs.length) st = groupLoop n (st.after gs rest) := by
  induction gs generalizing st with
  | nil =>
    rw [GroupState.after, List.map_nil, List.append_nil, ← List.nil_append rest, ← runText_nil, ← hp]
    rfl
  | cons g gs ih =>
    have hsplit : st.p = g.text ++ (runText gs ++ rest) := hp.trans (runText_cons g gs rest)
    have hne : st.p ≠ [] := by
      rw [hsplit]
      exact List.append_ne_nil_of_left_ne_nil g.text_ne_nil _
    rw [List.length_cons] at hlen ⊢
    have hturn : Turn st ⟨runText gs ++ rest, st.groups ++ [g.value], st.doubleColon⟩ :=
      .group g hsplit hends.1 (hfirst g rfl) rfl
    rw [← Nat.add_assoc, groupLoop_turn hne (by omega) hslash hturn, ih rfl]
    · simp only [GroupState.after, List.map_cons, List.append_assoc, List.singleton_append]
    · exact fun hmem => hslash (hsplit ▸ List.mem_append_right _ hmem)
    · exact hends.2
    · rw [List.length_append, List.length_singleton]
      omega
    · exact fun _ _ _ hst => List.append_ne_nil_of_right_ne_nil _ (List.cons_ne_nil _ _) hst.1

/-- What stands at the head of the text when the loop does not take another group. -/
inductive Stopped (st st' : GroupState) (gs : List Group) (rest : CStr) (n : ℕ) : Prop where
  /-- It is over. -/
  | done : st' = st.after gs rest → rest = [] ∨ st.groups.length + gs.length = 8 ∨ gs.length = n →
      Stopped st st' gs rest n
  /-- A `::`, behind which it goes on. -/
  | gap (q : CStr) (m : ℕ) : rest = chr ':' :: chr ':' :: q → st.doubleColon = none →
      n = m + 1 + gs.length →
      groupLoop m ⟨q, (st.after gs q).groups, some (st.groups.length + gs.length)⟩ = .ok st' →
      Stopped st st' gs rest n

/-- The loop begins with a run of groups. -/
theorem groupLoop_begins {n : ℕ} {st st' : GroupState} (hslash : chr '/' ∉ st.p)
    (hlen : st.groups.length ≤ 8) (h : groupLoop n st = .ok st') :
    ∃ gs rest, st.p = runText gs ++ rest ∧ RunEnds gs rest ∧ st.groups.length + gs.length ≤ 8 ∧
      MayBegin st gs ∧ Stopped st st' gs rest n := by
  have hstart : st.after [] st.p = st := by
    rw [GroupState.after, List.map_nil, List.append_nil]
  induction n generalizing st with
  | zero =>
    obtain rfl := Except.ok.inj h
    exact ⟨[], st.p, rfl, trivial, hlen, nofun, .done hstart.symm (.inr (.inr rfl))⟩
  | succ n ih =>
    rw [groupLoop] at h
    rcases ite_eq_cases h with ⟨⟨hne, hroom⟩, h⟩ | ⟨hstop, h⟩
    swap
    · obtain rfl := Except.ok.inj h
      refine ⟨[], st.p, rfl, trivial, hlen, nofun, .done hstart.symm ?_⟩
      rcases Decidable.not_and_iff_or_not.mp hstop with hnil | hfull
      · exact .inl (not_not.mp hnil)
      · exact .inr (.inl (by rw [List.length_nil]; omega))
    obtain ⟨st₁, hturn, h⟩ := bind_eq_ok.mp h
    cases (groupTurn_iff hne hslash).mp hturn with
    | gap hgap hnone hst =>
      refine ⟨[], st.p, rfl, trivial, hlen, nofun, .gap st₁.p n hgap hnone rfl ?_⟩
      rw [hst] at h
      rw [after_groups, List.map_nil, List.append_nil]
      exact h
    | group g hsplit hends hfirst hst =>
      have hp₁ : chr '/' ∉ st₁.p := fun hmem => hslash (hsplit ▸ List.mem_append_right _ hmem)
      have hgroups : st₁.groups = st.groups ++ [g.value] := congrArg GroupState.groups hst
      have hlen₁ : st₁.groups.length = st.groups.length + 1 := by
        rw [hgroups, List.length_append, List.length_singleton]
      obtain ⟨gs, rest, hrun, hrunEnds, hle, -, hstopped⟩ := ih hp₁ (by omega) h
        (by rw [GroupState.after, List.map_nil, List.append_nil])
      refine ⟨g :: gs, rest, ?_, ⟨hrun ▸ hends, hrunEnds⟩, ?_, ?_, ?_⟩
      · rw [hsplit, hrun, runText_cons]
      · rw [List.length_cons]
        omega
      · intro g' hg' hcolon
        obtain rfl := Option.some.inj hg'
        exact hfirst hcolon
      · have hafter : ∀ r, st₁.after gs r = st.after (g :: gs) r := by
          intro r
          rw [GroupState.after, GroupState.after, hst, List.map_cons, List.append_assoc, List.singleton_append]
        cases hstopped with
        | done hst' hwhy =>
          refine .done (hst'.trans (hafter rest)) (hwhy.imp_right fun hwhy => ?_)
          rw [List.length_cons]
          omega
        | gap q m hq hnone hn hloop =>
          refine .gap q m hq (by rw [← hnone, hst]) (by rw [List.length_cons]; omega) ?_
          rw [← hafter, List.length_cons, ← Nat.add_assoc, Nat.add_right_comm, ← hlen₁]
          exact hloop

/-! ### Readings -/

/-- A text taken apart as the loop takes it. -/
inductive Reading where
  /-- Eight groups, and what is left of the text, which is not looked at. -/
  | full (groups : List Group) (rest : CStr)
  /-- The groups before and after the `::`. -/
  | gap (before after : List Group)

namespace Reading

def text : Reading → CStr
  | full gs rest => runText gs ++ rest
  | gap a b => runText a ++ chr ':' :: chr ':' :: runText b

/-- The eight groups of the address. -/
def values : Reading → List UInt16
  | full gs _ => gs.map fun g => g.value
  | gap a b => (a.map fun g => g.value) ++ List.replicate (8 - (a.length + b.length)) 0 ++ b.map fun g => g.value

/-- The loop reads it so: there is no `:` at the very beginning, and digits end where a group does. -/
def Formed : Reading → Prop
  | full gs rest => gs.length = 8 ∧ (∀ g ∈ gs.head?, g.colon = false) ∧ RunEnds gs rest ∧ chr '/' ∉ rest
  | gap a b => a.length + b.length ≤ 7 ∧ (∀ g ∈ a.head?, g.colon = false) ∧
      RunEnds a (chr ':' :: chr ':' :: runText b) ∧ RunEnds b []

end Reading

theorem slash_notMem_runText (gs : List Group) : chr '/' ∉ runText gs := by
  intro hmem
  obtain ⟨g, -, hg⟩ := List.mem_flatMap.mp hmem
  have hdigits : chr '/' ∉ g.digits := by
    intro h
    have := g.hex _ h
    rw [hexVal_slash] at this
    cases this
  unfold Group.text at hg
  split_ifs at hg
  · rcases List.mem_cons.mp hg with h | h
    · exact absurd h (by decide)
    · exact hdigits h
  · exact hdigits hg

theorem Reading.Formed.slash_notMem {r : Reading} (h : r.Formed) : chr '/' ∉ r.text := by
  cases r with
  | full gs rest =>
    intro hmem
    rcases List.mem_append.mp hmem with hrun | hrest
    · exact slash_notMem_runText gs hrun
    · exact h.2.2.2 hrest
  | gap a b =>
    intro hmem
    rcases List.mem_append.mp hmem with hrun | hrest
    · exact slash_notMem_runText a hrun
    · rcases List.mem_cons.mp hrest with h | h
      · exact absurd h (by decide)
      rcases List.mem_cons.mp h with h | h
      · exact absurd h (by decide)
      · exact slash_notMem_runText b h

theorem mayBegin_iff {st : GroupState} {gs : List Group} (hg : st.groups = [])
    (hd : st.doubleColon = none) :
    MayBegin st gs ↔ ∀ g ∈ gs.head?, g.colon = false := by
  simp [MayBegin, hg, hd]

/-- The state in which the loop begins. -/
def groupStart (s : CStr) : GroupState := ⟨s, [], none⟩

@[simp] theorem groupStart_groups (s : CStr) : (groupStart s).groups = [] := rfl
@[simp] theorem groupStart_doubleColon (s : CStr) : (groupStart s).doubleColon = none := rfl

/-! ### The expansion -/

theorem toList_array {st : GroupState} (h : st.groups.length ≤ 8) :
    st.array.toList = st.groups ++ List.replicate (8 - st.groups.length) 0 := by
  refine List.ext_getElem (by simp; omega) fun i hi _ => ?_
  have hi8 : i < 8 := by simpa using hi
  by_cases hread : i < st.groups.length
  · simp [GroupState.array, hread]
  · simp [GroupState.array, hread, List.getElem_append_right (Nat.not_lt.mp hread)]

/-- The groups that are to be moved have not been written over when their turn comes, since the last one goes first. -/
theorem getElem_moveGroups {before zeroFill n : ℕ} (groups : Vector UInt16 8) (h : before + zeroFill + n ≤ 8) {j : ℕ}
    (hj : j < 8) : (moveGroups before zeroFill n groups)[j] =
      if before + zeroFill ≤ j ∧ j < before + zeroFill + n then groups[j - zeroFill] else groups[j] := by
  induction n generalizing groups with
  | zero => rw [moveGroups, if_neg (by omega)]
  | succ i ih =>
    have hread : groups[before + i]?.getD 0 = groups[before + i] := by
      rw [Vector.getElem?_eq_getElem (by omega), Option.getD_some]
    rw [moveGroups, ih _ (by omega), hread]
    by_cases hmoved : before + zeroFill ≤ j ∧ j < before + zeroFill + i
    · rw [if_pos hmoved, if_pos (by omega), Vector.getElem_setIfInBounds_ne _ (by omega)]
    · rw [if_neg hmoved]
      by_cases hlast : before + zeroFill + i = j
      · subst hlast
        rw [Vector.getElem_setIfInBounds_self hj, if_pos (by omega)]
        congr 1
        omega
      · rw [Vector.getElem_setIfInBounds_ne hj hlast, if_neg (by omega)]

theorem getElem_zeroGroups {before zeroFill : ℕ} (groups : Vector UInt16 8) {j : ℕ} (hj : j < 8) :
    (zeroGroups before zeroFill groups)[j] = if before ≤ j ∧ j < before + zeroFill then 0 else groups[j] := by
  induction zeroFill with
  | zero => rw [zeroGroups, List.range_zero, List.foldl_nil, if_neg (by omega)]
  | succ i ih =>
    rw [zeroGroups, List.range_succ, List.foldl_append, List.foldl_cons, List.foldl_nil, ← zeroGroups,
      Vector.getElem_setIfInBounds hj, ih]
    split_ifs <;> first | rfl | omega

/-- The two loops leave what stands before the `::` where it is, then zeros, and then what stands behind it. -/
theorem toList_zeroGroups_moveGroups {before zeroFill after : ℕ} (groups : Vector UInt16 8)
    (h : before + zeroFill + after = 8) :
    (zeroGroups before zeroFill (moveGroups before zeroFill after groups)).toList =
      groups.toList.take before ++ List.replicate zeroFill 0 ++ (groups.toList.drop before).take after := by
  have hfirst : (groups.toList.take before).length = before := by
    rw [List.length_take, Vector.length_toList]
    omega
  have hmiddle : (groups.toList.take before ++ List.replicate zeroFill 0).length = before + zeroFill := by
    rw [List.length_append, hfirst, List.length_replicate]
  refine List.ext_getElem (by simp; omega) fun j hj _ => ?_
  have hj8 : j < 8 := by simpa using hj
  rw [Vector.getElem_toList, getElem_zeroGroups _ hj8, getElem_moveGroups _ h.le hj8]
  by_cases hbefore : j < before
  · rw [if_neg (by omega), if_neg (by omega), List.getElem_append_left (by omega), List.getElem_append_left (by omega),
      List.getElem_take, Vector.getElem_toList]
  · by_cases hzero : j < before + zeroFill
    · rw [if_pos (by omega), List.getElem_append_left (by omega), List.getElem_append_right (by omega),
        List.getElem_replicate]
    · rw [if_neg (by omega), if_pos (by omega), List.getElem_append_right (by omega), List.getElem_take,
        List.getElem_drop, Vector.getElem_toList]
      congr 1
      omega

/-- What the expansion makes of the groups before and after the `::`. -/
theorem expandGroups_gap (rest : CStr) (xs ys : List UInt16) {vs : List UInt16} :
    expandGroups ⟨rest, xs ++ ys, some xs.length⟩ = .ok vs ↔
      xs.length + ys.length ≤ 7 ∧ xs ++ List.replicate (8 - (xs.length + ys.length)) 0 ++ ys = vs := by
  have hafter : (xs ++ ys).length - xs.length = ys.length := by simp
  unfold expandGroups
  dsimp only
  rw [hafter, ite_error_eq_ok, Except.ok.injEq, not_lt]
  refine and_congr_right fun hmany => ?_
  rw [toList_zeroGroups_moveGroups _ (by omega), toList_array (by simp; omega), List.append_assoc xs ys, List.take_left,
    List.drop_left, List.take_left]

/-- Without a `::` there must be eight groups. -/
theorem expandGroups_none (rest : CStr) (xs : List UInt16) {vs : List UInt16} :
    expandGroups ⟨rest, xs, none⟩ = .ok vs ↔ xs.length = 8 ∧ xs = vs := by
  unfold expandGroups
  dsimp only
  rw [ite_error_eq_ok, Except.ok.injEq, not_not]
  refine and_congr_right fun height => ?_
  rw [toList_array height.le, height]
  simp

/-- The texts that the loop and the expansion accept are those with a reading, which gives the
groups. -/
theorem readGroups_iff {s : CStr} {vs : List UInt16} (hslash : chr '/' ∉ s) :
    (groupLoop 9 (groupStart s) >>= expandGroups) = .ok vs ↔
      ∃ r : Reading, r.Formed ∧ r.text = s ∧ r.values = vs := by
  rw [bind_eq_ok]
  constructor
  · rintro ⟨st, hloop, hexpand⟩
    have hempty : (groupStart s).groups.length ≤ 8 := Nat.zero_le 8
    obtain ⟨gs, rest, hrun, hends, hlen, hfirst, hstopped⟩ := groupLoop_begins hslash hempty hloop
    have hbegin := (mayBegin_iff rfl rfl).mp hfirst
    replace hrun : s = runText gs ++ rest := hrun
    have hrest : chr '/' ∉ rest := fun hmem => hslash (hrun ▸ List.mem_append_right _ hmem)
    rw [groupStart_groups, List.length_nil, Nat.zero_add] at hlen
    cases hstopped with
    | done hst hwhy =>
      subst hst
      obtain ⟨height, hvs⟩ := (expandGroups_none rest _).mp hexpand
      refine ⟨.full gs rest, ⟨?_, hbegin, hends, hrest⟩, hrun.symm, hvs⟩
      simpa using height
    | gap q m hq hnone hn hloop =>
      subst hq
      have hq : chr '/' ∉ q := fun hmem => hrest (List.mem_cons_of_mem _ (List.mem_cons_of_mem _ hmem))
      obtain ⟨bs, rest, hrun', hends', -, -, hstopped'⟩ := groupLoop_begins (by exact hq) (by simpa using hlen) hloop
      replace hrun' : q = runText bs ++ rest := hrun'
      cases hstopped' with
      | gap _ _ _ hnone' => cases hnone'
      | done hst hwhy =>
        subst hst
        have hexpand : expandGroups ⟨rest, (gs.map fun g => g.value) ++ bs.map fun g => g.value,
            some (gs.map fun g => g.value).length⟩ = .ok vs := by
          simpa [GroupState.after] using hexpand
        obtain ⟨hmany, hvs⟩ := (expandGroups_gap rest _ _).mp hexpand
        rw [List.length_map, List.length_map] at hmany hvs
        -- the loop has not run out of turns, nor out of groups
        obtain rfl : rest = [] := by
          rcases hwhy with hnil | hfull | hturns
          · exact hnil
          · simp only [after_groups, groupStart_groups, List.nil_append, List.length_map] at hfull
            omega
          · omega
        rw [List.append_nil] at hrun'
        subst hrun'
        exact ⟨.gap gs bs, ⟨hmany, hbegin, hends, hends'⟩, hrun.symm, hvs⟩
  · rintro ⟨r, hformed, rfl, rfl⟩
    cases r with
    | full gs rest =>
      obtain ⟨height, hbegin, hends, -⟩ := hformed
      refine ⟨(groupStart (Reading.full gs rest).text).after gs rest, ?_, ?_⟩
      · rw [show 9 = 1 + gs.length by omega, groupLoop_run rfl hslash hends (by simp; omega)
          ((mayBegin_iff rfl rfl).mpr hbegin)]
        exact groupLoop_stop (.inr (by simp; omega)) 1
      · exact (expandGroups_none rest _).mpr ⟨by simpa using height, rfl⟩
    | gap a b =>
      obtain ⟨hmany, hbegin, hends, hends'⟩ := hformed
      have hb : chr '/' ∉ runText b := slash_notMem_runText b
      have hgap : chr '/' ∉ chr ':' :: chr ':' :: runText b := by
        rw [List.mem_cons, List.mem_cons]
        exact not_or.mpr ⟨by decide, not_or.mpr ⟨by decide, hb⟩⟩
      have hstep : Turn ((groupStart (Reading.gap a b).text).after a (chr ':' :: chr ':' :: runText b))
          ⟨runText b, a.map fun g => g.value, some (a.map fun g => g.value).length⟩ := .gap rfl rfl rfl
      refine ⟨⟨[], (a.map fun g => g.value) ++ b.map fun g => g.value, some (a.map fun g => g.value).length⟩, ?_, ?_⟩
      · rw [show 9 = 8 - (a.length + b.length) + b.length + 1 + a.length by omega,
          groupLoop_run rfl hslash hends (by simp; omega) ((mayBegin_iff rfl rfl).mpr hbegin),
          groupLoop_turn (List.cons_ne_nil _ _) (by simp; omega) hgap hstep,
          groupLoop_run (by simp) hb hends' (by simp; omega) (by simp [MayBegin])]
        exact groupLoop_stop (.inl rfl) _
      · refine (expandGroups_gap [] _ _).mpr ⟨by simpa using hmany, ?_⟩
        rw [List.length_map, List.length_map]
        rfl

end TcpStats
