import TcpStats.Profile.Steps
import TcpStats.Profile.Invariant
import TcpStats.Lib.Run

/-!
# The handlers side by side do what they do one at a time

Whatever the threads do, faults and freed profiles included, the list is at every moment
one that some sequence of whole writes leaves behind (`linearizable`): a deletion and an
update take effect in their critical section, a creation when the profile goes into the
list. What the sequential model keeps, the list therefore keeps in every interleaving
(`list_valid`). The device nodes are another matter: a deletion takes its node away only
after it has let go of the lock.
-/

namespace TcpStats

open CString Machine Transition

namespace ProfileSystem

/-! ### Lists of addresses and of profiles -/

/-- The profiles at the addresses. -/
def View (heap : Ptr → Option TcpstatsProfile) (ps : List Ptr) (profs : List TcpstatsProfile) : Prop :=
  ps.map heap = profs.map some

variable {heap : Ptr → Option TcpstatsProfile} {ps : List Ptr} {profs : List TcpstatsProfile}
  {name : CStr} {p : Ptr}

theorem map_update {x : Option TcpstatsProfile} (hp : p ∉ ps) :
    ps.map (Function.update heap p x) = ps.map heap := by
  refine List.map_congr_left fun q hq => Function.update_of_ne ?_ _ _
  rintro rfl
  exact hp hq

/-- A change at another address does not show. -/
theorem View.update (h : View heap ps profs) (hp : p ∉ ps) (x : Option TcpstatsProfile) :
    View (Function.update heap p x) ps profs := by
  rw [View, map_update hp]
  exact h

/-- Where `tcpstats_profile_find` found a profile, in the list of addresses and in that of
profiles. -/
structure FoundAt (heap : Ptr → Option TcpstatsProfile) (name : CStr) (p : Ptr) (pre post : List Ptr)
    (xs : List TcpstatsProfile) (prof : TcpstatsProfile) (ys : List TcpstatsProfile) : Prop where
  here : heap p = some prof
  named : prof.named name = true
  before : View heap pre xs
  after : View heap post ys
  first : ∀ x ∈ xs, x.named name = false

theorem findLoop_found (hview : View heap ps profs) (h : findLoop heap name ps = some (some p)) :
    ∃ pre post xs prof ys, ps = pre ++ p :: post ∧ profs = xs ++ prof :: ys ∧
      FoundAt heap name p pre post xs prof ys := by
  induction ps generalizing profs with
  | nil => cases h
  | cons q ps ih =>
    rcases profs with _ | ⟨y, profs⟩
    · cases hview
    obtain ⟨hq, hview'⟩ := List.cons.inj hview
    rw [findLoop, hq] at h
    dsimp only at h
    split_ifs at h with hnamed
    · cases h
      exact ⟨[], ps, [], y, profs, rfl, rfl, hq, hnamed, rfl, hview', fun _ hx => absurd hx List.not_mem_nil⟩
    · obtain ⟨pre, post, xs, prof, ys, rfl, rfl, hfound⟩ := ih hview' h
      refine ⟨q :: pre, post, y :: xs, prof, ys, rfl, rfl, hfound.here, hfound.named, ?_, hfound.after, ?_⟩
      · exact congrArg₂ List.cons hq hfound.before
      · rintro x hx
        rcases List.mem_cons.mp hx with rfl | hx
        · exact Bool.not_eq_true _ ▸ hnamed
        · exact hfound.first x hx

theorem findLoop_none (hview : View heap ps profs) (h : findLoop heap name ps = some none) :
    tcpstatsProfileFind profs name = none := by
  induction ps generalizing profs with
  | nil =>
    obtain rfl := List.map_eq_nil_iff.mp hview.symm
    rfl
  | cons q ps ih =>
    rcases profs with _ | ⟨y, profs⟩
    · cases hview
    obtain ⟨hq, hview'⟩ := List.cons.inj hview
    rw [findLoop, hq] at h
    dsimp only at h
    split_ifs at h with hnamed
    · cases h
    · rw [tcpstatsProfileFind, List.find?_cons_of_neg hnamed]
      exact ih hview' h

theorem modify_findIdx {α : Type} {q : α → Bool} {f : α → α} {x : α} {xs ys : List α} (hx : q x = true)
    (hxs : ∀ y ∈ xs, q y = false) :
    (xs ++ x :: ys).modify ((xs ++ x :: ys).findIdx q) f = xs ++ f x :: ys := by
  induction xs with
  | nil => simp [List.findIdx_cons, hx]
  | cons y xs ih =>
    have hy := hxs y (List.mem_cons_self ..)
    have := ih fun z hz => hxs z (List.mem_cons_of_mem _ hz)
    simpa [List.findIdx_cons, hy] using this

namespace FoundAt

variable {pre post : List Ptr} {xs ys : List TcpstatsProfile} {prof : TcpstatsProfile}

theorem notMem_pre (h : FoundAt heap name p pre post xs prof ys) : p ∉ pre := by
  intro hp
  have hmem : heap p ∈ pre.map heap := List.mem_map_of_mem hp
  rw [h.before, h.here] at hmem
  obtain ⟨x, hx, hxp⟩ := List.mem_map.mp hmem
  obtain rfl := Option.some.inj hxp
  exact absurd h.named (by rw [h.first x hx]; decide)

theorem find (h : FoundAt heap name p pre post xs prof ys) :
    tcpstatsProfileFind (xs ++ prof :: ys) name = some prof := by
  have hxs : xs.find? (·.named name) = none := by
    refine List.find?_eq_none.mpr fun x hx => ?_
    rw [h.first x hx]
    decide
  rw [tcpstatsProfileFind, List.find?_append, hxs, List.find?_cons_of_pos h.named]
  rfl

/-- The profile taken out. -/
theorem erase (h : FoundAt heap name p pre post xs prof ys) :
    View heap ((pre ++ p :: post).erase p) ((xs ++ prof :: ys).eraseP (·.named name)) := by
  have hxs : ∀ x ∈ xs, ¬ x.named name = true := fun x hx => by rw [h.first x hx]; decide
  rw [List.erase_append_right _ h.notMem_pre, List.erase_cons_head, List.eraseP_append_right _ hxs,
    List.eraseP_cons_of_pos h.named]
  show (pre ++ post).map heap = (xs ++ ys).map some
  rw [List.map_append, List.map_append, h.before, h.after]

/-- The profile replaced. -/
theorem modify (h : FoundAt heap name p pre post xs prof ys) (hnodup : (pre ++ p :: post).Nodup)
    (f : TcpstatsProfile → TcpstatsProfile) :
    View (Function.update heap p (some (f prof))) (pre ++ p :: post)
      ((xs ++ prof :: ys).modify ((xs ++ prof :: ys).findIdx (·.named name)) f) := by
  have hpost : p ∉ post := (List.nodup_cons.mp (List.nodup_append.mp hnodup).2.1).1
  rw [modify_findIdx h.named h.first]
  show (pre ++ p :: post).map _ = (xs ++ f prof :: ys).map some
  rw [List.map_append, List.map_append, List.map_cons, List.map_cons, map_update h.notMem_pre,
    map_update hpost, Function.update_self, h.before, h.after]

end FoundAt

/-! ### Requests -/

theorem Requested.name_own {req : ProfileRequest NameRef} {name : CStr} (h : Requested req)
    (hname : req.name = .own name) :
    ∃ delivered r, profileSetRequest delivered = .ok r ∧ req = r.map .own ∧ r.name = name := by
  cases h with
  | set delivered r hr =>
    refine ⟨delivered, r, hr, rfl, ?_⟩
    cases r with
    | delete n => exact NameRef.own.inj hname
    | put n t f => exact NameRef.own.inj hname
  | profile delivered p _ hr =>
    cases req with
    | delete n =>
      obtain rfl := profileRequest_delete hr
      cases hname
    | put n t f =>
      obtain rfl := (profileRequest_put hr).1
      cases hname

/-- A write that asks for the same, by name. -/
theorem Requested.write {s : ProfileSystem} {req : ProfileRequest NameRef} (h : Requested req)
    {text : CStr} (htext : s.nameText req.name = some text) :
    ∃ w : ProfileWrite, w.request = some (req.map fun _ => text) := by
  cases h with
  | set delivered r hr =>
    refine ⟨.profileSet (.ok delivered) true, ?_⟩
    rw [ProfileWrite.request, hr]
    cases r with
    | delete n =>
      obtain rfl : n = text := Option.some.inj htext
      rfl
    | put n t f =>
      obtain rfl : n = text := Option.some.inj htext
      rfl
  | profile delivered p _ hr =>
    refine ⟨.profile text (.ok delivered), ?_⟩
    have := profileRequest_map (fun _ => text) hr
    rw [ProfileWrite.request, this]
    rfl

/-! ### The simulation -/

/-- A write would put the profile at the address in front of the list. -/
def Pending (s : ProfileSystem) (a : ProfileStore) (p : Ptr) : Prop :=
  ∃ w prof, s.heap p = some prof ∧ (profileWrite w a).2.profiles = prof :: a.profiles ∧
    (profileWrite w a).2.nprofiles = a.nprofiles + 1 ∧ (profileWrite w a).2.nextDev = a.nextDev + 1

/-- The system has the list of the store. -/
structure Sim (s : ProfileSystem) (a : ProfileStore) : Prop where
  view : View s.heap s.profiles a.profiles
  count : s.nprofiles = a.nprofiles
  /-- A profile that is being made has its device already. -/
  nextDev : s.nextDev = if s.lock = none then a.nextDev else a.nextDev + 1
  nodup : s.profiles.Nodup
  newPtr : ∀ p prof, s.heap p = some prof → p < s.nextPtr
  owned : ∀ t p, (s.pcs t).owns = some p →
    p < s.nextPtr ∧ p ∉ s.profiles ∧ ∀ u, (s.pcs u).owns = some p → u = t
  requests : ∀ t req, s.pcs t = .request req → Requested req
  pending : ∀ t p, (s.pcs t).makes = some p → s.lock = some t ∧ s.Pending a p

theorem Sim.init : ProfileSystem.init.Sim .init where
  view := rfl
  count := rfl
  nextDev := rfl
  nodup := List.nodup_nil
  newPtr _ _ h := nomatch h
  owned _ _ h := nomatch h
  requests _ _ h := nomatch h
  pending _ _ h := nomatch h

variable {s s' : ProfileSystem} {a : ProfileStore} {t : Tid}

/-- What holds of where a thread stands after a step of `t`. -/
theorem update_cases (P : Pc → Prop) {pcs : Tid → Pc} {pc : Pc} {u : Tid}
    (h : P (Function.update pcs t pc u)) : u = t ∧ P pc ∨ u ≠ t ∧ P (pcs u) := by
  by_cases hut : u = t
  · rw [hut, Function.update_self] at h
    exact .inl ⟨hut, h⟩
  · rw [Function.update_of_ne hut] at h
    exact .inr ⟨hut, h⟩

/-- At a point where it has no profile, `t` is not the thread that has one. -/
theorem owns_update {pcs : Tid → Pc} {pc : Pc} (hpc : pc.owns = none) {u : Tid} {q : Ptr}
    (h : (Function.update pcs t pc u).owns = some q) : u ≠ t ∧ (pcs u).owns = some q := by
  rcases update_cases (·.owns = some q) h with ⟨-, hq⟩ | hu
  · exact nomatch hpc.symm.trans hq
  · exact hu

theorem makes_update {pcs : Tid → Pc} {pc : Pc} (hpc : pc.makes = none) {u : Tid} {q : Ptr}
    (h : (Function.update pcs t pc u).makes = some q) : u ≠ t ∧ (pcs u).makes = some q := by
  rcases update_cases (·.makes = some q) h with ⟨-, hq⟩ | hu
  · exact nomatch hpc.symm.trans hq
  · exact hu

/-- A thread that goes on to no request leaves the requests what they are. -/
theorem Sim.requests_update (h : s.Sim a) {pc : Pc} (hpc : ∀ req, pc ≠ .request req) {u : Tid}
    {req : ProfileRequest NameRef} (hu : Function.update s.pcs t pc u = .request req) : Requested req := by
  rcases update_cases (· = .request req) hu with ⟨-, hreq⟩ | ⟨-, hreq⟩
  · exact absurd hreq (hpc req)
  · exact h.requests u req hreq

/-- A thread goes on, and takes hold of no other profile. -/
theorem Sim.moved (h : s.Sim a) (pc : Pc) (hsame : SameList s s')
    (hpcs : s'.pcs = Function.update s.pcs t pc)
    (howns : ∀ p, pc.owns = some p → (s.pcs t).owns = some p)
    (hmakes : ∀ p, pc.makes = some p → (s.pcs t).makes = some p)
    (hreq : ∀ req, pc = .request req → Requested req) : s'.Sim a := by
  have hold : ∀ u p, (s'.pcs u).owns = some p → (s.pcs u).owns = some p := by
    intro u p hu
    rw [hpcs] at hu
    rcases update_cases (·.owns = some p) hu with ⟨rfl, hp⟩ | ⟨-, hp⟩
    · exact howns p hp
    · exact hp
  refine ⟨?_, ?_, ?_, ?_, ?_, ?_, ?_, ?_⟩
  · rw [hsame.heap, hsame.profiles]
    exact h.view
  · rw [hsame.nprofiles, h.count]
  · rw [hsame.nextDev, hsame.lock, h.nextDev]
  · rw [hsame.profiles]
    exact h.nodup
  · rw [hsame.heap, hsame.nextPtr]
    exact h.newPtr
  · intro u p hu
    obtain ⟨hlt, hnot, huniq⟩ := h.owned u p (hold u p hu)
    rw [hsame.nextPtr, hsame.profiles]
    exact ⟨hlt, hnot, fun v hv => huniq v (hold v p hv)⟩
  · intro u req hu
    rw [hpcs] at hu
    rcases update_cases (· = .request req) hu with ⟨-, hpc⟩ | ⟨-, hpc⟩
    · exact hreq req hpc
    · exact h.requests u req hpc
  · intro u p hu
    have hmake : (s.pcs u).makes = some p := by
      rw [hpcs] at hu
      rcases update_cases (·.makes = some p) hu with ⟨rfl, hp⟩ | ⟨-, hp⟩
      · exact hmakes p hp
      · exact hp
    obtain ⟨hlock, w, prof, hprof, hw⟩ := h.pending u p hmake
    rw [hsame.lock]
    exact ⟨hlock, w, prof, by rw [hsame.heap]; exact hprof, hw⟩

/-- A thread that goes to a point where it has no profile and no request. -/
theorem Sim.settle (h : s.Sim a) (pc : Pc) (hsame : SameList s s')
    (hpcs : s'.pcs = Function.update s.pcs t pc) (howns : pc.owns = none)
    (hreq : ∀ req, pc ≠ .request req) : s'.Sim a := by
  refine h.moved pc hsame hpcs ?_ ?_ fun req hpc => absurd hpc (hreq req)
  · intro p hp
    rw [howns] at hp
    cases hp
  · intro p hp
    rw [Pc.owns_of_makes hp] at howns
    cases howns

/-! ### Critical sections -/

/-- A found profile has a name to look for, and a place in both lists. -/
theorem Sim.found (h : s.Sim a) {name : NameRef} {p : Ptr} (hfind : s.find name = some (some p)) :
    ∃ text pre post xs prof ys, s.nameText name = some text ∧ s.profiles = pre ++ p :: post ∧
      a.profiles = xs ++ prof :: ys ∧ FoundAt s.heap text p pre post xs prof ys := by
  unfold ProfileSystem.find at hfind
  split_ifs at hfind
  · cases hfind
  · obtain ⟨text, htext, hloop⟩ := Option.bind_eq_some_iff.mp hfind
    obtain ⟨pre, post, xs, prof, ys, hps, hxs, hfound⟩ := findLoop_found h.view hloop
    exact ⟨text, pre, post, xs, prof, ys, htext, hps, hxs, hfound⟩

theorem Sim.not_found (h : s.Sim a) {name : CStr} (hfind : s.find (.own name) = some none) :
    tcpstatsProfileFind a.profiles name = none := by
  unfold ProfileSystem.find at hfind
  split_ifs at hfind with hempty
  · have hview := h.view
    rw [hempty] at hview
    obtain hnil : a.profiles = [] := List.map_eq_nil_iff.mp hview.symm
    rw [hnil]
    rfl
  · obtain ⟨text, htext, hloop⟩ := Option.bind_eq_some_iff.mp hfind
    obtain rfl := Option.some.inj htext
    exact findLoop_none h.view hloop

/-- Nobody is making a profile while the lock is free. -/
theorem Sim.not_makes (h : s.Sim a) (hlock : s.lock = none) (u : Tid) : (s.pcs u).makes = none := by
  rcases hm : (s.pcs u).makes with _ | p
  · rfl
  · exact nomatch hlock.symm.trans (h.pending u p hm).1

/-- A deletion in its critical section is a deletion by name. -/
theorem Sim.detach (h : s.Sim a) {name : NameRef} {p : Ptr} (hfind : s.find name = some (some p))
    (hlock : s.lock = none) (hreq : Requested (.delete name)) :
    ∃ w, ({ s.goto t (.detached p) with
      profiles := s.profiles.erase p, nprofiles := s.nprofiles - 1 } : ProfileSystem).Sim
        (profileWrite w a).2 := by
  obtain ⟨text, pre, post, xs, prof, ys, htext, hps, hxs, hfound⟩ := h.found hfind
  obtain ⟨w, hw⟩ := hreq.write htext
  have hwrite : (profileWrite w a).2 = (a.detach text).destroyUnlocked prof := by
    rw [profileWrite_delete hw, ProfileStore.remove, hxs, hfound.find]
  have hmem : p ∈ s.profiles := by rw [hps]; exact List.mem_append_right _ (List.mem_cons_self ..)
  refine ⟨w, ?_⟩
  rw [hwrite]
  refine ⟨?_, ?_, ?_, h.nodup.erase p, h.newPtr, ?_, ?_, ?_⟩
  · rw [destroyUnlocked_profiles, ProfileStore.detach, hxs]
    show View s.heap (s.profiles.erase p) _
    rw [hps]
    exact hfound.erase
  · rw [destroyUnlocked_nprofiles, ProfileStore.detach, ← h.count]
  · rw [destroyUnlocked_nextDev]
    exact h.nextDev
  · intro u q hu
    rcases update_cases (·.owns = some q) hu with ⟨rfl, hq⟩ | ⟨-, hq⟩
    · obtain rfl : p = q := Option.some.inj hq
      refine ⟨h.newPtr p prof hfound.here, h.nodup.not_mem_erase, fun v hv => ?_⟩
      rcases update_cases (·.owns = some p) hv with ⟨hvu, -⟩ | ⟨-, hvp⟩
      · exact hvu
      · exact absurd hmem (h.owned v p hvp).2.1
    · obtain ⟨hlt, hnot, huniq⟩ := h.owned u q hq
      refine ⟨hlt, fun hq' => hnot (List.mem_of_mem_erase hq'), fun v hv => ?_⟩
      rcases update_cases (·.owns = some q) hv with ⟨-, hpq⟩ | ⟨-, hvq⟩
      · obtain rfl : p = q := Option.some.inj hpq
        exact absurd hmem hnot
      · exact huniq v hvq
  · exact fun u req hu => h.requests_update (fun _ => Pc.noConfusion) hu
  · intro u q hu
    have hmakes := (h.not_makes hlock u).symm.trans (makes_update rfl hu).2
    cases hmakes

/-- An update in its critical section is an update by name. -/
theorem Sim.update (h : s.Sim a) {name : NameRef} {p : Ptr} {filterStr : CStr} {filter : TcpstatsFilter}
    {prof : TcpstatsProfile} (hprof : s.heap p = some prof) (hfind : s.find name = some (some p))
    (hlock : s.lock = none) (hreq : Requested (.put name filterStr filter)) :
    ∃ w, ({ s.goto t (.updated name) with
      heap := Function.update s.heap p (some { prof with filterStr := strlcpy 512 filterStr, filter }) } :
        ProfileSystem).Sim (profileWrite w a).2 := by
  obtain ⟨text, pre, post, xs, prof', ys, htext, hps, hxs, hfound⟩ := h.found hfind
  obtain rfl : prof = prof' := Option.some.inj (hprof.symm.trans hfound.here)
  obtain ⟨w, hw⟩ := hreq.write htext
  have hisSome : (tcpstatsProfileFind a.profiles text).isSome = true := by
    rw [hxs, hfound.find]
    rfl
  refine ⟨w, ?_⟩
  rw [profileWrite_update hw hisSome]
  refine ⟨?_, h.count, h.nextDev, h.nodup, ?_, ?_, ?_, ?_⟩
  · show View _ s.profiles ((a.profiles.modify (a.profiles.findIdx (·.named text)) _))
    rw [hps, hxs]
    exact hfound.modify (hps ▸ h.nodup) fun prof => { prof with filterStr := strlcpy 512 filterStr, filter }
  · intro q old hq
    by_cases hqp : q = p
    · exact hqp ▸ h.newPtr p prof hprof
    · exact h.newPtr q old ((Function.update_of_ne hqp _ _).symm.trans hq)
  · intro u q hu
    obtain ⟨hlt, hnot, huniq⟩ := h.owned u q (owns_update rfl hu).2
    exact ⟨hlt, hnot, fun v hv => huniq v (owns_update rfl hv).2⟩
  · exact fun u req hu => h.requests_update (fun _ => Pc.noConfusion) hu
  · intro u q hu
    have hmakes := (h.not_makes hlock u).symm.trans (makes_update rfl hu).2
    cases hmakes

/-- A write that asks for a new profile, where there is room for it, puts it in front. -/
theorem Requested.create {name filterStr : CStr} {filter : TcpstatsFilter}
    (hreq : Requested (.put (.own name) filterStr filter)) (hfind : tcpstatsProfileFind a.profiles name = none)
    (hroom : ¬ a.nprofiles ≥ TSF_MAX_PROFILES) :
    ∃ w, profileWrite w a = a.clearError.create name filterStr filter true := by
  obtain ⟨delivered, r, hr, hput, hname⟩ := hreq.name_own rfl
  cases r with
  | delete n => cases hput
  | put n f flt =>
    obtain ⟨hn, rfl, rfl⟩ := ProfileRequest.put.inj hput
    obtain rfl := NameRef.own.inj hn
    refine ⟨.profileSet (.ok delivered) true, ?_⟩
    have hnone : (tcpstatsProfileFind a.clearError.profiles name).isSome ≠ true := by
      rw [show a.clearError.profiles = a.profiles from rfl, hfind]
      decide
    simp only [profileWrite, tcpstatsProfileSetHandler, hr]
    rw [if_neg hnone]
    exact if_neg hroom

theorem Sim.lt_of_mem (h : s.Sim a) {p : Ptr} (hp : p ∈ s.profiles) : p < s.nextPtr := by
  have hmem : s.heap p ∈ s.profiles.map s.heap := List.mem_map_of_mem hp
  rw [h.view] at hmem
  obtain ⟨prof, -, hprof⟩ := List.mem_map.mp hmem
  exact h.newPtr p prof hprof.symm

/-- A creation that has its device changes no list yet. -/
theorem Sim.publish (h : s.Sim a) {name filterStr : CStr} {filter : TcpstatsFilter}
    (hfind : s.find (.own name) = some none) (hroom : ¬ s.nprofiles ≥ TSF_MAX_PROFILES)
    (hlock : s.lock = none) (hreq : Requested (.put (.own name) filterStr filter)) :
    ({ s.goto t (.published s.nextPtr s.nextDev) with
      heap := Function.update s.heap s.nextPtr (some (newProfile name filterStr filter s.nextDev))
      nextPtr := s.nextPtr + 1
      lock := some t
      nodes := ⟨s.nextDev, (strlcpy 32 name).str⟩ :: s.nodes
      nextDev := s.nextDev + 1 } : ProfileSystem).Sim a := by
  have hdev : s.nextDev = a.nextDev := by rw [h.nextDev, if_pos hlock]
  obtain ⟨w, hw⟩ := hreq.create (h.not_found hfind) (h.count ▸ hroom)
  have hnew : s.nextPtr ∉ s.profiles := fun hp => lt_irrefl _ (h.lt_of_mem hp)
  have hfresh : ∀ u, (s.pcs u).owns ≠ some s.nextPtr := fun u hu => lt_irrefl _ (h.owned u _ hu).1
  refine ⟨h.view.update hnew _, h.count, ?_, h.nodup, ?_, ?_, ?_, ?_⟩
  · rw [if_neg (Option.some_ne_none t)]
    exact congrArg (· + 1) hdev
  · intro q prof hq
    by_cases hqp : q = s.nextPtr
    · exact hqp ▸ Nat.lt_succ_self _
    · exact Nat.lt_succ_of_lt (h.newPtr q prof ((Function.update_of_ne hqp _ _).symm.trans hq))
  · intro u q hu
    rcases update_cases (·.owns = some q) hu with ⟨rfl, hq⟩ | ⟨-, hq⟩
    · obtain rfl : s.nextPtr = q := Option.some.inj hq
      refine ⟨Nat.lt_succ_self _, hnew, fun v hv => ?_⟩
      rcases update_cases (·.owns = some s.nextPtr) hv with ⟨hvu, -⟩ | ⟨-, hvp⟩
      · exact hvu
      · exact absurd hvp (hfresh v)
    · obtain ⟨hlt, hnot, huniq⟩ := h.owned u q hq
      refine ⟨Nat.lt_succ_of_lt hlt, hnot, fun v hv => ?_⟩
      rcases update_cases (·.owns = some q) hv with ⟨-, hpq⟩ | ⟨-, hvq⟩
      · obtain rfl : s.nextPtr = q := Option.some.inj hpq
        exact absurd hq (hfresh u)
      · exact huniq v hvq
  · exact fun u req hu => h.requests_update (fun _ => Pc.noConfusion) hu
  · intro u q hu
    rcases update_cases (·.makes = some q) hu with ⟨rfl, hq⟩ | ⟨-, hpc⟩
    · obtain rfl : s.nextPtr = q := Option.some.inj hq
      refine ⟨rfl, w, newProfile name filterStr filter s.nextDev, Function.update_self .., ?_⟩
      rw [hw, hdev]
      exact ⟨rfl, rfl, rfl⟩
    · rw [h.not_makes hlock u] at hpc
      cases hpc

/-- A creation takes effect where the profile goes into the list. -/
theorem Sim.link (h : s.Sim a) {p : Ptr} (ht : s.pcs t = .stored p) :
    ∃ w, ({ s.goto t (.created p) with
      profiles := p :: s.profiles, nprofiles := s.nprofiles + 1, lock := none } : ProfileSystem).Sim
        (profileWrite w a).2 := by
  obtain ⟨hlock, w, prof, hprof, hprofs, hcount, hdev⟩ := h.pending t p (by rw [ht]; rfl)
  obtain ⟨-, hnot, huniq⟩ := h.owned t p (by rw [ht]; rfl)
  refine ⟨w, ?_, ?_, ?_, List.nodup_cons.mpr ⟨hnot, h.nodup⟩, h.newPtr, ?_, ?_, ?_⟩
  · rw [hprofs]
    exact congrArg₂ List.cons hprof h.view
  · rw [hcount]
    exact congrArg (· + 1) h.count
  · rw [hdev, if_pos rfl]
    exact h.nextDev.trans (if_neg (by rw [hlock]; exact Option.some_ne_none t))
  · intro u q hu
    obtain ⟨hut, hq⟩ := owns_update rfl hu
    obtain ⟨hlt, hnot', huniq'⟩ := h.owned u q hq
    refine ⟨hlt, fun hmem => ?_, fun v hv => huniq' v (owns_update rfl hv).2⟩
    rcases List.mem_cons.mp hmem with rfl | hmem
    · exact hut (huniq u hq)
    · exact hnot' hmem
  · exact fun u req hu => h.requests_update (fun _ => Pc.noConfusion) hu
  · intro u q hu
    obtain ⟨hut, hmakes⟩ := makes_update rfl hu
    exact absurd (Option.some.inj ((h.pending u q hmakes).1.symm.trans hlock)) hut

/-- A profile that is out of the list, and that nobody is making, may go. -/
theorem Sim.erase (h : s.Sim a) {p : Ptr} (hlist : p ∉ s.profiles)
    (hmakes : ∀ u, (s.pcs u).makes ≠ some p) :
    ({ s with heap := Function.update s.heap p none } : ProfileSystem).Sim a := by
  refine ⟨h.view.update hlist _, h.count, h.nextDev, h.nodup, ?_, h.owned, h.requests, ?_⟩
  · intro q prof hq
    have hqp : q ≠ p := by
      rintro rfl
      exact nomatch (Function.update_self q none s.heap).symm.trans hq
    exact h.newPtr q prof ((Function.update_of_ne hqp _ _).symm.trans hq)
  · intro u q hu
    obtain ⟨hlock, w, prof, hprof, hw⟩ := h.pending u q hu
    have hqp : q ≠ p := by
      rintro rfl
      exact hmakes u hu
    exact ⟨hlock, w, prof, (Function.update_of_ne hqp _ _).trans hprof, hw⟩

/-- Freeing a profile that is out of the list. -/
theorem Sim.free (h : s.Sim a) {p : Ptr} (ht : s.pcs t = .freeing p) :
    ({ s.goto t .idle with heap := Function.update s.heap p none } : ProfileSystem).Sim a := by
  obtain ⟨-, hlist, huniq⟩ := h.owned t p (by rw [ht]; rfl)
  have hidle : (s.goto t .idle).Sim a :=
    h.settle .idle ⟨rfl, rfl, rfl, rfl, rfl, rfl⟩ rfl rfl fun _ => Pc.noConfusion
  refine hidle.erase hlist fun u hu => ?_
  obtain ⟨hut, hmakes⟩ := makes_update rfl hu
  exact hut (huniq u (Pc.owns_of_makes hmakes))

/-! ### Steps -/

/-- Every event is a write to the store, or does nothing to it. -/
theorem Sim.step (h : s.Sim a) {e : ProfileEvent} (hstep : ProfileStep s e s') :
    s'.Sim a ∨ ∃ w, s'.Sim (profileWrite w a).2 := by
  cases profileStep_change hstep with
  | nothing => exact .inl h
  | move t pc hsame _ hpcs howns hmakes _ hreq =>
    exact .inl (h.moved pc hsame hpcs (fun _ hp => howns ▸ hp) (fun _ hp => hmakes ▸ hp) hreq)
  | lose t p _ _ =>
    exact .inl (h.settle .idle ⟨rfl, rfl, rfl, rfl, rfl, rfl⟩ rfl rfl fun _ => Pc.noConfusion)
  | detach t ok name p _ ht hlock hfind => exact .inr (h.detach hfind hlock (h.requests t _ ht))
  | update t name p filterStr filter prof ht hlock hfind hprof =>
    exact .inr (h.update hprof hfind hlock (h.requests t _ ht))
  | publish t name filterStr filter _ ht hlock hfind hroom =>
    exact .inl (h.publish hfind hroom hlock (h.requests t _ ht))
  | link t p prof ht _ => exact .inr (h.link ht)
  | hide t p prof dev ht _ _ =>
    refine .inl (h.moved (.destroying p dev) ⟨rfl, rfl, rfl, rfl, rfl, rfl⟩ rfl ?_ ?_ ?_)
    · rintro q ⟨⟩
      rw [ht]
      rfl
    · rintro q ⟨⟩
    · rintro req ⟨⟩
  | bare t p prof ht _ _ =>
    refine .inl (h.moved (.destroyed p) ⟨rfl, rfl, rfl, rfl, rfl, rfl⟩ rfl ?_ ?_ ?_)
    · rintro q ⟨⟩
      rw [ht]
      rfl
    · rintro q ⟨⟩
    · rintro req ⟨⟩
  | free t p prof ht _ => exact .inl (h.free ht)

/-! ### Runs -/

theorem sim_of_run {es : List ProfileEvent} {s : ProfileSystem} (run : Run ProfileStep init es s) :
    ∃ ws, s.Sim (final profileWrite ws .init) := by
  refine run.inv (I := fun s => ∃ ws, s.Sim (final profileWrite ws .init)) ⟨[], .init⟩ ?_
  rintro u e v ⟨ws, hsim⟩ hstep
  rcases hsim.step hstep with hv | ⟨w, hv⟩
  · exact ⟨ws, hv⟩
  · exact ⟨ws ++ [w], by rw [final_snoc]; exact hv⟩

/-- Whatever state the threads have reached, some writes one after another make its list. -/
theorem linearizable {es : List ProfileEvent} {s : ProfileSystem} (run : Run ProfileStep init es s) :
    ∃ ws, View s.heap s.profiles (final profileWrite ws .init).profiles ∧
      s.nprofiles = (final profileWrite ws .init).nprofiles := by
  obtain ⟨ws, hsim⟩ := sim_of_run run
  exact ⟨ws, hsim.view, hsim.count⟩

/-- The list holds profiles that are there, each once and no more than there may be, and the filter
of each is what its text parses to. -/
theorem list_valid {es : List ProfileEvent} {s : ProfileSystem} (run : Run ProfileStep init es s) :
    s.nprofiles = s.profiles.length ∧ s.profiles.length ≤ TSF_MAX_PROFILES ∧ s.profiles.Nodup ∧
      ∀ p ∈ s.profiles, ∃ prof, s.heap p = some prof ∧
        tsfParseFilterString prof.filterStr.str = .ok prof.filter := by
  obtain ⟨ws, hsim⟩ := sim_of_run run
  have hvalid := final_valid ws
  have hlen : s.profiles.length = (final profileWrite ws .init).profiles.length := by
    simpa only [List.length_map] using congrArg List.length hsim.view
  refine ⟨?_, hlen ▸ hvalid.limit, hsim.nodup, ?_⟩
  · rw [hsim.count, hvalid.count, hlen]
  · intro p hp
    have hmem : s.heap p ∈ s.profiles.map s.heap := List.mem_map_of_mem hp
    rw [hsim.view] at hmem
    obtain ⟨prof, hprof, hheap⟩ := List.mem_map.mp hmem
    exact ⟨prof, hheap.symm, (final_stored ws prof hprof).parsed⟩

end ProfileSystem

end TcpStats
