import TcpStats.Profile.Linearize
import TcpStats.Profile.Names
import TcpStats.Profile.Handles

/-!
# Nodes and who takes them away

Every node that can be opened is that of a profile that is in the list, or in the hands of
somebody who will pass the node to `destroy_dev` or put the profile into the list
(`NodesKept`). A creation makes its node when no profile of the name is in the list and
nobody else is making one, so the only node of that name there can be is one of a deleted
profile that has not been passed to `destroy_dev` yet: between the end of the critical
section of the deletion and the call (`device_names_new_iff`).
-/

namespace TcpStats

open CString Machine Transition

namespace ProfileSystem

variable {s s' : ProfileSystem} {a : ProfileStore} {t : Tid} {p : Ptr} {held : List Ptr} {e : ProfileEvent}

/-! ### Profiles that no handler reaches -/

/-- The profile is in no list and in the hands of no handler. -/
structure Spare (s : ProfileSystem) (p : Ptr) : Prop where
  old : p < s.nextPtr
  unlisted : p ∉ s.profiles
  unowned : ∀ t, (s.pcs t).owns ≠ some p

theorem Spare.goto_owns (h : s.Spare p) {pc : Pc} (hpc : pc.owns ≠ some p) (u : Tid) :
    (Function.update s.pcs t pc u).owns ≠ some p := by
  intro hu
  rcases update_cases (·.owns = some p) hu with ⟨-, hp⟩ | ⟨-, hp⟩
  · exact hpc hp
  · exact h.unowned u hp

/-- The handlers leave such a profile alone. -/
theorem Spare.step (h : s.Spare p) (hstep : ProfileStep s e s') : s'.Spare p ∧ s'.heap p = s.heap p := by
  cases profileStep_change hstep with
  | nothing => exact ⟨h, rfl⟩
  | move t pc hsame _ hpcs howns _ _ _ =>
    refine ⟨⟨?_, ?_, ?_⟩, by rw [hsame.heap]⟩
    · rw [hsame.nextPtr]
      exact h.old
    · rw [hsame.profiles]
      exact h.unlisted
    · rw [hpcs]
      exact h.goto_owns (howns ▸ h.unowned t)
  | lose t q _ _ => exact ⟨⟨h.old, h.unlisted, h.goto_owns nofun⟩, rfl⟩
  | detach t ok name q _ _ _ hfind =>
    have hqp : q ≠ p := by
      rintro rfl
      exact h.unlisted (mem_of_find hfind)
    refine ⟨⟨h.old, fun hp => h.unlisted (List.mem_of_mem_erase hp), h.goto_owns ?_⟩, rfl⟩
    exact fun howns => hqp (Option.some.inj howns)
  | update t name q filterStr filter prof _ _ hfind _ =>
    have hpq : p ≠ q := by
      rintro rfl
      exact h.unlisted (mem_of_find hfind)
    exact ⟨⟨h.old, h.unlisted, h.goto_owns nofun⟩, Function.update_of_ne hpq _ _⟩
  | publish t name filterStr filter _ _ _ _ _ =>
    have hp : p ≠ s.nextPtr := h.old.ne
    refine ⟨⟨Nat.lt_succ_of_lt h.old, h.unlisted, h.goto_owns ?_⟩, Function.update_of_ne hp _ _⟩
    exact fun howns => hp (Option.some.inj howns).symm
  | link t q prof ht _ =>
    refine ⟨⟨h.old, ?_, h.goto_owns nofun⟩, rfl⟩
    intro hp
    rcases List.mem_cons.mp hp with rfl | hp
    · exact h.unowned t (by rw [ht]; rfl)
    · exact h.unlisted hp
  | hide t q prof dev ht _ _ =>
    refine ⟨⟨h.old, h.unlisted, h.goto_owns ?_⟩, rfl⟩
    exact fun howns => h.unowned t (by rw [ht]; exact howns)
  | bare t q prof ht _ _ =>
    refine ⟨⟨h.old, h.unlisted, h.goto_owns ?_⟩, rfl⟩
    exact fun howns => h.unowned t (by rw [ht]; exact howns)
  | free t q prof ht _ =>
    have hpq : p ≠ q := by
      rintro rfl
      exact h.unowned t (by rw [ht]; rfl)
    exact ⟨⟨h.old, h.unlisted, h.goto_owns nofun⟩, Function.update_of_ne hpq _ _⟩

/-! ### Nodes -/

/-- The node is that of the profile at the address. -/
def NodeOf (s : ProfileSystem) (node : Cdev) (p : Ptr) : Prop :=
  ∃ prof, s.heap p = some prof ∧ prof.dev = some node.num ∧ prof.name.str = node.name

/-- The profile is in the list, among those `held`, or in the hands of a thread that has not passed
its node to `destroy_dev`. -/
def Kept (s : ProfileSystem) (held : List Ptr) (p : Ptr) : Prop :=
  p ∈ s.profiles ∨ p ∈ held ∨ ∃ t, (s.pcs t).keeps = some p

/-- The nodes are those of such profiles. -/
def NodesKept (s : ProfileSystem) (held : List Ptr) : Prop :=
  ∀ node ∈ s.nodes, ∃ p, s.NodeOf node p ∧ s.Kept held p

theorem NodesKept.init : ProfileSystem.init.NodesKept [] := fun _ h => absurd h List.not_mem_nil

/-- A step of a thread that has no such profile, before or after, and leaves the list. -/
theorem Kept.other (h : s.Kept held p) {pc : Pc} (ht : (s.pcs t).keeps ≠ some p)
    (hprofiles : p ∈ s.profiles → p ∈ s'.profiles) (hpcs : s'.pcs = Function.update s.pcs t pc) :
    s'.Kept held p := by
  rcases h with hlist | hheld | ⟨u, hu⟩
  · exact .inl (hprofiles hlist)
  · exact .inr (.inl hheld)
  · refine .inr (.inr ⟨u, ?_⟩)
    have hut : u ≠ t := by
      rintro rfl
      exact ht hu
    rw [hpcs, Function.update_of_ne hut]
    exact hu

/-- A step of a thread that has a profile with another device, and leaves the profiles as they are. -/
theorem NodesKept.detached (h : s.NodesKept held) {node : Cdev} (hnode : node ∈ s.nodes) {q : Ptr}
    {prof : TcpstatsProfile} {pc : Pc} (ht : s.pcs t = .detached q) (hprof : s.heap q = some prof)
    (hdev : prof.dev ≠ some node.num) (hheap : s'.heap = s.heap) (hprofiles : s'.profiles = s.profiles)
    (hpcs : s'.pcs = Function.update s.pcs t pc) : ∃ p, s'.NodeOf node p ∧ s'.Kept held p := by
  obtain ⟨p, hof, hkept⟩ := h node hnode
  refine ⟨p, by rw [NodeOf, hheap]; exact hof, hkept.other (t := t) ?_ (fun hp => hprofiles ▸ hp) hpcs⟩
  obtain ⟨old, hold, hnum, -⟩ := hof
  rw [ht]
  intro hkeeps
  obtain rfl : q = p := Option.some.inj hkeeps
  obtain rfl := Option.some.inj (hold.symm.trans hprof)
  exact hdev hnum

/-- What is being freed is kept no longer. -/
theorem Kept.ne_freeing (h : s.Kept held p) (hsim : s.Sim a) (hheld : ∀ p ∈ held, s.Spare p) {q : Ptr}
    (ht : s.pcs t = .freeing q) : p ≠ q := by
  have howns : (s.pcs t).owns = some q := by
    rw [ht]
    rfl
  obtain ⟨-, hunlisted, huniq⟩ := hsim.owned t q howns
  rintro rfl
  rcases h with hlist | hin | ⟨u, hu⟩
  · exact hunlisted hlist
  · exact (hheld p hin).unowned t howns
  · obtain rfl := huniq u (Pc.owns_of_keeps hu)
    rw [ht] at hu
    cases hu

/-- A creation keeps the node that it makes. -/
theorem NodesKept.publish (h : s.NodesKept held) (hsim : s.Sim a) {new : TcpstatsProfile} {pc : Pc}
    (ht : (s.pcs t).keeps = none) (hpc : pc.keeps = some s.nextPtr) (hdev : new.dev = some s.nextDev)
    (hheap : s'.heap = Function.update s.heap s.nextPtr (some new))
    (hnodes : s'.nodes = ⟨s.nextDev, new.name.str⟩ :: s.nodes) (hprofiles : s'.profiles = s.profiles)
    (hpcs : s'.pcs = Function.update s.pcs t pc) : s'.NodesKept held := by
  intro node hnode
  rw [hnodes] at hnode
  rcases List.mem_cons.mp hnode with rfl | hnode
  · refine ⟨s.nextPtr, ⟨new, by rw [hheap, Function.update_self], hdev, rfl⟩, .inr (.inr ⟨t, ?_⟩)⟩
    rw [hpcs, Function.update_self, hpc]
  · obtain ⟨p, ⟨old, hold, hof⟩, hkept⟩ := h node hnode
    have hp : p ≠ s.nextPtr := (hsim.newPtr p old hold).ne
    refine ⟨p, ⟨old, by rw [hheap, Function.update_of_ne hp, hold], hof⟩, ?_⟩
    exact hkept.other (by rw [ht]; exact nofun) (fun hlist => hprofiles ▸ hlist) hpcs

/-- Every step of the handlers keeps the nodes in somebody's hands. -/
theorem NodesKept.step (h : s.NodesKept held) (hsim : s.Sim a) (hheld : ∀ p ∈ held, s.Spare p)
    (hstep : ProfileStep s e s') : s'.NodesKept held := by
  cases profileStep_change hstep with
  | nothing => exact h
  | move t pc hsame hnodes hpcs _ _ hkeeps _ =>
    intro node hnode
    rw [hnodes] at hnode
    obtain ⟨p, hof, hkept⟩ := h node hnode
    refine ⟨p, by rw [NodeOf, hsame.heap]; exact hof, ?_⟩
    rcases hkept with hlist | hin | ⟨u, hu⟩
    · exact .inl (hsame.profiles ▸ hlist)
    · exact .inr (.inl hin)
    · refine .inr (.inr ⟨u, ?_⟩)
      rw [hpcs]
      by_cases hut : u = t
      · rw [hut, Function.update_self, hkeeps, ← hut]
        exact hu
      · rw [Function.update_of_ne hut]
        exact hu
  | lose t q howns hnone =>
    intro node hnode
    obtain ⟨p, ⟨prof, hprof, hdev⟩, hkept⟩ := h node hnode
    refine ⟨p, ⟨prof, hprof, hdev⟩, hkept.other (t := t) ?_ id rfl⟩
    intro hp
    obtain rfl := Option.some.inj ((Pc.owns_of_keeps hp).symm.trans howns)
    exact nomatch hprof.symm.trans hnone
  | detach t ok name q _ ht _ hfind =>
    intro node hnode
    obtain ⟨p, hof, hkept⟩ := h node hnode
    refine ⟨p, hof, ?_⟩
    by_cases hpq : p = q
    · refine .inr (.inr ⟨t, ?_⟩)
      show (Function.update s.pcs t (.detached q) t).keeps = some p
      rw [Function.update_self, hpq]
      rfl
    · refine hkept.other (t := t) ?_ (fun hp => (List.mem_erase_of_ne hpq).mpr hp) rfl
      rw [ht]
      exact nofun
  | update t name q filterStr filter prof ht _ _ hprof =>
    intro node hnode
    obtain ⟨p, ⟨old, hold, hdev⟩, hkept⟩ := h node hnode
    refine ⟨p, ?_, hkept.other (t := t) (by rw [ht]; exact nofun) id rfl⟩
    by_cases hpq : p = q
    · subst hpq
      obtain rfl := Option.some.inj (hold.symm.trans hprof)
      exact ⟨_, Function.update_self .., hdev⟩
    · exact ⟨old, (Function.update_of_ne hpq _ _).trans hold, hdev⟩
  | publish t name filterStr filter _ ht _ _ _ =>
    have hkeeps : (s.pcs t).keeps = none := by
      rw [ht]
      rfl
    exact h.publish hsim hkeeps rfl rfl rfl rfl rfl rfl
  | link t q prof ht _ =>
    intro node hnode
    obtain ⟨p, hof, hkept⟩ := h node hnode
    refine ⟨p, hof, ?_⟩
    by_cases hpq : p = q
    · exact .inl (by rw [hpq]; exact List.mem_cons_self ..)
    · refine hkept.other (t := t) ?_ (fun hp => List.mem_cons_of_mem _ hp) rfl
      rw [ht]
      exact fun hkeeps => hpq (Option.some.inj hkeeps).symm
  | hide t q prof dev ht hprof hqdev =>
    intro node hnode
    obtain ⟨hnode, hnum⟩ := List.mem_filter.mp hnode
    refine h.detached hnode ht hprof (fun hdev => ?_) rfl rfl rfl
    have : dev = node.num := Option.some.inj (hqdev.symm.trans hdev)
    exact absurd this.symm (by simpa using hnum)
  | bare t q prof ht hprof hbare =>
    intro node hnode
    refine h.detached hnode ht hprof (fun hdev => ?_) rfl rfl rfl
    exact nomatch hbare.symm.trans hdev
  | free t q prof ht _ =>
    intro node hnode
    obtain ⟨p, ⟨old, hold, hdev⟩, hkept⟩ := h node hnode
    have hpq : p ≠ q := hkept.ne_freeing hsim hheld ht
    refine ⟨p, ⟨old, (Function.update_of_ne hpq _ _).trans hold, hdev⟩, ?_⟩
    exact hkept.other (t := t) (by rw [ht]; exact nofun) id rfl

/-! ### Every profile has its node -/

/-- Every profile has a device of its own, and the node of it can be opened as long as the profile is
kept. -/
structure HaveNodes (s : ProfileSystem) : Prop where
  dev : ∀ p prof, s.heap p = some prof → ∃ d, prof.dev = some d ∧ d < s.nextDev
  inj : ∀ p q prof prof', s.heap p = some prof → s.heap q = some prof' → prof.dev = prof'.dev → p = q
  node : ∀ p prof, s.Kept [] p → s.heap p = some prof →
    ∃ d, prof.dev = some d ∧ ⟨d, prof.name.str⟩ ∈ s.nodes

theorem HaveNodes.init : ProfileSystem.init.HaveNodes where
  dev _ _ h := nomatch h
  inj _ _ _ _ h := nomatch h
  node _ _ _ h := nomatch h

/-- What is kept after a step of `t` was so before, or is what the step leaves with `t` or in the
list. -/
theorem Kept.back (h : s'.Kept held p) {pc : Pc} (hpcs : s'.pcs = Function.update s.pcs t pc)
    (hprofiles : p ∈ s'.profiles → s.Kept held p) (hpc : pc.keeps = some p → s.Kept held p) :
    s.Kept held p := by
  rcases h with hlist | hheld | ⟨u, hu⟩
  · exact hprofiles hlist
  · exact .inr (.inl hheld)
  · rw [hpcs] at hu
    rcases update_cases (·.keeps = some p) hu with ⟨-, hkeeps⟩ | ⟨-, hkeeps⟩
    · exact hpc hkeeps
    · exact .inr (.inr ⟨u, hkeeps⟩)

/-- Once `t` has let go of its profile nobody keeps it. -/
theorem Sim.let_go (hsim : s.Sim a) (h : s'.Kept [] p) {q : Ptr} (ht : (s.pcs t).keeps = some q) {pc : Pc}
    (hpcs : s'.pcs = Function.update s.pcs t pc) (hpc : pc.keeps = none) (hprofiles : s'.profiles = s.profiles) :
    p ≠ q := by
  rintro rfl
  obtain ⟨-, hunlisted, huniq⟩ := hsim.owned t p (Pc.owns_of_keeps ht)
  rcases h with hlist | hheld | ⟨u, hu⟩
  · exact hunlisted (hprofiles ▸ hlist)
  · exact absurd hheld List.not_mem_nil
  · rw [hpcs] at hu
    rcases update_cases (·.keeps = some p) hu with ⟨-, hkeeps⟩ | ⟨hut, hkeeps⟩
    · exact nomatch hpc.symm.trans hkeeps
    · exact hut (huniq u (Pc.owns_of_keeps hkeeps))

/-- Every profile was there before, with the same device and the same name. -/
def OldProfiles (s s' : ProfileSystem) : Prop :=
  ∀ p prof, s'.heap p = some prof → ∃ old, s.heap p = some old ∧ old.dev = prof.dev ∧ old.name = prof.name

theorem OldProfiles.same (hheap : s'.heap = s.heap) : OldProfiles s s' :=
  fun _ prof hprof => ⟨prof, hheap ▸ hprof, rfl, rfl⟩

/-- One profile has been written to, and has its device and its name still. -/
theorem OldProfiles.updated {q : Ptr} {old prof : TcpstatsProfile}
    (hheap : s'.heap = Function.update s.heap q (some prof)) (hold : s.heap q = some old) (hdev : old.dev = prof.dev)
    (hname : old.name = prof.name) : OldProfiles s s' := by
  intro p prof' hprof
  rw [hheap] at hprof
  by_cases hpq : p = q
  · subst hpq
    rw [Function.update_self] at hprof
    obtain rfl := Option.some.inj hprof
    exact ⟨old, hold, hdev, hname⟩
  · exact ⟨prof', (Function.update_of_ne hpq _ _).symm.trans hprof, rfl, rfl⟩

/-- One profile has been freed. -/
theorem OldProfiles.freed {q : Ptr} (hheap : s'.heap = Function.update s.heap q none) : OldProfiles s s' := by
  intro p prof hprof
  rw [hheap] at hprof
  by_cases hpq : p = q
  · rw [hpq, Function.update_self] at hprof
    cases hprof
  · exact ⟨prof, (Function.update_of_ne hpq _ _).symm.trans hprof, rfl, rfl⟩

/-- A step that leaves the nodes as they are, and keeps no profile that was not kept before. -/
theorem HaveNodes.of_old (h : s.HaveNodes) (hnum : s'.nextDev = s.nextDev) (hnodes : s'.nodes = s.nodes)
    (hheap : OldProfiles s s') (hback : ∀ p, s'.Kept [] p → s.Kept [] p) : s'.HaveNodes where
  dev p prof hprof := by
    obtain ⟨old, hold, hdev, -⟩ := hheap p prof hprof
    rw [hnum, ← hdev]
    exact h.dev p old hold
  inj p q prof prof' hprof hprof' hdevs := by
    obtain ⟨old, hold, hdev, -⟩ := hheap p prof hprof
    obtain ⟨old', hold', hdev', -⟩ := hheap q prof' hprof'
    exact h.inj p q old old' hold hold' (by rw [hdev, hdev', hdevs])
  node p prof hkept hprof := by
    obtain ⟨old, hold, hdev, hname⟩ := hheap p prof hprof
    rw [hnodes, ← hdev, ← hname]
    exact h.node p old (hback p hkept) hold

/-- A creation gives its profile a device number that no other has, and makes the node. -/
theorem HaveNodes.publish (h : s.HaveNodes) (hsim : s.Sim a) {new : TcpstatsProfile} (hdev : new.dev = some s.nextDev)
    (hheap : s'.heap = Function.update s.heap s.nextPtr (some new)) (hnum : s'.nextDev = s.nextDev + 1)
    (hnodes : s'.nodes = ⟨s.nextDev, new.name.str⟩ :: s.nodes)
    (hback : ∀ p, p ≠ s.nextPtr → s'.Kept [] p → s.Kept [] p) : s'.HaveNodes := by
  have hcases : ∀ p prof, s'.heap p = some prof → p = s.nextPtr ∧ prof = new ∨ s.heap p = some prof := by
    intro p prof hprof
    rw [hheap] at hprof
    by_cases hp : p = s.nextPtr
    · subst hp
      rw [Function.update_self] at hprof
      exact .inl ⟨rfl, (Option.some.inj hprof).symm⟩
    · exact .inr ((Function.update_of_ne hp _ _).symm.trans hprof)
  -- the numbers in use are below the new one
  have hother : ∀ p prof, s.heap p = some prof → prof.dev ≠ new.dev := by
    intro p prof hprof hsame
    obtain ⟨d, hd, hlt⟩ := h.dev p prof hprof
    exact hlt.ne (Option.some.inj (hd.symm.trans (hsame.trans hdev)))
  refine ⟨fun p prof hprof => ?_, fun p q prof prof' hprof hprof' hdevs => ?_, fun p prof hkept hprof => ?_⟩
  · rw [hnum]
    rcases hcases p prof hprof with ⟨-, rfl⟩ | hold
    · exact ⟨s.nextDev, hdev, Nat.lt_succ_self _⟩
    · obtain ⟨d, hd, hlt⟩ := h.dev p prof hold
      exact ⟨d, hd, Nat.lt_succ_of_lt hlt⟩
  · rcases hcases p prof hprof with ⟨rfl, rfl⟩ | hold
    · rcases hcases q prof' hprof' with ⟨rfl, -⟩ | hold'
      · rfl
      · exact absurd hdevs.symm (hother q prof' hold')
    · rcases hcases q prof' hprof' with ⟨rfl, rfl⟩ | hold'
      · exact absurd hdevs (hother p prof hold)
      · exact h.inj p q prof prof' hold hold' hdevs
  · rw [hnodes]
    rcases hcases p prof hprof with ⟨-, rfl⟩ | hold
    · exact ⟨s.nextDev, hdev, List.mem_cons_self ..⟩
    · have hp : p ≠ s.nextPtr := (hsim.newPtr p prof hold).ne
      obtain ⟨d, hd, hmem⟩ := h.node p prof (hback p hp hkept) hold
      exact ⟨d, hd, List.mem_cons_of_mem _ hmem⟩

/-- `destroy_dev` takes the node of a profile that is kept no longer, and no other: no other profile has the device. -/
theorem HaveNodes.hide (h : s.HaveNodes) {q : Ptr} {prof : TcpstatsProfile} {dev : ℕ} (hq : s.heap q = some prof)
    (hdev : prof.dev = some dev) (hheap : s'.heap = s.heap) (hnum : s'.nextDev = s.nextDev)
    (hnodes : s'.nodes = s.nodes.filter (·.num ≠ dev)) (hback : ∀ p, s'.Kept [] p → p ≠ q ∧ s.Kept [] p) :
    s'.HaveNodes := by
  refine ⟨by rw [hheap, hnum]; exact h.dev, by rw [hheap]; exact h.inj, fun p old hkept hold => ?_⟩
  rw [hheap] at hold
  obtain ⟨hpq, hkept⟩ := hback p hkept
  obtain ⟨d, hd, hmem⟩ := h.node p old hkept hold
  have hne : d ≠ dev := by
    rintro rfl
    exact hpq (h.inj p q old prof hold hq (hd.trans hdev.symm))
  rw [hnodes]
  exact ⟨d, hd, List.mem_filter.mpr ⟨hmem, by simpa using hne⟩⟩

/-- Every step keeps the nodes of kept profiles. -/
theorem HaveNodes.step (h : s.HaveNodes) (hsim : s.Sim a) (hstep : ProfileStep s e s') : s'.HaveNodes := by
  cases profileStep_change hstep with
  | nothing => exact h
  | move t pc hsame hnodes hpcs _ _ hkeeps _ =>
    refine h.of_old hsame.nextDev hnodes (.same hsame.heap) fun p hkept => hkept.back hpcs ?_ ?_
    · exact fun hlist => .inl (hsame.profiles ▸ hlist)
    · exact fun hpc => .inr (.inr ⟨t, hkeeps ▸ hpc⟩)
  | lose t q _ _ => exact h.of_old rfl rfl (.same rfl) fun p hkept => hkept.back rfl .inl nofun
  | detach t ok name q _ _ _ hfind =>
    refine h.of_old rfl rfl (.same rfl) fun p hkept => hkept.back rfl ?_ ?_
    · exact fun hlist => .inl (List.mem_of_mem_erase hlist)
    · rintro ⟨⟩
      exact .inl (mem_of_find hfind)
  | update t name q filterStr filter old _ _ _ hold =>
    exact h.of_old rfl rfl (.updated rfl hold rfl rfl) fun p hkept => hkept.back rfl .inl nofun
  | publish t name filterStr filter _ _ _ _ _ =>
    refine h.publish hsim rfl rfl rfl rfl fun p hp hkept => hkept.back rfl .inl ?_
    exact fun hpc => absurd (Option.some.inj hpc).symm hp
  | link t q prof ht _ =>
    have hq : s.Kept [] q := .inr (.inr ⟨t, by rw [ht]; rfl⟩)
    refine h.of_old rfl rfl (.same rfl) fun p hkept => hkept.back rfl ?_ nofun
    intro hlist
    rcases List.mem_cons.mp hlist with rfl | hlist
    · exact hq
    · exact .inl hlist
  | hide t q prof dev ht hq hdev =>
    have hkeeps : (s.pcs t).keeps = some q := by
      rw [ht]
      rfl
    exact h.hide hq hdev rfl rfl rfl fun p hkept => ⟨hsim.let_go hkept hkeeps rfl rfl rfl, hkept.back rfl .inl nofun⟩
  | bare t q prof _ _ _ => exact h.of_old rfl rfl (.same rfl) fun p hkept => hkept.back rfl .inl nofun
  | free t q prof _ _ => exact h.of_old rfl rfl (.freed rfl) fun p hkept => hkept.back rfl .inl nofun

/-! ### Names of nodes -/

/-- A deletion of the name stands between the end of its critical section and `destroy_dev`. -/
def InDeletion (s : ProfileSystem) (name : CStr) : Prop :=
  ∃ t p prof, s.pcs t = .detached p ∧ s.heap p = some prof ∧ prof.name.str = name

/-- No node that can be opened has the name. -/
def NewName (s : ProfileSystem) (name : CStr) : Prop := ∀ node ∈ s.nodes, node.name ≠ name

/-- What every run keeps. -/
theorem nodes_of_run {es : List ProfileEvent} (run : Run ProfileStep init es s) :
    ∃ a, s.Sim a ∧ s.NodesKept [] ∧ s.HaveNodes := by
  refine run.inv (I := fun s => ∃ a, s.Sim a ∧ s.NodesKept [] ∧ s.HaveNodes)
    ⟨.init, .init, .init, .init⟩ ?_
  rintro u e v ⟨a, hsim, hkept, hhave⟩ hstep
  have hkept' := hkept.step hsim (fun _ hp => absurd hp List.not_mem_nil) hstep
  have hhave' := hhave.step hsim hstep
  rcases hsim.step hstep with hv | ⟨w, hv⟩
  · exact ⟨a, hv, hkept', hhave'⟩
  · exact ⟨_, hv, hkept', hhave'⟩

/-- A deletion in its window leaves the name taken. -/
theorem HaveNodes.not_newName (h : s.HaveNodes) {name : CStr} (hdel : s.InDeletion name) :
    ¬ s.NewName name := by
  rintro hnew
  obtain ⟨t, p, prof, ht, hprof, rfl⟩ := hdel
  obtain ⟨d, -, hnode⟩ := h.node p prof (.inr (.inr ⟨t, by rw [ht]; rfl⟩)) hprof
  exact hnew _ hnode rfl

/-- With the lock free and no profile of the name in the list, a node of the name is one of a deletion
in its window. -/
theorem NodesKept.newName (h : s.NodesKept []) (hsim : s.Sim a) (hlock : s.lock = none) {name : CStr}
    (hfind : s.find (.own name) = some none) (hdel : ¬ s.InDeletion name) : s.NewName name := by
  rintro node hnode rfl
  obtain ⟨p, ⟨prof, hprof, -, hname⟩, hkept⟩ := h node hnode
  rcases hkept with hlist | hheld | ⟨t, ht⟩
  · have hmem : s.heap p ∈ s.profiles.map s.heap := List.mem_map_of_mem hlist
    rw [hsim.view, hprof] at hmem
    obtain ⟨prof', hprof', hsome⟩ := List.mem_map.mp hmem
    obtain rfl := Option.some.inj hsome
    exact find_eq_none_iff.mp (hsim.not_found hfind) (List.mem_map.mpr ⟨prof', hprof', hname⟩)
  · exact absurd hheld List.not_mem_nil
  · have hmakes := hsim.not_makes hlock t
    cases hpc : s.pcs t with
    | published q dev =>
      rw [hpc] at hmakes
      cases hmakes
    | stored q =>
      rw [hpc] at hmakes
      cases hmakes
    | detached q =>
      rw [hpc] at ht
      obtain rfl := Option.some.inj ht
      exact hdel ⟨t, q, prof, hpc, hprof, hname⟩
    | _ =>
      rw [hpc] at ht
      cases ht

/-- The name a device is made under is the one that was asked for, if that fits. -/
theorem Sim.device_name (hsim : s.Sim a) {name : CStr} (h : s.MakesDev e name) (hlen : name.length ≤ 31) :
    (strlcpy 32 name).str = name := by
  obtain ⟨t, ok, filterStr, filter, -, ht, -⟩ := h
  obtain ⟨delivered, r, hr, hreq, hname⟩ := (hsim.requests t _ ht).name_own rfl
  cases r with
  | delete n => cases hreq
  | put n f flt =>
    obtain rfl : n = name := hname
    exact strlcpy_str (by omega) ((setInput_of_put hr).1.notMem (by decide))

/-- In any interleaving, a device is made under a name that is new at all times, exactly if it is
never made while a deletion of that name has yet to call `destroy_dev`. -/
theorem device_names_new_iff (es : List ProfileEvent) :
    (∀ pre e s name, pre ++ [e] <+: es → Run ProfileStep init pre s → s.MakesDev e name →
        name.length ≤ 31 → s.NewName (strlcpy 32 name).str) ↔
      ∀ pre e s name, pre ++ [e] <+: es → Run ProfileStep init pre s → s.MakesDev e name →
        name.length ≤ 31 → ¬ s.InDeletion name := by
  refine forall₄_congr fun pre e s name => forall₄_congr fun _ run hmakes hlen => ?_
  obtain ⟨a, hsim, hkept, hhave⟩ := nodes_of_run run
  rw [hsim.device_name hmakes hlen]
  obtain ⟨t, ok, filterStr, filter, -, -, hlock, hfind, -⟩ := hmakes
  exact ⟨fun hnew hdel => hhave.not_newName hdel hnew, hkept.newName hsim hlock hfind⟩

/-- A thread is about to take the device of `a` away, another is about to make the next. -/
def racing : List ProfileEvent :=
  creating ++ deleting.take 2 ++ [.profileSet 1 [chr 'a', chr ' ']]

/-- The device is made while the old one is there. -/
theorem device_name_twice :
    ∃ s, Run ProfileStep init racing s ∧ s.MakesDev (.go 1 true) [chr 'a'] ∧
      ¬ s.NewName (strlcpy 32 [chr 'a']).str := by
  have hrun : (replay profileStep racing init).any (fun s =>
      s.pcs 1 = .request (.put (.own [chr 'a']) [] .default) && s.lock.isNone &&
        s.find (.own [chr 'a']) = some none && decide (s.nprofiles < (TSF_MAX_PROFILES : ℤ)) &&
        s.nodes.any fun node => node.name = [chr 'a']) = true := by
    decide +kernel
  obtain ⟨s, hs, h⟩ := (Option.any_eq_true _ _).mp hrun
  simp only [Bool.and_eq_true, decide_eq_true_eq, Option.isNone_iff_eq_none, List.any_eq_true] at h
  obtain ⟨⟨⟨⟨hpc, hlock⟩, hfind⟩, hroom⟩, node, hnode, hname⟩ := h
  refine ⟨s, replay_run (fun _ _ _ h => h) hs, ⟨1, true, [], _, rfl, hpc, hlock, hfind, hroom⟩, fun hnew => ?_⟩
  exact hnew node hnode (hname.trans (by decide))

end ProfileSystem

end TcpStats
