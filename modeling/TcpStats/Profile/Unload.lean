import TcpStats.Profile.Nodes

/-!
# Unloading the module

`MOD_UNLOAD` beside the handlers: it empties the list under the lock, destroys what it has
taken off it without the lock, then the two static nodes, and only then unregisters the
sysctls. `profile_set` can therefore be written until `sysctl_ctx_free` gets through, and a
profile that is created after the sweep is in nobody's way: nothing is left behind exactly
if every such profile is deleted again by a write (`unload_clean`).

`sysctl_ctx_free` waits for the handlers that are running and lets none start; what
`destroy_dev` of a static node waits for is not in the model, and its step may come at any
time.
-/

namespace TcpStats

open CString Machine Transition

/-- How far `MOD_UNLOAD` has come. -/
inductive UnloadPc where
  /-- Before the lock in `tcpstats_profiles_destroy_all`. -/
  | loaded
  /-- The list is empty and the lock released; these are still to be destroyed. -/
  | destroying (detached : List Ptr)
  /-- In `destroy_dev`, waiting for the threads inside. -/
  | waiting (prof : Ptr) (dev : ℕ) (detached : List Ptr)
  /-- Before `destroy_dev` of `tcpstats_full_dev`. -/
  | fullDev
  /-- Before `destroy_dev` of `tcpstats_dev`. -/
  | dev
  /-- In `sysctl_ctx_free`. -/
  | sysctlCtxFree
  /-- Before `sx_destroy`. -/
  | sxDestroy
  | returned
  /-- It has read freed memory, or written outside `detached`. -/
  | crashed
  deriving DecidableEq

namespace UnloadPc

/-- The profiles off the list that are not freed yet. -/
def detached : UnloadPc → List Ptr
  | destroying ps => ps
  | waiting p _ ps => p :: ps
  | _ => []

/-- Those of them whose node has not been passed to `destroy_dev`. -/
def standing : UnloadPc → List Ptr
  | destroying ps => ps
  | waiting _ _ ps => ps
  | _ => []

/-- The list has been emptied. -/
def swept : UnloadPc → Bool
  | loaded => false
  | _ => true

/-- `sysctl_ctx_free` has returned. -/
def unregistered : UnloadPc → Bool
  | sxDestroy => true
  | returned => true
  | _ => false

theorem standing_subset (pc : UnloadPc) : pc.standing ⊆ pc.detached := by
  cases pc with
  | waiting p d ps => exact List.subset_cons_self p ps
  | _ => exact fun _ h => h

end UnloadPc

/-- The module while it is unloaded. -/
structure UnloadSystem where
  sys : ProfileSystem
  pc : UnloadPc
  /-- `/dev/tcpstats-full` is there. -/
  fullNode : Bool
  /-- `/dev/tcpstats` is there. -/
  node : Bool

/-- What happens next. -/
inductive UnloadEvent where
  /-- A thread in, or on its way into, one of the handlers. -/
  | handler (e : ProfileEvent)
  /-- The next step of `MOD_UNLOAD`. -/
  | unload

/-- The thread is in a sysctl handler. -/
def Pc.inHandler : Pc → Bool
  | .idle => false
  | .opening _ => false
  | .opened _ _ => false
  | _ => true

/-- The event is a thread that enters a sysctl handler. -/
def ProfileEvent.enters : ProfileEvent → Bool
  | .openDev _ _ => false
  | .go _ _ => false
  | _ => true

namespace UnloadSystem

/-- The module after it is loaded, about to be unloaded. -/
def init : UnloadSystem := ⟨.init, .loaded, true, true⟩

/-- `free(detached[i])`. -/
def free (s : UnloadSystem) (p : Ptr) (ps : List Ptr) : UnloadSystem :=
  { s with sys := { s.sys with heap := Function.update s.sys.heap p none }, pc := .destroying ps }

/-- The next step of `MOD_UNLOAD`; none where it has to wait. What `sysctl_ctx_free` waits for
is in `UnloadStep`. -/
def next (s : UnloadSystem) : Option UnloadSystem :=
  match s.pc with
  | .loaded =>
    if s.sys.lock ≠ none then none
    else if s.sys.profiles.length > TSF_MAX_PROFILES then some { s with pc := .crashed }
    else some { s with
      sys := { s.sys with profiles := [], nprofiles := s.sys.nprofiles - s.sys.profiles.length }
      pc := .destroying s.sys.profiles }
  | .destroying (p :: ps) =>
    match s.sys.heap p with
    | none => some { s with pc := .crashed }
    | some prof =>
      match prof.dev with
      | some dev => some { s with
          sys := { s.sys with nodes := s.sys.nodes.filter (·.num ≠ dev) }, pc := .waiting p dev ps }
      | none => some (s.free p ps)
  | .waiting p dev ps => if s.sys.inside.any (·.2 = dev) then none else some (s.free p ps)
  | .destroying [] => some { s with pc := .fullDev }
  | .fullDev => some { s with pc := .dev, fullNode := false }
  | .dev => some { s with pc := .sysctlCtxFree, node := false }
  | .sysctlCtxFree => some { s with sys := { s.sys with oids := [] }, pc := .sxDestroy }
  | .sxDestroy => some { s with pc := .returned }
  | .returned => none
  | .crashed => none

/-- No thread is in a sysctl handler. -/
def Drained (s : UnloadSystem) : Prop := ∀ t, (s.sys.pcs t).inHandler = false

/-- No profile is in the list, no node of one exists, and no handler uses the lock. -/
structure LeavesNothing (s : UnloadSystem) : Prop where
  profiles : s.sys.profiles = []
  nodes : s.sys.nodes = []
  handlers : s.Drained

end UnloadSystem

/-- The step relation. -/
inductive UnloadStep (s : UnloadSystem) : UnloadEvent → UnloadSystem → Prop where
  | handler (e : ProfileEvent) (sys' : ProfileSystem) : (s.pc.unregistered = true → e.enters = false) →
      ProfileStep s.sys e sys' → UnloadStep s (.handler e) { s with sys := sys' }
  | unload (s' : UnloadSystem) : (s.pc = .sysctlCtxFree → s.Drained) → s.next = some s' →
      UnloadStep s .unload s'

namespace ProfileSystem

variable {s s' : ProfileSystem} {a : ProfileStore} {p q : Ptr} {ps : List Ptr} {node : Cdev} {e : ProfileEvent}

/-! ### What the unload does to the handlers' state -/

theorem Sim.length_eq (h : s.Sim a) : s.profiles.length = a.profiles.length := by
  simpa only [List.length_map] using congrArg List.length h.view

/-- The list fits `detached`. -/
theorem Sim.length_le (h : s.Sim a) (hvalid : a.Valid) : s.profiles.length ≤ TSF_MAX_PROFILES :=
  h.length_eq ▸ hvalid.limit

/-- The list emptied under the lock. -/
theorem Sim.sweep (h : s.Sim a) (hvalid : a.Valid) (hlock : s.lock = none) :
    ∃ b, b.Valid ∧ ({ s with profiles := [], nprofiles := s.nprofiles - s.profiles.length } :
      ProfileSystem).Sim b := by
  obtain ⟨b, -, hb, hlist, hcount, hdev⟩ := destroyAll_valid hvalid
  refine ⟨b, hb, ?_, ?_, ?_, List.nodup_nil, h.newPtr, ?_, h.requests, ?_⟩
  · rw [hlist]
    rfl
  · show s.nprofiles - s.profiles.length = b.nprofiles
    rw [hcount, h.count, hvalid.count, h.length_eq, sub_self]
  · rw [hdev]
    exact h.nextDev
  · intro t p hp
    obtain ⟨hlt, -, huniq⟩ := h.owned t p hp
    exact ⟨hlt, List.not_mem_nil, huniq⟩
  · intro t p hp
    exact nomatch (h.not_makes hlock t).symm.trans hp

/-- What was in the list is out of everybody's reach after the sweep. -/
theorem Sim.spare_of_mem (h : s.Sim a) (hp : p ∈ s.profiles) (n : ℤ) :
    ({ s with profiles := [], nprofiles := n } : ProfileSystem).Spare p :=
  ⟨h.lt_of_mem hp, List.not_mem_nil, fun t ht => (h.owned t p ht).2.1 hp⟩

theorem Sim.live_of_mem (h : s.Sim a) (hp : p ∈ s.profiles) : ∃ prof, s.heap p = some prof := by
  have hmem : s.heap p ∈ s.profiles.map s.heap := List.mem_map_of_mem hp
  rw [h.view] at hmem
  obtain ⟨prof, -, hprof⟩ := List.mem_map.mp hmem
  exact ⟨prof, hprof.symm⟩

/-- A spare profile is none that is kept. -/
theorem Spare.ne_of_kept (h : s.Spare p) (hps : p ∉ ps) (hq : s.Kept ps q) : q ≠ p := by
  rintro rfl
  rcases hq with hlist | hheld | ⟨t, ht⟩
  · exact h.unlisted hlist
  · exact hps hheld
  · exact h.unowned t (Pc.owns_of_keeps ht)

/-- The nodes are not touched where the profile is freed. -/
theorem NodesKept.erase (h : s.NodesKept ps)
    (hne : ∀ node ∈ s.nodes, ∀ q, s.NodeOf node q → s.Kept ps q → q ≠ p) :
    ({ s with heap := Function.update s.heap p none } : ProfileSystem).NodesKept ps := by
  intro node hnode
  obtain ⟨q, hof, hkept⟩ := h node hnode
  obtain ⟨prof, hprof, hdev⟩ := hof
  have hqp : q ≠ p := hne node hnode q ⟨prof, hprof, hdev⟩ hkept
  exact ⟨q, ⟨prof, (Function.update_of_ne hqp _ _).trans hprof, hdev⟩, hkept⟩

/-- Nodes and OIDs are no matter to the list. -/
theorem Sim.same (h : s.Sim a) (hsame : SameList s s') (hpcs : s'.pcs = s.pcs) : s'.Sim a :=
  h.moved (t := 0) (s.pcs 0) hsame (by rw [Function.update_eq_self, hpcs]) (fun _ => id) (fun _ => id)
    (h.requests 0)

/-- Where no thread is in a sysctl handler and none enters one, there will be none. -/
theorem drained_step (h : ∀ t, (s.pcs t).inHandler = false) (henter : e.enters = false)
    (hstep : ProfileStep s e s') (u : Tid) : (s'.pcs u).inHandler = false := by
  have hupdate : ∀ {t pc}, pc.inHandler = false → (Function.update s.pcs t pc u).inHandler = false := by
    intro t pc hpc
    by_cases hut : u = t
    · rw [hut, Function.update_self]
      exact hpc
    · rw [Function.update_of_ne hut]
      exact h u
  unfold ProfileStep profileStep at hstep
  cases e with
  | openDev t node =>
    dsimp only at hstep
    split_ifs at hstep
    obtain rfl := Option.some.inj hstep
    exact hupdate rfl
  | go t ok =>
    have hpc := h t
    dsimp only [go] at hstep
    cases ht : s.pcs t with
    | idle =>
      rw [ht] at hstep
      cases hstep
    | opening dev =>
      simp only [ht] at hstep
      obtain rfl := Option.some.inj hstep
      split_ifs
      · exact hupdate rfl
      · exact hupdate rfl
    | opened dev prof =>
      cases prof with
      | none =>
        simp only [ht] at hstep
        obtain rfl := Option.some.inj hstep
        exact hupdate rfl
      | some p =>
        simp only [ht] at hstep
        obtain rfl := Option.some.inj hstep
        unfold onProfile
        split
        · exact hupdate rfl
        · exact hupdate rfl
    | _ =>
      rw [ht] at hpc
      cases hpc
  | _ => cases henter

/-- A thread with a profile in hand is in a sysctl handler. -/
theorem Pc.keeps_eq_none {pc : Pc} (h : pc.inHandler = false) : pc.keeps = none := by
  cases pc with
  | published p dev => cases h
  | stored p => cases h
  | detached p => cases h
  | _ => rfl

end ProfileSystem

namespace UnloadSystem

variable {s s' : UnloadSystem} {e : ProfileEvent} {p : Ptr}

/-! ### The invariant -/

/-- What every step keeps, of the handlers and of the unload. -/
structure Inv (s : UnloadSystem) : Prop where
  store : ∃ a, s.sys.Sim a ∧ a.Valid
  spare : ∀ p ∈ s.pc.detached, s.sys.Spare p
  live : ∀ p ∈ s.pc.detached, ∃ prof, s.sys.heap p = some prof
  nodup : s.pc.detached.Nodup
  kept : s.sys.NodesKept s.pc.standing
  drained : s.pc.unregistered = true → s.Drained
  sound : s.pc ≠ .crashed

theorem Inv.init : UnloadSystem.init.Inv where
  store := ⟨.init, .init, .init⟩
  spare _ h := absurd h List.not_mem_nil
  live _ h := absurd h List.not_mem_nil
  nodup := List.nodup_nil
  kept := .init
  drained h := nomatch h
  sound := nofun

/-- The handlers keep it. -/
theorem Inv.handler (h : s.Inv) {sys' : ProfileSystem}
    (henter : s.pc.unregistered = true → e.enters = false)
    (hstep : ProfileStep s.sys e sys') : ({ s with sys := sys' } : UnloadSystem).Inv := by
  obtain ⟨a, hsim, hvalid⟩ := h.store
  refine ⟨?_, ?_, ?_, h.nodup, ?_, ?_, h.sound⟩
  · rcases hsim.step hstep with hv | ⟨w, hv⟩
    · exact ⟨a, hv, hvalid⟩
    · exact ⟨_, hv, (profileWrite_written w a).valid hvalid⟩
  · exact fun p hp => ((h.spare p hp).step hstep).1
  · intro p hp
    obtain ⟨prof, hprof⟩ := h.live p hp
    exact ⟨prof, ((h.spare p hp).step hstep).2.trans hprof⟩
  · exact h.kept.step hsim (fun p hp => h.spare p (s.pc.standing_subset hp)) hstep
  · exact fun hun => ProfileSystem.drained_step (h.drained hun) (henter hun) hstep

/-- Freeing the profile at hand, once no node is its. -/
theorem Inv.free (h : s.Inv) {ps : List Ptr} (hdetached : s.pc.detached = p :: ps)
    (hkept : s.sys.NodesKept ps)
    (hne : ∀ node ∈ s.sys.nodes, ∀ q, s.sys.NodeOf node q → s.sys.Kept ps q → q ≠ p) : (s.free p ps).Inv := by
  obtain ⟨a, hsim, hvalid⟩ := h.store
  have hspare : s.sys.Spare p := h.spare p (by rw [hdetached]; exact List.mem_cons_self ..)
  have hnodup := h.nodup
  rw [hdetached] at hnodup
  have hrest : ∀ q ∈ ps, q ∈ s.pc.detached := fun q hq => by rw [hdetached]; exact List.mem_cons_of_mem _ hq
  refine ⟨⟨a, ?_, hvalid⟩, ?_, ?_, hnodup.of_cons, hkept.erase hne, nofun, nofun⟩
  · refine hsim.erase hspare.unlisted fun u hu => ?_
    exact hspare.unowned u (Pc.owns_of_makes hu)
  · intro q hq
    have hq := h.spare q (hrest q hq)
    exact ⟨hq.old, hq.unlisted, hq.unowned⟩
  · intro q hq
    have hqp : q ≠ p := by
      rintro rfl
      exact (List.nodup_cons.mp hnodup).1 hq
    obtain ⟨prof, hprof⟩ := h.live q (hrest q hq)
    exact ⟨prof, (Function.update_of_ne hqp _ _).trans hprof⟩

/-- A step of the unload that leaves the handlers' state alone, with nothing in hand. -/
theorem Inv.goto (h : s.Inv) {pc : UnloadPc} (fullNode node : Bool) (hold : s.pc.standing = [])
    (hstanding : pc.standing = []) (hdetached : pc.detached = [])
    (hdrained : pc.unregistered = true → s.Drained) (hsound : pc ≠ .crashed) :
    (⟨s.sys, pc, fullNode, node⟩ : UnloadSystem).Inv := by
  refine ⟨h.store, ?_, ?_, ?_, ?_, hdrained, hsound⟩
  · rw [hdetached]
    exact fun _ hp => absurd hp List.not_mem_nil
  · rw [hdetached]
    exact fun _ hp => absurd hp List.not_mem_nil
  · rw [hdetached]
    exact List.nodup_nil
  · rw [hstanding, ← hold]
    exact h.kept

/-- The sweep. -/
theorem Inv.sweep (h : s.Inv) (hlock : s.sys.lock = none) (hold : s.pc.standing = []) :
    ({ s with
      sys := { s.sys with profiles := [], nprofiles := s.sys.nprofiles - s.sys.profiles.length }
      pc := .destroying s.sys.profiles } : UnloadSystem).Inv := by
  obtain ⟨a, hsim, hvalid⟩ := h.store
  obtain ⟨b, hb, hsim'⟩ := hsim.sweep hvalid hlock
  refine ⟨⟨b, hsim', hb⟩, fun p hp => hsim.spare_of_mem hp _, fun p hp => hsim.live_of_mem hp, hsim.nodup,
    ?_, nofun, nofun⟩
  intro node hnode
  obtain ⟨q, hof, hkept⟩ := h.kept node hnode
  refine ⟨q, hof, ?_⟩
  rcases hkept with hlist | hheld | hkeeps
  · exact .inr (.inl hlist)
  · rw [hold] at hheld
    exact absurd hheld List.not_mem_nil
  · exact .inr (.inr hkeeps)

/-- The node of the next profile is passed to `destroy_dev`. -/
theorem Inv.hide (h : s.Inv) {ps : List Ptr} {prof : TcpstatsProfile} {dev : ℕ}
    (hpc : s.pc = .destroying (p :: ps))
    (hprof : s.sys.heap p = some prof) (hdev : prof.dev = some dev) :
    ({ s with
      sys := { s.sys with nodes := s.sys.nodes.filter (·.num ≠ dev) }
      pc := .waiting p dev ps } : UnloadSystem).Inv := by
  obtain ⟨a, hsim, hvalid⟩ := h.store
  have hdetached : s.pc.detached = p :: ps := by rw [hpc]; rfl
  have hstanding : s.pc.standing = p :: ps := by rw [hpc]; rfl
  refine ⟨⟨a, hsim.same ⟨rfl, rfl, rfl, rfl, rfl, rfl⟩ rfl, hvalid⟩, ?_, ?_, ?_, ?_, nofun, nofun⟩
  · intro q hq
    have hq := h.spare q (hdetached ▸ hq)
    exact ⟨hq.old, hq.unlisted, hq.unowned⟩
  · exact fun q hq => h.live q (hdetached ▸ hq)
  · have hnodup := h.nodup
    rw [hdetached] at hnodup
    exact hnodup
  · intro node hnode
    obtain ⟨hnode, hnum⟩ := List.mem_filter.mp hnode
    obtain ⟨q, hof, hkept⟩ := h.kept node hnode
    refine ⟨q, hof, ?_⟩
    rcases hkept with hlist | hheld | hkeeps
    · exact .inl hlist
    · rw [hstanding] at hheld
      rcases List.mem_cons.mp hheld with rfl | hheld
      · obtain ⟨old, hold, hqdev, -⟩ := hof
        obtain rfl := Option.some.inj (hold.symm.trans hprof)
        have : dev = node.num := Option.some.inj (hdev.symm.trans hqdev)
        exact absurd this.symm (by simpa using hnum)
      · exact .inr (.inl hheld)
    · exact .inr (.inr hkeeps)

/-- The unload keeps it. -/
theorem Inv.unload (h : s.Inv) (hdrain : s.pc = .sysctlCtxFree → s.Drained) (hnext : s.next = some s') :
    s'.Inv := by
  unfold next at hnext
  rcases s with ⟨sys, pc, fullNode, node⟩
  cases pc with
  | loaded =>
    dsimp only at hnext
    obtain ⟨a, hsim, hvalid⟩ := h.store
    have hlimit := hsim.length_le hvalid
    split_ifs at hnext with hlock hfull
    · exact absurd hlimit (not_le.mpr hfull)
    · obtain rfl := Option.some.inj hnext
      exact h.sweep (not_not.mp hlock) rfl
  | destroying ps =>
    rcases ps with _ | ⟨p, ps⟩
    · obtain rfl := Option.some.inj hnext
      exact h.goto fullNode node rfl rfl rfl nofun nofun
    · obtain ⟨prof, hprof⟩ := h.live p (List.mem_cons_self ..)
      dsimp only at hprof hnext
      rw [hprof] at hnext
      dsimp only at hnext
      rcases hdev : prof.dev with _ | dev
      · rw [hdev] at hnext
        obtain rfl := Option.some.inj hnext
        have hbare : ∀ n ∈ sys.nodes, ∀ q, sys.NodeOf n q → sys.Kept (p :: ps) q → q ≠ p := by
          rintro n - q ⟨old, hold, hqdev, -⟩ - rfl
          obtain rfl := Option.some.inj (hold.symm.trans hprof)
          exact nomatch hdev.symm.trans hqdev
        refine h.free rfl ?_ ?_
        · intro n hn
          obtain ⟨q, hof, hkept⟩ := h.kept n hn
          have hqp := hbare n hn q hof hkept
          refine ⟨q, hof, ?_⟩
          rcases hkept with hlist | hheld | hkeeps
          · exact .inl hlist
          · exact .inr (.inl ((List.mem_cons.mp hheld).resolve_left hqp))
          · exact .inr (.inr hkeeps)
        · rintro n hn q hof hkept
          refine hbare n hn q hof ?_
          rcases hkept with hlist | hheld | hkeeps
          · exact .inl hlist
          · exact .inr (.inl (List.mem_cons_of_mem _ hheld))
          · exact .inr (.inr hkeeps)
      · rw [hdev] at hnext
        obtain rfl := Option.some.inj hnext
        exact h.hide rfl hprof hdev
  | waiting p dev ps =>
    dsimp only at hnext
    split_ifs at hnext
    obtain rfl := Option.some.inj hnext
    refine h.free rfl h.kept fun n _ q _ hkept => ?_
    exact (h.spare p (List.mem_cons_self ..)).ne_of_kept (List.nodup_cons.mp h.nodup).1 hkept
  | fullDev =>
    obtain rfl := Option.some.inj hnext
    exact h.goto false node rfl rfl rfl nofun nofun
  | dev =>
    obtain rfl := Option.some.inj hnext
    exact h.goto fullNode false rfl rfl rfl nofun nofun
  | sysctlCtxFree =>
    obtain rfl := Option.some.inj hnext
    obtain ⟨a, hsim, hvalid⟩ := h.store
    have hgone : (⟨{ sys with oids := [] }, .sysctlCtxFree, fullNode, node⟩ : UnloadSystem).Inv :=
      ⟨⟨a, hsim.same ⟨rfl, rfl, rfl, rfl, rfl, rfl⟩ rfl, hvalid⟩, fun _ hp => absurd hp List.not_mem_nil,
        fun _ hp => absurd hp List.not_mem_nil, List.nodup_nil, h.kept, nofun, nofun⟩
    exact hgone.goto fullNode node rfl rfl rfl (fun _ => hdrain rfl) nofun
  | sxDestroy =>
    obtain rfl := Option.some.inj hnext
    exact h.goto fullNode node rfl rfl rfl (fun _ => h.drained rfl) nofun
  | returned => cases hnext
  | crashed => cases hnext

theorem Inv.step (h : s.Inv) {l : UnloadEvent} (hstep : UnloadStep s l s') : s'.Inv := by
  cases hstep with
  | handler e sys' henter hstep => exact h.handler henter hstep
  | unload _ hdrain hnext => exact h.unload hdrain hnext

theorem inv_of_run {ls : List UnloadEvent} (run : Run UnloadStep init ls s) : s.Inv :=
  run.inv .init fun _ _ _ hI hstep => hI.step hstep

/-! ### What is left behind -/

/-- When the unload has returned, what is left is in the list. -/
theorem Inv.leavesNothing_iff (h : s.Inv) (hret : s.pc = .returned) :
    s.LeavesNothing ↔ s.sys.profiles = [] := by
  refine ⟨LeavesNothing.profiles, fun hlist => ?_⟩
  have hdrained : s.Drained := h.drained (by rw [hret]; rfl)
  refine ⟨hlist, List.eq_nil_iff_forall_not_mem.mpr fun node hnode => ?_, hdrained⟩
  obtain ⟨p, -, hin | hheld | ⟨t, ht⟩⟩ := h.kept node hnode
  · rw [hlist] at hin
    exact absurd hin List.not_mem_nil
  · rw [hret] at hheld
    exact absurd hheld List.not_mem_nil
  · exact nomatch (ProfileSystem.Pc.keeps_eq_none (hdrained t)).symm.trans ht

/-- The unload moves no thread, and after the sweep it does not look at the list again. -/
theorem next_keeps (hnext : s.next = some s') : s'.pc.swept = true ∧ s'.sys.pcs = s.sys.pcs ∧
    (s.pc.swept = true → s'.sys.profiles = s.sys.profiles) := by
  unfold next at hnext
  rcases s with ⟨sys, pc, fullNode, node⟩
  cases pc with
  | loaded =>
    dsimp only at hnext
    split_ifs at hnext
    · obtain rfl := Option.some.inj hnext
      exact ⟨rfl, rfl, nofun⟩
    · obtain rfl := Option.some.inj hnext
      exact ⟨rfl, rfl, nofun⟩
  | destroying ps =>
    rcases ps with _ | ⟨p, ps⟩
    · obtain rfl := Option.some.inj hnext
      exact ⟨rfl, rfl, fun _ => rfl⟩
    · dsimp only at hnext
      split at hnext
      · obtain rfl := Option.some.inj hnext
        exact ⟨rfl, rfl, fun _ => rfl⟩
      · split at hnext
        · obtain rfl := Option.some.inj hnext
          exact ⟨rfl, rfl, fun _ => rfl⟩
        · obtain rfl := Option.some.inj hnext
          exact ⟨rfl, rfl, fun _ => rfl⟩
  | waiting p dev ps =>
    dsimp only at hnext
    split_ifs at hnext
    obtain rfl := Option.some.inj hnext
    exact ⟨rfl, rfl, fun _ => rfl⟩
  | returned => cases hnext
  | crashed => cases hnext
  | _ =>
    obtain rfl := Option.some.inj hnext
    exact ⟨rfl, rfl, fun _ => rfl⟩

theorem swept_of_run {ls : List UnloadEvent} (run : Run UnloadStep s ls s') (hswept : s.pc.swept = true) :
    s'.pc.swept = true := by
  refine run.inv (I := fun s => s.pc.swept = true) hswept fun u l v hu hstep => ?_
  cases hstep with
  | handler e sys' henter hstep => exact hu
  | unload _ hdrain hnext => exact (next_keeps hnext).1

end UnloadSystem

namespace ProfileSystem

/-- The event is a deletion in its critical section, and it takes the profile off the list. -/
def Deletes (s : ProfileSystem) (e : ProfileEvent) (p : Ptr) : Prop :=
  ∃ t ok name, e = .go t ok ∧ s.pcs t = .request (.delete name) ∧ s.lock = none ∧ s.find name = some (some p)

/-- Nothing else takes a profile off the list. -/
theorem deletes_of_lost {s s' : ProfileSystem} {e : ProfileEvent} {p : Ptr} (hstep : ProfileStep s e s')
    (hin : p ∈ s.profiles) (hout : p ∉ s'.profiles) : s.Deletes e p := by
  cases profileStep_change hstep with
  | move t pc hsame _ _ _ _ _ _ => exact absurd (hsame.profiles ▸ hin) hout
  | detach t ok name q he ht hlock hfind =>
    by_cases hpq : p = q
    · exact ⟨t, ok, name, he, ht, hlock, hpq ▸ hfind⟩
    · exact absurd ((List.mem_erase_of_ne hpq).mpr hin) hout
  | link t q prof _ _ => exact absurd (List.mem_cons_of_mem q hin) hout
  | _ => exact absurd hin hout

end ProfileSystem

namespace UnloadSystem

variable {s s' : UnloadSystem}

/-- The step deletes the profile. -/
def Deletes (s : UnloadSystem) (l : UnloadEvent) (p : Ptr) : Prop := ∃ e, l = .handler e ∧ s.sys.Deletes e p

/-- A profile that is in the list at a moment after the sweep, and not at a later one, has been deleted
by a handler in between. -/
theorem deletes_of_run {ls : List UnloadEvent} (run : Run UnloadStep s ls s') (hswept : s.pc.swept = true)
    {p : Ptr} (hin : p ∈ s.sys.profiles) (hout : p ∉ s'.sys.profiles) :
    ∃ ms l u, ms ++ [l] <+: ls ∧ Run UnloadStep s ms u ∧ u.Deletes l p := by
  obtain ⟨ms, l, u, v, hpre, run', hstep, hu, hv⟩ :=
    run.exists_step (P := fun s => p ∈ s.sys.profiles) hin hout
  refine ⟨ms, l, u, hpre, run', ?_⟩
  cases hstep with
  | handler e sys' henter hstep => exact ⟨e, rfl, ProfileSystem.deletes_of_lost hstep hu hv⟩
  | unload _ hdrain hnext =>
    rw [(next_keeps hnext).2.2 (swept_of_run run' hswept)] at hv
    exact absurd hu hv

/-- Every profile that is in the list at some moment after the sweep is deleted by a handler after
that moment. -/
def LateDeleted (ls : List UnloadEvent) (s : UnloadSystem) : Prop :=
  ∀ pre post u, ls = pre ++ post → Run UnloadStep init pre u → Run UnloadStep u post s → u.pc.swept = true →
    ∀ p ∈ u.sys.profiles, ∃ ms l v, ms ++ [l] <+: post ∧ Run UnloadStep u ms v ∧ v.Deletes l p

theorem leavesNothing_iff_lateDeleted {ls : List UnloadEvent} (run : Run UnloadStep init ls s)
    (hret : s.pc = .returned) : s.LeavesNothing ↔ LateDeleted ls s := by
  rw [(inv_of_run run).leavesNothing_iff hret]
  constructor
  · rintro hlist pre post u - - hpost hswept p hp
    refine deletes_of_run hpost hswept hp ?_
    rw [hlist]
    exact List.not_mem_nil
  · intro h
    refine List.eq_nil_iff_forall_not_mem.mpr fun p hp => ?_
    obtain ⟨ms, l, v, hpre, -⟩ := h ls [] s (List.append_nil ls).symm run (.nil s) (by rw [hret]; rfl) p hp
    exact absurd (List.prefix_nil.mp hpre) (List.append_ne_nil_of_right_ne_nil ms (List.cons_ne_nil l []))

/-! ### No creation after the sweep -/

/-- A write that asks for a new profile is in its critical section, after the sweep. -/
def Late (s : UnloadSystem) (l : UnloadEvent) : Prop :=
  s.pc.swept = true ∧ ∃ e name, l = .handler e ∧ s.sys.MakesDev e name

/-- After the sweep the list is empty, and nobody is about to change that. -/
def Swept (s : UnloadSystem) : Prop :=
  s.pc.swept = true → s.sys.profiles = [] ∧ ∀ t, (s.sys.pcs t).makes = none

theorem Swept.handler (h : s.Swept) {e : ProfileEvent} {sys' : ProfileSystem}
    (hlate : ¬ s.Late (.handler e))
    (hstep : ProfileStep s.sys e sys') : ({ s with sys := sys' } : UnloadSystem).Swept := by
  intro hswept
  obtain ⟨hlist, hmakes⟩ := h hswept
  have hupdate : ∀ {t pc}, pc.makes = none → ∀ u, (Function.update s.sys.pcs t pc u).makes = none := by
    intro t pc hpc u
    by_cases hut : u = t
    · rw [hut, Function.update_self]
      exact hpc
    · rw [Function.update_of_ne hut]
      exact hmakes u
  cases ProfileSystem.profileStep_change hstep with
  | nothing => exact ⟨hlist, hmakes⟩
  | move t pc hsame _ hpcs _ hpc _ _ =>
    refine ⟨hsame.profiles.trans hlist, ?_⟩
    show ∀ u, (sys'.pcs u).makes = none
    rw [hpcs]
    exact hupdate (hpc.trans (hmakes t))
  | lose t p _ _ => exact ⟨hlist, hupdate rfl⟩
  | detach t ok name p _ _ _ hfind =>
    have hp := ProfileSystem.mem_of_find hfind
    rw [hlist] at hp
    exact absurd hp List.not_mem_nil
  | update t name p filterStr filter prof _ _ _ _ => exact ⟨hlist, hupdate rfl⟩
  | publish t name filterStr filter he ht hlock hfind hroom =>
    exact absurd ⟨hswept, e, name, rfl, t, true, filterStr, filter, he, ht, hlock, hfind, not_le.mp hroom⟩ hlate
  | link t p prof ht _ =>
    have hstored := hmakes t
    rw [ht] at hstored
    cases hstored
  | hide t p prof dev _ _ _ => exact ⟨hlist, hupdate rfl⟩
  | bare t p prof _ _ _ => exact ⟨hlist, hupdate rfl⟩
  | free t p prof _ _ => exact ⟨hlist, hupdate rfl⟩

theorem Swept.unload (h : s.Swept) (hinv : s.Inv) (hnext : s.next = some s') : s'.Swept := by
  intro hswept'
  by_cases hswept : s.pc.swept = true
  · obtain ⟨-, hpcs, hlist⟩ := next_keeps hnext
    rw [hlist hswept, hpcs]
    exact h hswept
  · obtain ⟨a, hsim, hvalid⟩ := hinv.store
    have hlimit := hsim.length_le hvalid
    rcases s with ⟨sys, pc, fullNode, node⟩
    cases pc with
    | loaded =>
      simp only [next] at hnext
      split_ifs at hnext with hlock hfull
      · exact absurd hlimit (not_le.mpr hfull)
      · obtain rfl := Option.some.inj hnext
        exact ⟨rfl, fun t => hsim.not_makes (not_not.mp hlock) t⟩
    | _ => exact absurd rfl hswept

theorem swept_of_not_late {ls : List UnloadEvent} (run : Run (restrict UnloadStep fun s l => ¬ s.Late l) init ls s) :
    s.Inv ∧ s.Swept := by
  refine run.inv (I := fun s => s.Inv ∧ s.Swept) ⟨.init, nofun⟩ ?_
  rintro u l v ⟨hinv, hswept⟩ ⟨hstep, hlate⟩
  refine ⟨hinv.step hstep, ?_⟩
  cases hstep with
  | handler e sys' henter hstep => exact hswept.handler hlate hstep
  | unload _ hdrain hnext => exact hswept.unload hinv hnext

/-- Nothing is left behind when `MOD_UNLOAD` returns, if no write that asks for a new profile has its critical section after
the sweep; and in any interleaving exactly if what is created after the sweep is deleted again. -/
theorem unload_clean {ls : List UnloadEvent} (run : Run UnloadStep init ls s) (hret : s.pc = .returned) :
    (Run (restrict UnloadStep fun s l => ¬ s.Late l) init ls s → s.LeavesNothing) ∧
      (s.LeavesNothing ↔ LateDeleted ls s) := by
  refine ⟨fun hrun => ?_, leavesNothing_iff_lateDeleted run hret⟩
  obtain ⟨hinv, hswept⟩ := swept_of_not_late hrun
  exact (hinv.leavesNothing_iff hret).mpr (hswept (by rw [hret]; rfl)).1

/-- As long as the unload has not begun, the list has not been swept. -/
theorem loaded_of_run {ls : List UnloadEvent} (run : Run UnloadStep init ls s) (h : .unload ∉ ls) : s.pc = .loaded := by
  induction run with
  | nil => rfl
  | @snoc u v ls l run hstep ih =>
    rw [List.mem_append, not_or] at h
    cases hstep with
    | handler e sys' _ _ => exact ih h.1
    | unload _ _ _ => exact absurd (List.mem_singleton_self _) h.2

/-- Once the unload has begun no handler takes a step. -/
def HandlersFirst (ls : List UnloadEvent) : Prop := ls.Pairwise fun l l' => l = .unload → l' = .unload

/-- Then nothing is created after the sweep. -/
theorem HandlersFirst.not_late {ls : List UnloadEvent} (h : HandlersFirst ls) (run : Run UnloadStep init ls s) :
    Run (restrict UnloadStep fun s l => ¬ s.Late l) init ls s := by
  induction run with
  | nil => exact .nil init
  | @snoc u v ls l run hstep ih =>
    obtain ⟨hbefore, -, hlast⟩ := List.pairwise_append.mp h
    refine .snoc (ih hbefore) ⟨hstep, ?_⟩
    rintro ⟨hswept, e, name, rfl, -⟩
    have hnone : .unload ∉ ls := fun hmem => by cases hlast _ hmem _ (List.mem_singleton_self _) rfl
    rw [loaded_of_run run hnone] at hswept
    cases hswept

/-! ### Runs computed -/

/-- The events of thread 0, and the steps of the unload up to `sysctl_ctx_free`. -/
def soloStep (s : UnloadSystem) : UnloadEvent → Option UnloadSystem
  | .unload => if s.pc = .sysctlCtxFree then none else s.next
  | .handler e =>
    if s.pc.unregistered ∨ e.tid ≠ 0 then none
    else (profileStep s.sys e).map fun sys' => { s with sys := sys' }

/-- The event is not one of another thread. -/
def Solo (_ : UnloadSystem) : UnloadEvent → Prop
  | .unload => True
  | .handler e => e.tid = 0

theorem soloStep_step (s : UnloadSystem) (l : UnloadEvent) (s' : UnloadSystem)
    (h : soloStep s l = some s') :
    restrict UnloadStep Solo s l s' := by
  cases l with
  | unload =>
    simp only [soloStep] at h
    split_ifs at h with hpc
    exact ⟨.unload s' (fun hctx => absurd hctx hpc) h, trivial⟩
  | handler e =>
    simp only [soloStep] at h
    split_ifs at h with hcan
    obtain ⟨hreg, htid⟩ := not_or.mp hcan
    obtain ⟨sys', hstep, rfl⟩ := Option.map_eq_some_iff.mp h
    exact ⟨.handler e sys' (fun hun => absurd hun hreg) hstep, not_not.mp htid⟩

/-- The other threads stay where they are. -/
theorem idle_of_solo {ls : List UnloadEvent} (run : Run (restrict UnloadStep Solo) init ls s) (t : Tid)
    (ht : t ≠ 0) : s.sys.pcs t = .idle := by
  refine run.inv (I := fun s => s.sys.pcs t = .idle) rfl ?_
  rintro u l v hu ⟨hstep, hsolo⟩
  cases hstep with
  | handler e sys' henter hstep =>
    have : t ≠ e.tid := by
      rw [show e.tid = 0 from hsolo]
      exact ht
    exact (ProfileSystem.profileStep_pcs hstep this).trans hu
  | unload _ hdrain hnext =>
    rw [(next_keeps hnext).2.1]
    exact hu

/-- `sysctl_ctx_free` gets through, and the unload to its end. -/
theorem finish {ls : List UnloadEvent} (run : Run (restrict UnloadStep Solo) init ls s)
    (hpc : s.pc = .sysctlCtxFree) (hidle : s.sys.pcs 0 = .idle) :
    ∃ s', Run UnloadStep init (ls ++ [.unload] ++ [.unload]) s' ∧ s'.pc = .returned ∧
      s'.sys.profiles = s.sys.profiles := by
  have hdrained : s.Drained := by
    intro t
    by_cases ht : t = 0
    · rw [ht, hidle]
      rfl
    · rw [idle_of_solo run t ht]
      rfl
  have hfree : UnloadStep s .unload { s with sys := { s.sys with oids := [] }, pc := .sxDestroy } :=
    .unload _ (fun _ => hdrained) (by rw [next, hpc])
  exact ⟨_, .snoc (.snoc (run.mono fun _ _ _ h => h.1) hfree) (.unload _ nofun rfl), rfl, rfl⟩

/-- A profile is created, and the module unloaded. -/
def quiet : List UnloadEvent :=
  ProfileSystem.creating.map .handler ++ List.replicate 6 .unload

/-- The list is swept, and then a profile created. -/
def late : List UnloadEvent :=
  .unload :: ProfileSystem.creating.map .handler ++ List.replicate 3 .unload

/-- An unload after which nothing is left of the profile that was there. -/
theorem unload_clean_quiet : ∃ s, Run UnloadStep init (quiet ++ [.unload] ++ [.unload]) s ∧ s.pc = .returned ∧
    s.LeavesNothing ∧ LateDeleted (quiet ++ [.unload] ++ [.unload]) s := by
  have hrun : (replay soloStep quiet init).any (fun s =>
      s.pc = .sysctlCtxFree && s.sys.pcs 0 = .idle && s.sys.profiles.isEmpty) = true := by
    decide +kernel
  obtain ⟨s, hs, h⟩ := (Option.any_eq_true _ _).mp hrun
  simp only [Bool.and_eq_true, decide_eq_true_eq, List.isEmpty_iff] at h
  obtain ⟨⟨hpc, hidle⟩, hlist⟩ := h
  obtain ⟨s', run, hret, -⟩ := finish (replay_run soloStep_step hs) hpc hidle
  have hfirst : HandlersFirst (quiet ++ [.unload] ++ [.unload]) := by
    simp [HandlersFirst, quiet, ProfileSystem.creating]
  obtain ⟨hclean, hiff⟩ := unload_clean run hret
  exact ⟨s', run, hret, hclean (hfirst.not_late run), hiff.mp (hclean (hfirst.not_late run))⟩

/-- An unload that returns with a profile, and its node, left behind. -/
theorem unload_leaves_profile : ∃ s, Run UnloadStep init (late ++ [.unload] ++ [.unload]) s ∧
    s.pc = .returned ∧ ¬ s.LeavesNothing := by
  have hrun : (replay soloStep late init).any (fun s =>
      s.pc = .sysctlCtxFree && s.sys.pcs 0 = .idle && !s.sys.profiles.isEmpty) = true := by
    decide +kernel
  obtain ⟨s, hs, h⟩ := (Option.any_eq_true _ _).mp hrun
  simp only [Bool.and_eq_true, decide_eq_true_eq, Bool.not_eq_true', List.isEmpty_eq_false_iff] at h
  obtain ⟨⟨hpc, hidle⟩, hlist⟩ := h
  obtain ⟨s', run, hret, hsame⟩ := finish (replay_run soloStep_step hs) hpc hidle
  exact ⟨s', run, hret, fun hclean => hlist (hsame ▸ hclean.profiles)⟩

end UnloadSystem

end TcpStats
