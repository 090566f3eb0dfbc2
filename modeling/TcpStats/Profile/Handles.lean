import TcpStats.Profile.Concurrent
import TcpStats.Lib.Run

/-!
# Handles on profiles

A profile is reached through the list, through `si_drv1` of its node and through `arg1` of
its OID. A deletion takes it out of the list and destroys the node before it frees the
profile, but leaves the OID; a creation publishes the node before it sets `si_drv1`. As
long as no profile is freed and no open enters a node in that window, every handle is good
outside the window (`handles_valid_iff`), and freeing a profile always leaves a handle on
it (`free_dangles`).

The proof is an invariant of one clause for each point at which a thread may stand (`PcOk`),
and what a step of one thread leaves alone for the others (`Ext`).
-/

namespace TcpStats

open Transition

namespace ProfileSystem

/-! ### Good handles -/

/-- Every handle leads to a profile that is there, and no thread has read through one that does
not. -/
structure HandlesValid (s : ProfileSystem) : Prop where
  /-- `si_drv1` of a node that can be opened. -/
  nodes : ∀ node ∈ s.nodes, ∃ p prof, s.siDrv1 node.num = some p ∧ s.heap p = some prof ∧
    prof.dev = some node.num
  /-- `arg1` of an OID. -/
  oids : ∀ oid ∈ s.oids, (s.heap oid.arg1).isSome = true
  noFault : s.faulted = false

/-- A creation stands between `make_dev_credf` and its store to `si_drv1`. -/
def InWindow (s : ProfileSystem) : Prop := ∃ t p dev, s.pcs t = .published p dev

/-- The event does not free a profile, and is not the step of an open, which goes on to use what
it reads, that reads `si_drv1` of a node whose creation is in its window. -/
def Harmless (s : ProfileSystem) : ProfileEvent → Prop
  | .go t ok => (∀ p, s.pcs t ≠ .freeing p) ∧
      ∀ dev, s.pcs t = .opening dev → ok = true → ∀ u p, s.pcs u ≠ .published p dev
  | _ => True

/-! ### The invariant -/

/-- The profile at the address is allocated. -/
def Live (s : ProfileSystem) (p : Ptr) : Prop := ∃ prof, s.heap p = some prof

/-- Some node leads to the profile. -/
def Bound (s : ProfileSystem) (p : Ptr) : Prop := ∃ dev, s.siDrv1 dev = some p

/-- The profile has its OID, or will have it by its creator's next step. -/
def Tracked (s : ProfileSystem) (p : Ptr) : Prop :=
  (∃ oid ∈ s.oids, oid.arg1 = p) ∨ ∃ t, s.pcs t = .created p

/-- The node has its `si_drv1`, or will have it by its creator's next step. -/
def NodeOk (s : ProfileSystem) (dev : ℕ) : Prop :=
  (∃ p, s.siDrv1 dev = some p) ∨ ∃ t p, s.pcs t = .published p dev

/-- The name can be read. -/
def NameOk (s : ProfileSystem) : NameRef → Prop
  | .own _ => True
  | .arg1 p => s.Live p

/-- What holds of the system while a thread stands at a point. -/
def PcOk (s : ProfileSystem) (t : Tid) : Pc → Prop
  | .idle => True
  | .list => True
  | .read arg1 => s.Live arg1
  | .request (.delete name) => s.NameOk name
  | .request (.put name _ _) => s.NameOk name
  | .published p dev => s.lock = some t ∧ (∃ prof, s.heap p = some prof ∧ prof.dev = some dev) ∧
      s.siDrv1 dev = none ∧ ∃ node ∈ s.nodes, node.num = dev
  | .stored p => s.lock = some t ∧ s.Bound p
  | .created p => s.Live p
  | .registered p => s.Live p
  | .updated name => s.NameOk name
  | .detached p => s.Bound p ∧ s.Tracked p
  | .destroying p _ => s.Live p ∧ s.Tracked p
  | .destroyed p => s.Live p ∧ s.Tracked p
  | .freeing p => s.Live p ∧ s.Tracked p
  | .opening dev => s.NodeOk dev
  | .opened _ prof => ∃ p, prof = some p ∧ s.Live p

/-- A thread at the point is neither in the window of a creation nor before its registration. -/
def Settled : Pc → Prop
  | .published _ _ => False
  | .created _ => False
  | _ => True

/-- What holds in every state as long as no profile is freed. -/
structure Inv (s : ProfileSystem) : Prop where
  noFault : s.faulted = false
  /-- The profiles of the list have a node and an OID. -/
  list : ∀ p ∈ s.profiles, s.Bound p ∧ s.Tracked p
  oids : ∀ oid ∈ s.oids, s.Live oid.arg1
  /-- `si_drv1` leads to the profile of the node. -/
  drv : ∀ dev p, s.siDrv1 dev = some p → ∃ prof, s.heap p = some prof ∧ prof.dev = some dev
  nodes : ∀ node ∈ s.nodes, s.NodeOk node.num
  newPtr : ∀ p, s.Live p → p < s.nextPtr
  newDev : ∀ dev p, s.siDrv1 dev = some p → dev < s.nextDev
  newNode : ∀ node ∈ s.nodes, node.num < s.nextDev
  pcs : ∀ t, s.PcOk t (s.pcs t)

theorem Settled.ne_created {pc : Pc} (h : Settled pc) (p : Ptr) : pc ≠ .created p := by
  rintro rfl
  exact h

theorem Settled.ne_published {pc : Pc} (h : Settled pc) (p : Ptr) (dev : ℕ) : pc ≠ .published p dev := by
  rintro rfl
  exact h

theorem Inv.init : ProfileSystem.init.Inv where
  noFault := rfl
  list _ h := absurd h List.not_mem_nil
  oids _ h := absurd h List.not_mem_nil
  drv _ _ h := nomatch h
  nodes _ h := absurd h List.not_mem_nil
  newPtr _ h := nomatch h.choose_spec
  newDev _ _ h := nomatch h
  newNode _ h := absurd h List.not_mem_nil
  pcs _ := trivial

theorem Inv.live {s : ProfileSystem} (h : s.Inv) {p : Ptr} (hp : s.Bound p) : s.Live p := by
  obtain ⟨dev, hdev⟩ := hp
  obtain ⟨prof, hprof, -⟩ := h.drv dev p hdev
  exact ⟨prof, hprof⟩

/-! ### What a step leaves alone -/

/-- Who has the lock keeps it, and the nodes in its window. -/
def KeepsLock (s s' : ProfileSystem) (u : Tid) : Prop :=
  s.lock = some u → s'.lock = some u ∧ s'.siDrv1 = s.siDrv1 ∧
    ∀ node ∈ s.nodes, s.siDrv1 node.num = none → node ∈ s'.nodes

/-- What a step of thread `t` leaves alone for the other threads. -/
structure Ext (s s' : ProfileSystem) (t : Tid) : Prop where
  heap : ∀ p prof, s.heap p = some prof → ∃ prof', s'.heap p = some prof' ∧ prof'.dev = prof.dev
  drv : ∀ dev p, s.siDrv1 dev = some p → s'.siDrv1 dev = some p
  oids : s.oids ⊆ s'.oids
  pcs : ∀ u, u ≠ t → s'.pcs u = s.pcs u
  created : ∀ p, s.pcs t = .created p → ∃ oid ∈ s'.oids, oid.arg1 = p
  published : ∀ p dev, s.pcs t = .published p dev → s'.siDrv1 dev = some p
  lock : ∀ u, u ≠ t → KeepsLock s s' u

variable {s s' : ProfileSystem} {t : Tid}

theorem Ext.live (e : Ext s s' t) {p : Ptr} (h : s.Live p) : s'.Live p := by
  obtain ⟨prof, hprof⟩ := h
  obtain ⟨prof', hprof', -⟩ := e.heap p prof hprof
  exact ⟨prof', hprof'⟩

theorem Ext.bound (e : Ext s s' t) {p : Ptr} (h : s.Bound p) : s'.Bound p := by
  obtain ⟨dev, hdev⟩ := h
  exact ⟨dev, e.drv dev p hdev⟩

theorem Ext.tracked (e : Ext s s' t) {p : Ptr} (h : s.Tracked p) : s'.Tracked p := by
  rcases h with ⟨oid, hoid, rfl⟩ | ⟨u, hu⟩
  · exact .inl ⟨oid, e.oids hoid, rfl⟩
  · by_cases hut : u = t
    · subst hut
      exact .inl (e.created p hu)
    · exact .inr ⟨u, (e.pcs u hut).trans hu⟩

theorem Ext.nodeOk (e : Ext s s' t) {dev : ℕ} (h : s.NodeOk dev) : s'.NodeOk dev := by
  rcases h with ⟨p, hp⟩ | ⟨u, p, hu⟩
  · exact .inl ⟨p, e.drv dev p hp⟩
  · by_cases hut : u = t
    · subst hut
      exact .inl ⟨p, e.published p dev hu⟩
    · exact .inr ⟨u, p, (e.pcs u hut).trans hu⟩

theorem Ext.nameOk (e : Ext s s' t) {name : NameRef} (h : s.NameOk name) : s'.NameOk name := by
  cases name with
  | own name => trivial
  | arg1 p => exact e.live h

/-- What holds of a thread goes on holding, if the lock stays with it. -/
theorem Ext.pcOk (e : Ext s s' t) {u : Tid} (hlock : KeepsLock s s' u) {pc : Pc} (h : s.PcOk u pc) :
    s'.PcOk u pc := by
  cases pc with
  | idle => trivial
  | list => trivial
  | read arg1 => exact e.live h
  | request req =>
    cases req with
    | delete name => exact e.nameOk h
    | put name filterStr filter => exact e.nameOk h
  | published p dev =>
    obtain ⟨hheld, ⟨prof, hprof, hdev⟩, hnull, node, hnode, hnum⟩ := h
    obtain ⟨hheld', hdrv, hnodes⟩ := hlock hheld
    obtain ⟨prof', hprof', hdev'⟩ := e.heap p prof hprof
    exact ⟨hheld', ⟨prof', hprof', hdev'.trans hdev⟩, by rw [hdrv, hnull], node,
      hnodes node hnode (by rw [hnum, hnull]), hnum⟩
  | stored p => exact ⟨(hlock h.1).1, e.bound h.2⟩
  | created p => exact e.live h
  | registered p => exact e.live h
  | updated name => exact e.nameOk h
  | detached p => exact ⟨e.bound h.1, e.tracked h.2⟩
  | destroying p dev => exact ⟨e.live h.1, e.tracked h.2⟩
  | destroyed p => exact ⟨e.live h.1, e.tracked h.2⟩
  | freeing p => exact ⟨e.live h.1, e.tracked h.2⟩
  | opening dev => exact e.nodeOk h
  | opened dev prof =>
    obtain ⟨p, hp, hlive⟩ := h
    exact ⟨p, hp, e.live hlive⟩

/-- The threads, from those a step leaves alone and the one that takes it. -/
theorem Ext.pcs_ok (e : Ext s s' t) (h : s.Inv) {pc : Pc} (hpc : s'.pcs t = pc) (ht : s'.PcOk t pc)
    (u : Tid) : s'.PcOk u (s'.pcs u) := by
  by_cases hu : u = t
  · rw [hu, hpc]
    exact ht
  · rw [e.pcs u hu]
    exact e.pcOk (e.lock u hu) (h.pcs u)

/-- The list of a step that adds nothing to it. -/
theorem Ext.list_ok (e : Ext s s' t) (h : s.Inv) (hlist : s'.profiles ⊆ s.profiles) :
    ∀ p ∈ s'.profiles, s'.Bound p ∧ s'.Tracked p := by
  rintro p hp
  obtain ⟨hbound, htracked⟩ := h.list p (hlist hp)
  exact ⟨e.bound hbound, e.tracked htracked⟩

/-- The nodes of a step that adds none. -/
theorem Ext.nodes_ok (e : Ext s s' t) (h : s.Inv) (hnodes : s'.nodes ⊆ s.nodes) :
    ∀ node ∈ s'.nodes, s'.NodeOk node.num :=
  fun node hnode => e.nodeOk (h.nodes node (hnodes hnode))

/-! ### Steps that move a thread only -/

/-- A thread that goes on, or leaves the driver, without anything else changing. -/
theorem Inv.moved (h : s.Inv) (pc : Pc) (i : List (Tid × ℕ)) (hsettled : Settled (s.pcs t))
    (hpc : s.PcOk t pc) :
    ({ s with inside := i, pcs := Function.update s.pcs t pc } : ProfileSystem).Inv := by
  have e : Ext s { s with inside := i, pcs := Function.update s.pcs t pc } t :=
    { heap := fun p prof hp => ⟨prof, hp, rfl⟩
      drv := fun _ _ hd => hd
      oids := fun _ ho => ho
      pcs := fun u hu => Function.update_of_ne hu _ _
      created := fun p hp => absurd hp (hsettled.ne_created p)
      published := fun p dev hp => absurd hp (hsettled.ne_published p dev)
      lock := fun u _ hu => ⟨hu, rfl, fun _ hn _ => hn⟩ }
  exact ⟨h.noFault, e.list_ok h fun p hp => hp, h.oids, h.drv, e.nodes_ok h fun _ hn => hn,
    h.newPtr, h.newDev, h.newNode,
    e.pcs_ok h (Function.update_self ..) (e.pcOk (fun hu => ⟨hu, rfl, fun _ hn _ => hn⟩) hpc)⟩

theorem Inv.goto (h : s.Inv) {pc : Pc} (hsettled : Settled (s.pcs t)) (hpc : s.PcOk t pc) :
    (s.goto t pc).Inv :=
  h.moved pc s.inside hsettled hpc

/-! ### Steps in the lock -/

/-- It reads no freed memory on a list of profiles that are there. -/
theorem findLoop_isSome {heap : Ptr → Option TcpstatsProfile} {name : CString.CStr} {ps : List Ptr}
    (h : ∀ p ∈ ps, ∃ prof, heap p = some prof) : (findLoop heap name ps).isSome = true := by
  induction ps with
  | nil => rfl
  | cons p ps ih =>
    obtain ⟨prof, hprof⟩ := h p (List.mem_cons_self ..)
    rw [findLoop, hprof]
    dsimp only
    split_ifs
    · rfl
    · exact ih fun q hq => h q (List.mem_cons_of_mem _ hq)

theorem NameOk.text {name : NameRef} (h : s.NameOk name) : ∃ text, s.nameText name = some text := by
  cases name with
  | own name => exact ⟨name, rfl⟩
  | arg1 p =>
    obtain ⟨prof, hprof⟩ := h
    exact ⟨prof.name.str, by rw [nameText, hprof]; rfl⟩

theorem Inv.find_isSome (h : s.Inv) {name : NameRef} (hname : s.NameOk name) :
    ∃ found, s.find name = some found := by
  unfold find
  split_ifs
  · exact ⟨none, rfl⟩
  · obtain ⟨text, htext⟩ := hname.text
    rw [htext, Option.bind_some]
    exact Option.isSome_iff_exists.mp (findLoop_isSome fun p hp => h.live (h.list p hp).1)

theorem Inv.detach (h : s.Inv) {p : Ptr} (hp : p ∈ s.profiles) (hsettled : Settled (s.pcs t)) :
    ({ s.goto t (.detached p) with
      profiles := s.profiles.erase p, nprofiles := s.nprofiles - 1 } : ProfileSystem).Inv := by
  have hg : (s.goto t (.detached p)).Inv := h.goto hsettled (h.list p hp)
  exact ⟨hg.noFault, fun q hq => hg.list q (List.mem_of_mem_erase hq), hg.oids, hg.drv, hg.nodes,
    hg.newPtr, hg.newDev, hg.newNode, hg.pcs⟩

/-- A profile is given another filter. -/
theorem Inv.update (h : s.Inv) {p : Ptr} {old new : TcpstatsProfile} {name : NameRef}
    (hold : s.heap p = some old) (hdev : new.dev = old.dev) (hname : s.NameOk name)
    (hsettled : Settled (s.pcs t)) :
    ({ s.goto t (.updated name) with
      heap := Function.update s.heap p (some new) } : ProfileSystem).Inv := by
  have e : Ext s { s.goto t (.updated name) with heap := Function.update s.heap p (some new) } t := by
    refine ⟨?_, fun _ _ hd => hd, fun _ ho => ho, fun u hu => Function.update_of_ne hu _ _,
      fun q hq => absurd hq (hsettled.ne_created q),
      fun q dev hq => absurd hq (hsettled.ne_published q dev), fun u _ hu => ⟨hu, rfl, fun _ hn _ => hn⟩⟩
    rintro q prof hq
    by_cases hqp : q = p
    · subst hqp
      exact ⟨new, Function.update_self .., by rw [hdev, Option.some.inj (hold.symm.trans hq)]⟩
    · exact ⟨prof, (Function.update_of_ne hqp _ _).trans hq, rfl⟩
  refine ⟨h.noFault, e.list_ok h fun _ hp => hp, fun oid ho => e.live (h.oids oid ho), ?_,
    e.nodes_ok h fun _ hn => hn, ?_, h.newDev, h.newNode,
    e.pcs_ok h (Function.update_self ..) (e.nameOk hname)⟩
  · rintro dev q hq
    obtain ⟨prof, hprof, hnum⟩ := h.drv dev q hq
    obtain ⟨prof', hprof', hdev'⟩ := e.heap q prof hprof
    exact ⟨prof', hprof', hdev'.trans hnum⟩
  · rintro q ⟨prof, hq⟩
    by_cases hqp : q = p
    · exact h.newPtr q (hqp ▸ ⟨old, hold⟩)
    · exact h.newPtr q ⟨prof, (Function.update_of_ne hqp _ _).symm.trans hq⟩

/-- A profile and its node are made. -/
theorem Inv.publish (h : s.Inv) {prof : TcpstatsProfile} {name : CString.CStr}
    (hdev : prof.dev = some s.nextDev) (hlock : s.lock = none) (hsettled : Settled (s.pcs t)) :
    ({ s.goto t (.published s.nextPtr s.nextDev) with
      heap := Function.update s.heap s.nextPtr (some prof)
      nextPtr := s.nextPtr + 1
      lock := some t
      nodes := ⟨s.nextDev, name⟩ :: s.nodes
      nextDev := s.nextDev + 1 } : ProfileSystem).Inv := by
  have hheap : ∀ q old, s.heap q = some old →
      Function.update s.heap s.nextPtr (some prof) q = some old := by
    rintro q old hq
    exact (Function.update_of_ne (Nat.ne_of_lt (h.newPtr q ⟨old, hq⟩)) _ _).trans hq
  have hnull : s.siDrv1 s.nextDev = none := by
    rcases hd : s.siDrv1 s.nextDev with _ | p
    · rfl
    · exact absurd (h.newDev _ p hd) (lt_irrefl _)
  have e : Ext s { s.goto t (.published s.nextPtr s.nextDev) with
      heap := Function.update s.heap s.nextPtr (some prof)
      nextPtr := s.nextPtr + 1
      lock := some t
      nodes := ⟨s.nextDev, name⟩ :: s.nodes
      nextDev := s.nextDev + 1 } t := by
    refine ⟨fun q old hq => ⟨old, hheap q old hq, rfl⟩, fun _ _ hd => hd, fun _ ho => ho,
      fun u hu => Function.update_of_ne hu _ _, fun q hq => absurd hq (hsettled.ne_created q),
      fun q dev hq => absurd hq (hsettled.ne_published q dev), ?_⟩
    rintro u - hu
    rw [hlock] at hu
    cases hu
  refine ⟨h.noFault, e.list_ok h fun _ hp => hp, fun oid ho => e.live (h.oids oid ho), ?_, ?_, ?_, ?_, ?_,
    e.pcs_ok h (Function.update_self ..) ⟨rfl, ⟨prof, Function.update_self .., hdev⟩, hnull, _,
      List.mem_cons_self .., rfl⟩⟩
  · rintro dev q hq
    obtain ⟨old, hold, hnum⟩ := h.drv dev q hq
    exact ⟨old, hheap q old hold, hnum⟩
  · rintro node hnode
    rcases List.mem_cons.mp hnode with rfl | hnode
    · exact .inr ⟨t, s.nextPtr, Function.update_self ..⟩
    · exact e.nodeOk (h.nodes node hnode)
  · rintro q ⟨old, hq⟩
    by_cases hqp : q = s.nextPtr
    · exact hqp ▸ Nat.lt_succ_self _
    · exact Nat.lt_succ_of_lt (h.newPtr q ⟨old, (Function.update_of_ne hqp _ _).symm.trans hq⟩)
  · exact fun dev q hq => Nat.lt_succ_of_lt (h.newDev dev q hq)
  · rintro node hnode
    rcases List.mem_cons.mp hnode with rfl | hnode
    · exact Nat.lt_succ_self _
    · exact Nat.lt_succ_of_lt (h.newNode node hnode)

/-! ### Steps of a creation and a deletion -/

/-- `si_drv1` is set. -/
theorem Inv.store (h : s.Inv) {p : Ptr} {dev : ℕ} (ht : s.pcs t = .published p dev) :
    ({ s.goto t (.stored p) with siDrv1 := Function.update s.siDrv1 dev (some p) } : ProfileSystem).Inv := by
  have hpc := h.pcs t
  rw [ht] at hpc
  obtain ⟨hlock, ⟨prof, hprof, hdev⟩, hnull, made, hmade, rfl⟩ := hpc
  have hnew : Function.update s.siDrv1 made.num (some p) made.num = some p := Function.update_self ..
  have e : Ext s { s.goto t (.stored p) with siDrv1 := Function.update s.siDrv1 made.num (some p) } t := by
    refine ⟨fun q old hq => ⟨old, hq, rfl⟩, ?_, fun _ ho => ho, fun u hu => Function.update_of_ne hu _ _,
      fun q hq => (nomatch ht.symm.trans hq), ?_, ?_⟩
    · rintro d q hq
      by_cases hd : d = made.num
      · rw [hd, hnull] at hq
        cases hq
      · exact (Function.update_of_ne hd _ _).trans hq
    · rintro q d hq
      obtain ⟨rfl, rfl⟩ := Pc.published.inj (ht.symm.trans hq)
      exact hnew
    · rintro u hu hheld
      exact absurd (Option.some.inj (hheld.symm.trans hlock)) hu
  have hcases : ∀ d q, Function.update s.siDrv1 made.num (some p) d = some q →
      d = made.num ∧ q = p ∨ s.siDrv1 d = some q := by
    rintro d q hq
    by_cases hd : d = made.num
    · rw [hd, hnew] at hq
      exact .inl ⟨hd, (Option.some.inj hq).symm⟩
    · exact .inr ((Function.update_of_ne hd _ _).symm.trans hq)
  refine ⟨h.noFault, e.list_ok h fun _ hp => hp, h.oids, ?_, e.nodes_ok h fun _ hn => hn, h.newPtr, ?_,
    h.newNode, e.pcs_ok h (Function.update_self ..) ⟨hlock, made.num, hnew⟩⟩
  · rintro d q hq
    rcases hcases d q hq with ⟨rfl, rfl⟩ | hq
    · exact ⟨prof, hprof, hdev⟩
    · exact h.drv d q hq
  · rintro d q hq
    rcases hcases d q hq with ⟨rfl, rfl⟩ | hq
    · exact h.newNode made hmade
    · exact h.newDev d q hq

/-- The profile goes into the list. -/
theorem Inv.link (h : s.Inv) {p : Ptr} (ht : s.pcs t = .stored p) :
    ({ s.goto t (.created p) with
      profiles := p :: s.profiles, nprofiles := s.nprofiles + 1, lock := none } : ProfileSystem).Inv := by
  have hpc := h.pcs t
  rw [ht] at hpc
  obtain ⟨hlock, hbound⟩ := hpc
  have e : Ext s { s.goto t (.created p) with
      profiles := p :: s.profiles, nprofiles := s.nprofiles + 1, lock := none } t := by
    refine ⟨fun q prof hq => ⟨prof, hq, rfl⟩, fun _ _ hd => hd, fun _ ho => ho,
      fun u hu => Function.update_of_ne hu _ _, fun q hq => (nomatch ht.symm.trans hq),
      fun q dev hq => (nomatch ht.symm.trans hq), ?_⟩
    rintro u hu hheld
    exact absurd (Option.some.inj (hheld.symm.trans hlock)) hu
  refine ⟨h.noFault, ?_, h.oids, h.drv, e.nodes_ok h fun _ hn => hn, h.newPtr,
    h.newDev, h.newNode, e.pcs_ok h (Function.update_self ..) (h.live hbound)⟩
  · rintro q hq
    rcases List.mem_cons.mp hq with rfl | hq
    · exact ⟨hbound, .inr ⟨t, Function.update_self ..⟩⟩
    · exact ⟨e.bound (h.list q hq).1, e.tracked (h.list q hq).2⟩

/-- The OID is registered. -/
theorem Inv.register (h : s.Inv) {p : Ptr} {name : CString.CStr} (ht : s.pcs t = .created p) :
    ({ s.goto t (.registered p) with oids := ⟨name, p⟩ :: s.oids } : ProfileSystem).Inv := by
  have hlive := h.pcs t
  rw [ht] at hlive
  have e : Ext s { s.goto t (.registered p) with oids := ⟨name, p⟩ :: s.oids } t := by
    refine ⟨fun q prof hq => ⟨prof, hq, rfl⟩, fun _ _ hd => hd, List.subset_cons_self _ _,
      fun u hu => Function.update_of_ne hu _ _, ?_, fun q dev hq => (nomatch ht.symm.trans hq),
      fun u _ hu => ⟨hu, rfl, fun _ hn _ => hn⟩⟩
    rintro q hq
    obtain rfl := Pc.created.inj (ht.symm.trans hq)
    exact ⟨_, List.mem_cons_self .., rfl⟩
  refine ⟨h.noFault, e.list_ok h fun _ hp => hp, ?_, h.drv, e.nodes_ok h fun _ hn => hn, h.newPtr,
    h.newDev, h.newNode, e.pcs_ok h (Function.update_self ..) hlive⟩
  · rintro oid hoid
    rcases List.mem_cons.mp hoid with rfl | hoid
    · exact hlive
    · exact h.oids oid hoid

/-- `destroy_dev` hides the node of a profile that is out of the list. -/
theorem Inv.hide (h : s.Inv) {p : Ptr} {prof : TcpstatsProfile} {dev : ℕ} (ht : s.pcs t = .detached p)
    (hprof : s.heap p = some prof) (hdev : prof.dev = some dev) :
    ({ s.goto t (.destroying p dev) with nodes := s.nodes.filter (·.num ≠ dev) } : ProfileSystem).Inv := by
  have hpc := h.pcs t
  rw [ht] at hpc
  obtain ⟨⟨d, hd⟩, htracked⟩ := hpc
  have hdrv : s.siDrv1 dev = some p := by
    obtain ⟨prof', hprof', hdev'⟩ := h.drv d p hd
    obtain rfl := Option.some.inj (hprof.symm.trans hprof')
    obtain rfl := Option.some.inj (hdev.symm.trans hdev')
    exact hd
  have e : Ext s { s.goto t (.destroying p dev) with nodes := s.nodes.filter (·.num ≠ dev) } t := by
    refine ⟨fun q old hq => ⟨old, hq, rfl⟩, fun _ _ hd => hd, fun _ ho => ho,
      fun u hu => Function.update_of_ne hu _ _, fun q hq => (nomatch ht.symm.trans hq),
      fun q dev hq => (nomatch ht.symm.trans hq), ?_⟩
    -- the node has its `si_drv1`, so it is not one in the window
    refine fun u _ hu => ⟨hu, rfl, fun node hnode hnull => List.mem_filter.mpr ⟨hnode, ?_⟩⟩
    have hne : node.num ≠ dev := by
      rintro rfl
      exact nomatch hnull.symm.trans hdrv
    simpa using hne
  refine ⟨h.noFault, e.list_ok h fun _ hp => hp, h.oids, h.drv,
    e.nodes_ok h List.filter_sublist.subset, h.newPtr, h.newDev,
    fun node hnode => h.newNode node (List.mem_filter.mp hnode).1,
    e.pcs_ok h (Function.update_self ..) ⟨⟨prof, hprof⟩, e.tracked htracked⟩⟩

/-! ### Every step -/

/-- A critical section keeps the invariant. -/
theorem Inv.critical (h : s.Inv) {ok : Bool} {req : ProfileRequest NameRef} (ht : s.pcs t = .request req)
    (hlock : s.lock = none) : (s.critical t ok req).Inv := by
  have hpc := h.pcs t
  rw [ht] at hpc
  have hsettled : Settled (s.pcs t) := by rw [ht]; trivial
  have hidle : (s.goto t .idle).Inv := h.goto hsettled trivial
  cases req with
  | delete name =>
    have hname : s.NameOk name := hpc
    obtain ⟨found, hfind⟩ := h.find_isSome hname
    simp only [ProfileSystem.critical, hfind]
    cases found with
    | none => exact hidle
    | some p => exact h.detach (mem_of_find hfind) hsettled
  | put name filterStr filter =>
    have hname : s.NameOk name := hpc
    obtain ⟨found, hfind⟩ := h.find_isSome hname
    simp only [ProfileSystem.critical, hfind]
    cases found with
    | some p =>
      obtain ⟨prof, hprof⟩ := h.live (h.list p (mem_of_find hfind)).1
      dsimp only
      rw [onProfile_of_live hprof]
      exact h.update hprof rfl hpc hsettled
    | none =>
      cases name with
      | arg1 q => exact hidle
      | own name =>
        dsimp only
        unfold create
        split_ifs
        · exact hidle
        · exact h.publish rfl hlock hsettled
        · exact hidle

/-- A harmless step of a thread keeps the invariant. -/
theorem Inv.go (h : s.Inv) {ok : Bool} (hsafe : s.Harmless (.go t ok)) (hgo : s.go t ok = some s') :
    s'.Inv := by
  obtain ⟨hfree, hopen⟩ := hsafe
  have hpc := h.pcs t
  have hgoto : ∀ {pc}, Settled (s.pcs t) → s.PcOk t pc → (s.goto t pc).Inv := fun hs hok => h.goto hs hok
  have hleave : Settled (s.pcs t) → (s.leave t).Inv := fun hs => h.moved .idle _ hs trivial
  unfold ProfileSystem.go at hgo
  cases ht : s.pcs t with
  | idle =>
    rw [ht] at hgo
    cases hgo
  | list =>
    simp only [ht] at hgo hgoto
    split_ifs at hgo with hlock hall
    · obtain rfl := Option.some.inj hgo
      exact hgoto trivial trivial
    · refine absurd (List.all_eq_true.mpr fun p hp => ?_) hall
      exact Option.isSome_iff_exists.mpr (h.live (h.list p hp).1)
  | read arg1 =>
    simp only [ht] at hgo hpc hgoto
    split_ifs at hgo with hlock hfound
    · obtain rfl := Option.some.inj hgo
      exact hgoto trivial trivial
    · have hname : s.NameOk (.arg1 arg1) := hpc
      exact absurd (Option.isSome_iff_exists.mpr (h.find_isSome hname)) hfound
  | request req =>
    simp only [ht] at hgo
    split_ifs at hgo with hlock
    obtain rfl := Option.some.inj hgo
    exact h.critical ht (not_not.mp hlock)
  | published p dev =>
    simp only [ht] at hgo hpc
    obtain ⟨-, ⟨prof, hprof, -⟩, -⟩ := hpc
    rw [onProfile_of_live hprof] at hgo
    obtain rfl := Option.some.inj hgo
    exact h.store ht
  | stored p =>
    simp only [ht] at hgo hpc
    obtain ⟨prof, hprof⟩ := h.live hpc.2
    rw [onProfile_of_live hprof] at hgo
    obtain rfl := Option.some.inj hgo
    exact h.link ht
  | created p =>
    simp only [ht] at hgo hpc
    obtain ⟨prof, hprof⟩ := hpc
    rw [onProfile_of_live hprof] at hgo
    obtain rfl := Option.some.inj hgo
    exact h.register ht
  | registered p =>
    simp only [ht] at hgo hpc hgoto
    obtain ⟨prof, hprof⟩ := hpc
    rw [onProfile_of_live hprof] at hgo
    obtain rfl := Option.some.inj hgo
    exact hgoto trivial trivial
  | updated name =>
    simp only [ht] at hgo hpc hgoto
    obtain ⟨text, htext⟩ := NameOk.text hpc
    rw [htext] at hgo
    obtain rfl := Option.some.inj hgo
    exact hgoto trivial trivial
  | detached p =>
    simp only [ht] at hgo hpc hgoto
    obtain ⟨prof, hprof⟩ := h.live hpc.1
    rw [onProfile_of_live hprof] at hgo
    rcases hdev : prof.dev with _ | dev
    · simp only [hdev] at hgo
      obtain rfl := Option.some.inj hgo
      exact hgoto trivial ⟨⟨prof, hprof⟩, hpc.2⟩
    · simp only [hdev] at hgo
      obtain rfl := Option.some.inj hgo
      exact h.hide ht hprof hdev
  | destroying p dev =>
    simp only [ht] at hgo hpc hgoto
    split_ifs at hgo
    obtain rfl := Option.some.inj hgo
    exact hgoto trivial hpc
  | destroyed p =>
    simp only [ht] at hgo hpc hgoto
    obtain ⟨prof, hprof⟩ := hpc.1
    rw [onProfile_of_live hprof] at hgo
    obtain rfl := Option.some.inj hgo
    exact hgoto trivial hpc
  | freeing p => exact absurd ht (hfree p)
  | opening dev =>
    simp only [ht] at hgo hpc hgoto hleave
    split_ifs at hgo with hok
    · obtain rfl := Option.some.inj hgo
      rcases hpc with ⟨p, hp⟩ | ⟨u, p, hu⟩
      · exact hgoto trivial ⟨p, hp, h.live ⟨dev, hp⟩⟩
      · exact absurd hu (hopen dev ht hok u p)
    · obtain rfl := Option.some.inj hgo
      exact hleave trivial
  | opened dev prof =>
    simp only [ht] at hgo hpc hleave
    obtain ⟨p, rfl, prof', hprof'⟩ := hpc
    dsimp only at hgo
    rw [onProfile_of_live hprof'] at hgo
    obtain rfl := Option.some.inj hgo
    exact hleave trivial

/-- Every harmless event keeps the invariant. -/
theorem Inv.step (h : s.Inv) {e : ProfileEvent} (hstep : ProfileStep s e s') (hsafe : s.Harmless e) :
    s'.Inv := by
  unfold ProfileStep profileStep at hstep
  have hgoto : ∀ {t pc}, ¬ s.pcs t ≠ .idle → s.PcOk t pc → (s.goto t pc).Inv := by
    intro t pc hidle hok
    exact h.goto (by rw [not_not.mp hidle]; trivial) hok
  cases e with
  | profileSet t delivered =>
    dsimp only at hstep
    split_ifs at hstep with hidle
    rcases hreq : profileSetRequest delivered with err | req
    · rw [hreq] at hstep
      obtain rfl := Option.some.inj hstep
      exact h
    · rw [hreq] at hstep
      obtain rfl := Option.some.inj hstep
      cases req with
      | delete name => exact hgoto hidle trivial
      | put name filterStr filter => exact hgoto hidle trivial
  | profileSetRead t =>
    dsimp only at hstep
    split_ifs at hstep with hidle
    obtain rfl := Option.some.inj hstep
    exact hgoto hidle trivial
  | profileWrite t oid delivered =>
    dsimp only at hstep
    split_ifs at hstep with hcan
    obtain ⟨hidle, hoid⟩ := not_or.mp hcan
    have hlive := h.oids oid (not_not.mp hoid)
    rcases hreq : profileRequest (NameRef.arg1 oid.arg1) delivered with err | req
    · rw [hreq] at hstep
      obtain rfl := Option.some.inj hstep
      exact h
    · rw [hreq] at hstep
      obtain rfl := Option.some.inj hstep
      cases req with
      | delete name =>
        obtain rfl := profileRequest_delete hreq
        exact hgoto hidle hlive
      | put name filterStr filter =>
        obtain rfl := (profileRequest_put hreq).1
        exact hgoto hidle hlive
  | profileRead t oid =>
    dsimp only at hstep
    split_ifs at hstep with hcan
    obtain ⟨hidle, hoid⟩ := not_or.mp hcan
    obtain rfl := Option.some.inj hstep
    exact hgoto hidle (h.oids oid (not_not.mp hoid))
  | openDev t node =>
    dsimp only at hstep
    split_ifs at hstep with hcan
    obtain ⟨hidle, hnode⟩ := not_or.mp hcan
    obtain rfl := Option.some.inj hstep
    exact h.moved (.opening node.num) _ (by rw [not_not.mp hidle]; trivial) (h.nodes node (not_not.mp hnode))
  | go t ok => exact h.go hsafe hstep

/-! ### Runs -/

/-- Outside the window of a creation every handle is good. -/
theorem Inv.handlesValid (h : s.Inv) (hwindow : ¬ s.InWindow) : s.HandlesValid := by
  refine ⟨?_, ?_, h.noFault⟩
  · rintro node hnode
    rcases h.nodes node hnode with ⟨p, hp⟩ | ⟨t, p, ht⟩
    · obtain ⟨prof, hprof, hdev⟩ := h.drv node.num p hp
      exact ⟨p, prof, hp, hprof, hdev⟩
    · exact absurd ⟨t, p, node.num, ht⟩ hwindow
  · exact fun oid hoid => Option.isSome_iff_exists.mpr (h.oids oid hoid)

/-- In the window the new node has no `si_drv1`. -/
theorem Inv.not_handlesValid (h : s.Inv) (hwindow : s.InWindow) : ¬ s.HandlesValid := by
  rintro hvalid
  obtain ⟨t, p, dev, ht⟩ := hwindow
  have hpc := h.pcs t
  rw [ht] at hpc
  obtain ⟨-, -, hnull, node, hnode, rfl⟩ := hpc
  obtain ⟨q, -, hq, -⟩ := hvalid.nodes node hnode
  exact nomatch hnull.symm.trans hq

/-- The thread faults by its next step, whatever the kernel answers. -/
def Doomed (s : ProfileSystem) (t : Tid) : Prop :=
  ∀ ok, ∃ s', s.go t ok = some s' ∧ s'.faulted = true

theorem doomed_of_created {p : Ptr} (ht : s.pcs t = .created p) (hp : s.heap p = none) : s.Doomed t :=
  fun ok => ⟨s.fault t, by simp only [ProfileSystem.go, ht, onProfile, hp], rfl⟩

theorem doomed_of_opened {dev : ℕ} (ht : s.pcs t = .opened dev none) : s.Doomed t :=
  fun ok => ⟨s.fault t, by simp only [ProfileSystem.go, ht], rfl⟩

/-- Freeing a profile leaves its OID, or its creator, with an address of freed memory. -/
theorem Inv.free_dangles (h : s.Inv) {p : Ptr} {ok : Bool} (ht : s.pcs t = .freeing p)
    (hgo : s.go t ok = some s') : ¬ s'.HandlesValid ∨ ∃ u, s'.Doomed u := by
  have hpc := h.pcs t
  simp only [ProfileSystem.go, ht] at hgo
  rw [ht] at hpc
  obtain ⟨⟨prof, hprof⟩, htracked⟩ := hpc
  rw [onProfile_of_live hprof] at hgo
  obtain rfl := Option.some.inj hgo
  have hfreed : Function.update s.heap p none p = none := Function.update_self ..
  rcases htracked with ⟨oid, hoid, rfl⟩ | ⟨u, hu⟩
  · refine .inl fun hvalid => ?_
    have hsome := hvalid.oids oid hoid
    simp only [hfreed] at hsome
    cases hsome
  · have hut : u ≠ t := by
      rintro rfl
      exact nomatch hu.symm.trans ht
    exact .inr ⟨u, doomed_of_created ((Function.update_of_ne hut _ _).trans hu) hfreed⟩

/-- An open that reads `si_drv1` in the window, and goes on, is left with a null pointer. -/
theorem Inv.open_dangles (h : s.Inv) {dev : ℕ} {u : Tid} {p : Ptr} (ht : s.pcs t = .opening dev)
    (hu : s.pcs u = .published p dev) (hgo : s.go t true = some s') : s'.Doomed t := by
  have hpc := h.pcs u
  rw [hu] at hpc
  obtain ⟨-, -, hnull, -⟩ := hpc
  simp only [ProfileSystem.go, ht, if_pos, hnull] at hgo
  obtain rfl := Option.some.inj hgo
  exact doomed_of_opened (Function.update_self ..)

/-! ### Runs computed -/

/-- A point from which the thread neither frees a profile nor reads `si_drv1` for an open. -/
def tame : Pc → Bool
  | .freeing _ => false
  | .opening _ => false
  | _ => true

/-- The events, but for steps of threads that are about to free or open. -/
def tameStep (s : ProfileSystem) : ProfileEvent → Option ProfileSystem
  | .go t ok => if tame (s.pcs t) then s.go t ok else none
  | e => profileStep s e

theorem tameStep_harmless (s : ProfileSystem) (e : ProfileEvent) (s' : ProfileSystem)
    (h : tameStep s e = some s') : restrict ProfileStep Harmless s e s' := by
  cases e with
  | profileSet t delivered => exact ⟨h, trivial⟩
  | profileSetRead t => exact ⟨h, trivial⟩
  | profileWrite t oid delivered => exact ⟨h, trivial⟩
  | profileRead t oid => exact ⟨h, trivial⟩
  | openDev t node => exact ⟨h, trivial⟩
  | go t ok =>
    simp only [tameStep] at h
    split_ifs at h with htame
    refine ⟨h, ?_, ?_⟩
    · rintro p hp
      rw [hp] at htame
      cases htame
    · rintro dev hdev
      rw [hdev] at htame
      cases htame

/-- A thread creates the profile `a`. -/
def creating : List ProfileEvent :=
  .profileSet 0 [CString.chr 'a', CString.chr ' '] :: List.replicate 5 (.go 0 true)

/-- It deletes it again. -/
def deleting : List ProfileEvent := .profileSet 0 [CString.chr 'a'] :: List.replicate 5 (.go 0 true)

/-- Another thread opens its device before `si_drv1` is set. -/
def openingEarly : List ProfileEvent :=
  creating.take 2 ++ [.openDev 1 ⟨0, [CString.chr 'a']⟩, .go 1 true, .go 1 true]

/-- With no lock held there is no creation in its window. -/
theorem Inv.not_inWindow (h : s.Inv) (hlock : s.lock = none) : ¬ s.InWindow := by
  rintro ⟨t, p, dev, ht⟩
  have hpc := h.pcs t
  rw [ht] at hpc
  exact nomatch hlock.symm.trans hpc.1

/-- Harmless events keep the invariant. -/
theorem inv_of_run {es : List ProfileEvent} (run : Run (restrict ProfileStep Harmless) init es s) : s.Inv :=
  run.inv .init fun _ _ _ hI hstep => hI.step hstep.1 hstep.2

/-- In every state that harmless events lead to, nothing has faulted, and the handles are good
exactly if no creation is in its window; and every harmful event leaves a bad handle, or a
thread that faults by its next step. -/
theorem handles_valid_iff {es : List ProfileEvent} {s : ProfileSystem}
    (run : Run (restrict ProfileStep Harmless) init es s) :
    s.faulted = false ∧ (s.HandlesValid ↔ ¬ s.InWindow) ∧
      ∀ e s', ProfileStep s e s' → ¬ s.Harmless e → ¬ s'.HandlesValid ∨ ∃ t, s'.Doomed t := by
  have h : s.Inv := inv_of_run run
  refine ⟨h.noFault, ⟨fun hvalid hwindow => h.not_handlesValid hwindow hvalid, h.handlesValid⟩, ?_⟩
  rintro e s' hstep hharm
  cases e with
  | profileSet t delivered => exact absurd trivial hharm
  | profileSetRead t => exact absurd trivial hharm
  | profileWrite t oid delivered => exact absurd trivial hharm
  | profileRead t oid => exact absurd trivial hharm
  | openDev t node => exact absurd trivial hharm
  | go t ok =>
    by_cases hfree : ∃ p, s.pcs t = .freeing p
    · obtain ⟨p, ht⟩ := hfree
      exact h.free_dangles ht hstep
    · have : ∃ dev, s.pcs t = .opening dev ∧ ok = true ∧ ∃ u p, s.pcs u = .published p dev := by
        by_contra hnot
        exact hharm ⟨not_exists.mp hfree, fun dev ht hok u p hu => hnot ⟨dev, ht, hok, u, p, hu⟩⟩
      obtain ⟨dev, ht, rfl, u, p, hu⟩ := this
      exact .inr ⟨t, h.open_dangles ht hu hstep⟩

/-- The creation of a profile, and the handles there are after it. -/
theorem handles_valid_creating : ∃ s, Run (restrict ProfileStep Harmless) init creating s ∧
    s.nodes ≠ [] ∧ s.oids ≠ [] ∧ s.HandlesValid := by
  have hrun : (replay tameStep creating init).any
      (fun s => s.lock.isNone && !s.nodes.isEmpty && !s.oids.isEmpty) = true := by
    decide +kernel
  obtain ⟨s, hs, hmade⟩ := (Option.any_eq_true _ _).mp hrun
  simp only [Bool.and_eq_true, Bool.not_eq_true', List.isEmpty_eq_false_iff, Option.isNone_iff_eq_none]
    at hmade
  obtain ⟨⟨hlock, hnodes⟩, hoids⟩ := hmade
  have run := replay_run tameStep_harmless hs
  exact ⟨s, run, hnodes, hoids, (handles_valid_iff run).2.1.mpr ((inv_of_run run).not_inWindow hlock)⟩

/-- A deletion leaves an OID behind whose `arg1` is freed memory, and an open of a node that is
just being made goes through a null pointer. -/
theorem handles_dangle :
    (∃ s, Run ProfileStep init (creating ++ deleting) s ∧ ¬ s.HandlesValid) ∧
      ∃ s, Run ProfileStep init openingEarly s ∧ s.faulted = true := by
  constructor
  · have hrun : (replay profileStep (creating ++ deleting) init).any
        (fun s => s.oids.any fun oid => (s.heap oid.arg1).isNone) = true := by
      decide +kernel
    obtain ⟨s, hs, hbad⟩ := (Option.any_eq_true _ _).mp hrun
    obtain ⟨oid, hoid, hnone⟩ := List.any_eq_true.mp hbad
    refine ⟨s, replay_run (fun _ _ _ h => h) hs, fun hvalid => ?_⟩
    have hsome := hvalid.oids oid hoid
    rw [Option.isNone_iff_eq_none.mp hnone] at hsome
    cases hsome
  · have hrun : (replay profileStep openingEarly init).any faulted = true := by
      decide +kernel
    obtain ⟨s, hs, hbad⟩ := (Option.any_eq_true _ _).mp hrun
    exact ⟨s, replay_run (fun _ _ _ h => h) hs, hbad⟩

end ProfileSystem

end TcpStats
