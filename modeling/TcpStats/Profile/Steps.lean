import TcpStats.Profile.Concurrent

/-!
# What a step of the handlers can do

`Change` says once what an event does to the profiles, the list and the device nodes, one
case for each kind of step: most only move a thread on (`move`), and the others are the
places where something a handler holds changes hands. Invariants over any interleaving are
proved from these cases.
-/

namespace TcpStats

open CString

/-! ### What a thread has in hand -/

/-- The profile a thread is making or taking away: it is in no list, and no other thread has it. -/
def Pc.owns : Pc → Option Ptr
  | .published p _ => some p
  | .stored p => some p
  | .detached p => some p
  | .destroying p _ => some p
  | .destroyed p => some p
  | .freeing p => some p
  | _ => none

/-- The profile a thread is making, with the lock held. -/
def Pc.makes : Pc → Option Ptr
  | .published p _ => some p
  | .stored p => some p
  | _ => none

/-- The profile a thread has in hand whose node can still be opened. -/
def Pc.keeps : Pc → Option Ptr
  | .published p _ => some p
  | .stored p => some p
  | .detached p => some p
  | _ => none

theorem Pc.owns_of_makes {pc : Pc} {p : Ptr} (h : pc.makes = some p) : pc.owns = some p := by
  cases pc with
  | published q dev => exact h
  | stored q => exact h
  | _ => cases h

theorem Pc.owns_of_keeps {pc : Pc} {p : Ptr} (h : pc.keeps = some p) : pc.owns = some p := by
  cases pc with
  | published q dev => exact h
  | stored q => exact h
  | detached q => exact h
  | _ => cases h

/-- The thread the event is a step of. -/
def ProfileEvent.tid : ProfileEvent → Tid
  | .profileSet t _ => t
  | .profileSetRead t => t
  | .profileWrite t _ _ => t
  | .profileRead t _ => t
  | .openDev t _ => t
  | .go t _ => t

namespace ProfileSystem

/-- The request comes from bytes some thread wrote. -/
inductive Requested : ProfileRequest NameRef → Prop where
  | set (delivered : List UInt8) (req : ProfileRequest CStr) :
      profileSetRequest delivered = .ok req → Requested (req.map .own)
  | profile (delivered : List UInt8) (p : Ptr) (req : ProfileRequest NameRef) :
      profileRequest (NameRef.arg1 p) delivered = .ok req → Requested req

/-- The list, the lock and the profiles are left alone. -/
structure SameList (s s' : ProfileSystem) : Prop where
  heap : s'.heap = s.heap
  nextPtr : s'.nextPtr = s.nextPtr
  profiles : s'.profiles = s.profiles
  nprofiles : s'.nprofiles = s.nprofiles
  lock : s'.lock = s.lock
  nextDev : s'.nextDev = s.nextDev

/-! ### The cases of a step -/

/-- The event is the step of a `profile_set` write that calls `make_dev_credf` for a name. -/
def MakesDev (s : ProfileSystem) (e : ProfileEvent) (name : CStr) : Prop :=
  ∃ t ok filterStr filter, e = .go t ok ∧ s.pcs t = .request (.put (.own name) filterStr filter) ∧
    s.lock = none ∧ s.find (.own name) = some none ∧ s.nprofiles < TSF_MAX_PROFILES

/-- What an event does. -/
inductive Change (s : ProfileSystem) (e : ProfileEvent) : ProfileSystem → Prop where
  /-- A write whose request fails its checks. -/
  | nothing : Change s e s
  /-- A thread goes on with what it has in hand. -/
  | move {s' : ProfileSystem} (t : Tid) (pc : Pc) : SameList s s' → s'.nodes = s.nodes →
      s'.pcs = Function.update s.pcs t pc → pc.owns = (s.pcs t).owns → pc.makes = (s.pcs t).makes →
      pc.keeps = (s.pcs t).keeps → (∀ req, pc = .request req → Requested req) → Change s e s'
  /-- A thread faults on the profile it has in hand. -/
  | lose (t : Tid) (p : Ptr) : (s.pcs t).owns = some p → s.heap p = none → Change s e (s.fault t)
  /-- A deletion in its critical section. -/
  | detach (t : Tid) (ok : Bool) (name : NameRef) (p : Ptr) : e = .go t ok → s.pcs t = .request (.delete name) →
      s.lock = none → s.find name = some (some p) → Change s e
        { s.goto t (.detached p) with profiles := s.profiles.erase p, nprofiles := s.nprofiles - 1 }
  /-- An update in its critical section. -/
  | update (t : Tid) (name : NameRef) (p : Ptr) (filterStr : CStr) (filter : TcpstatsFilter)
      (prof : TcpstatsProfile) : s.pcs t = .request (.put name filterStr filter) → s.lock = none →
      s.find name = some (some p) → s.heap p = some prof → Change s e
        { s.goto t (.updated name) with
          heap := Function.update s.heap p (some { prof with filterStr := strlcpy 512 filterStr, filter }) }
  /-- A creation up to `make_dev_credf`. -/
  | publish (t : Tid) (name filterStr : CStr) (filter : TcpstatsFilter) : e = .go t true →
      s.pcs t = .request (.put (.own name) filterStr filter) → s.lock = none →
      s.find (.own name) = some none → ¬ s.nprofiles ≥ TSF_MAX_PROFILES → Change s e
        { s.goto t (.published s.nextPtr s.nextDev) with
          heap := Function.update s.heap s.nextPtr (some (newProfile name filterStr filter s.nextDev))
          nextPtr := s.nextPtr + 1
          lock := some t
          nodes := ⟨s.nextDev, (strlcpy 32 name).str⟩ :: s.nodes
          nextDev := s.nextDev + 1 }
  /-- The new profile goes into the list. -/
  | link (t : Tid) (p : Ptr) (prof : TcpstatsProfile) : s.pcs t = .stored p → s.heap p = some prof → Change s e
      { s.goto t (.created p) with
        profiles := p :: s.profiles, nprofiles := s.nprofiles + 1, lock := none }
  /-- The node of a deleted profile is passed to `destroy_dev`. -/
  | hide (t : Tid) (p : Ptr) (prof : TcpstatsProfile) (dev : ℕ) : s.pcs t = .detached p →
      s.heap p = some prof → prof.dev = some dev → Change s e
        { s.goto t (.destroying p dev) with nodes := s.nodes.filter (·.num ≠ dev) }
  /-- A deleted profile that has none. -/
  | bare (t : Tid) (p : Ptr) (prof : TcpstatsProfile) : s.pcs t = .detached p →
      s.heap p = some prof → prof.dev = none → Change s e (s.goto t (.destroyed p))
  /-- A deleted profile is freed. -/
  | free (t : Tid) (p : Ptr) (prof : TcpstatsProfile) : s.pcs t = .freeing p → s.heap p = some prof →
      Change s e { s.goto t .idle with heap := Function.update s.heap p none }

variable {s s' : ProfileSystem} {t : Tid} {e : ProfileEvent}

/-- A thread without a profile in hand goes on to a point where it has none. -/
theorem Change.plain (s' : ProfileSystem) (pc : Pc) (hsame : SameList s s') (hnodes : s'.nodes = s.nodes)
    (hpcs : s'.pcs = Function.update s.pcs t pc) (hold : (s.pcs t).owns = none) (hnew : pc.owns = none)
    (hreq : ∀ req, pc = .request req → Requested req) : Change s e s' := by
  have hmakes : ∀ {pc : Pc}, pc.owns = none → pc.makes = none := by
    intro pc h
    rcases hm : pc.makes with _ | p
    · rfl
    · exact nomatch h.symm.trans (Pc.owns_of_makes hm)
  have hkeeps : ∀ {pc : Pc}, pc.owns = none → pc.keeps = none := by
    intro pc h
    rcases hk : pc.keeps with _ | p
    · rfl
    · exact nomatch h.symm.trans (Pc.owns_of_keeps hk)
  exact .move t pc hsame hnodes hpcs (hnew.trans hold.symm) ((hmakes hnew).trans (hmakes hold).symm)
    ((hkeeps hnew).trans (hkeeps hold).symm) hreq

theorem Change.goto {pc : Pc} (hold : (s.pcs t).owns = none) (hnew : pc.owns = none)
    (hreq : ∀ req, pc ≠ .request req) : Change s e (s.goto t pc) :=
  .plain _ pc ⟨rfl, rfl, rfl, rfl, rfl, rfl⟩ rfl rfl hold hnew fun req hpc => absurd hpc (hreq req)

theorem Change.fault (hold : (s.pcs t).owns = none) : Change s e (s.fault t) :=
  .plain _ .idle ⟨rfl, rfl, rfl, rfl, rfl, rfl⟩ rfl rfl hold rfl fun _ => Pc.noConfusion

theorem Change.leave (hold : (s.pcs t).owns = none) : Change s e (s.leave t) :=
  .plain _ .idle ⟨rfl, rfl, rfl, rfl, rfl, rfl⟩ rfl rfl hold rfl fun _ => Pc.noConfusion

/-- A thread that reads a profile it has not in hand. -/
theorem Change.onProfile {p : Ptr} {k : TcpstatsProfile → ProfileSystem} (hold : (s.pcs t).owns = none)
    (hk : ∀ prof, Change s e (k prof)) : Change s e (s.onProfile t p k) := by
  unfold ProfileSystem.onProfile
  cases s.heap p with
  | none => exact .fault hold
  | some prof => exact hk prof

/-- A thread that reads the profile it has in hand. -/
theorem Change.onOwn {p : Ptr} {k : TcpstatsProfile → ProfileSystem} (hold : (s.pcs t).owns = some p)
    (hk : ∀ prof, s.heap p = some prof → Change s e (k prof)) : Change s e (s.onProfile t p k) := by
  unfold ProfileSystem.onProfile
  cases hp : s.heap p with
  | none => exact .lose t p hold hp
  | some prof => exact hk prof hp

theorem critical_change {ok : Bool} {req : ProfileRequest NameRef} (ht : s.pcs t = .request req)
    (hlock : s.lock = none) : Change s (.go t ok) (s.critical t ok req) := by
  have hold : (s.pcs t).owns = none := by rw [ht]; rfl
  have hidle : Change s (.go t ok) (s.goto t .idle) := .goto hold rfl fun _ => Pc.noConfusion
  cases req with
  | delete name =>
    rcases hfind : s.find name with _ | _ | p
    · simp only [ProfileSystem.critical, hfind]
      exact .fault hold
    · simp only [ProfileSystem.critical, hfind]
      exact hidle
    · simp only [ProfileSystem.critical, hfind]
      exact .detach t ok name p rfl ht hlock hfind
  | put name filterStr filter =>
    rcases hfind : s.find name with _ | _ | p
    · simp only [ProfileSystem.critical, hfind]
      exact .fault hold
    · cases name with
      | arg1 q =>
        simp only [ProfileSystem.critical, hfind]
        exact hidle
      | own name =>
        simp only [ProfileSystem.critical, hfind]
        unfold ProfileSystem.create
        split_ifs with hroom hok
        · exact hidle
        · exact .publish t name filterStr filter (by rw [hok]) ht hlock hfind hroom
        · exact hidle
    · simp only [ProfileSystem.critical, hfind]
      unfold ProfileSystem.onProfile
      rcases hprof : s.heap p with _ | prof
      · exact .fault hold
      · exact .update t name p filterStr filter prof ht hlock hfind hprof

/-- What a step of a thread does. -/
theorem go_change {ok : Bool} (hgo : s.go t ok = some s') : Change s (.go t ok) s' := by
  unfold ProfileSystem.go at hgo
  cases ht : s.pcs t with
  | idle =>
    rw [ht] at hgo
    cases hgo
  | list =>
    have hold : (s.pcs t).owns = none := by rw [ht]; rfl
    simp only [ht] at hgo
    split_ifs at hgo
    · obtain rfl := Option.some.inj hgo
      exact .goto hold rfl fun _ => Pc.noConfusion
    · obtain rfl := Option.some.inj hgo
      exact .fault hold
  | read arg1 =>
    have hold : (s.pcs t).owns = none := by rw [ht]; rfl
    simp only [ht] at hgo
    split_ifs at hgo
    · obtain rfl := Option.some.inj hgo
      exact .goto hold rfl fun _ => Pc.noConfusion
    · obtain rfl := Option.some.inj hgo
      exact .fault hold
  | request req =>
    simp only [ht] at hgo
    split_ifs at hgo with hlock
    obtain rfl := Option.some.inj hgo
    exact critical_change ht (not_not.mp hlock)
  | published p dev =>
    simp only [ht] at hgo
    obtain rfl := Option.some.inj hgo
    exact .onOwn (by rw [ht]; rfl) fun prof _ =>
      .move t (.stored p) ⟨rfl, rfl, rfl, rfl, rfl, rfl⟩ rfl rfl (by rw [ht]; rfl) (by rw [ht]; rfl)
        (by rw [ht]; rfl) fun _ => Pc.noConfusion
  | stored p =>
    simp only [ht] at hgo
    obtain rfl := Option.some.inj hgo
    exact .onOwn (by rw [ht]; rfl) fun prof hprof => .link t p prof ht hprof
  | created p =>
    have hold : (s.pcs t).owns = none := by rw [ht]; rfl
    simp only [ht] at hgo
    obtain rfl := Option.some.inj hgo
    exact .onProfile hold fun prof => .plain _ (.registered p) ⟨rfl, rfl, rfl, rfl, rfl, rfl⟩ rfl rfl hold rfl
      fun _ => Pc.noConfusion
  | registered p =>
    have hold : (s.pcs t).owns = none := by rw [ht]; rfl
    simp only [ht] at hgo
    obtain rfl := Option.some.inj hgo
    exact .onProfile hold fun _ => .goto hold rfl fun _ => Pc.noConfusion
  | updated name =>
    have hold : (s.pcs t).owns = none := by rw [ht]; rfl
    simp only [ht] at hgo
    obtain rfl := Option.some.inj hgo
    split_ifs
    · exact .goto hold rfl fun _ => Pc.noConfusion
    · exact .fault hold
  | detached p =>
    simp only [ht] at hgo
    obtain rfl := Option.some.inj hgo
    refine .onOwn (by rw [ht]; rfl) fun prof hprof => ?_
    cases hdev : prof.dev with
    | none => exact .bare t p prof ht hprof hdev
    | some dev => exact .hide t p prof dev ht hprof hdev
  | destroying p dev =>
    simp only [ht] at hgo
    split_ifs at hgo
    obtain rfl := Option.some.inj hgo
    exact .move t (.destroyed p) ⟨rfl, rfl, rfl, rfl, rfl, rfl⟩ rfl rfl (by rw [ht]; rfl) (by rw [ht]; rfl)
      (by rw [ht]; rfl) fun _ => Pc.noConfusion
  | destroyed p =>
    simp only [ht] at hgo
    obtain rfl := Option.some.inj hgo
    exact .onOwn (by rw [ht]; rfl) fun prof _ =>
      .move t (.freeing p) ⟨rfl, rfl, rfl, rfl, rfl, rfl⟩ rfl rfl (by rw [ht]; rfl) (by rw [ht]; rfl)
        (by rw [ht]; rfl) fun _ => Pc.noConfusion
  | freeing p =>
    simp only [ht] at hgo
    obtain rfl := Option.some.inj hgo
    exact .onOwn (by rw [ht]; rfl) fun prof hprof => .free t p prof ht hprof
  | opening dev =>
    have hold : (s.pcs t).owns = none := by rw [ht]; rfl
    simp only [ht] at hgo
    obtain rfl := Option.some.inj hgo
    split_ifs
    · exact .goto hold rfl fun _ => Pc.noConfusion
    · exact .leave hold
  | opened dev prof =>
    have hold : (s.pcs t).owns = none := by rw [ht]; rfl
    cases prof with
    | none =>
      simp only [ht] at hgo
      obtain rfl := Option.some.inj hgo
      exact .fault hold
    | some p =>
      simp only [ht] at hgo
      obtain rfl := Option.some.inj hgo
      exact .onProfile hold fun _ => .leave hold

/-- A thread that begins a write. -/
theorem Change.begin {req : ProfileRequest NameRef} (hold : (s.pcs t).owns = none) (hreq : Requested req) :
    Change s e (s.goto t (.request req)) := by
  refine .plain _ (.request req) ⟨rfl, rfl, rfl, rfl, rfl, rfl⟩ rfl rfl hold rfl ?_
  rintro _ ⟨⟩
  exact hreq

/-- Every event does one of these. -/
theorem profileStep_change (hstep : ProfileStep s e s') : Change s e s' := by
  have howns : ∀ {t}, ¬ s.pcs t ≠ .idle → (s.pcs t).owns = none := by
    intro t hidle
    rw [not_not.mp hidle]
    rfl
  unfold ProfileStep profileStep at hstep
  cases e with
  | profileSet t delivered =>
    dsimp only at hstep
    split_ifs at hstep with hidle
    rcases hreq : profileSetRequest delivered with err | req
    · rw [hreq] at hstep
      obtain rfl := Option.some.inj hstep
      exact .nothing
    · rw [hreq] at hstep
      obtain rfl := Option.some.inj hstep
      exact .begin (howns hidle) (.set delivered req hreq)
  | profileSetRead t =>
    dsimp only at hstep
    split_ifs at hstep with hidle
    obtain rfl := Option.some.inj hstep
    exact .goto (howns hidle) rfl fun _ => Pc.noConfusion
  | profileWrite t oid delivered =>
    dsimp only at hstep
    split_ifs at hstep with hcan
    obtain ⟨hidle, -⟩ := not_or.mp hcan
    rcases hreq : profileRequest (NameRef.arg1 oid.arg1) delivered with err | req
    · rw [hreq] at hstep
      obtain rfl := Option.some.inj hstep
      exact .nothing
    · rw [hreq] at hstep
      obtain rfl := Option.some.inj hstep
      exact .begin (howns hidle) (.profile delivered oid.arg1 req hreq)
  | profileRead t oid =>
    dsimp only at hstep
    split_ifs at hstep with hcan
    obtain ⟨hidle, -⟩ := not_or.mp hcan
    obtain rfl := Option.some.inj hstep
    exact .goto (howns hidle) rfl fun _ => Pc.noConfusion
  | openDev t node =>
    dsimp only at hstep
    split_ifs at hstep with hcan
    obtain ⟨hidle, -⟩ := not_or.mp hcan
    obtain rfl := Option.some.inj hstep
    exact .plain _ (.opening node.num) ⟨rfl, rfl, rfl, rfl, rfl, rfl⟩ rfl rfl (howns hidle) rfl
      fun _ => Pc.noConfusion
  | go t ok => exact go_change hstep

/-! ### Where the threads stand -/

variable {u : Tid}

theorem goto_pcs (hu : u ≠ t) (pc : Pc) : (s.goto t pc).pcs u = s.pcs u := Function.update_of_ne hu _ _

theorem onProfile_pcs {p : Ptr} {k : TcpstatsProfile → ProfileSystem} (hu : u ≠ t)
    (hk : ∀ prof, (k prof).pcs u = s.pcs u) : (s.onProfile t p k).pcs u = s.pcs u := by
  unfold onProfile
  cases s.heap p with
  | none => exact goto_pcs hu _
  | some prof => exact hk prof

theorem critical_pcs (hu : u ≠ t) (ok : Bool) (req : ProfileRequest NameRef) :
    (s.critical t ok req).pcs u = s.pcs u := by
  unfold critical create
  split
  · split
    · exact goto_pcs hu _
    · exact goto_pcs hu _
    · exact goto_pcs hu _
  · split
    · exact goto_pcs hu _
    · exact onProfile_pcs hu fun prof => goto_pcs hu _
    · split_ifs
      · exact goto_pcs hu _
      · exact goto_pcs hu _
      · exact goto_pcs hu _
    · exact goto_pcs hu _

/-- A step moves one thread. -/
theorem profileStep_pcs (hstep : ProfileStep s e s') (hu : u ≠ e.tid) : s'.pcs u = s.pcs u := by
  unfold ProfileStep profileStep go at hstep
  cases e with
  | go t ok =>
    have hgoto : ∀ pc, (s.goto t pc).pcs u = s.pcs u := goto_pcs hu
    have hread : ∀ {p k}, (∀ prof, (k prof).pcs u = s.pcs u) → (s.onProfile t p k).pcs u = s.pcs u :=
      fun hk => onProfile_pcs hu hk
    dsimp only at hstep
    cases ht : s.pcs t with
    | idle =>
      rw [ht] at hstep
      cases hstep
    | request req =>
      simp only [ht] at hstep
      split_ifs at hstep
      obtain rfl := Option.some.inj hstep
      exact critical_pcs hu ok req
    | detached p =>
      simp only [ht] at hstep
      obtain rfl := Option.some.inj hstep
      refine hread fun prof => ?_
      split
      · exact hgoto _
      · exact hgoto _
    | opened dev prof =>
      cases prof with
      | none =>
        simp only [ht] at hstep
        obtain rfl := Option.some.inj hstep
        exact hgoto _
      | some p =>
        simp only [ht] at hstep
        obtain rfl := Option.some.inj hstep
        exact hread fun _ => hgoto _
    | _ =>
      -- the thread goes on from here, or from here with what it reads of a profile
      simp only [ht] at hstep
      try split_ifs at hstep
      all_goals
        obtain rfl := Option.some.inj hstep
        first
          | exact hgoto _
          | exact hread fun _ => hgoto _
  | openDev t node =>
    dsimp only at hstep
    split_ifs at hstep
    obtain rfl := Option.some.inj hstep
    exact goto_pcs hu _
  | _ =>
    dsimp only at hstep
    split_ifs at hstep
    try split at hstep
    all_goals
      obtain rfl := Option.some.inj hstep
      first
        | rfl
        | exact goto_pcs hu _
end ProfileSystem

end TcpStats
