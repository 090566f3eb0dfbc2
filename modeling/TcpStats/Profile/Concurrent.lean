import TcpStats.Profile.Store
import Mathlib.Logic.Function.Basic

/-!
# The profile handlers side by side

The same handlers as in the sequential model, run by any number of threads at once over a
heap of profiles. A step of a thread is what it does from one point to the next at which
another thread can see a difference: a critical section of `tcpstats_profile_lock` is one
step, but for the creation of a profile, in which the new device node can be opened before
`si_drv1` is set and before the profile is in the list. Opening a device takes no lock.

The kernel behaves as its interfaces say: `make_dev_credf` publishes the node at once;
`destroy_dev` hides the node, then waits for the threads inside the driver's methods;
`SYSCTL_ADD_PROC` keeps the `arg1` it is given, and nothing here removes an OID. Memory is
never given out again once it is freed, and a step that reads freed memory, or through a
null pointer, is a fault.
-/

namespace TcpStats

open CString

/-- An address of a profile. -/
abbrev Ptr := ℕ

/-- A thread. -/
abbrev Tid := ℕ

/-- Where a handler has the name it works on. -/
inductive NameRef where
  /-- In its own copy of the request. -/
  | own (name : CStr)
  /-- Behind `arg1`, in the profile its OID was registered with. -/
  | arg1 (prof : Ptr)
  deriving DecidableEq

/-- An OID under `dev.tcpstats.profiles`. -/
structure ProfileOid where
  name : CStr
  arg1 : Ptr
  deriving DecidableEq

/-- How far a thread has come: what it has done, and what it holds for what it does next. -/
inductive Pc where
  /-- In none of the handlers. -/
  | idle
  /-- In a read of `profile_set`, before the lock. -/
  | list
  /-- In a read of `profiles.<name>`, before the lock. -/
  | read (arg1 : Ptr)
  /-- In a write, its request checked, before the lock. -/
  | request (req : ProfileRequest NameRef)
  /-- `make_dev_credf` has returned, `si_drv1` is not set. The lock is held. -/
  | published (prof : Ptr) (dev : ℕ)
  /-- `si_drv1` is set. The lock is held. -/
  | stored (prof : Ptr)
  /-- The profile is in the list and the lock released. -/
  | created (prof : Ptr)
  /-- The OID is registered, the log line not written. -/
  | registered (prof : Ptr)
  /-- The profile is updated and the lock released, the log line not written. -/
  | updated (name : NameRef)
  /-- The profile is out of the list and the lock released. -/
  | detached (prof : Ptr)
  /-- In `destroy_dev`, waiting for the threads inside. -/
  | destroying (prof : Ptr) (dev : ℕ)
  /-- `destroy_dev` has returned. -/
  | destroyed (prof : Ptr)
  /-- The deletion is logged, the profile not freed. -/
  | freeing (prof : Ptr)
  /-- At the beginning of `tcpstats_profile_open`. -/
  | opening (dev : ℕ)
  /-- In `tcpstats_profile_open`, with what `si_drv1` was. -/
  | opened (dev : ℕ) (prof : Option Ptr)
  deriving DecidableEq

/-- The module, the kernel objects it made, and the threads. -/
structure ProfileSystem where
  /-- The allocated profiles. -/
  heap : Ptr → Option TcpstatsProfile
  /-- Where the next one will be. -/
  nextPtr : Ptr
  /-- `tcpstats_profiles`. -/
  profiles : List Ptr
  /-- `tcpstats_nprofiles`. -/
  nprofiles : ℤ
  /-- Who keeps `tcpstats_profile_lock` from one step to the next. -/
  lock : Option Tid
  /-- The nodes that can be opened. -/
  nodes : List Cdev
  /-- `si_drv1` of a node, null until it is set. -/
  siDrv1 : ℕ → Option Ptr
  nextDev : ℕ
  /-- The threads inside the driver's methods, with the node they entered by. -/
  inside : List (Tid × ℕ)
  oids : List ProfileOid
  pcs : Tid → Pc
  /-- A thread has read freed memory, or through a null pointer. -/
  faulted : Bool

namespace ProfileSystem

/-- The module after it is loaded. -/
def init : ProfileSystem where
  heap _ := none
  nextPtr := 0
  profiles := []
  nprofiles := 0
  lock := none
  nodes := []
  siDrv1 _ := none
  nextDev := 0
  inside := []
  oids := []
  pcs _ := .idle
  faulted := false

/-- The thread goes on from here. -/
def goto (s : ProfileSystem) (t : Tid) (pc : Pc) : ProfileSystem :=
  { s with pcs := Function.update s.pcs t pc }

/-- The thread faults. -/
def fault (s : ProfileSystem) (t : Tid) : ProfileSystem := { s.goto t .idle with faulted := true }

/-- The thread enters the driver by a node. -/
def enter (s : ProfileSystem) (t : Tid) (dev : ℕ) : ProfileSystem :=
  { s.goto t (.opening dev) with inside := (t, dev) :: s.inside }

/-- The thread leaves the driver. -/
def leave (s : ProfileSystem) (t : Tid) : ProfileSystem :=
  { s.goto t .idle with inside := s.inside.filter (·.1 ≠ t) }

/-- A step of the thread that reads the profile at an address. -/
def onProfile (s : ProfileSystem) (t : Tid) (p : Ptr)
    (k : TcpstatsProfile → ProfileSystem) : ProfileSystem :=
  match s.heap p with
  | some prof => k prof
  | none => s.fault t

theorem onProfile_of_live {s : ProfileSystem} {t : Tid} {p : Ptr} {prof : TcpstatsProfile}
    {k : TcpstatsProfile → ProfileSystem} (h : s.heap p = some prof) : s.onProfile t p k = k prof := by
  rw [onProfile, h]

/-- The name a handler works on; none where it has been freed. -/
def nameText (s : ProfileSystem) : NameRef → Option CStr
  | .own name => some name
  | .arg1 p => (s.heap p).map (·.name.str)

/-- The loop of `tcpstats_profile_find`: the profile of the name, if any; no result at all where
it reads freed memory. -/
def findLoop (heap : Ptr → Option TcpstatsProfile) (name : CStr) : List Ptr → Option (Option Ptr)
  | [] => some none
  | p :: ps =>
    match heap p with
    | some prof => if prof.named name then some (some p) else findLoop heap name ps
    | none => none

/-- `tcpstats_profile_find`. It does not look at the name if there is no profile. -/
def find (s : ProfileSystem) (name : NameRef) : Option (Option Ptr) :=
  if s.profiles = [] then some none
  else (s.nameText name).bind fun text => findLoop s.heap text s.profiles

/-- `tcpstats_profile_find` finds a profile of the list. -/
theorem mem_of_findLoop {heap : Ptr → Option TcpstatsProfile} {name : CStr} {ps : List Ptr}
    {p : Ptr} (h : findLoop heap name ps = some (some p)) : p ∈ ps := by
  induction ps with
  | nil => cases h
  | cons q qs ih =>
    unfold findLoop at h
    split at h
    · split_ifs at h
      · cases h
        exact List.mem_cons_self ..
      · exact List.mem_cons_of_mem _ (ih h)
    · cases h

theorem mem_of_find {s : ProfileSystem} {name : NameRef} {p : Ptr} (h : s.find name = some (some p)) :
    p ∈ s.profiles := by
  unfold find at h
  split_ifs at h
  · cases h
  · obtain ⟨text, -, h⟩ := Option.bind_eq_some_iff.mp h
    exact mem_of_findLoop h

/-- A profile is made, with a device node if there is one. -/
def create (s : ProfileSystem) (t : Tid) (name filterStr : CStr) (filter : TcpstatsFilter)
    (makeDev : Bool) : ProfileSystem :=
  if s.nprofiles ≥ TSF_MAX_PROFILES then s.goto t .idle
  else if makeDev then
    { s.goto t (.published s.nextPtr s.nextDev) with
      heap := Function.update s.heap s.nextPtr (some (newProfile name filterStr filter s.nextDev))
      nextPtr := s.nextPtr + 1
      lock := some t
      nodes := ⟨s.nextDev, (strlcpy 32 name).str⟩ :: s.nodes
      nextDev := s.nextDev + 1 }
  else s.goto t .idle

/-- A write in its critical section. The per-profile handler, which has its name from `arg1`,
creates nothing. -/
def critical (s : ProfileSystem) (t : Tid) (makeDev : Bool) : ProfileRequest NameRef → ProfileSystem
  | .delete name =>
    match s.find name with
    | none => s.fault t
    | some none => s.goto t .idle
    | some (some p) =>
      { s.goto t (.detached p) with profiles := s.profiles.erase p, nprofiles := s.nprofiles - 1 }
  | .put name filterStr filter =>
    match s.find name, name with
    | none, _ => s.fault t
    | some (some p), name => s.onProfile t p fun prof =>
      { s.goto t (.updated name) with
        heap := Function.update s.heap p (some { prof with filterStr := strlcpy 512 filterStr, filter }) }
    | some none, .own name => s.create t name filterStr filter makeDev
    | some none, .arg1 _ => s.goto t .idle

/-- The next step of a thread; none where it has to wait. What the kernel answers is `ok`:
whether there is a device, whether an open is admitted. -/
def go (s : ProfileSystem) (t : Tid) (ok : Bool) : Option ProfileSystem :=
  match s.pcs t with
  | .idle => none
  | .list =>
    if s.lock ≠ none then none
    else some (if s.profiles.all fun p => (s.heap p).isSome then s.goto t .idle else s.fault t)
  | .read arg1 =>
    if s.lock ≠ none then none
    else some (if (s.find (.arg1 arg1)).isSome then s.goto t .idle else s.fault t)
  | .request req => if s.lock ≠ none then none else some (s.critical t ok req)
  | .published p dev => some (s.onProfile t p fun _ =>
      { s.goto t (.stored p) with siDrv1 := Function.update s.siDrv1 dev (some p) })
  | .stored p => some (s.onProfile t p fun _ =>
      { s.goto t (.created p) with
        profiles := p :: s.profiles, nprofiles := s.nprofiles + 1, lock := none })
  | .created p => some (s.onProfile t p fun prof =>
      { s.goto t (.registered p) with oids := ⟨prof.name.str, p⟩ :: s.oids })
  | .registered p => some (s.onProfile t p fun _ => s.goto t .idle)
  | .updated name => some (if (s.nameText name).isSome then s.goto t .idle else s.fault t)
  | .detached p => some (s.onProfile t p fun prof =>
      match prof.dev with
      | some dev => { s.goto t (.destroying p dev) with nodes := s.nodes.filter (·.num ≠ dev) }
      | none => s.goto t (.destroyed p))
  | .destroying p dev => if s.inside.any (·.2 = dev) then none else some (s.goto t (.destroyed p))
  | .destroyed p => some (s.onProfile t p fun _ => s.goto t (.freeing p))
  | .freeing p => some (s.onProfile t p fun _ =>
      { s.goto t .idle with heap := Function.update s.heap p none })
  | .opening dev => some (if ok then s.goto t (.opened dev (s.siDrv1 dev)) else s.leave t)
  | .opened _ none => some (s.fault t)
  | .opened _ (some p) => some (s.onProfile t p fun _ => s.leave t)

end ProfileSystem

/-- What happens next. -/
inductive ProfileEvent where
  /-- A thread writes `dev.tcpstats.profile_set`. -/
  | profileSet (t : Tid) (delivered : List UInt8)
  /-- A thread reads it. -/
  | profileSetRead (t : Tid)
  /-- A thread writes `dev.tcpstats.profiles.<name>`. -/
  | profileWrite (t : Tid) (oid : ProfileOid) (delivered : List UInt8)
  /-- A thread reads it. -/
  | profileRead (t : Tid) (oid : ProfileOid)
  /-- A thread opens a device node. -/
  | openDev (t : Tid) (node : Cdev)
  /-- A thread takes its next step. -/
  | go (t : Tid) (ok : Bool)

/-- An event, where it can happen. -/
def profileStep (s : ProfileSystem) : ProfileEvent → Option ProfileSystem
  | .profileSet t delivered =>
    if s.pcs t ≠ .idle then none
    else match profileSetRequest delivered with
      | .error _ => some s
      | .ok req => some (s.goto t (.request (req.map .own)))
  | .profileSetRead t => if s.pcs t ≠ .idle then none else some (s.goto t .list)
  | .profileWrite t oid delivered =>
    if s.pcs t ≠ .idle ∨ oid ∉ s.oids then none
    else match profileRequest (NameRef.arg1 oid.arg1) delivered with
      | .error _ => some s
      | .ok req => some (s.goto t (.request req))
  | .profileRead t oid =>
    if s.pcs t ≠ .idle ∨ oid ∉ s.oids then none else some (s.goto t (.read oid.arg1))
  | .openDev t node =>
    if s.pcs t ≠ .idle ∨ node ∉ s.nodes then none else some (s.enter t node.num)
  | .go t ok => s.go t ok

/-- The step relation. -/
def ProfileStep (s : ProfileSystem) (e : ProfileEvent) (s' : ProfileSystem) : Prop :=
  profileStep s e = some s'

end TcpStats
