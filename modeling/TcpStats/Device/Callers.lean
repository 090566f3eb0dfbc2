import TcpStats.Device.Read
import TcpStats.Lib.Gate

/-!
# The callers of the device

The callers of `tcpstats_open`, `tcpstats_profile_open`, `tcpstats_dtor` and
`tcpstats_read`, any number of them side by side. A step of a caller is one of its atomic
operations on a counter, or what it does from one of them to the next; what a read does
between its admission and its end does not matter here, and may end with any error. The
limits are constant.

`tcpstats_active_fds` and `tcpstats_active_readers` are counters of a gate: each step of a
caller is a step at the gate, or nothing to it (`fdGate_step`, `readGate_step`).
-/

namespace TcpStats

variable {Cred : Type}

/-! ### Callers -/

/-- What is opened: a static device by `tcpstats_open`, or a profile with its filter by
`tcpstats_profile_open`. -/
inductive OpenVia where
  | static (dev : StaticDev)
  | profile (filter : TcpstatsFilter)

/-- The descriptor's state that the open makes. -/
def OpenVia.softc (cred : Cred) : OpenVia → Softc Cred
  | .static dev =>
    { scCred := cred, scDone := false, scFilter := .default, scFull := decide (dev = .tcpstatsFull)
      scLastRead := 0 }
  | .profile filter =>
    { scCred := cred, scDone := false, scFilter := filter
      scFull := decide (filter.format = TSF_FORMAT_FULL), scLastRead := 0 }

/-- How far an open has come. -/
inductive OpenPc where
  | entered
  /-- `tcpstats_active_fds` is incremented, and was `old`. -/
  | counted (old : UInt32)
  /-- Over the limit, before the decrement. -/
  | refusing
  /-- `EMFILE` is returned. -/
  | refused
  /-- Within the limit, before `devfs_set_cdevpriv`. -/
  | allocating
  /-- `devfs_set_cdevpriv` has failed, before the decrement. -/
  | failing (e : Errno)
  /-- The descriptor is registered, before `tcpstats_opens_total` is incremented. -/
  | registered
  | returned (error : Option Errno)
  deriving DecidableEq

/-- A call of one of the open methods. -/
structure OpenCall (Cred : Type) where
  via : OpenVia
  fwrite : Bool
  cred : Cred
  pc : OpenPc

/-- How far the end of a descriptor has come. -/
inductive FdStage where
  | opened
  /-- In `tcpstats_dtor`, before the decrement. -/
  | closing
  | closed
  deriving DecidableEq

/-- A registered descriptor. -/
structure Fd (Cred : Type) where
  sc : Softc Cred
  stage : FdStage

/-- How far a read has come. -/
inductive ReadPc where
  | entered
  /-- `sc_done` was not set. -/
  | counting
  /-- `tcpstats_active_readers` is incremented, and was `old`. -/
  | counted (old : UInt32)
  /-- Over the limit, before the decrement. -/
  | refusing
  /-- `EBUSY` is returned, for the limit. -/
  | refused
  /-- Within the limit, before the interval throttle. -/
  | admitted
  | reading
  /-- Before the decrement on the way out. -/
  | leaving (error : Option Errno)
  | returned (error : Option Errno)
  deriving DecidableEq

/-- A call of `tcpstats_read` on a descriptor. -/
structure ReadCall where
  fd : ℕ
  pc : ReadPc

/-- The counters, and everyone who ever called. -/
structure DevSystem (Cred : Type) where
  glob : Globals
  opens : List (OpenCall Cred)
  fds : List (Fd Cred)
  reads : List ReadCall

/-- What happens next. -/
inductive DevEvent (Cred : Type) where
  /-- A thread opens a device. -/
  | openDev (via : OpenVia) (fwrite : Bool) (cred : Cred)
  /-- The next step of an open, with the error of `devfs_set_cdevpriv` if it fails. -/
  | openGo (i : ℕ) (cdevpriv : Option Errno)
  /-- The last reference to a descriptor goes, and `tcpstats_dtor` begins. -/
  | close (i : ℕ)
  /-- `tcpstats_dtor` decrements the counter. -/
  | dtorGo (i : ℕ)
  /-- A thread reads from a descriptor. -/
  | read (fd : ℕ)
  /-- The next step of a read, at a time, and with the error the read ends with if it does. -/
  | readGo (i : ℕ) (now : Sbintime) (error : Option Errno)

/-- The counters after the module is loaded. -/
def Globals.init : Globals where
  activeFds := 0
  opensTotal := 0
  activeReaders := 0
  readsTotal := 0
  stats := { StatsBatch.zero with readDurationNsTotal := 0, readDurationNsMax := 0 }

namespace DevSystem

/-- The module after it is loaded. -/
def init : DevSystem Cred := ⟨.init, [], [], []⟩

/-- `atomic_add_int(&tcpstats_active_fds, 1)`. -/
def addFd (s : DevSystem Cred) : DevSystem Cred :=
  { s with glob := { s.glob with activeFds := s.glob.activeFds + 1 } }

/-- `atomic_subtract_int(&tcpstats_active_fds, 1)`. -/
def subFd (s : DevSystem Cred) : DevSystem Cred :=
  { s with glob := { s.glob with activeFds := s.glob.activeFds - 1 } }

/-- `atomic_add_int(&tcpstats_active_readers, 1)`. -/
def addReader (s : DevSystem Cred) : DevSystem Cred :=
  { s with glob := { s.glob with activeReaders := s.glob.activeReaders + 1 } }

/-- `atomic_subtract_int(&tcpstats_active_readers, 1)`. -/
def subReader (s : DevSystem Cred) : DevSystem Cred :=
  { s with glob := { s.glob with activeReaders := s.glob.activeReaders - 1 } }

/-- The open goes on from here. -/
def openTo (s : DevSystem Cred) (i : ℕ) (c : OpenCall Cred) (pc : OpenPc) : DevSystem Cred :=
  { s with opens := s.opens.set i { c with pc } }

/-- The descriptor is now at this stage. -/
def fdTo (s : DevSystem Cred) (i : ℕ) (fd : Fd Cred) (stage : FdStage) : DevSystem Cred :=
  { s with fds := s.fds.set i { fd with stage } }

/-- The read goes on from here. -/
def readTo (s : DevSystem Cred) (i : ℕ) (c : ReadCall) (pc : ReadPc) : DevSystem Cred :=
  { s with reads := s.reads.set i { c with pc } }

/-- A descriptor's state is changed. -/
def setSoftc (s : DevSystem Cred) (i : ℕ) (fd : Fd Cred) (sc : Softc Cred) : DevSystem Cred :=
  { s with fds := s.fds.set i { fd with sc } }

/-- The next step of an open; none when it has returned. -/
def openGo (tun : Tunables) (s : DevSystem Cred) (i : ℕ) (c : OpenCall Cred) (cdevpriv : Option Errno) :
    Option (DevSystem Cred) :=
  match c.pc with
  | .entered =>
    if c.fwrite then some (s.openTo i c (.returned (some .EPERM)))
    else some (s.addFd.openTo i c (.counted s.glob.activeFds))
  | .counted old => some (s.openTo i c (if old ≥ tun.maxOpenFds then .refusing else .allocating))
  | .refusing => some (s.subFd.openTo i c .refused)
  | .allocating =>
    match cdevpriv with
    | some e => some (s.openTo i c (.failing e))
    | none => some { s.openTo i c .registered with fds := s.fds ++ [⟨c.via.softc c.cred, .opened⟩] }
  | .failing e => some (s.subFd.openTo i c (.returned (some e)))
  | .registered => some { s.openTo i c (.returned none) with
      glob := { s.glob with opensTotal := s.glob.opensTotal + 1 } }
  | .refused => none
  | .returned _ => none

/-- The next step of a read; none when it has returned. -/
def readGo (tun : Tunables) (s : DevSystem Cred) (i : ℕ) (c : ReadCall) (fd : Fd Cred) (now : Sbintime)
    (error : Option Errno) : Option (DevSystem Cred) :=
  match c.pc with
  | .entered => some (s.readTo i c (if fd.sc.scDone then .returned none else .counting))
  | .counting => some (s.addReader.readTo i c (.counted s.glob.activeReaders))
  | .counted old => some (s.readTo i c (if old ≥ tun.maxConcurrentReaders then .refusing else .admitted))
  | .refusing => some (s.subReader.readTo i c .refused)
  | .admitted =>
    if tooSoon tun fd.sc now then some (s.readTo i c (.leaving (some .EBUSY)))
    else some { (s.setSoftc c.fd fd { fd.sc with scLastRead := now }).readTo i c .reading with
      glob := { s.glob with readsTotal := s.glob.readsTotal + 1 } }
  | .reading => some ((s.setSoftc c.fd fd { fd.sc with scDone := true }).readTo i c (.leaving error))
  | .leaving error => some (s.subReader.readTo i c (.returned error))
  | .refused => none
  | .returned _ => none

end DevSystem

/-- An event, where it can happen. -/
def devStep (tun : Tunables) (s : DevSystem Cred) : DevEvent Cred → Option (DevSystem Cred)
  | .openDev via fwrite cred => some { s with opens := s.opens ++ [⟨via, fwrite, cred, .entered⟩] }
  | .openGo i cdevpriv => (s.opens[i]?).bind fun c => s.openGo tun i c cdevpriv
  | .close i => (s.fds[i]?).bind fun fd => if fd.stage = .opened then some (s.fdTo i fd .closing) else none
  | .dtorGo i => (s.fds[i]?).bind fun fd =>
      if fd.stage = .closing then some (s.subFd.fdTo i fd .closed) else none
  | .read fd => if fd < s.fds.length then some { s with reads := s.reads ++ [⟨fd, .entered⟩] } else none
  | .readGo i now error => (s.reads[i]?).bind fun c => (s.fds[c.fd]?).bind fun fd =>
      s.readGo tun i c fd now error

/-- The step relation. -/
def DevStep (tun : Tunables) (s : DevSystem Cred) (e : DevEvent Cred) (s' : DevSystem Cred) : Prop :=
  devStep tun s e = some s'

/-! ### What a call can do next -/

namespace DevSystem

/-- All that the next step of an open can do. -/
inductive OpenMove (tun : Tunables) (s : DevSystem Cred) (i : ℕ) (c : OpenCall Cred)
    (s' : DevSystem Cred) : Prop where
  | deny : c.pc = .entered → s' = s.openTo i c (.returned (some .EPERM)) → OpenMove tun s i c s'
  /-- The fetch-and-add. -/
  | count : c.pc = .entered → s' = s.addFd.openTo i c (.counted s.glob.activeFds) → OpenMove tun s i c s'
  | refuse (old : UInt32) : c.pc = .counted old → tun.maxOpenFds ≤ old → s' = s.openTo i c .refusing →
      OpenMove tun s i c s'
  | letIn (old : UInt32) : c.pc = .counted old → old < tun.maxOpenFds → s' = s.openTo i c .allocating →
      OpenMove tun s i c s'
  | undo : c.pc = .refusing → s' = s.subFd.openTo i c .refused → OpenMove tun s i c s'
  | fail (e : Errno) : c.pc = .allocating → s' = s.openTo i c (.failing e) → OpenMove tun s i c s'
  | register : c.pc = .allocating →
      s' = { s.openTo i c .registered with fds := s.fds ++ [⟨c.via.softc c.cred, .opened⟩] } → OpenMove tun s i c s'
  /-- The decrement after `devfs_set_cdevpriv` has failed. -/
  | giveBack (e : Errno) : c.pc = .failing e → s' = s.subFd.openTo i c (.returned (some e)) → OpenMove tun s i c s'
  | finish : c.pc = .registered → s' = { s.openTo i c (.returned none) with
      glob := { s.glob with opensTotal := s.glob.opensTotal + 1 } } → OpenMove tun s i c s'

/-- All that the next step of a read can do. -/
inductive ReadMove (tun : Tunables) (s : DevSystem Cred) (i : ℕ) (c : ReadCall) (fd : Fd Cred)
    (s' : DevSystem Cred) : Prop where
  | skip : c.pc = .entered → s' = s.readTo i c (.returned none) → ReadMove tun s i c fd s'
  | enter : c.pc = .entered → s' = s.readTo i c .counting → ReadMove tun s i c fd s'
  /-- The fetch-and-add. -/
  | count : c.pc = .counting → s' = s.addReader.readTo i c (.counted s.glob.activeReaders) →
      ReadMove tun s i c fd s'
  | refuse (old : UInt32) : c.pc = .counted old → tun.maxConcurrentReaders ≤ old → s' = s.readTo i c .refusing →
      ReadMove tun s i c fd s'
  | letIn (old : UInt32) : c.pc = .counted old → old < tun.maxConcurrentReaders → s' = s.readTo i c .admitted →
      ReadMove tun s i c fd s'
  | undo : c.pc = .refusing → s' = s.subReader.readTo i c .refused → ReadMove tun s i c fd s'
  | throttle : c.pc = .admitted → s' = s.readTo i c (.leaving (some .EBUSY)) → ReadMove tun s i c fd s'
  | start (now : Sbintime) : c.pc = .admitted →
      s' = { (s.setSoftc c.fd fd { fd.sc with scLastRead := now }).readTo i c .reading with
        glob := { s.glob with readsTotal := s.glob.readsTotal + 1 } } → ReadMove tun s i c fd s'
  | stop (error : Option Errno) : c.pc = .reading →
      s' = (s.setSoftc c.fd fd { fd.sc with scDone := true }).readTo i c (.leaving error) → ReadMove tun s i c fd s'
  | leave (error : Option Errno) : c.pc = .leaving error → s' = s.subReader.readTo i c (.returned error) →
      ReadMove tun s i c fd s'

theorem openGo_move {tun : Tunables} {s s' : DevSystem Cred} {i : ℕ} {c : OpenCall Cred}
    {cdevpriv : Option Errno} (h : s.openGo tun i c cdevpriv = some s') : OpenMove tun s i c s' := by
  unfold openGo at h
  cases hpc : c.pc with
  | entered =>
    simp only [hpc] at h
    split_ifs at h
    · exact .deny hpc (Option.some.inj h).symm
    · exact .count hpc (Option.some.inj h).symm
  | counted old =>
    simp only [hpc] at h
    by_cases hle : tun.maxOpenFds ≤ old
    · rw [if_pos hle] at h
      exact .refuse old hpc hle (Option.some.inj h).symm
    · rw [if_neg hle] at h
      exact .letIn old hpc (UInt32.not_le.mp hle) (Option.some.inj h).symm
  | refusing =>
    simp only [hpc] at h
    exact .undo hpc (Option.some.inj h).symm
  | refused =>
    simp only [hpc] at h
    cases h
  | allocating =>
    simp only [hpc] at h
    cases cdevpriv with
    | none => exact .register hpc (Option.some.inj h).symm
    | some e => exact .fail e hpc (Option.some.inj h).symm
  | failing e =>
    simp only [hpc] at h
    exact .giveBack e hpc (Option.some.inj h).symm
  | registered =>
    simp only [hpc] at h
    exact .finish hpc (Option.some.inj h).symm
  | returned error =>
    simp only [hpc] at h
    cases h

theorem readGo_move {tun : Tunables} {s s' : DevSystem Cred} {i : ℕ} {c : ReadCall} {fd : Fd Cred}
    {now : Sbintime}
    {error : Option Errno} (h : s.readGo tun i c fd now error = some s') : ReadMove tun s i c fd s' := by
  unfold readGo at h
  cases hpc : c.pc with
  | entered =>
    simp only [hpc] at h
    by_cases hdone : fd.sc.scDone = true
    · rw [if_pos hdone] at h
      exact .skip hpc (Option.some.inj h).symm
    · rw [if_neg hdone] at h
      exact .enter hpc (Option.some.inj h).symm
  | counting =>
    simp only [hpc] at h
    exact .count hpc (Option.some.inj h).symm
  | counted old =>
    simp only [hpc] at h
    by_cases hle : tun.maxConcurrentReaders ≤ old
    · rw [if_pos hle] at h
      exact .refuse old hpc hle (Option.some.inj h).symm
    · rw [if_neg hle] at h
      exact .letIn old hpc (UInt32.not_le.mp hle) (Option.some.inj h).symm
  | refusing =>
    simp only [hpc] at h
    exact .undo hpc (Option.some.inj h).symm
  | refused =>
    simp only [hpc] at h
    cases h
  | admitted =>
    simp only [hpc] at h
    split_ifs at h
    · exact .throttle hpc (Option.some.inj h).symm
    · exact .start now hpc (Option.some.inj h).symm
  | reading =>
    simp only [hpc] at h
    exact .stop error hpc (Option.some.inj h).symm
  | leaving e =>
    simp only [hpc] at h
    exact .leave e hpc (Option.some.inj h).symm
  | returned e =>
    simp only [hpc] at h
    cases h

end DevSystem

/-! ### The gates -/

/-- The open has been let in, and has no descriptor yet. -/
def OpenPc.inside (limit : UInt32) : OpenPc → Bool
  | counted old => old < limit
  | allocating | failing _ => true
  | entered | refusing | refused | registered | returned _ => false

/-- The open has been turned away, and has not undone its increment. -/
def OpenPc.away (limit : UInt32) : OpenPc → Bool
  | counted old => limit ≤ old
  | refusing => true
  | entered | refused | allocating | failing _ | registered | returned _ => false

/-- The destructor has not decremented the counter. -/
def FdStage.counted : FdStage → Bool
  | closed => false
  | _ => true

/-- The read has been let in, and has not decremented the counter. -/
def ReadPc.inside (limit : UInt32) : ReadPc → Bool
  | counted old => old < limit
  | admitted | reading | leaving _ => true
  | entered | counting | refusing | refused | returned _ => false

/-- The read has been turned away, and has not undone its increment. -/
def ReadPc.away (limit : UInt32) : ReadPc → Bool
  | counted old => limit ≤ old
  | refusing => true
  | entered | counting | refused | admitted | reading | leaving _ | returned _ => false

namespace DevSystem

/-- The opens that have been let in, and the descriptors. -/
def fdsInside (tun : Tunables) (s : DevSystem Cred) : ℕ :=
  s.opens.countP (·.pc.inside tun.maxOpenFds) + s.fds.countP (·.stage.counted)

/-- The opens that have been turned away. -/
def fdsAway (tun : Tunables) (s : DevSystem Cred) : ℕ := s.opens.countP (·.pc.away tun.maxOpenFds)

/-- The reads that have been let in. -/
def readsInside (tun : Tunables) (s : DevSystem Cred) : ℕ :=
  s.reads.countP (·.pc.inside tun.maxConcurrentReaders)

/-- The reads that have been turned away. -/
def readsAway (tun : Tunables) (s : DevSystem Cred) :
    ℕ := s.reads.countP (·.pc.away tun.maxConcurrentReaders)

/-- The gate of the descriptors. -/
def fdGate (tun : Tunables) (s : DevSystem Cred) : Gate :=
  ⟨s.glob.activeFds.toNat, s.fdsInside tun, s.fdsAway tun⟩

/-- The gate of the reads. -/
def readGate (tun : Tunables) (s : DevSystem Cred) : Gate :=
  ⟨s.glob.activeReaders.toNat, s.readsInside tun, s.readsAway tun⟩

variable {tun : Tunables} {s s' : DevSystem Cred} {e : DevEvent Cred}

/-- Counting a list of which one element is replaced. -/
theorem countP_set_add {α : Type} {p : α → Bool} {l : List α} {i : ℕ} {x : α} (h : l[i]? = some x) (y : α) :
    (l.set i y).countP p + (p x).toNat = l.countP p + (p y).toNat := by
  induction l generalizing i with
  | nil => cases h
  | cons z l ih =>
    cases i with
    | zero =>
      obtain rfl := Option.some.inj h
      simp only [List.set_cons_zero, List.countP_cons]
      cases p z <;> cases p y <;> simp
    | succ i =>
      have := ih h
      simp only [List.set_cons_succ, List.countP_cons]
      omega

theorem toNat_add_one (a : UInt32) : (a + 1).toNat = (a.toNat + 1) % 2 ^ 32 := UInt32.toNat_add a 1

theorem toNat_sub_one (a : UInt32) : (a - 1).toNat = (2 ^ 32 - 1 + a.toNat) % 2 ^ 32 := UInt32.toNat_sub a 1

/-! ### Steps at the gate of the descriptors -/

/-- What an open that goes on does to the numbers. -/
theorem openTo_counts (tun : Tunables) {i : ℕ} {c : OpenCall Cred} (hc : s.opens[i]? = some c)
    (pc : OpenPc) :
    (s.openTo i c pc).fdsInside tun + (c.pc.inside tun.maxOpenFds).toNat =
        s.fdsInside tun + (pc.inside tun.maxOpenFds).toNat ∧
      (s.openTo i c pc).fdsAway tun + (c.pc.away tun.maxOpenFds).toNat =
        s.fdsAway tun + (pc.away tun.maxOpenFds).toNat := by
  have hin := countP_set_add (p := fun c : OpenCall Cred => c.pc.inside tun.maxOpenFds) hc { c with pc }
  have haway := countP_set_add (p := fun c : OpenCall Cred => c.pc.away tun.maxOpenFds) hc { c with pc }
  refine ⟨?_, haway⟩
  show _ + s.fds.countP (·.stage.counted) + _ = _ + s.fds.countP (·.stage.counted) + _
  dsimp only [openTo] at hin ⊢
  omega

theorem openGo_fdGate {i : ℕ} {c : OpenCall Cred} {cdevpriv : Option Errno} (hc : s.opens[i]? = some c)
    (h : s.openGo tun i c cdevpriv = some s') :
    s'.fdGate tun = s.fdGate tun ∨
      Gate.Step (2 ^ 32) tun.maxOpenFds.toNat (s.fdGate tun) (s'.fdGate tun) := by
  have hcounts := openTo_counts tun hc
  cases openGo_move h with
  | deny hpc hs =>
    subst hs
    rw [hpc] at hcounts
    obtain ⟨hin, haway⟩ := hcounts (.returned (some .EPERM))
    exact .inl (Gate.ext rfl hin haway)
  | count hpc hs =>
    subst hs
    rw [hpc] at hcounts
    obtain ⟨hin, haway⟩ := hcounts (.counted s.glob.activeFds)
    exact .inr (.enter (toNat_add_one _) hin haway)
  | refuse old hpc hle hs =>
    subst hs
    rw [hpc] at hcounts
    obtain ⟨hin, haway⟩ := hcounts .refusing
    simp only [OpenPc.inside, OpenPc.away, UInt32.not_lt.mpr hle, hle, decide_true, decide_false] at hin haway
    exact .inl (Gate.ext rfl hin (Nat.add_right_cancel haway))
  | letIn old hpc hlt hs =>
    subst hs
    rw [hpc] at hcounts
    obtain ⟨hin, haway⟩ := hcounts .allocating
    simp only [OpenPc.inside, OpenPc.away, hlt, UInt32.not_le.mpr hlt, decide_true, decide_false] at hin haway
    exact .inl (Gate.ext rfl (Nat.add_right_cancel hin) haway)
  | undo hpc hs =>
    subst hs
    rw [hpc] at hcounts
    obtain ⟨hin, haway⟩ := hcounts .refused
    exact .inr (.undone (toNat_sub_one _) hin haway)
  | fail e hpc hs =>
    subst hs
    rw [hpc] at hcounts
    obtain ⟨hin, haway⟩ := hcounts (.failing e)
    exact .inl (Gate.ext rfl (Nat.add_right_cancel hin) haway)
  | register hpc hs =>
    subst hs
    rw [hpc] at hcounts
    obtain ⟨hin, haway⟩ := hcounts .registered
    refine .inl (Gate.ext rfl ?_ haway)
    -- the descriptor takes the place of the call
    let fd : Fd Cred := ⟨c.via.softc c.cred, .opened⟩
    show _ + (s.fds ++ [fd]).countP (fun fd => fd.stage.counted) = _
    rw [List.countP_append, ← Nat.add_assoc]
    exact hin
  | giveBack e hpc hs =>
    subst hs
    rw [hpc] at hcounts
    obtain ⟨hin, haway⟩ := hcounts (.returned (some e))
    exact .inr (.exit (toNat_sub_one _) hin haway)
  | finish hpc hs =>
    subst hs
    rw [hpc] at hcounts
    obtain ⟨hin, haway⟩ := hcounts (.returned none)
    exact .inl (Gate.ext rfl hin haway)

/-- What the end of a descriptor does to the numbers. -/
theorem fdTo_counts (tun : Tunables) {i : ℕ} {fd : Fd Cred} (hfd : s.fds[i]? = some fd) (stage : FdStage) :
    (s.fdTo i fd stage).fdsInside tun + fd.stage.counted.toNat = s.fdsInside tun + stage.counted.toNat := by
  have hin := countP_set_add (p := fun fd : Fd Cred => fd.stage.counted) hfd { fd with stage }
  show s.opens.countP _ + _ + _ = s.opens.countP _ + _ + _
  dsimp only [fdTo] at hin ⊢
  omega

/-- A descriptor's state is no matter to the numbers. -/
theorem setSoftc_counts {i : ℕ} {fd : Fd Cred} (hfd : s.fds[i]? = some fd) (sc : Softc Cred) :
    (s.setSoftc i fd sc).fdsInside tun = s.fdsInside tun := by
  have hin := countP_set_add (p := fun fd : Fd Cred => fd.stage.counted) hfd { fd with sc }
  show s.opens.countP _ + _ = s.opens.countP _ + _
  dsimp only [setSoftc] at hin ⊢
  omega

theorem readGo_fdGate {i : ℕ} {c : ReadCall} {fd : Fd Cred} {now : Sbintime} {error : Option Errno}
    (hfd : s.fds[c.fd]? = some fd) (h : s.readGo tun i c fd now error = some s') :
    s'.fdGate tun = s.fdGate tun := by
  cases readGo_move h with
  | start now _ hs =>
    subst hs
    exact Gate.ext rfl (setSoftc_counts hfd _) rfl
  | stop error _ hs =>
    subst hs
    exact Gate.ext rfl (setSoftc_counts hfd _) rfl
  | skip _ hs => subst hs; rfl
  | enter _ hs => subst hs; rfl
  | count _ hs => subst hs; rfl
  | refuse old _ _ hs => subst hs; rfl
  | letIn old _ _ hs => subst hs; rfl
  | undo _ hs => subst hs; rfl
  | throttle _ hs => subst hs; rfl
  | leave error _ hs => subst hs; rfl

/-- Every event is a step at the gate of the descriptors, or nothing to it. -/
theorem fdGate_step (h : DevStep tun s e s') :
    s'.fdGate tun = s.fdGate tun ∨
      Gate.Step (2 ^ 32) tun.maxOpenFds.toNat (s.fdGate tun) (s'.fdGate tun) := by
  unfold DevStep devStep at h
  cases e with
  | openDev via fwrite cred =>
    obtain rfl := Option.some.inj h
    refine .inl (Gate.ext rfl ?_ ?_)
    · show (s.opens ++ _).countP _ + s.fds.countP _ = _
      rw [List.countP_append]
      rfl
    · show (s.opens ++ _).countP _ = _
      rw [List.countP_append]
      rfl
  | openGo i cdevpriv =>
    obtain ⟨c, hc, h⟩ := Option.bind_eq_some_iff.mp h
    exact openGo_fdGate hc h
  | close i =>
    obtain ⟨fd, hfd, h⟩ := Option.bind_eq_some_iff.mp h
    split_ifs at h with hstage
    obtain rfl := Option.some.inj h
    have hin := fdTo_counts tun hfd .closing
    rw [hstage] at hin
    exact .inl (Gate.ext rfl (Nat.add_right_cancel hin) rfl)
  | dtorGo i =>
    obtain ⟨fd, hfd, h⟩ := Option.bind_eq_some_iff.mp h
    split_ifs at h with hstage
    obtain rfl := Option.some.inj h
    have hin := fdTo_counts tun hfd .closed
    rw [hstage] at hin
    exact .inr (.exit (toNat_sub_one _) hin rfl)
  | read fd =>
    dsimp only at h
    split_ifs at h
    obtain rfl := Option.some.inj h
    exact .inl rfl
  | readGo i now error =>
    obtain ⟨c, -, h⟩ := Option.bind_eq_some_iff.mp h
    obtain ⟨fd, hfd, h⟩ := Option.bind_eq_some_iff.mp h
    exact .inl (readGo_fdGate hfd h)

/-! ### Steps at the gate of the reads -/

theorem readTo_counts (tun : Tunables) {i : ℕ} {c : ReadCall} (hc : s.reads[i]? = some c) (pc : ReadPc) :
    (s.readTo i c pc).readsInside tun + (c.pc.inside tun.maxConcurrentReaders).toNat =
        s.readsInside tun + (pc.inside tun.maxConcurrentReaders).toNat ∧
      (s.readTo i c pc).readsAway tun + (c.pc.away tun.maxConcurrentReaders).toNat =
        s.readsAway tun + (pc.away tun.maxConcurrentReaders).toNat :=
  ⟨countP_set_add (p := fun c : ReadCall => c.pc.inside tun.maxConcurrentReaders) hc { c with pc },
    countP_set_add (p := fun c : ReadCall => c.pc.away tun.maxConcurrentReaders) hc { c with pc }⟩

theorem readGo_readGate {i : ℕ} {c : ReadCall} {fd : Fd Cred} {now : Sbintime} {error : Option Errno}
    (hc : s.reads[i]? = some c) (h : s.readGo tun i c fd now error = some s') :
    s'.readGate tun = s.readGate tun ∨
      Gate.Step (2 ^ 32) tun.maxConcurrentReaders.toNat (s.readGate tun) (s'.readGate tun) := by
  have hcounts := readTo_counts tun hc
  cases readGo_move h with
  | skip hpc hs =>
    subst hs
    rw [hpc] at hcounts
    obtain ⟨hin, haway⟩ := hcounts (.returned none)
    exact .inl (Gate.ext rfl hin haway)
  | enter hpc hs =>
    subst hs
    rw [hpc] at hcounts
    obtain ⟨hin, haway⟩ := hcounts .counting
    exact .inl (Gate.ext rfl hin haway)
  | count hpc hs =>
    subst hs
    rw [hpc] at hcounts
    obtain ⟨hin, haway⟩ := hcounts (.counted s.glob.activeReaders)
    exact .inr (.enter (toNat_add_one _) hin haway)
  | refuse old hpc hle hs =>
    subst hs
    rw [hpc] at hcounts
    obtain ⟨hin, haway⟩ := hcounts .refusing
    simp only [ReadPc.inside, ReadPc.away, UInt32.not_lt.mpr hle, hle, decide_true, decide_false] at hin haway
    exact .inl (Gate.ext rfl hin (Nat.add_right_cancel haway))
  | letIn old hpc hlt hs =>
    subst hs
    rw [hpc] at hcounts
    obtain ⟨hin, haway⟩ := hcounts .admitted
    simp only [ReadPc.inside, ReadPc.away, hlt, UInt32.not_le.mpr hlt, decide_true, decide_false] at hin haway
    exact .inl (Gate.ext rfl (Nat.add_right_cancel hin) haway)
  | undo hpc hs =>
    subst hs
    rw [hpc] at hcounts
    obtain ⟨hin, haway⟩ := hcounts .refused
    exact .inr (.undone (toNat_sub_one _) hin haway)
  | throttle hpc hs =>
    subst hs
    rw [hpc] at hcounts
    obtain ⟨hin, haway⟩ := hcounts (.leaving (some .EBUSY))
    exact .inl (Gate.ext rfl (Nat.add_right_cancel hin) haway)
  | start now hpc hs =>
    subst hs
    rw [hpc] at hcounts
    obtain ⟨hin, haway⟩ := hcounts .reading
    exact .inl (Gate.ext rfl (Nat.add_right_cancel hin) haway)
  | stop error hpc hs =>
    subst hs
    rw [hpc] at hcounts
    obtain ⟨hin, haway⟩ := hcounts (.leaving error)
    exact .inl (Gate.ext rfl (Nat.add_right_cancel hin) haway)
  | leave error hpc hs =>
    subst hs
    rw [hpc] at hcounts
    obtain ⟨hin, haway⟩ := hcounts (.returned error)
    exact .inr (.exit (toNat_sub_one _) hin haway)

/-- An open does nothing to the reads. -/
theorem openGo_readGate {i : ℕ} {c : OpenCall Cred} {cdevpriv : Option Errno}
    (h : s.openGo tun i c cdevpriv = some s') : s'.readGate tun = s.readGate tun := by
  cases openGo_move h with
  | deny _ hs => subst hs; rfl
  | count _ hs => subst hs; rfl
  | refuse old _ _ hs => subst hs; rfl
  | letIn old _ _ hs => subst hs; rfl
  | undo _ hs => subst hs; rfl
  | fail e _ hs => subst hs; rfl
  | register _ hs => subst hs; rfl
  | giveBack e _ hs => subst hs; rfl
  | finish _ hs => subst hs; rfl

/-- Every event is a step at the gate of the reads, or nothing to it. -/
theorem readGate_step (h : DevStep tun s e s') :
    s'.readGate tun = s.readGate tun ∨
      Gate.Step (2 ^ 32) tun.maxConcurrentReaders.toNat (s.readGate tun) (s'.readGate tun) := by
  unfold DevStep devStep at h
  cases e with
  | openDev via fwrite cred =>
    obtain rfl := Option.some.inj h
    exact .inl rfl
  | openGo i cdevpriv =>
    obtain ⟨c, -, h⟩ := Option.bind_eq_some_iff.mp h
    exact .inl (openGo_readGate h)
  | close i =>
    obtain ⟨fd, -, h⟩ := Option.bind_eq_some_iff.mp h
    split_ifs at h
    obtain rfl := Option.some.inj h
    exact .inl rfl
  | dtorGo i =>
    obtain ⟨fd, -, h⟩ := Option.bind_eq_some_iff.mp h
    split_ifs at h
    obtain rfl := Option.some.inj h
    exact .inl rfl
  | read fd =>
    dsimp only at h
    split_ifs at h
    obtain rfl := Option.some.inj h
    refine .inl (Gate.ext rfl ?_ ?_)
    · show (s.reads ++ _).countP _ = _
      rw [List.countP_append]
      rfl
    · show (s.reads ++ _).countP _ = _
      rw [List.countP_append]
      rfl
  | readGo i now error =>
    obtain ⟨c, hc, h⟩ := Option.bind_eq_some_iff.mp h
    obtain ⟨fd, -, h⟩ := Option.bind_eq_some_iff.mp h
    exact readGo_readGate hc h

end DevSystem

end TcpStats
