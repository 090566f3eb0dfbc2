import TcpStats.Profile.Request

/-!
# The profiles, one handler at a time

The list `tcpstats_profiles` with its counter, the last error and the device nodes, and
what a run of a write handler does to them from beginning to end: `profile_set` creates,
updates and deletes, `profiles.<name>` updates and deletes. A profile is in the list by
value here, and stands for its address: the handlers reach one only by looking a name up,
which finds the first of that name. The answers of the kernel (what was copied in, whether
there is a device) are arguments; the log lines and the sysctl of a new profile are left
to the model of the handlers side by side.
-/

namespace TcpStats

open CString

/-- A device node under `/dev/tcpstats/`. -/
structure Cdev where
  /-- Tells the nodes apart, also those of one name. -/
  num : ℕ
  name : CStr
  deriving DecidableEq

/-- What the handlers work on. -/
structure ProfileStore where
  /-- `tcpstats_profiles`, the newest first. -/
  profiles : List TcpstatsProfile
  /-- `tcpstats_nprofiles`. -/
  nprofiles : ℤ
  /-- `tcpstats_last_error`. -/
  lastError : CharBuf 128
  devices : List Cdev
  /-- The number of the next device node. -/
  nextDev : ℕ
  deriving DecidableEq

/-- The state after the module is loaded. -/
def ProfileStore.init : ProfileStore := ⟨[], 0, .empty 128, [], 0⟩

/-- The name is the profile's, to `strcmp`. -/
def TcpstatsProfile.named (name : CStr) (prof : TcpstatsProfile) : Bool := prof.name.str == name

/-- `tcpstats_profile_find`. -/
def tcpstatsProfileFind (profiles : List TcpstatsProfile) (name : CStr) : Option TcpstatsProfile :=
  profiles.find? (·.named name)

namespace ProfileStore

/-- A failure that leaves a message. -/
def fail (s : ProfileStore) (e : ProfileError) : Option Errno × ProfileStore :=
  (some e.errno, { s with lastError := e.lastError })

/-- `tcpstats_last_error[0] = '\0'`. -/
def clearError (s : ProfileStore) : ProfileStore := { s with lastError := .empty 128 }

/-- `make_dev_credf`, which may give no device. -/
def makeDevCredf (s : ProfileStore) (ok : Bool) (name : CStr) : Option ℕ × ProfileStore :=
  if ok then (some s.nextDev, { s with devices := ⟨s.nextDev, name⟩ :: s.devices, nextDev := s.nextDev + 1 })
  else (none, s)

/-- `destroy_dev`. -/
def destroyDev (s : ProfileStore) (dev : ℕ) : ProfileStore :=
  { s with devices := s.devices.filter (·.num ≠ dev) }

/-- `tcpstats_profile_detach`, of the profile found under the name. -/
def detach (s : ProfileStore) (name : CStr) : ProfileStore :=
  { s with profiles := s.profiles.eraseP (·.named name), nprofiles := s.nprofiles - 1 }

/-- `tcpstats_profile_destroy_unlocked`. -/
def destroyUnlocked (s : ProfileStore) (prof : TcpstatsProfile) : ProfileStore :=
  match prof.dev with
  | some dev => s.destroyDev dev
  | none => s

/-- Delete the profile of the name, if there is one. -/
def remove (s : ProfileStore) (name : CStr) : ProfileStore :=
  match tcpstatsProfileFind s.profiles name with
  | some prof => (s.detach name).destroyUnlocked prof
  | none => s

/-- "Update existing profile": the filter and its text. -/
def update (s : ProfileStore) (name filterStr : CStr) (filter : TcpstatsFilter) : ProfileStore :=
  { s with profiles := s.profiles.modify (s.profiles.findIdx (·.named name)) fun prof =>
      { prof with filterStr := strlcpy 512 filterStr, filter } }

/-- "Create new profile". -/
def create (s : ProfileStore) (name filterStr : CStr) (filter : TcpstatsFilter) (makeDev : Bool) :
    Option Errno × ProfileStore :=
  let prof : TcpstatsProfile := ⟨strlcpy 32 name, strlcpy 512 filterStr, filter, none⟩
  match s.makeDevCredf makeDev prof.name.str with
  | (none, s) => s.fail (.device name)
  | (some dev, s) =>
    (none, { s with profiles := { prof with dev := some dev } :: s.profiles, nprofiles := s.nprofiles + 1 })

end ProfileStore

/-- `tcpstats_profile_set_handler`, written to. -/
def tcpstatsProfileSetHandler (copyin : CopyIn) (makeDev : Bool) (s : ProfileStore) :
    Option Errno × ProfileStore :=
  match copyin with
  | .error e => (some e, s)
  | .ok delivered =>
    match profileSetRequest delivered with
    | .error e => s.fail e
    | .ok (.delete name) => (none, s.remove name)
    | .ok (.put name filterStr filter) =>
      let s := s.clearError
      if (tcpstatsProfileFind s.profiles name).isSome then (none, s.update name filterStr filter)
      else if s.nprofiles ≥ TSF_MAX_PROFILES then s.fail .limit
      else s.create name filterStr filter makeDev

/-- `tcpstats_profile_sysctl_handler`, written to, for the profile of the name it is registered
with. -/
def tcpstatsProfileSysctlHandler (name : CStr) (copyin : CopyIn) (s : ProfileStore) :
    Option Errno × ProfileStore :=
  match copyin with
  | .error e => (some e, s)
  | .ok delivered =>
    match profileRequest name delivered with
    | .error e => s.fail e
    | .ok (.delete name) => (none, s.remove name)
    | .ok (.put name filterStr filter) =>
      let s := s.clearError
      if (tcpstatsProfileFind s.profiles name).isSome then (none, s.update name filterStr filter)
      else (some .ENOENT, s)

/-- A write to one of the sysctls. -/
inductive ProfileWrite where
  /-- `dev.tcpstats.profile_set`, with whether a device will be given. -/
  | profileSet (copyin : CopyIn) (makeDev : Bool)
  /-- `dev.tcpstats.profiles.<name>`. -/
  | profile (name : CStr) (copyin : CopyIn)
  deriving DecidableEq

/-- A handler run to its end: what it returns, `none` for 0, and what it leaves. -/
def profileWrite : ProfileWrite → ProfileStore → Option Errno × ProfileStore
  | .profileSet copyin makeDev, s => tcpstatsProfileSetHandler copyin makeDev s
  | .profile name copyin, s => tcpstatsProfileSysctlHandler name copyin s

/-- The first loop of `tcpstats_profiles_destroy_all`: the list still to detach, and `detached`
so far. There is no result where the array of `TSF_MAX_PROFILES` places would overflow. -/
def detachAll : List TcpstatsProfile → List TcpstatsProfile → Option (List TcpstatsProfile)
  | [], detached => some detached
  | prof :: profiles, detached =>
    if detached.length < TSF_MAX_PROFILES then detachAll profiles (detached ++ [prof]) else none

/-- `tcpstats_profiles_destroy_all`. -/
def tcpstatsProfilesDestroyAll (s : ProfileStore) : Option ProfileStore :=
  (detachAll s.profiles []).map fun detached =>
    detached.foldl ProfileStore.destroyUnlocked
      { s with profiles := [], nprofiles := s.nprofiles - detached.length }

/-! ### What a write does -/

theorem toOption_eq_some {ε α : Type} {x : Except ε α} {a : α} : x.toOption = some a ↔ x = .ok a := by
  rcases x with e | b
  · simp [Except.toOption]
  · simp [Except.toOption]

/-- The request of a write that gets as far as one. -/
def ProfileWrite.request : ProfileWrite → Option (ProfileRequest CStr)
  | .profileSet (.ok delivered) _ => (profileSetRequest delivered).toOption
  | .profile name (.ok delivered) => (profileRequest name delivered).toOption
  | _ => none

theorem profileWrite_delete {w : ProfileWrite} {name : CStr} (h : w.request = some (.delete name))
    (s : ProfileStore) : profileWrite w s = (none, s.remove name) := by
  rcases w with ⟨e | delivered, makeDev⟩ | ⟨name', e | delivered⟩
  · cases h
  · have hr : profileSetRequest delivered = .ok (.delete name) := toOption_eq_some.mp h
    simp only [profileWrite, tcpstatsProfileSetHandler, hr]
  · cases h
  · have hr : profileRequest name' delivered = .ok (.delete name) := toOption_eq_some.mp h
    simp only [profileWrite, tcpstatsProfileSysctlHandler, hr]

theorem profileWrite_update {w : ProfileWrite} {name filterStr : CStr} {filter : TcpstatsFilter}
    (h : w.request = some (.put name filterStr filter)) {s : ProfileStore}
    (hfind : (tcpstatsProfileFind s.profiles name).isSome = true) :
    profileWrite w s = (none, s.clearError.update name filterStr filter) := by
  rcases w with ⟨e | delivered, makeDev⟩ | ⟨name', e | delivered⟩
  · cases h
  · have hr : profileSetRequest delivered = .ok (.put name filterStr filter) := toOption_eq_some.mp h
    simp only [profileWrite, tcpstatsProfileSetHandler, hr]
    exact if_pos hfind
  · cases h
  · have hr : profileRequest name' delivered = .ok (.put name filterStr filter) := toOption_eq_some.mp h
    simp only [profileWrite, tcpstatsProfileSysctlHandler, hr]
    exact if_pos hfind

/-- The profile a request to store makes. -/
def newProfile (name filterStr : CStr) (filter : TcpstatsFilter) (dev : ℕ) : TcpstatsProfile :=
  ⟨strlcpy 32 name, strlcpy 512 filterStr, filter, some dev⟩

/-- What a write does to the store: the cases of both handlers. -/
inductive Written (s : ProfileStore) (w : ProfileWrite) : Option Errno × ProfileStore → Prop where
  /-- It fails, and only the last error may change. -/
  | failed (e : Errno) (lastError : CharBuf 128) : Written s w (some e, { s with lastError })
  /-- There is nothing to delete. -/
  | absent (name : CStr) : w.request = some (.delete name) →
      tcpstatsProfileFind s.profiles name = none → Written s w (none, s)
  | deleted (name : CStr) (prof : TcpstatsProfile) : w.request = some (.delete name) →
      tcpstatsProfileFind s.profiles name = some prof →
      Written s w (none, (s.detach name).destroyUnlocked prof)
  | updated (name filterStr : CStr) (filter : TcpstatsFilter) (prof : TcpstatsProfile) :
      w.request = some (.put name filterStr filter) →
      tcpstatsProfileFind s.profiles name = some prof →
      Written s w (none, s.clearError.update name filterStr filter)
  | created (name filterStr : CStr) (filter : TcpstatsFilter) :
      w.request = some (.put name filterStr filter) →
      tcpstatsProfileFind s.profiles name = none → s.nprofiles < TSF_MAX_PROFILES →
      Written s w (none,
        { s with
          profiles := newProfile name filterStr filter s.nextDev :: s.profiles
          nprofiles := s.nprofiles + 1
          lastError := .empty 128
          devices := ⟨s.nextDev, (strlcpy 32 name).str⟩ :: s.devices
          nextDev := s.nextDev + 1 })

theorem Written.remove {s : ProfileStore} {w : ProfileWrite} {name : CStr}
    (h : w.request = some (.delete name)) : Written s w (none, s.remove name) := by
  unfold ProfileStore.remove
  rcases hfind : tcpstatsProfileFind s.profiles name with _ | prof
  · exact .absent name h hfind
  · exact .deleted name prof h hfind

theorem Written.update {s : ProfileStore} {w : ProfileWrite} {name filterStr : CStr}
    {filter : TcpstatsFilter} (h : w.request = some (.put name filterStr filter))
    (hfind : (tcpstatsProfileFind s.profiles name).isSome = true) :
    Written s w (none, s.clearError.update name filterStr filter) := by
  obtain ⟨prof, hprof⟩ := Option.isSome_iff_exists.mp hfind
  exact .updated name filterStr filter prof h hprof

theorem tcpstatsProfileSetHandler_written (copyin : CopyIn) (makeDev : Bool) (s : ProfileStore) :
    Written s (.profileSet copyin makeDev) (tcpstatsProfileSetHandler copyin makeDev s) := by
  rcases copyin with e | delivered
  · exact .failed e s.lastError
  dsimp only [tcpstatsProfileSetHandler]
  have hreq : ∀ r, profileSetRequest delivered = .ok r →
      (ProfileWrite.profileSet (.ok delivered) makeDev).request = some r :=
    fun r hr => toOption_eq_some.mpr hr
  rcases hr : profileSetRequest delivered with e | name | ⟨name, filterStr, filter⟩
  · exact .failed e.errno e.lastError
  · exact .remove (hreq _ hr)
  dsimp only
  split_ifs with hfind hlimit
  · exact .update (hreq _ hr) hfind
  · exact .failed _ (ProfileError.lastError .limit)
  · cases makeDev with
    | true =>
      exact .created name filterStr filter (hreq _ hr) (Option.not_isSome_iff_eq_none.mp hfind)
        (not_le.mp hlimit)
    | false => exact .failed _ (ProfileError.lastError (.device name))

theorem tcpstatsProfileSysctlHandler_written (name : CStr) (copyin : CopyIn) (s : ProfileStore) :
    Written s (.profile name copyin) (tcpstatsProfileSysctlHandler name copyin s) := by
  rcases copyin with e | delivered
  · exact .failed e s.lastError
  dsimp only [tcpstatsProfileSysctlHandler]
  have hreq : ∀ r, profileRequest name delivered = .ok r →
      (ProfileWrite.profile name (.ok delivered)).request = some r :=
    fun r hr => toOption_eq_some.mpr hr
  rcases hr : profileRequest name delivered with e | name' | ⟨name', filterStr, filter⟩
  · exact .failed e.errno e.lastError
  · exact .remove (hreq _ hr)
  dsimp only
  split_ifs with hfind
  · exact .update (hreq _ hr) hfind
  · exact .failed .ENOENT (.empty 128)

/-- Every write does one of these. -/
theorem profileWrite_written (w : ProfileWrite) (s : ProfileStore) : Written s w (profileWrite w s) := by
  cases w with
  | profileSet copyin makeDev => exact tcpstatsProfileSetHandler_written copyin makeDev s
  | profile name copyin => exact tcpstatsProfileSysctlHandler_written name copyin s

/-- A request to store carries a text that parses to its filter. -/
theorem ProfileWrite.request_put {w : ProfileWrite} {name filterStr : CStr} {filter : TcpstatsFilter}
    (h : w.request = some (.put name filterStr filter)) : PutOk filterStr filter := by
  rcases w with ⟨e | delivered, makeDev⟩ | ⟨name', e | delivered⟩
  · cases h
  · exact profileSetRequest_put (toOption_eq_some.mp h)
  · cases h
  · exact (profileRequest_put (toOption_eq_some.mp h)).2

end TcpStats
