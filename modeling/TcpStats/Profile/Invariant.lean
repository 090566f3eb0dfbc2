import TcpStats.Profile.Store
import TcpStats.Lib.Machine
import Mathlib.Data.List.Nodup

/-!
# What every sequence of writes keeps

`ProfileStore.Valid` is kept by each of the cases of `Written`: the counter is the length
of the list and at most 16, the profiles have devices of their own, and each filter is the
parse of its text. `Stored` says where a profile comes from: a write that succeeded, with
just that text. Together, over all sequences of writes from the empty store, they give
`store_invariant`.
-/

namespace TcpStats

open CString Machine

/-! ### The list -/

theorem mem_modify {α : Type} {f : α → α} {l : List α} {i : ℕ} {x : α} (h : x ∈ l.modify i f) :
    x ∈ l ∨ ∃ y, l[i]? = some y ∧ x = f y := by
  obtain ⟨j, hj⟩ := List.mem_iff_getElem?.mp h
  rw [List.getElem?_modify] at hj
  rcases hy : l[j]? with _ | y
  · simp [hy] at hj
  · by_cases hij : i = j
    · subst hij
      exact .inr ⟨y, hy, by simpa [hy] using hj.symm⟩
    · have : y = x := by simpa [hy, hij] using hj
      exact .inl (this ▸ List.mem_of_getElem? hy)

theorem named_of_find {profiles : List TcpstatsProfile} {name : CStr} {prof : TcpstatsProfile}
    (h : tcpstatsProfileFind profiles name = some prof) : prof ∈ profiles ∧ prof.name.str = name :=
  ⟨List.mem_of_find?_eq_some h, by simpa [TcpstatsProfile.named] using List.find?_some h⟩

/-- The place at which a profile is updated is that of the one found. -/
theorem getElem?_findIdx {profiles : List TcpstatsProfile} {name : CStr} {prof : TcpstatsProfile}
    (h : tcpstatsProfileFind profiles name = some prof) :
    profiles[profiles.findIdx (·.named name)]? = some prof := by
  rw [← h, tcpstatsProfileFind, List.find?_eq_getElem?_findIdx]

/-! ### Devices -/

/-- The node a profile should have. -/
def TcpstatsProfile.node (prof : TcpstatsProfile) : Option Cdev :=
  prof.dev.map fun num => ⟨num, prof.name.str⟩

theorem destroyUnlocked_devices (s : ProfileStore) (prof : TcpstatsProfile) :
    (s.destroyUnlocked prof).devices = s.devices.filter fun d => prof.dev ≠ some d.num := by
  rcases hdev : prof.dev with _ | num
  · simp [ProfileStore.destroyUnlocked, hdev]
  · simp only [ProfileStore.destroyUnlocked, hdev, ProfileStore.destroyDev, ne_eq, Option.some.injEq]
    simp only [eq_comm]

@[simp] theorem destroyUnlocked_profiles (s : ProfileStore) (prof : TcpstatsProfile) :
    (s.destroyUnlocked prof).profiles = s.profiles := by
  rcases hdev : prof.dev with _ | num
  · simp [ProfileStore.destroyUnlocked, hdev]
  · simp [ProfileStore.destroyUnlocked, hdev, ProfileStore.destroyDev]

@[simp] theorem destroyUnlocked_nprofiles (s : ProfileStore) (prof : TcpstatsProfile) :
    (s.destroyUnlocked prof).nprofiles = s.nprofiles := by
  rcases hdev : prof.dev with _ | num
  · simp [ProfileStore.destroyUnlocked, hdev]
  · simp [ProfileStore.destroyUnlocked, hdev, ProfileStore.destroyDev]

@[simp] theorem destroyUnlocked_nextDev (s : ProfileStore) (prof : TcpstatsProfile) :
    (s.destroyUnlocked prof).nextDev = s.nextDev := by
  rcases hdev : prof.dev with _ | num
  · simp [ProfileStore.destroyUnlocked, hdev]
  · simp [ProfileStore.destroyUnlocked, hdev, ProfileStore.destroyDev]

/-- Profiles and nodes that match one to one still do when the first profile of a name and its
node are gone. -/
theorem nodes_eraseP {profiles : List TcpstatsProfile} {devices : List Cdev} {name : CStr}
    {prof : TcpstatsProfile} (hnodes : profiles.map TcpstatsProfile.node = devices.map some)
    (hdistinct : (devices.map Cdev.num).Nodup) (hfind : tcpstatsProfileFind profiles name = some prof) :
    (profiles.eraseP (·.named name)).map TcpstatsProfile.node =
      (devices.filter fun d => prof.dev ≠ some d.num).map some := by
  induction profiles generalizing devices with
  | nil => cases hfind
  | cons p profiles ih =>
    rcases devices with _ | ⟨c, devices⟩
    · cases hnodes
    obtain ⟨hc, hnodes'⟩ := List.cons.inj hnodes
    obtain ⟨hnot, hdistinct'⟩ := List.nodup_cons.mp hdistinct
    have hother : ∀ d ∈ devices, d.num ≠ c.num := by
      intro d hd h
      exact hnot (h ▸ List.mem_map.mpr ⟨d, hd, rfl⟩)
    obtain ⟨num, hnum, rfl⟩ := Option.map_eq_some_iff.mp hc
    by_cases hp : p.named name = true
    · -- the first profile goes: its number is no other node's
      have hprof : p = prof := by simpa [tcpstatsProfileFind, hp] using hfind
      subst hprof
      have hkeep : (devices.filter fun d => p.dev ≠ some d.num) = devices := by
        refine List.filter_eq_self.mpr fun d hd => ?_
        simpa [hnum] using (hother d hd).symm
      rw [List.eraseP_cons_of_pos hp, hnodes', List.filter_cons_of_neg (by simpa using hnum), hkeep]
    · have hfind : tcpstatsProfileFind profiles name = some prof := by
        simpa [tcpstatsProfileFind, hp] using hfind
      have hmem : prof.node ∈ devices.map some := by
        rw [← hnodes']
        exact List.mem_map_of_mem (named_of_find hfind).1
      have hkeep : prof.dev ≠ some num := by
        rintro h
        obtain ⟨d, hd, hnode⟩ := List.mem_map.mp hmem
        refine hother d hd ?_
        simpa [TcpstatsProfile.node, h] using congrArg (Option.map Cdev.num) hnode
      rw [List.eraseP_cons_of_neg hp, List.map_cons, ih hnodes' hdistinct' hfind,
        List.filter_cons_of_pos (by simpa using hkeep), List.map_cons, hc]

/-! ### The invariant -/

/-- The list, the counter and the nodes agree. -/
structure ProfileStore.Valid (s : ProfileStore) : Prop where
  /-- `tcpstats_nprofiles` counts the list. -/
  count : s.nprofiles = s.profiles.length
  limit : s.profiles.length ≤ TSF_MAX_PROFILES
  /-- The nodes are those of the profiles. -/
  nodes : s.profiles.map TcpstatsProfile.node = s.devices.map some
  distinct : (s.devices.map Cdev.num).Nodup
  fresh : ∀ d ∈ s.devices, d.num < s.nextDev

theorem ProfileStore.Valid.init : ProfileStore.init.Valid :=
  ⟨rfl, Nat.zero_le _, rfl, List.nodup_nil, fun _ h => absurd h List.not_mem_nil⟩

theorem ProfileStore.Valid.node {s : ProfileStore} (h : s.Valid) {prof : TcpstatsProfile}
    (hprof : prof ∈ s.profiles) : ∃ d ∈ s.devices, prof.dev = some d.num ∧ d.name = prof.name.str := by
  have : prof.node ∈ s.devices.map some := by
    rw [← h.nodes]
    exact List.mem_map_of_mem hprof
  obtain ⟨d, hd, hnode⟩ := List.mem_map.mp this
  obtain ⟨num, hnum, rfl⟩ := Option.map_eq_some_iff.mp hnode.symm
  exact ⟨_, hd, hnum, rfl⟩

/-- An update replaces no node. -/
theorem nodes_update (s : ProfileStore) (name filterStr : CStr) (filter : TcpstatsFilter) :
    (s.update name filterStr filter).profiles.map TcpstatsProfile.node =
      s.profiles.map TcpstatsProfile.node := by
  refine List.ext_getElem? fun i => ?_
  simp only [ProfileStore.update, List.getElem?_map, List.getElem?_modify]
  rcases s.profiles[i]? with _ | prof
  · rfl
  · by_cases hi : s.profiles.findIdx (·.named name) = i
    · simp [hi, TcpstatsProfile.node]
    · simp [hi]

/-- Each case of a write keeps the invariant. -/
theorem Written.valid {s : ProfileStore} {w : ProfileWrite} {r : Option Errno × ProfileStore}
    (h : Written s w r) (hv : s.Valid) : r.2.Valid := by
  cases h with
  | failed e lastError => exact ⟨hv.count, hv.limit, hv.nodes, hv.distinct, hv.fresh⟩
  | absent name _ _ => exact hv
  | deleted name prof _ hfind =>
    obtain ⟨hmem, hname⟩ := named_of_find hfind
    have hlen : (s.profiles.eraseP (·.named name)).length = s.profiles.length - 1 :=
      List.length_eraseP_of_mem hmem (by simpa [TcpstatsProfile.named] using hname)
    have hpos := List.length_pos_of_mem hmem
    have hcount := hv.count
    have hlimit := hv.limit
    refine ⟨?_, ?_, ?_, ?_, ?_⟩
    · simp only [destroyUnlocked_nprofiles, destroyUnlocked_profiles, ProfileStore.detach, hlen]
      omega
    · simp only [destroyUnlocked_profiles, ProfileStore.detach, hlen]
      omega
    · rw [destroyUnlocked_profiles, destroyUnlocked_devices]
      exact nodes_eraseP hv.nodes hv.distinct hfind
    · rw [destroyUnlocked_devices]
      exact hv.distinct.sublist (List.filter_sublist.map _)
    · rw [destroyUnlocked_devices, destroyUnlocked_nextDev]
      exact fun d hd => hv.fresh d (List.mem_filter.mp hd).1
  | updated name filterStr filter prof _ _ =>
    refine ⟨?_, ?_, ?_, hv.distinct, hv.fresh⟩
    · simpa [ProfileStore.update, ProfileStore.clearError] using hv.count
    · simpa [ProfileStore.update, ProfileStore.clearError] using hv.limit
    · exact (nodes_update _ _ _ _).trans hv.nodes
  | created name filterStr filter _ _ hroom =>
    have hcount := hv.count
    refine ⟨by simp [hcount], ?_, ?_, ?_, ?_⟩
    · rw [hcount] at hroom
      exact Int.ofNat_lt.mp hroom
    · exact congrArg (_ :: ·) hv.nodes
    · refine List.nodup_cons.mpr ⟨fun h => ?_, hv.distinct⟩
      obtain ⟨d, hd, heq⟩ := List.mem_map.mp h
      exact absurd (hv.fresh d hd) (by rw [heq]; exact lt_irrefl _)
    · rintro d hd
      rcases List.mem_cons.mp hd with rfl | hd
      · exact Nat.lt_succ_self _
      · exact Nat.lt_succ_of_lt (hv.fresh d hd)

/-- The invariant holds after every sequence of writes. -/
theorem final_valid (ws : List ProfileWrite) : (final profileWrite ws .init).Valid :=
  final_inv (I := fun _ (s : ProfileStore) => s.Valid) .init (fun _ w h => (profileWrite_written w _).valid h) ws

/-! ### Where a profile comes from -/

/-- A write among `ws` that succeeded put the profile there, with just that text. -/
def Stored (ws : List ProfileWrite) (prof : TcpstatsProfile) : Prop :=
  ∃ pre w post name, ws = pre ++ w :: post ∧ (profileWrite w (final profileWrite pre .init)).1 = none ∧
    w.request = some (.put name prof.filterStr.str prof.filter) ∧ prof.name = strlcpy 32 name

theorem Stored.snoc {ws : List ProfileWrite} {prof : TcpstatsProfile} (h : Stored ws prof)
    (w : ProfileWrite) : Stored (ws ++ [w]) prof := by
  obtain ⟨pre, w', post, name, rfl, h⟩ := h
  exact ⟨pre, w', post ++ [w], name, by simp, h⟩

theorem Stored.last {ws : List ProfileWrite} {w : ProfileWrite} {prof : TcpstatsProfile} (name : CStr)
    (hok : (profileWrite w (final profileWrite ws .init)).1 = none)
    (hreq : w.request = some (.put name prof.filterStr.str prof.filter))
    (hname : prof.name = strlcpy 32 name) : Stored (ws ++ [w]) prof :=
  ⟨ws, w, [], name, rfl, hok, hreq, hname⟩

/-- The filter is the parse of the text. -/
theorem Stored.parsed {ws : List ProfileWrite} {prof : TcpstatsProfile} (h : Stored ws prof) :
    tsfParseFilterString prof.filterStr.str = .ok prof.filter := by
  obtain ⟨pre, w, post, name, -, -, hreq, -⟩ := h
  exact (ProfileWrite.request_put hreq).parsed

/-- Copying what a buffer holds gives the buffer. -/
theorem strlcpy_self {n : ℕ} [Fact (0 < n)] (b : CharBuf n) : strlcpy n b.str = b :=
  CharBuf.ext (strlcpy_str b.fits b.noNul)

/-- Every profile in the list was stored by a write. -/
theorem final_stored (ws : List ProfileWrite) :
    ∀ prof ∈ (final profileWrite ws .init).profiles, Stored ws prof := by
  refine final_inv (I := fun ws (s : ProfileStore) => ∀ prof ∈ s.profiles, Stored ws prof) ?_ ?_ ws
  · exact fun _ h => absurd h List.not_mem_nil
  intro ws w ih prof hprof
  have hw := profileWrite_written w (final profileWrite ws .init)
  generalize hr : profileWrite w (final profileWrite ws .init) = r at hw hprof
  cases hw with
  | failed e lastError => exact (ih prof hprof).snoc w
  | absent name _ _ => exact (ih prof hprof).snoc w
  | deleted name found _ _ =>
    rw [destroyUnlocked_profiles] at hprof
    exact (ih prof (List.mem_of_mem_eraseP hprof)).snoc w
  | updated name filterStr filter found hreq hfind =>
    rcases mem_modify hprof with hold | ⟨old, hget, rfl⟩
    · exact (ih prof hold).snoc w
    · have hfound : old = found := Option.some.inj (hget.symm.trans (getElem?_findIdx hfind))
      subst hfound
      refine .last name (by rw [hr]) ?_ ?_
      · rw [(ProfileWrite.request_put hreq).stored]
        exact hreq
      · rw [← (named_of_find hfind).2, strlcpy_self]
  | created name filterStr filter hreq _ _ =>
    rcases List.mem_cons.mp hprof with rfl | hold
    · refine .last name (by rw [hr]) ?_ rfl
      rw [newProfile, (ProfileWrite.request_put hreq).stored]
      exact hreq
    · exact (ih prof hold).snoc w

/-! ### Unloading -/

/-- As many as the array has places for are detached. -/
theorem detachAll_eq {profiles detached : List TcpstatsProfile}
    (h : detached.length + profiles.length ≤ TSF_MAX_PROFILES) :
    detachAll profiles detached = some (detached ++ profiles) := by
  induction profiles generalizing detached with
  | nil => simp [detachAll]
  | cons prof profiles ih =>
    simp only [List.length_cons] at h
    rw [detachAll, if_pos (by omega), ih (by simp only [List.length_append, List.length_singleton]; omega)]
    simp

theorem foldl_destroyUnlocked_devices (profiles : List TcpstatsProfile) (s : ProfileStore) :
    (profiles.foldl ProfileStore.destroyUnlocked s).devices =
      s.devices.filter fun d => ∀ prof ∈ profiles, prof.dev ≠ some d.num := by
  induction profiles generalizing s with
  | nil => simp
  | cons prof profiles ih =>
    rw [List.foldl_cons, ih, destroyUnlocked_devices, List.filter_filter]
    simp [Bool.and_comm]

theorem foldl_destroyUnlocked_list (profiles : List TcpstatsProfile) (s : ProfileStore) :
    let t := profiles.foldl ProfileStore.destroyUnlocked s
    t.profiles = s.profiles ∧ t.nprofiles = s.nprofiles ∧ t.nextDev = s.nextDev := by
  induction profiles generalizing s with
  | nil => exact ⟨rfl, rfl, rfl⟩
  | cons prof profiles ih =>
    simpa only [List.foldl_cons, destroyUnlocked_profiles, destroyUnlocked_nprofiles,
      destroyUnlocked_nextDev] using ih (s.destroyUnlocked prof)

/-- Unloading the module leaves no profile and no node behind. -/
theorem destroyAll_valid {s : ProfileStore} (h : s.Valid) :
    ∃ t, tcpstatsProfilesDestroyAll s = some t ∧ t.Valid ∧ t.profiles = [] ∧ t.nprofiles = 0 ∧
      t.nextDev = s.nextDev := by
  have hlimit := h.limit
  have hdevices : (s.profiles.foldl ProfileStore.destroyUnlocked
      { s with profiles := [], nprofiles := s.nprofiles - s.profiles.length }).devices = [] := by
    rw [foldl_destroyUnlocked_devices]
    refine List.filter_eq_nil_iff.mpr fun d hd => ?_
    have : some d ∈ s.profiles.map TcpstatsProfile.node := by
      rw [h.nodes]
      exact List.mem_map_of_mem hd
    obtain ⟨prof, hprof, hnode⟩ := List.mem_map.mp this
    obtain ⟨num, hnum, rfl⟩ := Option.map_eq_some_iff.mp hnode
    simpa using ⟨prof, hprof, hnum⟩
  obtain ⟨hlist, hcount, hdev⟩ := foldl_destroyUnlocked_list s.profiles
    { s with profiles := [], nprofiles := s.nprofiles - s.profiles.length }
  have hzero : s.nprofiles - s.profiles.length = 0 := by rw [h.count, sub_self]
  refine ⟨_, by rw [tcpstatsProfilesDestroyAll, detachAll_eq (by simpa using hlimit)]; rfl, ?_, hlist,
    hcount.trans hzero, hdev⟩
  refine ⟨?_, ?_, ?_, ?_, ?_⟩
  · rw [hlist, hcount]
    exact hzero
  · rw [hlist]
    exact Nat.zero_le _
  · rw [hlist, hdevices]
    rfl
  · rw [hdevices]
    exact List.nodup_nil
  · rw [hdevices]
    exact fun _ hd => absurd hd List.not_mem_nil

/-! ### The store -/

/-- A write that fails changes no profile and no node. -/
theorem profileWrite_failed {w : ProfileWrite} {s : ProfileStore} {e : Errno}
    (h : (profileWrite w s).1 = some e) :
    ∃ lastError, (profileWrite w s).2 = { s with lastError } := by
  have hw := profileWrite_written w s
  generalize profileWrite w s = r at hw h
  cases hw with
  | failed e lastError => exact ⟨lastError, rfl⟩
  | absent _ _ _ => cases h
  | deleted _ _ _ _ => cases h
  | updated _ _ _ _ _ _ => cases h
  | created _ _ _ _ _ _ => cases h

/-- What holds after every sequence of writes from the empty store. -/
theorem store_invariant (ws : List ProfileWrite) :
    let s := final profileWrite ws .init
    s.nprofiles = s.profiles.length ∧ s.profiles.length ≤ TSF_MAX_PROFILES ∧
      (∃ t, tcpstatsProfilesDestroyAll s = some t) ∧
      (∀ prof ∈ s.profiles, ∃ d ∈ s.devices, prof.dev = some d.num ∧ d.name = prof.name.str) ∧
      (∀ prof ∈ s.profiles, Stored ws prof) ∧
      (∀ prof ∈ s.profiles, tsfParseFilterString prof.filterStr.str = .ok prof.filter) ∧
      ∀ w e, (profileWrite w s).1 = some e →
        (profileWrite w s).2.profiles = s.profiles ∧ (profileWrite w s).2.nprofiles = s.nprofiles ∧
          (profileWrite w s).2.devices = s.devices := by
  intro s
  have hv : s.Valid := final_valid ws
  obtain ⟨t, hall, -⟩ := destroyAll_valid hv
  refine ⟨hv.count, hv.limit, ⟨t, hall⟩, fun prof hprof => hv.node hprof, final_stored ws, ?_, ?_⟩
  · exact fun prof hprof => (final_stored ws prof hprof).parsed
  · intro w e he
    obtain ⟨lastError, hs⟩ := profileWrite_failed he
    rw [hs]
    exact ⟨rfl, rfl, rfl⟩

end TcpStats
