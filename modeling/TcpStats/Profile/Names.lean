import TcpStats.Profile.Invariant

/-!
# The store as a map of names

`tsf_validate_profile_name` accepts names of up to 32 characters, and the buffer that keeps
a profile's name has room for 31 of them: a name of 32 is cut when its profile is created,
and `tcpstats_profile_find`, which compares whole strings, does not find it again.
`MapLaw` is what a map of full names would do at a write; the store does it at every write
exactly if no write of a sequence creates a profile under a name of 32 characters
(`map_law_iff`).
-/

namespace TcpStats

open CString Machine

/-! ### Looking a name up -/

variable {profiles : List TcpstatsProfile} {name other filterStr : CStr} {filter : TcpstatsFilter}
  {prof : TcpstatsProfile}

/-- The names of the listed profiles. -/
def names (profiles : List TcpstatsProfile) : List CStr := profiles.map (·.name.str)

theorem find_eq_none_iff : tcpstatsProfileFind profiles name = none ↔ name ∉ names profiles := by
  rw [tcpstatsProfileFind, List.find?_eq_none, names, List.mem_map]
  simp only [TcpstatsProfile.named, beq_iff_eq]
  constructor
  · rintro h ⟨p, hp, hname⟩
    exact h p hp hname
  · exact fun h p hp hname => h ⟨p, hp, hname⟩

/-- A name that does not fit is never found. -/
theorem find_long (h : 32 ≤ name.length) : tcpstatsProfileFind profiles name = none := by
  refine find_eq_none_iff.mpr fun hmem => ?_
  obtain ⟨p, -, rfl⟩ := List.mem_map.mp hmem
  exact absurd p.name.fits (not_lt.mpr h)

theorem find_cons_self (h : prof.name.str = name) :
    tcpstatsProfileFind (prof :: profiles) name = some prof :=
  List.find?_cons_of_pos (by simpa [TcpstatsProfile.named] using h)

theorem find_cons_other (h : prof.name.str ≠ name) :
    tcpstatsProfileFind (prof :: profiles) name = tcpstatsProfileFind profiles name :=
  List.find?_cons_of_neg (by simpa [TcpstatsProfile.named] using h)

/-- Taking the first profile of a name out does not change what another name finds. -/
theorem find_eraseP_other (h : other ≠ name) :
    tcpstatsProfileFind (profiles.eraseP (·.named name)) other = tcpstatsProfileFind profiles other := by
  induction profiles with
  | nil => rfl
  | cons p ps ih =>
    by_cases hp : p.named name = true
    · have hname : p.name.str = name := by simpa [TcpstatsProfile.named] using hp
      rw [List.eraseP_cons_of_pos hp, find_cons_other (by rw [hname]; exact h.symm)]
    · rw [List.eraseP_cons_of_neg hp]
      by_cases hother : p.name.str = other
      · rw [find_cons_self hother, find_cons_self hother]
      · rw [find_cons_other hother, find_cons_other hother, ih]

/-- Taking the only profile of a name out leaves none of that name. -/
theorem find_eraseP_self (h : (names profiles).Nodup) :
    tcpstatsProfileFind (profiles.eraseP (·.named name)) name = none := by
  induction profiles with
  | nil => rfl
  | cons p ps ih =>
    obtain ⟨hnot, hnodup⟩ := List.nodup_cons.mp h
    by_cases hp : p.named name = true
    · have hname : p.name.str = name := by simpa [TcpstatsProfile.named] using hp
      rw [List.eraseP_cons_of_pos hp]
      exact find_eq_none_iff.mpr (hname ▸ hnot)
    · have hname : p.name.str ≠ name := by simpa [TcpstatsProfile.named] using hp
      rw [List.eraseP_cons_of_neg hp, find_cons_other hname, ih hnodup]

/-- A change to the first profile of a name that keeps the name shows under that name only. -/
theorem find_modify {f : TcpstatsProfile → TcpstatsProfile} (hf : ∀ p, (f p).name = p.name) :
    tcpstatsProfileFind (profiles.modify (profiles.findIdx (·.named name)) f) other =
      if other = name then (tcpstatsProfileFind profiles name).map f
      else tcpstatsProfileFind profiles other := by
  induction profiles with
  | nil => simp [tcpstatsProfileFind]
  | cons p ps ih =>
    by_cases hp : p.named name = true
    · have hname : p.name.str = name := by simpa [TcpstatsProfile.named] using hp
      rw [List.findIdx_cons, hp]
      show tcpstatsProfileFind (f p :: ps) other = _
      split_ifs with hother
      · rw [find_cons_self (by rw [hf, hname, hother]), find_cons_self hname]
        rfl
      · have hne : p.name.str ≠ other := hname ▸ Ne.symm hother
        rw [find_cons_other (by rw [hf]; exact hne), find_cons_other hne]
    · have hname : p.name.str ≠ name := by simpa [TcpstatsProfile.named] using hp
      rw [List.findIdx_cons, (Bool.not_eq_true _).mp hp]
      show tcpstatsProfileFind (p :: ps.modify (ps.findIdx (·.named name)) f) other = _
      split_ifs with hother
      · rw [find_cons_other (by rw [hother]; exact hname), find_cons_other hname, ih, if_pos hother]
      · by_cases hpo : p.name.str = other
        · rw [find_cons_self hpo, find_cons_self hpo]
        · rw [find_cons_other hpo, find_cons_other hpo, ih, if_neg hother]

theorem find_update (s : ProfileStore) :
    tcpstatsProfileFind (s.update name filterStr filter).profiles other =
      if other = name then
        (tcpstatsProfileFind s.profiles name).map fun p => { p with filterStr := strlcpy 512 filterStr, filter }
      else tcpstatsProfileFind s.profiles other :=
  find_modify fun _ => rfl

theorem names_modify {f : TcpstatsProfile → TcpstatsProfile} (hf : ∀ p, (f p).name = p.name) (i : ℕ) :
    names (profiles.modify i f) = names profiles := by
  refine List.ext_getElem? fun j => ?_
  simp only [names, List.getElem?_map, List.getElem?_modify]
  rcases profiles[j]? with _ | p
  · rfl
  · by_cases hij : i = j
    · simp [hij, hf]
    · simp [hij]

theorem names_update (s : ProfileStore) :
    names (s.update name filterStr filter).profiles = names s.profiles :=
  names_modify (f := fun p => { p with filterStr := strlcpy 512 filterStr, filter }) (fun _ => rfl) _

/-! ### Requests -/

/-- The string a write of `profile_set` is taken for. -/
def setInput (delivered : List UInt8) : CStr :=
  trimNewline (inputString (TSF_PARSE_MAXLEN + TSF_PROFILE_NAME_MAX + 2) delivered)

variable {delivered : List UInt8}

theorem ValidName.blank_notMem (h : ValidName name) : chr ' ' ∉ name := h.notMem (by decide)

theorem profileSetRequest_bare (hname : ValidName name) (h : setInput delivered = name) :
    profileSetRequest delivered = .ok (.delete name) := by
  have hafter : after (chr ' ') (setInput delivered) = none := by
    rw [h]
    exact after_eq_none_iff.mpr hname.blank_notMem
  unfold setInput at h hafter
  simp only [profileSetRequest, hafter]
  rw [h, tsfValidateProfileName_ok.mpr hname]

theorem profileSetRequest_store (hname : ValidName name)
    (h : setInput delivered = name ++ chr ' ' :: filterStr) :
    profileSetRequest delivered =
      match tsfParseFilterString filterStr with
      | .error e => .error (.badFilter e)
      | .ok filter => .ok (.put name filterStr filter) := by
  have hafter : after (chr ' ') (setInput delivered) = some filterStr := by
    rw [h]
    exact after_append hname.blank_notMem filterStr
  have hbefore : before (chr ' ') (setInput delivered) = name := by
    rw [h]
    exact before_append hname.blank_notMem filterStr
  unfold setInput at hafter hbefore
  have hvalid := tsfValidateProfileName_ok.mpr hname
  rcases hparse : tsfParseFilterString filterStr with e | filter
  · simp only [profileSetRequest, hafter, hbefore, hvalid, hparse]
  · simp only [profileSetRequest, hafter, hbefore, hvalid, hparse]

/-- The text of a request to store. -/
theorem setInput_of_put (h : profileSetRequest delivered = .ok (.put name filterStr filter)) :
    ValidName name ∧ setInput delivered = name ++ chr ' ' :: filterStr := by
  rcases hafter : after (chr ' ') (setInput delivered) with _ | t
  · unfold setInput at hafter
    simp only [profileSetRequest, hafter] at h
    split at h
    · cases h
    · cases h
  · have hsplit := before_append_after hafter
    unfold setInput at hafter
    simp only [profileSetRequest, hafter] at h
    split at h
    · cases h
    · rename_i hvalid
      split at h
      · cases h
      · cases h
        exact ⟨tsfValidateProfileName_ok.mp hvalid, hsplit⟩

/-! ### The law -/

/-- The string of a write of `profile_set` whose bytes were copied in. -/
def ProfileWrite.setText : ProfileWrite → Option CStr
  | .profileSet (.ok delivered) _ => some (setInput delivered)
  | _ => none

/-- What a map of full names does at a write. -/
structure MapLaw (s : ProfileStore) (w : ProfileWrite) : Prop where
  /-- `name filter` that returns 0 maps the name to the filter. -/
  stored : ∀ name filterStr, tsfValidateProfileName name = .ok () →
    w.setText = some (name ++ chr ' ' :: filterStr) → (profileWrite w s).1 = none →
    ∃ prof, tcpstatsProfileFind (profileWrite w s).2.profiles name = some prof ∧
      tsfParseFilterString filterStr = .ok prof.filter
  /-- The bare name takes it out of the map, and its device away. -/
  removed : ∀ name, tsfValidateProfileName name = .ok () → w.setText = some name →
    tcpstatsProfileFind (profileWrite w s).2.profiles name = none ∧
      ∀ d ∈ (profileWrite w s).2.devices, d.name ≠ name
  /-- No two profiles have one name. -/
  distinct : (names (profileWrite w s).2.profiles).Nodup
  /-- No two names denote one profile. -/
  apart : ∀ name other prof, tcpstatsProfileFind (profileWrite w s).2.profiles name = some prof →
    tcpstatsProfileFind (profileWrite w s).2.profiles other = some prof → name = other
  /-- A write under one name leaves what the others denote. -/
  kept : ∀ req other, w.request = some req → req.name ≠ other →
    tcpstatsProfileFind (profileWrite w s).2.profiles other = tcpstatsProfileFind s.profiles other

/-- The write creates a profile under a name that does not fit: there is room for one more, and
there will be a device. -/
def CutsName (s : ProfileStore) (w : ProfileWrite) : Prop :=
  ∃ delivered name filterStr filter, w = .profileSet (.ok delivered) true ∧
    profileSetRequest delivered = .ok (.put name filterStr filter) ∧
    name.length = TSF_PROFILE_NAME_MAX ∧ s.nprofiles < TSF_MAX_PROFILES

variable {s : ProfileStore} {w : ProfileWrite}

/-- A write that stores under a name not there yet creates a profile. -/
theorem ProfileWrite.creates (hreq : w.request = some (.put name filterStr filter))
    (hfind : tcpstatsProfileFind s.profiles name = none) (hok : (profileWrite w s).1 = none) :
    s.nprofiles < TSF_MAX_PROFILES ∧ ∃ delivered, w = .profileSet (.ok delivered) true ∧
      profileSetRequest delivered = .ok (.put name filterStr filter) := by
  have hnone : ¬ (tcpstatsProfileFind s.clearError.profiles name).isSome = true := by
    rw [show s.clearError.profiles = s.profiles from rfl, hfind]
    decide
  rcases w with ⟨e | delivered, makeDev⟩ | ⟨name', e | delivered⟩
  · cases hreq
  · have hr : profileSetRequest delivered = .ok (.put name filterStr filter) := toOption_eq_some.mp hreq
    simp only [profileWrite, tcpstatsProfileSetHandler, hr] at hok
    rw [if_neg hnone] at hok
    split_ifs at hok with hroom
    · cases hok
    · cases makeDev with
      | false => cases hok
      | true => exact ⟨not_le.mp hroom, delivered, rfl, hr⟩
  · cases hreq
  · have hr : profileRequest name' delivered = .ok (.put name filterStr filter) := toOption_eq_some.mp hreq
    simp only [profileWrite, tcpstatsProfileSysctlHandler, hr] at hok
    rw [if_neg hnone] at hok
    cases hok

/-- The name of a new profile is kept whole, unless the write cuts it. -/
theorem stored_name (h : ¬ CutsName s w) (hreq : w.request = some (.put name filterStr filter))
    (hfind : tcpstatsProfileFind s.profiles name = none) (hok : (profileWrite w s).1 = none) :
    (strlcpy 32 name).str = name := by
  obtain ⟨hroom, delivered, hw, hset⟩ := ProfileWrite.creates hreq hfind hok
  obtain ⟨hvalid, -⟩ := setInput_of_put hset
  have hne : name.length ≠ TSF_PROFILE_NAME_MAX :=
    fun hlen => h ⟨delivered, name, filterStr, filter, hw, hset, hlen, hroom⟩
  have hlen := hvalid.length
  have hmax : TSF_PROFILE_NAME_MAX = 32 := rfl
  exact strlcpy_str (by omega) (hvalid.notMem (by decide))

/-- A write that cuts no name keeps the names apart, and what other names denote. -/
theorem keeps_names (h : ¬ CutsName s w) (hdistinct : (names s.profiles).Nodup) :
    (names (profileWrite w s).2.profiles).Nodup ∧
      ∀ req other, w.request = some req → req.name ≠ other →
        tcpstatsProfileFind (profileWrite w s).2.profiles other = tcpstatsProfileFind s.profiles other := by
  have hw := profileWrite_written w s
  generalize hr : profileWrite w s = r at hw ⊢
  cases hw with
  | failed e lastError => exact ⟨hdistinct, fun _ _ _ _ => rfl⟩
  | absent name _ _ => exact ⟨hdistinct, fun _ _ _ _ => rfl⟩
  | deleted name prof hreq _ =>
    rw [destroyUnlocked_profiles, ProfileStore.detach]
    refine ⟨hdistinct.sublist (List.eraseP_sublist.map _), ?_⟩
    intro req other hreq' hother
    obtain rfl := Option.some.inj (hreq.symm.trans hreq')
    exact find_eraseP_other hother.symm
  | updated name filterStr filter prof hreq _ =>
    refine ⟨?_, ?_⟩
    · rw [names_update]
      exact hdistinct
    · intro req other hreq' hother
      obtain rfl := Option.some.inj (hreq.symm.trans hreq')
      exact (find_update s.clearError).trans (if_neg hother.symm)
  | created name filterStr filter hreq hfind _ =>
    have hname : (strlcpy 32 name).str = name := stored_name h hreq hfind (by rw [hr])
    refine ⟨?_, ?_⟩
    · refine List.nodup_cons.mpr ⟨?_, hdistinct⟩
      show (strlcpy 32 name).str ∉ names s.profiles
      rw [hname]
      exact find_eq_none_iff.mp hfind
    · intro req other hreq' hother
      obtain rfl := Option.some.inj (hreq.symm.trans hreq')
      exact find_cons_other (by rw [newProfile, hname]; exact hother)

/-- A filter that is stored is found. -/
theorem stored_found (h : ¬ CutsName s w) (hreq : w.request = some (.put name filterStr filter))
    (hok : (profileWrite w s).1 = none) :
    ∃ prof, tcpstatsProfileFind (profileWrite w s).2.profiles name = some prof ∧ prof.filter = filter := by
  have hw := profileWrite_written w s
  generalize hr : profileWrite w s = r at hw hok ⊢
  cases hw with
  | failed e lastError => cases hok
  | absent name' hreq' _ => cases hreq.symm.trans hreq'
  | deleted name' prof hreq' _ => cases hreq.symm.trans hreq'
  | updated name' filterStr' filter' prof hreq' hfind =>
    cases hreq.symm.trans hreq'
    refine ⟨{ prof with filterStr := strlcpy 512 filterStr, filter }, ?_, rfl⟩
    rw [find_update, if_pos rfl, show s.clearError.profiles = s.profiles from rfl, hfind]
    rfl
  | created name' filterStr' filter' hreq' hfind _ =>
    cases hreq.symm.trans hreq'
    have hname : (strlcpy 32 name).str = name := stored_name h hreq hfind (by rw [hr])
    exact ⟨newProfile name filterStr filter s.nextDev, find_cons_self hname, rfl⟩

/-- Every node has a profile of its name. -/
theorem ProfileStore.Valid.profile (h : s.Valid) {d : Cdev} (hd : d ∈ s.devices) :
    d.name ∈ names s.profiles := by
  have hmem : some d ∈ s.profiles.map TcpstatsProfile.node := by
    rw [h.nodes]
    exact List.mem_map_of_mem hd
  obtain ⟨prof, hprof, hnode⟩ := List.mem_map.mp hmem
  obtain ⟨num, -, rfl⟩ := Option.map_eq_some_iff.mp hnode
  exact List.mem_map.mpr ⟨prof, hprof, rfl⟩

/-- A deleted name is not found, and has no node. -/
theorem removed_gone (hvalid : s.Valid) (hdistinct : (names s.profiles).Nodup)
    (hreq : w.request = some (.delete name)) :
    tcpstatsProfileFind (profileWrite w s).2.profiles name = none ∧
      ∀ d ∈ (profileWrite w s).2.devices, d.name ≠ name := by
  have hnone : tcpstatsProfileFind (profileWrite w s).2.profiles name = none := by
    rw [profileWrite_delete hreq, ProfileStore.remove]
    rcases hfind : tcpstatsProfileFind s.profiles name with _ | prof
    · exact hfind
    · rw [destroyUnlocked_profiles, ProfileStore.detach]
      exact find_eraseP_self hdistinct
  have hvalid' := (profileWrite_written w s).valid hvalid
  refine ⟨hnone, fun d hd hname => ?_⟩
  exact find_eq_none_iff.mp hnone (hname ▸ hvalid'.profile hd)

/-- The law holds of a write that cuts no name. -/
theorem MapLaw.of_uncut (hvalid : s.Valid) (hdistinct : (names s.profiles).Nodup) (h : ¬ CutsName s w) :
    MapLaw s w where
  stored name filterStr hname htext hok := by
    rcases w with ⟨e | delivered, makeDev⟩ | ⟨name', e | delivered⟩
    · cases htext
    · have hreq := profileSetRequest_store (tsfValidateProfileName_ok.mp hname) (Option.some.inj htext)
      rcases hparse : tsfParseFilterString filterStr with e | filter
      · rw [hparse] at hreq
        simp only [profileWrite, tcpstatsProfileSetHandler, hreq] at hok
        cases hok
      · rw [hparse] at hreq
        obtain ⟨prof, hfind, rfl⟩ := stored_found h (toOption_eq_some.mpr hreq) hok
        exact ⟨prof, hfind, rfl⟩
    · cases htext
    · cases htext
  removed name hname htext := by
    rcases w with ⟨e | delivered, makeDev⟩ | ⟨name', e | delivered⟩
    · cases htext
    · have hreq := profileSetRequest_bare (tsfValidateProfileName_ok.mp hname) (Option.some.inj htext)
      exact removed_gone hvalid hdistinct (toOption_eq_some.mpr hreq)
    · cases htext
    · cases htext
  distinct := (keeps_names h hdistinct).1
  apart name other prof hname hother := (named_of_find hname).2.symm.trans (named_of_find hother).2
  kept := (keeps_names h hdistinct).2

/-- A write that cuts a name returns 0, and what it stored is not found. -/
theorem CutsName.not_mapLaw (h : CutsName s w) : ¬ MapLaw s w := by
  rintro hlaw
  obtain ⟨delivered, name, filterStr, filter, rfl, hset, hlen, hroom⟩ := h
  obtain ⟨hname, htext⟩ := setInput_of_put hset
  have hlong : 32 ≤ name.length := hlen.ge
  have hok : (profileWrite (.profileSet (.ok delivered) true) s).1 = none := by
    have hfull : ¬ s.clearError.nprofiles ≥ TSF_MAX_PROFILES := not_le.mpr hroom
    simp only [profileWrite, tcpstatsProfileSetHandler, hset]
    rw [find_long hlong, if_neg (by decide), if_neg hfull]
    rfl
  obtain ⟨prof, hfind, -⟩ := hlaw.stored name filterStr (tsfValidateProfileName_ok.mpr hname)
    (congrArg some htext) hok
  rw [find_long hlong] at hfind
  cases hfind

/-! ### Runs of writes -/

/-- The names stay apart as long as no write cuts one. -/
theorem final_names {ws : List ProfileWrite}
    (h : ∀ pre w, pre ++ [w] <+: ws → ¬ CutsName (final profileWrite pre .init) w) :
    (names (final profileWrite ws .init).profiles).Nodup := by
  induction ws using List.reverseRecOn with
  | nil => exact List.nodup_nil
  | append_singleton ws w ih =>
    rw [final_snoc]
    have hpre : (names (final profileWrite ws .init).profiles).Nodup :=
      ih fun pre w' hpre => h pre w' (hpre.trans (List.prefix_append ws [w]))
    exact (keeps_names (h ws w (List.prefix_refl _)) hpre).1

/-- Over any sequence of writes, the store is a map of full names at every one of them exactly if
none of them creates a profile under a name of 32 characters. -/
theorem map_law_iff (ws : List ProfileWrite) :
    (∀ pre w, pre ++ [w] <+: ws → MapLaw (final profileWrite pre .init) w) ↔
      ∀ pre w, pre ++ [w] <+: ws → ¬ CutsName (final profileWrite pre .init) w := by
  constructor
  · intro hlaw pre w hpre hcut
    exact hcut.not_mapLaw (hlaw pre w hpre)
  · intro h pre w hpre
    refine .of_uncut (final_valid pre) (final_names fun pre' w' hpre' => ?_) (h pre w hpre)
    exact h pre' w' (hpre'.trans ((List.prefix_append pre [w]).trans hpre))

/-- A name of 32 characters. -/
def longName : CStr := List.replicate 32 (chr 'a')

/-- `longName` and no filter directive, written once. -/
def writeLong : ProfileWrite := .profileSet (.ok (longName ++ [chr ' '])) true

/-- The name is accepted and two writes under it return 0, the filter is not found, and there are
two profiles, both of the name that is one character shorter. -/
theorem long_name_cut :
    ¬ (∀ pre w, pre ++ [w] <+: [writeLong, writeLong] → MapLaw (final profileWrite pre .init) w) ∧
      tsfValidateProfileName longName = .ok () ∧
      (profileWrite writeLong .init).1 = none ∧
      tcpstatsProfileFind (profileWrite writeLong .init).2.profiles longName = none ∧
      names (final profileWrite [writeLong, writeLong] .init).profiles =
        [List.replicate 31 (chr 'a'), List.replicate 31 (chr 'a')] := by
  have hname : tsfValidateProfileName longName = .ok () := by decide
  have hok : (profileWrite writeLong .init).1 = none := by decide +kernel
  have hnone : tcpstatsProfileFind (profileWrite writeLong .init).2.profiles longName = none :=
    find_long (by decide)
  refine ⟨fun hlaw => ?_, hname, hok, hnone, by decide +kernel⟩
  have hfirst := hlaw [] writeLong (by exact ⟨[writeLong], rfl⟩)
  obtain ⟨prof, hfind, -⟩ := hfirst.stored longName [] hname (by decide) hok
  exact nomatch hnone.symm.trans hfind

end TcpStats
