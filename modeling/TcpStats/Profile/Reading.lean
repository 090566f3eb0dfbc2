import TcpStats.Device.Callers
import TcpStats.Device.Session
import TcpStats.Profile.CopyIn

/-!
# Reading through a profile

The whole module at work, one call at a time: writes of profiles, opens of the devices, and calls on the open descriptors. What
is read through the device of a profile is read under the filter whose text was stored last under the name of the profile
before the open. What happens to this and to other profiles afterwards makes no difference, as long as the profile is not
deleted; nor does what is done to other descriptors (`profile_session`).
-/

namespace TcpStats

open CString Machine

variable {Fd Cred : Type} [DecidableEq Fd]

/-! ### The module -/

/-- An open descriptor, with the node of the profile through which it was opened. -/
structure Descriptor (Cred : Type) where
  node : Option ℕ
  sc : Softc Cred

/-- The profiles, the open descriptors and the counters. -/
structure KmodState (Fd Cred : Type) where
  store : ProfileStore
  fds : Fd → Option (Descriptor Cred)
  glob : Globals

/-- What can be asked of the module. -/
inductive KmodCall (Fd Cred : Type) where
  | write (w : ProfileWrite)
  /-- An open of one of the static devices, or of a profile by its name; with the error of the limit or of
  `devfs_set_cdevpriv`, if there is one. -/
  | openFd (fd : Fd) (via : StaticDev ⊕ CStr) (fwrite : Bool) (cred : Cred) (refusal : Option Errno)
  | call (fd : Fd) (c : Call Cred)
  | close (fd : Fd)

/-- What comes back: an error, if there is one, or what a call on a descriptor returns. -/
inductive KmodAnswer where
  | code (e : Option Errno)
  | answer (a : Answer)
  deriving DecidableEq

/-- The node of the name, and the profile that it belongs to. -/
def ProfileStore.profileAt (s : ProfileStore) (name : CStr) : Option (ℕ × TcpstatsProfile) :=
  match s.devices.find? (·.name = name) with
  | none => none
  | some d => (s.profiles.find? (·.dev = some d.num)).map fun prof => (d.num, prof)

/-- What an open is of. -/
def KmodState.resolve (s : KmodState Fd Cred) : StaticDev ⊕ CStr → Option (Option ℕ × OpenVia)
  | .inl dev => some (none, .static dev)
  | .inr name => (s.store.profileAt name).map fun p => (some p.1, .profile p.2.filter)

/-- A descriptor is gone when its node is: `destroy_dev` runs the destructors of the descriptors of a device. -/
def Descriptor.remains (store : ProfileStore) (d : Descriptor Cred) : Bool :=
  d.node.all fun num => num ∈ store.devices.map Cdev.num

open Errno ( ENXIO) in
/-- A call, from beginning to end. -/
def kmodStep (r : KmodCall Fd Cred) (s : KmodState Fd Cred) : KmodAnswer × KmodState Fd Cred :=
  match r with
  | .write w =>
    let (e, store) := profileWrite w s.store
    (.code e, { s with store, fds := fun fd => (s.fds fd).filter (Descriptor.remains store) })
  | .openFd fd via fwrite cred refusal =>
    match s.resolve via with
    | none => (.code (some .ENOENT), s)
    | some (node, via) =>
      if fwrite then (.code (some .EPERM), s)
      else match refusal with
        | some e => (.code (some e), s)
        | none => (.code none, { s with fds := Function.update s.fds fd (some ⟨node, via.softc cred⟩) })
  | .call fd c =>
    match s.fds fd with
    | none => (.code (some ENXIO), s)
    | some d =>
      let (a, sc, glob) := callStep c (d.sc, s.glob)
      (.answer a, { s with fds := Function.update s.fds fd (some { d with sc }), glob })
  | .close fd => (.code none, { s with fds := Function.update s.fds fd none })

/-- The writes among some requests. -/
def writesOf (rs : List (KmodCall Fd Cred)) : List ProfileWrite :=
  rs.filterMap fun
    | .write w => some w
    | _ => none

/-- The calls on a descriptor among some requests. -/
def callsTo (fd : Fd) (rs : List (KmodCall Fd Cred)) : List (Call Cred) :=
  rs.filterMap fun
    | .call fd' c => if fd' = fd then some c else none
    | _ => none

/-- What a call on a descriptor returns. -/
def answerTo (fd : Fd) : KmodCall Fd Cred × KmodAnswer → Option Answer
  | (.call fd' _, .answer a) => if fd' = fd then some a else none
  | _ => none

/-- What the calls on a descriptor return. -/
def answersTo (fd : Fd) (rs : List (KmodCall Fd Cred)) (s : KmodState Fd Cred) : List Answer :=
  (rs.zip (answers kmodStep rs s)).filterMap (answerTo fd)

/-! ### The text that was stored last -/

/-- The text under a name after a write that succeeds. -/
def ProfileWrite.textAfter (w : ProfileWrite) (name : CStr) (text : Option CStr) : Option CStr :=
  match w.request with
  | some (.put name' filterStr _) => if name' = name then some filterStr else text
  | some (.delete name') => if name' = name then none else text
  | none => text

/-- The text under a name after some writes, by those that returned 0. -/
def lastText (name : CStr) : List ProfileWrite → ProfileStore → Option CStr → Option CStr
  | [], _, text => text
  | w :: ws, s, text =>
    lastText name ws (profileWrite w s).2 (if (profileWrite w s).1 = none then w.textAfter name text else text)

theorem lastText_snoc (name : CStr) (ws : List ProfileWrite) (w : ProfileWrite) (s : ProfileStore) (text : Option CStr) :
    lastText name (ws ++ [w]) s text =
      if (profileWrite w (final profileWrite ws s)).1 = none then w.textAfter name (lastText name ws s text)
      else lastText name ws s text := by
  induction ws generalizing s text with
  | nil => rfl
  | cons w' ws ih => exact ih _ _

/-- The write changes what is found under a name as it says. -/
theorem find_textAfter {s : ProfileStore} {w : ProfileWrite} (hdistinct : (names s.profiles).Nodup) (h : ¬ CutsName s w)
    (name : CStr) : (tcpstatsProfileFind (profileWrite w s).2.profiles name).map (·.filterStr.str) =
      if (profileWrite w s).1 = none then w.textAfter name ((tcpstatsProfileFind s.profiles name).map (·.filterStr.str))
      else (tcpstatsProfileFind s.profiles name).map (·.filterStr.str) := by
  have hw := profileWrite_written w s
  generalize hr : profileWrite w s = r at hw ⊢
  cases hw with
  | failed e lastError => rfl
  | absent name' hreq hfind =>
    rw [if_pos rfl, ProfileWrite.textAfter, hreq]
    dsimp only
    split_ifs with hname
    · rw [← hname, hfind]
      rfl
    · rfl
  | deleted name' prof hreq _ =>
    rw [if_pos rfl, ProfileWrite.textAfter, hreq, destroyUnlocked_profiles, ProfileStore.detach]
    dsimp only
    split_ifs with hname
    · rw [← hname, find_eraseP_self hdistinct]
      rfl
    · rw [find_eraseP_other (Ne.symm hname)]
  | updated name' filterStr filter prof hreq hfind =>
    rw [if_pos rfl, ProfileWrite.textAfter, hreq, find_update]
    dsimp only
    split_ifs with hname hname' hname'
    · rw [show s.clearError.profiles = s.profiles from rfl, hfind]
      exact congrArg some (ProfileWrite.request_put hreq).stored
    · exact absurd hname.symm hname'
    · exact absurd hname'.symm hname
    · rfl
  | created name' filterStr filter hreq hfind _ =>
    have hkept : (strlcpy 32 name').str = name' := stored_name h hreq hfind (by rw [hr])
    rw [if_pos rfl, ProfileWrite.textAfter, hreq]
    dsimp only
    split_ifs with hname
    · rw [find_cons_self (hkept.trans hname)]
      exact congrArg some (ProfileWrite.request_put hreq).stored
    · rw [find_cons_other fun heq => hname (hkept.symm.trans heq)]

/-- What is found under a name is the text that was stored last. -/
theorem find_lastText {ws : List ProfileWrite} (h : ∀ pre w, pre ++ [w] <+: ws → ¬ CutsName (final profileWrite pre .init) w)
    (name : CStr) : (tcpstatsProfileFind (final profileWrite ws .init).profiles name).map (·.filterStr.str) =
      lastText name ws .init none := by
  induction ws using List.reverseRecOn with
  | nil => rfl
  | append_singleton ws w ih =>
    have hpre : ∀ pre w', pre ++ [w'] <+: ws → ¬ CutsName (final profileWrite pre .init) w' :=
      fun pre w' hp => h pre w' (hp.trans (List.prefix_append ws [w]))
    rw [final_snoc, lastText_snoc, find_textAfter (final_names hpre) (h ws w (List.prefix_refl _)), ih hpre]

/-! ### The node of an open descriptor -/

/-- The node of a name is that of the profile that is found under it. -/
theorem profileAt_find {s : ProfileStore} (hvalid : s.Valid) (hdistinct : (names s.profiles).Nodup) {name : CStr} {num : ℕ}
    {prof : TcpstatsProfile} (h : s.profileAt name = some (num, prof)) :
    tcpstatsProfileFind s.profiles name = some prof ∧ ⟨num, name⟩ ∈ s.devices := by
  unfold ProfileStore.profileAt at h
  rcases hd : s.devices.find? (·.name = name) with _ | d <;> rw [hd] at h
  · cases h
  · obtain ⟨prof', hprof, heq⟩ := Option.map_eq_some_iff.mp h
    cases heq
    have hmem := List.mem_of_find?_eq_some hd
    have hdname : d.name = name := by simpa using List.find?_some hd
    have hlisted := List.mem_of_find?_eq_some hprof
    have hdev : prof.dev = some d.num := by simpa using List.find?_some hprof
    obtain ⟨d', hd', hnum, hname⟩ := hvalid.node hlisted
    have hsame : d' = d :=
      List.inj_on_of_nodup_map hvalid.distinct hd' hmem (Option.some.inj (hnum.symm.trans hdev))
    rw [hsame, hdname] at hname
    refine ⟨?_, hdname ▸ hmem⟩
    rcases hfind : tcpstatsProfileFind s.profiles name with _ | found
    · exact absurd (List.mem_map.mpr ⟨prof, hlisted, hname.symm⟩) (find_eq_none_iff.mp hfind)
    · obtain ⟨hfound, hfoundName⟩ := named_of_find hfind
      exact congrArg some (List.inj_on_of_nodup_map hdistinct hfound hlisted (hfoundName.trans hname))

/-- A node goes away only with its profile. -/
theorem mem_devices_of_not_delete {s : ProfileStore} (hvalid : s.Valid) {d : Cdev} (hd : d ∈ s.devices) {w : ProfileWrite}
    (h : w.request ≠ some (.delete d.name)) : d ∈ (profileWrite w s).2.devices := by
  have hw := profileWrite_written w s
  generalize profileWrite w s = r at hw ⊢
  cases hw with
  | failed e lastError => exact hd
  | absent name _ _ => exact hd
  | updated name filterStr filter prof _ _ => exact hd
  | created name filterStr filter _ _ _ => exact List.mem_cons_of_mem _ hd
  | deleted name prof hreq hfind =>
    obtain ⟨hprof, hname⟩ := named_of_find hfind
    rw [destroyUnlocked_devices]
    refine List.mem_filter.mpr ⟨hd, decide_eq_true fun hdev => h ?_⟩
    obtain ⟨d', hd', hnum, hname'⟩ := hvalid.node hprof
    have hsame : d' = d :=
      List.inj_on_of_nodup_map hvalid.distinct hd' hd (Option.some.inj (hnum.symm.trans hdev))
    rw [hreq, ← hsame, hname', hname]

/-! ### Requests -/

theorem final_store (rs : List (KmodCall Fd Cred)) (s : KmodState Fd Cred) :
    (final kmodStep rs s).store = final profileWrite (writesOf rs) s.store := by
  induction rs generalizing s with
  | nil => rfl
  | cons r rs ih =>
    refine (ih (kmodStep r s).2).trans ?_
    cases r with
    | write w => rfl
    | openFd fd via fwrite cred refusal =>
      have hstore : (kmodStep (.openFd fd via fwrite cred refusal) s).2.store = s.store := by
        simp only [kmodStep]
        split
        · rfl
        · split_ifs
          · rfl
          · split <;> rfl
      rw [hstore]
      rfl
    | call fd c =>
      have hstore : (kmodStep (.call fd c) s).2.store = s.store := by
        simp only [kmodStep]
        split <;> rfl
      rw [hstore]
      rfl
    | close fd => rfl

/-- The request leaves a descriptor of the profile `name` open: it does not close it, nor open it anew, nor delete the
profile. -/
def KmodCall.Spares (fd : Fd) (name : CStr) : KmodCall Fd Cred → Prop
  | .write w => w.request ≠ some (.delete name)
  | .openFd fd' .. => fd' ≠ fd
  | .call .. => True
  | .close fd' => fd' ≠ fd

/-- The descriptor is open, and the node of the profile `name` is there. -/
structure OpenAt (fd : Fd) (name : CStr) (num : ℕ) (sc : Softc Cred) (readers : UInt32) (s : KmodState Fd Cred) : Prop where
  valid : s.store.Valid
  node : ⟨num, name⟩ ∈ s.store.devices
  fd : s.fds fd = some ⟨some num, sc⟩
  readers : s.glob.activeReaders = readers

section

variable {fd : Fd} {name : CStr} {num : ℕ} {sc : Softc Cred} {g : Globals} {s : KmodState Fd Cred}

/-- A call on the descriptor is answered from its own state. -/
theorem OpenAt.call (h : OpenAt fd name num sc g.activeReaders s) (c : Call Cred) :
    (kmodStep (.call fd c) s).1 = .answer (callStep c (sc, g)).1 ∧
      OpenAt fd name num (callStep c (sc, g)).2.1 (callStep c (sc, g)).2.2.activeReaders (kmodStep (.call fd c) s).2 := by
  obtain ⟨hanswer, hsc⟩ := callStep_congr c sc h.readers
  have hreaders := callStep_activeReaders c sc g
  have hreaders' := callStep_activeReaders c sc s.glob
  simp only [kmodStep, h.fd]
  refine ⟨congrArg KmodAnswer.answer hanswer, h.valid, h.node, ?_, ?_⟩
  · exact (Function.update_self ..).trans (by rw [hsc])
  · exact hreaders'.symm.trans (h.readers.trans hreaders)

/-- Whatever else is asked leaves it as it is. -/
theorem OpenAt.other (h : OpenAt fd name num sc g.activeReaders s) {r : KmodCall Fd Cred} (hspares : r.Spares fd name)
    (hcall : ∀ c, r ≠ .call fd c) : OpenAt fd name num sc g.activeReaders (kmodStep r s).2 := by
  cases r with
  | write w =>
    have hnode := mem_devices_of_not_delete h.valid h.node hspares
    refine ⟨(profileWrite_written w s.store).valid h.valid, hnode, ?_, h.readers⟩
    have hremains : Descriptor.remains (profileWrite w s.store).2 ⟨some num, sc⟩ = true :=
      decide_eq_true (List.mem_map_of_mem hnode)
    simp only [kmodStep, h.fd, Option.filter_some, hremains, if_true]
  | openFd fd' via fwrite cred refusal =>
    simp only [kmodStep]
    split
    · exact h
    · split_ifs
      · exact h
      · split
        · exact h
        · exact ⟨h.valid, h.node, (Function.update_of_ne (Ne.symm hspares) _ _).trans h.fd, h.readers⟩
  | call fd' c =>
    have hne : fd ≠ fd' := by
      rintro rfl
      exact hcall c rfl
    simp only [kmodStep]
    split
    · exact h
    · refine ⟨h.valid, h.node, (Function.update_of_ne hne _ _).trans h.fd, ?_⟩
      exact (callStep_activeReaders c _ s.glob).symm.trans h.readers
  | close fd' => exact ⟨h.valid, h.node, (Function.update_of_ne (Ne.symm hspares) _ _).trans h.fd, h.readers⟩

theorem answersTo_cons (fd : Fd) (r : KmodCall Fd Cred) (rs : List (KmodCall Fd Cred)) (s : KmodState Fd Cred) :
    answersTo fd (r :: rs) s = (answerTo fd (r, (kmodStep r s).1)).toList ++ answersTo fd rs (kmodStep r s).2 := by
  rw [answersTo, answers, List.zip_cons_cons, List.filterMap_cons]
  cases answerTo fd (r, (kmodStep r s).1) <;> rfl

/-- As long as nothing closes it, a descriptor answers as if there were nothing but the calls on it. -/
theorem OpenAt.answersTo (h : OpenAt fd name num sc g.activeReaders s) {rs : List (KmodCall Fd Cred)}
    (hspares : ∀ r ∈ rs, r.Spares fd name) : answersTo fd rs s = answers callStep (callsTo fd rs) (sc, g) := by
  induction rs generalizing s sc g with
  | nil => rfl
  | cons r rs ih =>
    obtain ⟨hr, hrs⟩ := List.forall_mem_cons.mp hspares
    rw [answersTo_cons]
    by_cases hcall : ∃ c, r = .call fd c
    · obtain ⟨c, rfl⟩ := hcall
      obtain ⟨hanswer, hnext⟩ := h.call c
      have hcalls : callsTo fd (.call fd c :: rs) = c :: callsTo fd rs :=
        List.filterMap_cons_some (if_pos rfl)
      rw [hanswer, ih hnext hrs, hcalls, answers, answerTo, if_pos rfl]
      rfl
    · have hother : ∀ c, r ≠ .call fd c := fun c hc => hcall ⟨c, hc⟩
      have hcalls : callsTo fd (r :: rs) = callsTo fd rs := by
        refine List.filterMap_cons_none ?_
        cases r with
        | call fd' c =>
          refine if_neg ?_
          rintro rfl
          exact hother c rfl
        | _ => rfl
      have hnone : answerTo fd (r, (kmodStep r s).1) = none := by
        cases r with
        | call fd' c =>
          have hne : fd' ≠ fd := by
            rintro rfl
            exact hother c rfl
          rcases (kmodStep (.call fd' c) s).1 with e | a
          · rfl
          · exact if_neg hne
        | _ => rfl
      rw [hnone, ih (h.other hr hother) hrs, hcalls]
      rfl

end

/-- What a process reads through the device of a profile, after anything that has been asked of the module before and whatever
is asked of it in between, is what it would read by itself under the filter of the text that was stored last under the name of
the profile before the open. -/
theorem profile_session (before after : List (KmodCall Fd Cred)) (fd : Fd) (name : CStr) (cred : Cred) (fds : Fd → Option (Descriptor Cred))
    (glob : Globals)
    (huncut : ∀ pre w, pre ++ [w] <+: writesOf before → ¬ CutsName (final profileWrite pre .init) w)
    (hopen : (kmodStep (.openFd fd (.inr name) false cred none) (final kmodStep before ⟨.init, fds, glob⟩)).1 = .code none)
    (hafter : ∀ r ∈ after, r.Spares fd name) :
    ∃ text filter, lastText name (writesOf before) .init none = some text ∧ tsfParseFilterString text = .ok filter ∧
      answersTo fd after
          (kmodStep (.openFd fd (.inr name) false cred none) (final kmodStep before ⟨.init, fds, glob⟩)).2 =
        answers callStep (callsTo fd after)
          ((OpenVia.profile filter).softc cred, (final kmodStep before ⟨.init, fds, glob⟩).glob) := by
  obtain ⟨s, hs⟩ : ∃ s, final kmodStep before ⟨.init, fds, glob⟩ = s := ⟨_, rfl⟩
  have hstore : s.store = final profileWrite (writesOf before) .init := by rw [← hs, final_store]
  have hvalid : s.store.Valid := hstore ▸ final_valid _
  have hdistinct : (names s.store.profiles).Nodup := hstore ▸ final_names huncut
  rw [hs] at hopen ⊢
  rcases hat : s.store.profileAt name with _ | ⟨num, prof⟩
  · simp [kmodStep, KmodState.resolve, hat] at hopen
  obtain ⟨hfind, hnode⟩ := profileAt_find hvalid hdistinct hat
  have htext : lastText name (writesOf before) .init none = some prof.filterStr.str := by
    rw [← find_lastText huncut, ← hstore, hfind]
    rfl
  have hparsed : tsfParseFilterString prof.filterStr.str = .ok prof.filter :=
    (final_stored _ prof (hstore ▸ (named_of_find hfind).1)).parsed
  suffices hat' : OpenAt fd name num _ _ _ from ⟨_, _, htext, hparsed, hat'.answersTo hafter⟩
  have hresolve : s.resolve (.inr name) = some (some num, .profile prof.filter) := by
    rw [KmodState.resolve, hat]
    rfl
  simp only [kmodStep, hresolve, Bool.false_eq_true, if_false]
  exact ⟨hvalid, hnode, Function.update_self .., rfl⟩

/-- A text with as many NULs behind it as the handler of `profile_set` asks for. -/
def Sample.padded (text : String) : List UInt8 :=
  cstr text ++ List.replicate (setInputSize - 1 - (cstr text).length) 0

/-- A write of `profile_set`. -/
def Sample.write (text : String) : KmodCall ℕ ℕ := .write (writeProfileSet (padded text) true)

/-- Two profiles are made. -/
def Sample.made : List (KmodCall ℕ ℕ) := [write "ssh local_port=22", write "web local_port=443"]

/-- One of them is changed and the other deleted, around a call on a descriptor. -/
def Sample.changed : List (KmodCall ℕ ℕ) :=
  [write "web local_port=80", .call 3 (.read ⟨kern, .default, two⟩ 640 still), write "ssh"]

theorem profile_session_web : ∃ filter, tsfParseFilterString (cstr "local_port=443") = .ok filter ∧
    answersTo 3 Sample.changed
        (kmodStep (.openFd 3 (.inr (cstr "web")) false 0 none) (final kmodStep Sample.made ⟨.init, fun _ => none, Sample.glob⟩)).2 =
      answers callStep (callsTo 3 Sample.changed)
        ((OpenVia.profile filter).softc 0, (final kmodStep Sample.made ⟨.init, fun _ => none, Sample.glob⟩).glob) := by
  have hshort : ∀ w ∈ writesOf Sample.made, ∀ delivered, w = .profileSet (.ok delivered) true →
      (setInput delivered).length ≤ 32 := by
    have hcopied : ∀ text ∈ ["ssh local_port=22", "web local_port=443"],
        sysctlIn (Sample.padded text) (setInputSize - 1) = .ok (Sample.padded text) := by
      decide +kernel
    have hbytes : ∀ text ∈ ["ssh local_port=22", "web local_port=443"], (setInput (Sample.padded text)).length ≤ 32 := by
      decide +kernel
    intro w hw delivered heq
    obtain ⟨text, htext, rfl⟩ : ∃ text ∈ ["ssh local_port=22", "web local_port=443"],
        writeProfileSet (Sample.padded text) true = w := List.mem_map.mp hw
    rw [writeProfileSet, hcopied text htext] at heq
    obtain rfl : Sample.padded text = delivered := Except.ok.inj (ProfileWrite.profileSet.inj heq).1
    exact hbytes text htext
  have huncut : ∀ pre w, pre ++ [w] <+: writesOf Sample.made → ¬ CutsName (final profileWrite pre .init) w := by
    rintro pre w hpre ⟨delivered, name, filterStr, filter, rfl, hset, hlen, -⟩
    have hle := hshort _ (hpre.subset (by simp)) delivered rfl
    rw [(setInput_of_put hset).2, List.length_append, List.length_cons, hlen] at hle
    exact absurd hle (by rw [TSF_PROFILE_NAME_MAX]; omega)
  have hspares : ∀ r ∈ Sample.changed, r.Spares 3 (cstr "web") := by
    have hweb : (writeProfileSet (Sample.padded "web local_port=80") true).request ≠ some (.delete (cstr "web")) := by
      decide +kernel
    have hssh : (writeProfileSet (Sample.padded "ssh") true).request ≠ some (.delete (cstr "web")) := by decide +kernel
    simp only [Sample.changed, Sample.write, List.forall_mem_cons, KmodCall.Spares]
    exact ⟨hweb, trivial, hssh, fun _ h => absurd h List.not_mem_nil⟩
  obtain ⟨text, filter, htext, hfilter, hanswers⟩ := profile_session Sample.made Sample.changed 3 (cstr "web") 0
    (fun _ => none) Sample.glob huncut (by decide +kernel) hspares
  have hlast : lastText (cstr "web") (writesOf Sample.made) .init none = some (cstr "local_port=443") := by decide +kernel
  obtain rfl := Option.some.inj (hlast.symm.trans htext)
  exact ⟨filter, hfilter, hanswers⟩

end TcpStats
