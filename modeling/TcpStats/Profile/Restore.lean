import TcpStats.Filter.Language
import TcpStats.Profile.CopyIn
import TcpStats.Profile.Listing

/-!
# Reading a listing back

What a read of `dev.tcpstats.profile_set` prints, `name: filter` on a line, and what a write to it takes, `name filter`,
are two texts for one thing. A listing that fits its buffer can be read back, for the two characters between name and
filter are not in a name, and no newline is in a filter. Each line has to be rewritten as a request, and padded to the 545
bytes that the handler asks for. Written so to a module without profiles, last line first, a listing makes the same
profiles in the same order (`restore_listing`).
-/

namespace TcpStats

open CString Machine

/-! ### Texts -/

/-- What `SYSCTL_OUT` hands to the reader, up to the terminator. -/
def SysctlOut.text (out : SysctlOut) : CStr := ofArray ((List.range out.len).filterMap out.src)

/-- The name and the filter string of a line; `(none)` is not one. -/
def readLine (line : CStr) : Option (CStr × CStr) :=
  (after (chr ':') line).map fun rest => (before (chr ':') line, rest.drop 1)

/-- The names and filter strings of a listing. -/
def readListing (listing : CStr) : List (CStr × CStr) := (fields (· == chr '\n') listing).filterMap readLine

/-- The write that stores a filter string under a name. -/
def storeWrite (entry : CStr × CStr) : ProfileWrite := writeProfileSet (paddedRequest entry.1 entry.2) true

/-- The writes that bring the profiles of a listing back, the oldest first. -/
def restoreWrites (listing : CStr) : List ProfileWrite := ((readListing listing).map storeWrite).reverse

/-- A profile without its device. -/
def TcpstatsProfile.content (prof : TcpstatsProfile) : CharBuf 32 × CharBuf 512 × TcpstatsFilter :=
  (prof.name, prof.filterStr, prof.filter)

/-! ### Profiles that can be listed -/

/-- A profile that a write has created. -/
structure Listable (prof : TcpstatsProfile) : Prop where
  name : ValidName prof.name.str
  parsed : tsfParseFilterString prof.filterStr.str = .ok prof.filter

/-- The name of a created profile is what `strlcpy` leaves of a valid one. -/
theorem ValidName.cut {name : CStr} (h : ValidName name) : ValidName (strlcpy 32 name).str := by
  have hstr : (strlcpy 32 name).str = name.take 31 := by
    rw [strlcpy]
    exact congrArg _ (ofArray_of_notMem (h.notMem (by decide)))
  rw [hstr]
  refine ⟨?_, ?_, fun c hc => h.chars c (List.mem_of_mem_take hc)⟩
  · rw [Ne, List.take_eq_nil_iff]
    simpa using h.nonempty
  · have := h.length
    rw [List.length_take]
    omega

/-- Every profile in the list can be listed. -/
theorem final_listable (ws : List ProfileWrite) : ∀ prof ∈ (final profileWrite ws .init).profiles, Listable prof := by
  refine fun prof hprof => ⟨?_, (final_stored ws prof hprof).parsed⟩
  have hnames : ∀ name ∈ names (final profileWrite ws .init).profiles, ValidName name := by
    refine final_inv (I := fun _ (s : ProfileStore) => ∀ name ∈ names s.profiles, ValidName name)
      (fun _ h => absurd h List.not_mem_nil) ?_ ws
    intro ws w ih
    have hw := profileWrite_written w (final profileWrite ws .init)
    generalize hr : profileWrite w (final profileWrite ws .init) = r at hw ⊢
    cases hw with
    | failed e lastError => exact ih
    | absent name _ _ => exact ih
    | deleted name prof _ _ =>
      rw [destroyUnlocked_profiles, ProfileStore.detach]
      exact fun name hname => ih name ((List.eraseP_sublist.map _).mem hname)
    | updated name filterStr filter prof _ _ =>
      rw [names_update]
      exact ih
    | created name filterStr filter hreq hfind _ =>
      obtain ⟨-, delivered, -, hset⟩ := ProfileWrite.creates hreq hfind (by rw [hr])
      intro other hother
      rcases List.mem_cons.mp hother with rfl | hother
      · exact (setInput_of_put hset).1.cut
      · exact ih other hother
  exact hnames _ (List.mem_map_of_mem hprof)

/-- A filter string is printed in one line. -/
theorem Listable.newline_notMem {prof : TcpstatsProfile} (h : Listable prof) : chr '\n' ∉ prof.filterStr.str := by
  obtain ⟨ds, htext, -⟩ := tsfParseFilterString_iff.mp h.parsed
  intro hmem
  rcases htext.lexical with h0 | ⟨-, hprint⟩
  · exact prof.filterStr.noNul (List.mem_of_head? h0)
  · exact absurd (hprint _ hmem) (by decide)

/-! ### Reading -/

theorem readLine_line {prof : TcpstatsProfile} (h : Listable prof) :
    readLine (prof.name.str ++ cstr ": " ++ prof.filterStr.str) = some (prof.name.str, prof.filterStr.str) := by
  have hcolon : chr ':' ∉ prof.name.str := h.name.notMem (by decide)
  have hline : prof.name.str ++ cstr ": " ++ prof.filterStr.str =
      prof.name.str ++ chr ':' :: (chr ' ' :: prof.filterStr.str) := by
    rw [List.append_assoc]
    rfl
  rw [readLine, hline, after_append hcolon, before_append hcolon]
  rfl

/-- A listing says which profiles there are. -/
theorem readListing_allLines {profiles : List TcpstatsProfile} (h : ∀ prof ∈ profiles, Listable prof) :
    readListing (allLines profiles) = profiles.map fun prof => (prof.name.str, prof.filterStr.str) := by
  induction profiles with
  | nil => rfl
  | cons prof profiles ih =>
    obtain ⟨hprof, hrest⟩ := List.forall_mem_cons.mp h
    have hline : allLines (prof :: profiles) =
        (prof.name.str ++ cstr ": " ++ prof.filterStr.str) ++ chr '\n' :: allLines profiles := by
      rw [allLines, List.flatMap_cons, TcpstatsProfile.line, List.append_assoc _ (cstr "\n")]
      rfl
    have hone : fields (· == chr '\n') (prof.name.str ++ cstr ": " ++ prof.filterStr.str) =
        [prof.name.str ++ cstr ": " ++ prof.filterStr.str] := by
      rw [fields, List.splitOnP_eq_singleton]
      · simp [hprof.name.nonempty]
      · intro c hc
        rw [beq_eq_false_iff_ne]
        rintro rfl
        simp only [List.mem_append] at hc
        rcases hc with (hc | hc) | hc
        · exact hprof.name.notMem (by decide) hc
        · exact absurd hc (by decide)
        · exact hprof.newline_notMem hc
    rw [readListing, hline, fields_append (by decide), hone, List.singleton_append, List.filterMap_cons,
      readLine_line hprof]
    exact congrArg _ (ih hrest)

/-! ### What a read prints -/

theorem allLines_zero_notMem (profiles : List TcpstatsProfile) : (0 : UInt8) ∉ allLines profiles := by
  intro hmem
  obtain ⟨prof, -, hprof⟩ := List.mem_flatMap.mp hmem
  simp only [TcpstatsProfile.line, List.mem_append] at hprof
  rcases hprof with ((h | h) | h) | h
  · exact prof.name.noNul h
  · exact absurd h (by decide)
  · exact prof.filterStr.noNul h
  · exact absurd h (by decide)

/-- Lines that fit are all in the buffer, behind those already there, with a terminator behind the last one. -/
theorem listLoop_holds {profiles : List TcpstatsProfile} {buf : Cells} {done : CStr} (hbuf : buf.Holds done)
    (hend : done ≠ [] → buf done.length = some 0)
    (hfits : done.length + (allLines profiles).length ≤ LISTING_BUFSIZE - 1) :
    let r := listLoop profiles buf done.length
    r.2 = (done ++ allLines profiles).length ∧ r.1.Holds (done ++ allLines profiles) ∧
      (done ++ allLines profiles ≠ [] → r.1 (done ++ allLines profiles).length = some 0) := by
  have hsize : LISTING_BUFSIZE = 2048 := rfl
  induction profiles generalizing buf done with
  | nil =>
    rw [allLines, List.flatMap_nil, List.append_nil]
    exact ⟨rfl, hbuf, hend⟩
  | cons prof profiles ih =>
    rw [length_allLines_cons] at hfits
    have hall : done ++ allLines (prof :: profiles) = (done ++ prof.line) ++ allLines profiles := by
      rw [allLines, List.flatMap_cons, ← List.append_assoc]
      rfl
    have hroom : prof.line.length < LISTING_BUFSIZE - done.length := by omega
    obtain ⟨hholds, hzero⟩ := snprintf_holds hroom hbuf
    dsimp only
    rw [listLoop_cons, hall, ← List.length_append]
    split_ifs with hfull
    · -- the buffer is full to the last byte, so that no line is left
      rw [List.length_append] at hfull
      have hnil : allLines profiles = [] := List.length_eq_zero_iff.mp (by omega)
      rw [hnil, List.append_nil]
      exact ⟨rfl, hholds, fun _ => hzero⟩
    · exact ih hholds (fun _ => hzero) (by rw [List.length_append]; omega)

/-- A read of the profiles prints all their lines, if they fit. -/
theorem list_text {s : ProfileStore} (hsome : s.profiles ≠ [])
    (hfits : (allLines s.profiles).length ≤ LISTING_BUFSIZE - 1) :
    (tcpstatsProfileSetList s).text = allLines s.profiles := by
  obtain ⟨hpos, hholds, hzero⟩ := @listLoop_holds s.profiles _ [] (Cells.holds_nil fun _ => none)
    (fun h => absurd rfl h) (by simpa using hfits)
  rw [List.nil_append, List.length_nil] at hpos hholds hzero
  have hne : allLines s.profiles ≠ [] := by
    obtain ⟨prof, profiles, hcons⟩ := List.exists_cons_of_ne_nil hsome
    rw [hcons, allLines, List.flatMap_cons, TcpstatsProfile.line]
    simp [cstr]
  simp only [tcpstatsProfileSetList]
  rw [if_neg (by rw [hpos, List.length_eq_zero_iff]; exact hne), SysctlOut.text]
  dsimp only
  rw [hpos, List.range_succ, List.filterMap_append, hholds.filterMap, List.filterMap_cons_some (hzero hne)]
  exact ofArray_append_zero (allLines_zero_notMem _) _

/-- What is read back from a listing that fits. -/
theorem readListing_list {s : ProfileStore} (h : ∀ prof ∈ s.profiles, Listable prof)
    (hfits : (allLines s.profiles).length ≤ LISTING_BUFSIZE - 1) :
    readListing (tcpstatsProfileSetList s).text = s.profiles.map fun prof => (prof.name.str, prof.filterStr.str) := by
  rcases List.eq_nil_or_concat s.profiles with hnil | ⟨profiles, prof, hconcat⟩
  · have htext : (tcpstatsProfileSetList s).text = cstr "(none)\n" := by
      simp only [tcpstatsProfileSetList, hnil]
      decide
    rw [htext, hnil]
    decide
  · rw [list_text (by simp [hconcat]) hfits, readListing_allLines h]

/-! ### Writing it back -/

/-- A write under a name that is not there creates a profile, while there is room. -/
theorem profileSet_creates {delivered name filterStr : CStr} {filter : TcpstatsFilter} {s : ProfileStore}
    (hreq : profileSetRequest delivered = .ok (.put name filterStr filter))
    (hfind : tcpstatsProfileFind s.profiles name = none) (hroom : s.nprofiles < TSF_MAX_PROFILES) :
    (profileWrite (.profileSet (.ok delivered) true) s).1 = none ∧
      (profileWrite (.profileSet (.ok delivered) true) s).2.profiles =
        newProfile name filterStr filter s.nextDev :: s.profiles := by
  have hnone : (tcpstatsProfileFind s.clearError.profiles name).isSome = false := by
    rw [show s.clearError.profiles = s.profiles from rfl, hfind]
    rfl
  simp only [profileWrite, tcpstatsProfileSetHandler, hreq, hnone, Bool.false_eq_true, if_false]
  rw [if_neg (show ¬ s.clearError.nprofiles ≥ TSF_MAX_PROFILES from not_le.mpr hroom)]
  exact ⟨rfl, rfl⟩

/-- A listed profile can be asked for. -/
theorem Listable.legal {prof : TcpstatsProfile} (h : Listable prof) :
    LegalRequest prof.name.str prof.filterStr.str prof.filter where
  accepted := tsfValidateProfileName_ok.mpr h.name
  short := Nat.le_of_lt_succ prof.name.fits
  parsed := h.parsed
  noNul := prof.filterStr.noNul

/-- Profiles with names of their own are made again by the writes that store them, the last one first. -/
theorem restore_profiles {profiles : List TcpstatsProfile} (h : ∀ prof ∈ profiles, Listable prof)
    (hnames : (names profiles).Nodup) (hlimit : profiles.length ≤ TSF_MAX_PROFILES) :
    let ws := (profiles.map fun prof => storeWrite (prof.name.str, prof.filterStr.str)).reverse
    (final profileWrite ws .init).profiles.map TcpstatsProfile.content = profiles.map TcpstatsProfile.content ∧
      ∀ error ∈ answers profileWrite ws .init, error = none := by
  induction profiles with
  | nil => exact ⟨rfl, fun _ h => absurd h List.not_mem_nil⟩
  | cons prof profiles ih =>
    obtain ⟨hprof, hrest⟩ := List.forall_mem_cons.mp h
    obtain ⟨hnew, hnames⟩ := List.nodup_cons.mp hnames
    have hroom : profiles.length < TSF_MAX_PROFILES := hlimit
    obtain ⟨hcontent, hanswers⟩ := ih hrest hnames hroom.le
    simp only [List.map_cons, List.reverse_cons]
    rw [answers_snoc, final_snoc]
    generalize hws : (profiles.map fun prof => storeWrite (prof.name.str, prof.filterStr.str)).reverse = ws at *
    have hvalid := final_valid ws
    generalize final profileWrite ws .init = s at *
    have hlen : s.profiles.length = profiles.length := by simpa using congrArg List.length hcontent
    have hsame : names s.profiles = names profiles := by
      simpa [names, Function.comp_def, TcpstatsProfile.content] using congrArg (List.map fun c => c.1.str) hcontent
    have hfind : tcpstatsProfileFind s.profiles prof.name.str = none := by
      rw [find_eq_none_iff, hsame]
      exact hnew
    have hwrite := hprof.legal.writeProfileSet_padded true
    obtain ⟨hok, hmade⟩ := profileSet_creates (hprof.legal.request _) hfind
      (by rw [hvalid.count, hlen]; exact_mod_cast hroom)
    rw [storeWrite, hwrite]
    refine ⟨?_, ?_⟩
    · rw [paddedRequest, hmade, List.map_cons, hcontent, newProfile, TcpstatsProfile.content, strlcpy_self, strlcpy_self]
      rfl
    · intro error herror
      rcases List.mem_append.mp herror with herror | herror
      · exact hanswers error herror
      · rw [List.mem_singleton.mp herror]
        exact hok

/-- A listing that fits says all there is to say about the profiles: written to a module without profiles, its lines are
all accepted, and make the same profiles in the same order. -/
theorem restore_listing (ws : List ProfileWrite) (hnames : (names (final profileWrite ws .init).profiles).Nodup)
    (hfits : (allLines (final profileWrite ws .init).profiles).length ≤ LISTING_BUFSIZE - 1) :
    let s := final profileWrite ws .init
    let restore := restoreWrites (tcpstatsProfileSetList s).text
    (final profileWrite restore .init).profiles.map TcpstatsProfile.content = s.profiles.map TcpstatsProfile.content ∧
      ∀ error ∈ answers profileWrite restore .init, error = none := by
  have hlist := final_listable ws
  have hrestore := restore_profiles hlist hnames (final_valid ws).limit
  dsimp only at hrestore ⊢
  rw [restoreWrites, readListing_list hlist hfits, List.map_map]
  exact hrestore

/-- Two profiles. -/
def twoProfiles : List ProfileWrite :=
  [storeWrite (cstr "web", cstr "local_port=443"), storeWrite (cstr "busy", cstr "exclude=listen,timewait")]

theorem restore_listing_two :
    names (final profileWrite twoProfiles .init).profiles = [cstr "busy", cstr "web"] ∧
      (final profileWrite (restoreWrites (tcpstatsProfileSetList (final profileWrite twoProfiles .init)).text)
        .init).profiles.map TcpstatsProfile.content =
        (final profileWrite twoProfiles .init).profiles.map TcpstatsProfile.content :=
  ⟨by decide +kernel, (restore_listing twoProfiles (by decide +kernel) (by decide +kernel)).1⟩

end TcpStats
