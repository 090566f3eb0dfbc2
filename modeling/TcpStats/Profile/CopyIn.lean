import TcpStats.Profile.Names
import TcpStats.Filter.Directive

/-!
# What a writer supplies and what is copied in

`SYSCTL_IN(req, p, l)` copies just `l` bytes, and fails with `EINVAL` for a writer that
supplied fewer. The handler of `profile_set` asks for all of its buffer but the last byte,
545 bytes, and the longest legal request, terminator included, has 544: a write of the
string is always refused (`profile_set_refused`), and one that is padded works exactly from
545 bytes on (`profile_set_works_iff`).
-/

namespace TcpStats

open CString Fallible

/-- `sizeof(input)` in `tcpstats_profile_set_handler`. -/
def setInputSize : ℕ := TSF_PARSE_MAXLEN + TSF_PROFILE_NAME_MAX + 2

/-- `SYSCTL_IN(req, p, l)`, for a writer that supplied these bytes. -/
def sysctlIn (supplied : List UInt8) (l : ℕ) : CopyIn :=
  if supplied.length < l then .error .EINVAL else .ok (supplied.take l)

/-- A write of bytes to `dev.tcpstats.profile_set`. -/
def writeProfileSet (supplied : List UInt8) (makeDev : Bool) : ProfileWrite :=
  .profileSet (sysctlIn supplied (setInputSize - 1)) makeDev

/-- The NUL-terminated string `name filter`. -/
def requestBytes (name filterStr : CStr) : List UInt8 := name ++ chr ' ' :: filterStr ++ [0]

/-- The same with NULs behind it, as many bytes as the handler asks for. -/
def paddedRequest (name filterStr : CStr) : List UInt8 :=
  requestBytes name filterStr ++ List.replicate (setInputSize - 1 - (requestBytes name filterStr).length) 0

/-- The write returns 0, and the store maps the name to the filter. -/
def Maps (s : ProfileStore) (w : ProfileWrite) (name : CStr) (filter : TcpstatsFilter) : Prop :=
  (profileWrite w s).1 = none ∧
    ∃ prof, tcpstatsProfileFind (profileWrite w s).2.profiles name = some prof ∧ prof.filter = filter

/-- A legal request: an accepted name that fits its buffer, and an accepted filter string. -/
structure LegalRequest (name filterStr : CStr) (filter : TcpstatsFilter) : Prop where
  accepted : tsfValidateProfileName name = .ok ()
  short : name.length ≤ 31
  parsed : tsfParseFilterString filterStr = .ok filter
  /-- It is a C string. -/
  noNul : (0 : UInt8) ∉ filterStr

variable {name filterStr : CStr} {filter : TcpstatsFilter}

/-- The parser accepts no line end. -/
theorem tsfParseFilterString_newline (h : tsfParseFilterString filterStr = .ok filter)
    (h0 : (0 : UInt8) ∉ filterStr) : chr '\n' ∉ filterStr := by
  intro hmem
  have hne : ¬ (filterStr = [] ∨ filterStr.head? = some 0) := by
    rintro (rfl | hhead)
    · cases hmem
    · exact h0 (List.mem_of_mem_head? hhead)
  unfold tsfParseFilterString at h
  rw [if_neg hne] at h
  obtain ⟨-, h⟩ := ite_error_eq_ok.mp h
  have hfound : filterStr.find? nonPrintable ≠ none := by
    intro hnone
    exact absurd (List.find?_eq_none.mp hnone _ hmem) (by decide)
  split at h
  · cases h
  · rename_i hnone
    exact hfound hnone

theorem LegalRequest.length (h : LegalRequest name filterStr filter) :
    (requestBytes name filterStr).length < setInputSize - 1 := by
  have hname := h.short
  have hfilter := tsfParseFilterString_length h.parsed h.noNul
  have hsize : setInputSize = 546 := rfl
  have hmax : TSF_PARSE_MAXLEN = 512 := rfl
  simp only [requestBytes, List.length_append, List.length_cons, List.length_nil]
  omega

/-- A request that is copied in whole is taken for what it says. -/
theorem LegalRequest.request (h : LegalRequest name filterStr filter) (rest : List UInt8) :
    profileSetRequest (requestBytes name filterStr ++ rest) = .ok (.put name filterStr filter) := by
  have hvalid := tsfValidateProfileName_ok.mp h.accepted
  have hlen := h.length
  have hbytes : requestBytes name filterStr ++ rest = (name ++ chr ' ' :: filterStr) ++ 0 :: rest := by
    simp [requestBytes]
  have hnul : (0 : UInt8) ∉ name ++ chr ' ' :: filterStr := by
    simp only [List.mem_append, List.mem_cons, not_or]
    exact ⟨hvalid.notMem (by decide), by decide, h.noNul⟩
  have hend : (name ++ chr ' ' :: filterStr).getLast? ≠ some (chr '\n') := by
    intro hlast
    have hmem := List.mem_of_getLast? hlast
    simp only [List.mem_append, List.mem_cons] at hmem
    rcases hmem with hmem | hmem | hmem
    · exact hvalid.notMem (by decide) hmem
    · exact absurd hmem (by decide)
    · exact tsfParseFilterString_newline h.parsed h.noNul hmem
  have hinput : setInput (requestBytes name filterStr ++ rest) = name ++ chr ' ' :: filterStr := by
    have htake : inputString setInputSize (requestBytes name filterStr ++ rest) = name ++ chr ' ' :: filterStr := by
      rw [inputString, List.take_append, List.take_of_length_le hlen.le]
      rw [show requestBytes name filterStr = (name ++ chr ' ' :: filterStr) ++ [0] from by simp [requestBytes],
        List.append_assoc]
      exact ofArray_append_zero hnul _
    show trimNewline (inputString setInputSize _) = _
    rw [htake, trimNewline, if_neg hend]
  have hreq := profileSetRequest_store hvalid hinput
  rw [h.parsed] at hreq
  exact hreq

/-- Padded, it is copied in whole. -/
theorem LegalRequest.writeProfileSet_padded (h : LegalRequest name filterStr filter) (makeDev : Bool) :
    writeProfileSet (paddedRequest name filterStr) makeDev = .profileSet (.ok (paddedRequest name filterStr)) makeDev := by
  have hlen : (paddedRequest name filterStr).length = setInputSize - 1 := by
    have := h.length
    rw [paddedRequest, List.length_append, List.length_replicate]
    omega
  rw [writeProfileSet, sysctlIn, if_neg hlen.not_lt, ← hlen, List.take_length]

/-- A legal request that is copied in whole works. -/
theorem LegalRequest.maps (h : LegalRequest name filterStr filter) {s : ProfileStore}
    (hroom : s.nprofiles < TSF_MAX_PROFILES ∨ (tcpstatsProfileFind s.profiles name).isSome = true)
    {delivered : List UInt8} (hreq : profileSetRequest delivered = .ok (.put name filterStr filter)) :
    Maps s (.profileSet (.ok delivered) true) name filter := by
  have hok : (profileWrite (.profileSet (.ok delivered) true) s).1 = none := by
    simp only [profileWrite, tcpstatsProfileSetHandler, hreq]
    split_ifs with hfind hfull
    · rfl
    · rcases hroom with hroom | hroom
      · exact absurd hfull (not_le.mpr hroom)
      · exact absurd hroom hfind
    · rfl
  have hcut : ¬ CutsName s (.profileSet (.ok delivered) true) := by
    rintro ⟨delivered', name', filterStr', filter', hw, hreq', hlen, -⟩
    cases hw
    cases hreq.symm.trans hreq'
    exact absurd hlen (by have := h.short; have : TSF_PROFILE_NAME_MAX = 32 := rfl; omega)
  exact ⟨hok, stored_found hcut (toOption_eq_some.mpr hreq) hok⟩

/-- A write of a legal request is refused, and changes nothing; with more bytes behind its
terminator it works exactly if they make 545. -/
theorem profile_set_refused (s : ProfileStore) (name filterStr : CStr) (filter : TcpstatsFilter)
    (h : LegalRequest name filterStr filter)
    (hroom : s.nprofiles < TSF_MAX_PROFILES ∨ (tcpstatsProfileFind s.profiles name).isSome = true) :
    ¬ Maps s (writeProfileSet (requestBytes name filterStr) true) name filter ∧
      profileWrite (writeProfileSet (requestBytes name filterStr) true) s = (some .EINVAL, s) ∧
      ∀ padding, Maps s (writeProfileSet (requestBytes name filterStr ++ padding) true) name filter ↔
        setInputSize - 1 ≤ (requestBytes name filterStr ++ padding).length := by
  have hshort : ∀ supplied : List UInt8, supplied.length < setInputSize - 1 →
      profileWrite (writeProfileSet supplied true) s = (some .EINVAL, s) := by
    intro supplied hlen
    rw [writeProfileSet, sysctlIn, if_pos hlen]
    rfl
  have hno : ∀ supplied : List UInt8, supplied.length < setInputSize - 1 →
      ¬ Maps s (writeProfileSet supplied true) name filter := by
    rintro supplied hlen ⟨hok, -⟩
    rw [hshort supplied hlen] at hok
    cases hok
  refine ⟨hno _ h.length, hshort _ h.length, fun padding => ⟨?_, ?_⟩⟩
  · intro hmaps
    by_contra hlen
    exact hno _ (not_le.mp hlen) hmaps
  · intro hlen
    rw [writeProfileSet, sysctlIn, if_neg (not_lt.mpr hlen), List.take_append,
      List.take_of_length_le h.length.le]
    exact h.maps hroom (h.request _)

/-- The request of the manual page, `web local_port=443`. -/
theorem web_legal : ∃ filter, LegalRequest (cstr "web") (cstr "local_port=443") filter := by
  have haccepted : ∃ filter, tsfParseFilterString (cstr "local_port=443") = .ok filter :=
    exists_ok_of_isOk (by decide)
  obtain ⟨filter, hparse⟩ := haccepted
  exact ⟨filter, by decide, by decide, hparse, by decide⟩

/-- It is refused on a store without profiles. -/
theorem profile_set_refused_web : ∃ filter, LegalRequest (cstr "web") (cstr "local_port=443") filter ∧
    ¬ Maps .init (writeProfileSet (requestBytes (cstr "web") (cstr "local_port=443")) true) (cstr "web") filter := by
  obtain ⟨filter, h⟩ := web_legal
  exact ⟨filter, h, (profile_set_refused .init _ _ filter h (.inl (by decide))).1⟩

/-- Not every legal request works. -/
theorem web_refused : ¬ ∀ (s : ProfileStore) (name filterStr : CStr) (filter : TcpstatsFilter),
    LegalRequest name filterStr filter →
    (s.nprofiles < TSF_MAX_PROFILES ∨ (tcpstatsProfileFind s.profiles name).isSome = true) →
    Maps s (writeProfileSet (requestBytes name filterStr) true) name filter := by
  intro hall
  obtain ⟨filter, h⟩ := web_legal
  have hok := (hall .init _ _ filter h (.inl (by decide))).1
  have hcode : (profileWrite (writeProfileSet (requestBytes (cstr "web") (cstr "local_port=443")) true)
      .init).1 = some .EINVAL := by
    decide
  exact nomatch hcode.symm.trans hok

end TcpStats
