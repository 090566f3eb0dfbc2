import TcpStats.Filter.Parse

/-!
# Requests to the profile sysctls

What a write of `dev.tcpstats.profile_set` or of `dev.tcpstats.profiles.<name>` asks for,
before any of it touches the profiles: the bytes `SYSCTL_IN` delivered, as a string
without the trailing newline, cut at the first blank, the name checked and the filter
parsed. Both handlers do all of this before they take the lock.
-/

namespace TcpStats

open CString

/-- `TSF_MAX_PROFILES`. -/
def TSF_MAX_PROFILES : ℕ := 16

/-- `TSF_PROFILE_NAME_MAX`. -/
def TSF_PROFILE_NAME_MAX : ℕ := 32

instance namePos : Fact (0 < 32) := ⟨by decide⟩
instance filterStrPos : Fact (0 < 512) := ⟨by decide⟩

/-- `struct tcpstats_profile`, without its place in the list. -/
structure TcpstatsProfile where
  name : CharBuf 32
  filterStr : CharBuf 512
  filter : TcpstatsFilter
  /-- The device node, by its number; `none` is the null pointer. -/
  dev : Option ℕ
  deriving DecidableEq

/-! ### Names -/

/-- The failures of `tsf_validate_profile_name`. -/
inductive ProfileNameError where
  | empty
  | tooLong (len : ℕ)
  | badCharacter (c : UInt8)
  deriving DecidableEq

/-- A character of a profile name: `a-z`, `0-9` or `_`. -/
def isNameChar (c : UInt8) : Bool :=
  (chr 'a' ≤ c && c ≤ chr 'z') || (chr '0' ≤ c && c ≤ chr '9') || c == chr '_'

/-- `tsf_validate_profile_name`. -/
def tsfValidateProfileName (name : CStr) : Except ProfileNameError Unit :=
  let len := strnlen name (TSF_PROFILE_NAME_MAX + 1)
  if len = 0 then .error .empty
  else if len > TSF_PROFILE_NAME_MAX then .error (.tooLong len)
  else match (name.take len).find? fun c => !isNameChar c with
    | some c => .error (.badCharacter c)
    | none => .ok ()

/-! ### Failures -/

/-- What leaves a message in `tcpstats_last_error`. -/
inductive ProfileError where
  | badName (e : ProfileNameError)
  | badFilter (e : ParseError)
  /-- There are `TSF_MAX_PROFILES` profiles already. -/
  | limit
  /-- `make_dev_credf` gave no device. -/
  | device (name : CStr)
  deriving DecidableEq

namespace ProfileError

open Errno ( ENXIO) in
/-- The code returned with the failure. -/
def errno : ProfileError → Errno
  | badName .empty => .EINVAL
  | badName (.tooLong _) => .ENAMETOOLONG
  | badName (.badCharacter _) => .EINVAL
  | badFilter e => e.errno
  | limit => .ENOSPC
  | device _ => ENXIO

/-- The message, before `snprintf` cuts it to the buffer. -/
def text : ProfileError → CStr
  | badName .empty => cstr "empty profile name"
  | badName (.tooLong len) => cstr "profile name too long (" ++ decimal len ++ cstr " > " ++
      decimal TSF_PROFILE_NAME_MAX ++ cstr ")"
  | badName (.badCharacter c) => cstr "invalid character '" ++ [c] ++
      cstr "' in profile name (allowed: a-z, 0-9, _)"
  | badFilter e => e.text
  | limit => cstr "maximum profiles reached (" ++ decimal TSF_MAX_PROFILES ++ cstr ")"
  | device name => cstr "failed to create device for profile '" ++ name ++ cstr "'"

/-- The message as it stands in `tcpstats_last_error`. -/
def lastError (e : ProfileError) : CharBuf 128 := strlcpy 128 e.text

end ProfileError

/-! ### Requests -/

/-- A request that passed its checks, for the profile that `κ` tells the name of. -/
inductive ProfileRequest (κ : Type) where
  /-- Remove the profile, if there is one. -/
  | delete (name : κ)
  /-- Store the filter and the text it was parsed from. -/
  | put (name : κ) (filterStr : CStr) (filter : TcpstatsFilter)
  deriving DecidableEq

/-- Whose profile a request is about. -/
def ProfileRequest.name {κ : Type} : ProfileRequest κ → κ
  | delete name => name
  | put name _ _ => name

/-- The request, with the name told otherwise. -/
def ProfileRequest.map {κ κ' : Type} (f : κ → κ') : ProfileRequest κ → ProfileRequest κ'
  | delete name => delete (f name)
  | put name filterStr filter => put (f name) filterStr filter

/-- What `SYSCTL_IN` answers: an error, or the bytes it copied. -/
abbrev CopyIn := Except Errno (List UInt8)

/-- The string in an array of `size` zeros once `SYSCTL_IN` has copied to it. -/
def inputString (size : ℕ) (delivered : List UInt8) : CStr := ofArray (delivered.take (size - 1))

/-- "Trim trailing newline if present (from echo)". -/
def trimNewline (s : CStr) : CStr := if s.getLast? = some (chr '\n') then s.dropLast else s

/-- What `tcpstats_profile_set_handler` makes of the bytes written: `name` to delete,
`name filter` to store. -/
def profileSetRequest (delivered : List UInt8) : Except ProfileError (ProfileRequest CStr) :=
  let input := trimNewline (inputString (TSF_PARSE_MAXLEN + TSF_PROFILE_NAME_MAX + 2) delivered)
  match after (chr ' ') input with
  | none =>
    match tsfValidateProfileName input with
    | .error e => .error (.badName e)
    | .ok () => .ok (.delete input)
  | some filterStr =>
    let name := before (chr ' ') input
    match tsfValidateProfileName name with
    | .error e => .error (.badName e)
    | .ok () =>
      match tsfParseFilterString filterStr with
      | .error e => .error (.badFilter e)
      | .ok filter => .ok (.put name filterStr filter)

/-- What `tcpstats_profile_sysctl_handler` makes of the bytes written, for the profile of the
name it is registered with: nothing to delete it, a filter to store. -/
def profileRequest {κ : Type} (name : κ) (delivered : List UInt8) :
    Except ProfileError (ProfileRequest κ) :=
  let input := trimNewline (inputString TSF_PARSE_MAXLEN delivered)
  if input = [] then .ok (.delete name)
  else match tsfParseFilterString input with
    | .error e => .error (.badFilter e)
    | .ok filter => .ok (.put name input filter)

/-! ### Accepted names -/

/-- What `tsf_validate_profile_name` accepts. -/
structure ValidName (name : CStr) : Prop where
  nonempty : name ≠ []
  length : name.length ≤ TSF_PROFILE_NAME_MAX
  chars : ∀ c ∈ name, isNameChar c = true

theorem tsfValidateProfileName_ok {name : CStr} :
    tsfValidateProfileName name = .ok () ↔ ValidName name := by
  have hmin : strnlen name (TSF_PROFILE_NAME_MAX + 1) = min name.length 33 := rfl
  have hmax : TSF_PROFILE_NAME_MAX = 32 := rfl
  unfold tsfValidateProfileName
  dsimp only
  rw [hmin, hmax]
  constructor
  · intro h
    split_ifs at h with hempty hlong
    have hlen : name.length ≤ 32 := by omega
    rw [List.take_of_length_le (by omega)] at h
    split at h
    · cases h
    · rename_i hgood
      refine ⟨?_, hlen, fun c hc => ?_⟩
      · rintro rfl
        exact hempty rfl
      · simpa using List.find?_eq_none.mp hgood c hc
  · rintro ⟨hne, hlen, hchars⟩
    have hpos : 0 < name.length := List.length_pos_iff.mpr hne
    rw [hmax] at hlen
    rw [if_neg (by omega), if_neg (by omega), List.take_of_length_le (by omega)]
    rw [List.find?_eq_none.mpr fun c hc => by simp [hchars c hc]]

theorem ValidName.notMem {name : CStr} (h : ValidName name) {c : UInt8} (hc : isNameChar c = false) :
    c ∉ name := by
  intro hmem
  rw [h.chars c hmem] at hc
  cases hc

/-! ### The text of a request -/

theorem inputString_zero_notMem (size : ℕ) (delivered : List UInt8) :
    (0 : UInt8) ∉ inputString size delivered :=
  ofArray_zero_notMem _

theorem trimNewline_subset (s : CStr) : trimNewline s ⊆ s := by
  unfold trimNewline
  split_ifs
  · exact List.dropLast_subset s
  · exact fun _ h => h

/-- A string the parser accepts fits its buffer. -/
theorem tsfParseFilterString_length {input : CStr} {f : TcpstatsFilter}
    (h : tsfParseFilterString input = .ok f) (h0 : (0 : UInt8) ∉ input) :
    input.length < TSF_PARSE_MAXLEN := by
  unfold tsfParseFilterString at h
  split_ifs at h with hempty hlong
  · rcases input with _ | ⟨c, cs⟩
    · decide
    · have hc : c = 0 := by simpa using hempty
      exact absurd (hc ▸ List.mem_cons_self ..) h0
  · have : TSF_PARSE_MAXLEN = 512 := rfl
    omega

/-- What a request to store carries: a filter, and the text that parses to it and fits. -/
structure PutOk (filterStr : CStr) (filter : TcpstatsFilter) : Prop where
  parsed : tsfParseFilterString filterStr = .ok filter
  noNul : (0 : UInt8) ∉ filterStr

theorem PutOk.length {filterStr : CStr} {filter : TcpstatsFilter} (h : PutOk filterStr filter) :
    filterStr.length < 512 :=
  tsfParseFilterString_length h.parsed h.noNul

/-- The text is stored whole. -/
theorem PutOk.stored {filterStr : CStr} {filter : TcpstatsFilter} (h : PutOk filterStr filter) :
    (strlcpy 512 filterStr).str = filterStr :=
  strlcpy_str h.length h.noNul

theorem profileSetRequest_put {delivered : List UInt8} {name filterStr : CStr} {filter : TcpstatsFilter}
    (h : profileSetRequest delivered = .ok (.put name filterStr filter)) : PutOk filterStr filter := by
  unfold profileSetRequest at h
  dsimp only at h
  split at h
  · split at h
    · cases h
    · cases h
  · rename_i t ht
    split at h
    · cases h
    · split at h
      · cases h
      · rename_i f hf
        cases h
        exact ⟨hf, fun h0 =>
          inputString_zero_notMem _ delivered (trimNewline_subset _ (after_subset ht h0))⟩

/-- The bytes written to a profile say what to do, not to which profile. -/
theorem profileRequest_map {κ κ' : Type} (f : κ → κ') {name : κ} {delivered : List UInt8}
    {req : ProfileRequest κ} (h : profileRequest name delivered = .ok req) :
    profileRequest (f name) delivered = .ok (req.map f) := by
  unfold profileRequest at h ⊢
  dsimp only at h ⊢
  split_ifs at h ⊢ with hempty
  · cases h
    rfl
  · split at h
    · cases h
    · cases h
      rfl

theorem profileRequest_delete {κ : Type} {name name' : κ} {delivered : List UInt8}
    (h : profileRequest name delivered = .ok (.delete name')) : name' = name := by
  unfold profileRequest at h
  dsimp only at h
  split_ifs at h with hempty
  · cases h
    rfl
  · split at h
    · cases h
    · cases h

theorem profileRequest_put {κ : Type} {name name' : κ} {delivered : List UInt8} {filterStr : CStr}
    {filter : TcpstatsFilter} (h : profileRequest name delivered = .ok (.put name' filterStr filter)) :
    name' = name ∧ PutOk filterStr filter := by
  unfold profileRequest at h
  dsimp only at h
  split_ifs at h with hempty
  · cases h
  · split at h
    · cases h
    · rename_i f hf
      cases h
      exact ⟨rfl, hf, fun h0 => inputString_zero_notMem _ delivered (trimNewline_subset _ h0)⟩

end TcpStats
