import TcpStats.Client.Layout
import TcpStats.Device.ReadSpec
import TcpStats.Lib.While

/-!
# The processes of sockets

`parse_kern_file` of `freebsd.rs` makes a map of the `xfile` entries of `kern.file`, from the address
of a socket to the first process that has it open, and `enrich_with_pid_mapping` joins the records
with it. The entries are as long as the first word of the buffer says; the loop goes through
them without a panic (`parseKernFile_ok`). The join is exact but for records of connections
without a socket: their `socket_id` is 0, which the map takes for an address like
any other (`enrich_exact_iff`).
-/

namespace TcpStats.Client

open Bytes Panic

/-- `DATA_SOURCE_KERN_FILE`. -/
def DATA_SOURCE_KERN_FILE : UInt8 := 6

/-- `DTYPE_SOCKET`. -/
def DTYPE_SOCKET : UInt16 := 2

/-- `PidMap`: from the address of a socket to the process and its descriptor. -/
abbrev PidMap := Std.HashMap UInt64 (Int32 × Int32)

/-! ### Parsing -/

/-- What a function of the parser comes to. -/
abbrev KernOutcome (α : Type) := Except (Stop CollectError) α

/-- The body of the `if` on the type of an entry: the first process of a socket wins. -/
def takeXfile (entry : List UInt8) (map : PidMap) : KernOutcome PidMap := do
  let xfType := UInt16.ofNat (leNat (← indices entry 24 2))
  if xfType = DTYPE_SOCKET then
    let xfPid := (UInt32.ofNat (leNat (← indices entry 8 4))).toInt32
    let xfFd := (UInt32.ofNat (leNat (← indices entry 16 4))).toInt32
    let xfData := UInt64.ofNat (leNat (← indices entry 40 8))
    return map.insertIfNew xfData (xfPid, xfFd)
  else return map

/-- The variables of the loop. -/
structure KernLoop where
  pos : ℕ
  map : PidMap

/-- The condition of the loop and its body. -/
def kernIteration (buf : List UInt8) (stride : ℕ) (s : KernLoop) : KernOutcome (While.Next KernLoop) := do
  let entryEnd ← add s.pos stride
  if entryEnd ≤ buf.length then
    let entry ← slice buf s.pos entryEnd
    let map ← takeXfile entry s.map
    return .go ⟨← add s.pos stride, map⟩
  else return .exit s

/-- What precedes the loop: the stride, if there is one to go by. -/
def kernStride (buf : List UInt8) : KernOutcome (Option ℕ) := do
  if buf.length < 4 then return none
  else if buf.length < 8 then return none
  else
    let stride := (UInt64.ofNat (leNat (← indices buf 0 8))).toNat
    if stride = 0 ∨ stride > buf.length then return none
    else if stride < 48 then return none
    else return some stride

/-- `parse_kern_file`, with fuel for the loop. -/
def parseKernFile (fuel : ℕ) (buf : List UInt8) : Option (KernOutcome PidMap) :=
  match kernStride buf with
  | .error e => some (.error e)
  | .ok none => some (.ok ∅)
  | .ok (some stride) => (While.run (kernIteration buf stride) fuel ⟨0, ∅⟩).map (Except.map KernLoop.map)

/-- `parse_kern_file` comes to `r`. -/
def ParsesKernFile (buf : List UInt8) (r : KernOutcome PidMap) : Prop :=
  ∃ fuel, parseKernFile fuel buf = some r

/-! ### The join -/

/-- The source is listed, at the end if it was not. -/
def listSource (sources : List UInt8) : List UInt8 :=
  if sources.contains DATA_SOURCE_KERN_FILE then sources else sources ++ [DATA_SOURCE_KERN_FILE]

/-- The record of a socket that a process has open. -/
def RawSocketRecord.ownedBy (rec : RawSocketRecord) (owner : Int32 × Int32) : RawSocketRecord :=
  { rec with pid := some owner.1, fd := some owner.2, sources := listSource rec.sources }

/-- The body of the loop of `enrich_with_pid_mapping`. -/
def joinPid (map : PidMap) (rec : RawSocketRecord) : RawSocketRecord :=
  match rec.socketId with
  | some socketId =>
    match map[socketId]? with
    | some owner => rec.ownedBy owner
    | none => rec
  | none => rec

/-- `enrich_with_pid_mapping`, with what `build_pid_map` comes to. -/
def enrichWithPidMapping {ε : Type} (pidMap : Except ε PidMap) (records : List RawSocketRecord) :
    List RawSocketRecord :=
  match pidMap with
  | .ok map => records.map (joinPid map)
  | .error _ => records

/-! ### What the buffer says -/

/-- `struct xfile`, as far as it is read. -/
structure Xfile where
  xfPid : Int32
  xfFd : Int32
  xfType : UInt16
  xfData : UInt64

/-- The entry at an offset. -/
def xfileAt (buf : List UInt8) (offset : ℕ) : Xfile where
  xfPid := i32At buf (offset + 8)
  xfFd := i32At buf (offset + 16)
  xfType := u16At buf (offset + 24)
  xfData := u64At buf (offset + 40)

/-- The length that the first entry gives itself. -/
def xfSize (buf : List UInt8) : ℕ := (u64At buf 0).toNat

/-- The complete entries: as long as the first one says, long enough for the fields, and within
the buffer. -/
def xfiles (buf : List UInt8) : List Xfile :=
  if 48 ≤ xfSize buf then
    (List.range (buf.length / xfSize buf)).map fun i => xfileAt buf (i * xfSize buf)
  else []

/-- The process and the descriptor of the first entry of a socket. -/
def firstOwner (files : List Xfile) (addr : UInt64) : Option (Int32 × Int32) :=
  (files.find? fun f => f.xfType == DTYPE_SOCKET && f.xfData == addr).map fun f => (f.xfPid, f.xfFd)

/-- An entry is put into the map if it is the first of its socket. -/
def PidMap.take (map : PidMap) (f : Xfile) : PidMap :=
  if f.xfType = DTYPE_SOCKET then map.insertIfNew f.xfData (f.xfPid, f.xfFd) else map

theorem firstOwner_snoc (files : List Xfile) (f : Xfile) (addr : UInt64) :
    firstOwner (files ++ [f]) addr = (firstOwner files addr).or (firstOwner [f] addr) := by
  rw [firstOwner, List.find?_append, Option.map_or]
  rfl

/-- The map holds the first owners of the entries taken. -/
theorem take_getElem? {map : PidMap} {files : List Xfile} (h : ∀ addr, map[addr]? = firstOwner files addr)
    (f : Xfile) (addr : UInt64) : (map.take f)[addr]? = firstOwner (files ++ [f]) addr := by
  rw [firstOwner_snoc, ← h, PidMap.take]
  by_cases htype : f.xfType = DTYPE_SOCKET
  · rw [if_pos htype, Std.HashMap.getElem?_insertIfNew]
    by_cases haddr : f.xfData = addr
    · subst haddr
      by_cases hmem : f.xfData ∈ map
      · obtain ⟨owner, howner⟩ := Option.isSome_iff_exists.mp (Std.HashMap.isSome_getElem?_iff_mem.mpr hmem)
        simp [hmem]
      · simp [hmem, firstOwner, htype]
    · simp [firstOwner, haddr]
  · simp [htype, firstOwner]

/-! ### The loop -/

section Loop

variable {buf : List UInt8} {stride : ℕ}

/-- An entry that is long enough for its fields. -/
theorem takeXfile_ok {pos : ℕ} (hstride : 48 ≤ stride) (hend : pos + stride ≤ buf.length) (map : PidMap) :
    takeXfile (bytesAt buf pos stride) map = .ok (map.take (xfileAt buf pos)) := by
  have hlen : (bytesAt buf pos stride).length = stride := by
    rw [bytesAt, List.length_take, List.length_drop]
    omega
  have hfield : ∀ {i n : ℕ}, i + n ≤ 48 →
      indices (bytesAt buf pos stride) i n = (.ok (bytesAt buf (pos + i) n) : KernOutcome (List UInt8)) := by
    intro i n h
    rw [indices_ok (by omega), bytesAt_within (n := stride) rfl (by omega)]
  have htype : (xfileAt buf pos).xfType = UInt16.ofNat (leNat (bytesAt buf (pos + 24) 2)) := rfl
  simp only [takeXfile, hfield (show 24 + 2 ≤ 48 by decide), hfield (show 8 + 4 ≤ 48 by decide),
    hfield (show 16 + 4 ≤ 48 by decide), hfield (show 40 + 8 ≤ 48 by decide), ok_bind, pure_eq_ok,
    PidMap.take, htype]
  split_ifs
  · rfl
  · rfl

theorem kernIteration_go {s : KernLoop} (hstride : 48 ≤ stride) (hsize : s.pos + stride < 2 ^ 64)
    (hend : s.pos + stride ≤ buf.length) :
    kernIteration buf stride s = .ok (.go ⟨s.pos + stride, s.map.take (xfileAt buf s.pos)⟩) := by
  rw [kernIteration, add_ok hsize, ok_bind, if_pos hend, slice_ok (Nat.le_add_right ..) hend, ok_bind,
    Nat.add_sub_cancel_left, takeXfile_ok hstride hend, ok_bind, ok_bind, pure_eq_ok]

theorem kernIteration_exit {s : KernLoop} (hsize : s.pos + stride < 2 ^ 64)
    (hend : ¬ s.pos + stride ≤ buf.length) :
    kernIteration buf stride s = .ok (.exit s) := by
  rw [kernIteration, add_ok hsize, ok_bind, if_neg hend, pure_eq_ok]

/-- The loop after some entries. -/
structure Taken (buf : List UInt8) (stride n : ℕ) (s : KernLoop) : Prop where
  pos : s.pos = n * stride
  bound : s.pos ≤ buf.length
  map : ∀ addr, s.map[addr]? = firstOwner ((List.range n).map fun i => xfileAt buf (i * stride)) addr

theorem Taken.start (buf : List UInt8) (stride : ℕ) : Taken buf stride 0 ⟨0, ∅⟩ where
  pos := by simp
  bound := Nat.zero_le _
  map addr := by simp [firstOwner]

/-- An iteration takes an entry and goes on, if there is a complete one, and is the last if not. -/
theorem Taken.step {n : ℕ} {s : KernLoop} (h : Taken buf stride n s) (hbuf : buf.length < 2 ^ 63)
    (hstride : 48 ≤ stride) (hfits : stride ≤ buf.length) :
    (∃ t, kernIteration buf stride s = .ok (.go t) ∧ Taken buf stride (n + 1) t) ∨
      kernIteration buf stride s = .ok (.exit s) ∧ n = buf.length / stride := by
  have hbound := h.bound
  have hsize : s.pos + stride < 2 ^ 64 := by omega
  by_cases hend : s.pos + stride ≤ buf.length
  · refine .inl ⟨_, kernIteration_go hstride hsize hend, ?_, hend, fun addr => ?_⟩
    · rw [h.pos, Nat.succ_mul]
    · rw [List.range_succ, List.map_append, h.pos]
      exact take_getElem? h.map _ addr
  · refine .inr ⟨kernIteration_exit hsize hend, ?_⟩
    rw [h.pos] at hbound hend
    refine (Nat.div_eq_of_lt_le hbound ?_).symm
    rw [Nat.succ_mul]
    omega

/-- The loop ends with the first owners of the complete entries. -/
theorem Taken.ends (hbuf : buf.length < 2 ^ 63) (hstride : 48 ≤ stride) (hfits : stride ≤ buf.length)
    {n : ℕ} {s : KernLoop} (h : Taken buf stride n s) :
    ∃ t, While.Ends (kernIteration buf stride) s (.ok t) ∧ Taken buf stride (buf.length / stride) t := by
  -- Every entry taken leaves less of the buffer.
  induction hleft : buf.length - s.pos using Nat.strongRecOn generalizing n s with
  | ind left ih =>
    rcases h.step hbuf hstride hfits with ⟨t, hgo, ht⟩ | ⟨hexit, rfl⟩
    · have hpos : t.pos = s.pos + stride := by rw [ht.pos, h.pos, Nat.succ_mul]
      have hbound := ht.bound
      obtain ⟨u, hends, hu⟩ := ih (buf.length - t.pos) (by omega) ht rfl
      exact ⟨u, .go hgo hends, hu⟩
    · exact ⟨s, .exit hexit, h⟩

end Loop

/-! ### The map -/

theorem kernStride_some {buf : List UInt8} (h : 48 ≤ xfSize buf) (hfits : xfSize buf ≤ buf.length) :
    kernStride buf = .ok (some (xfSize buf)) := by
  have hword : indices buf 0 8 = (.ok (bytesAt buf 0 8) : KernOutcome (List UInt8)) := indices_ok (by omega)
  have hsize : (UInt64.ofNat (leNat (bytesAt buf 0 8))).toNat = xfSize buf := rfl
  rw [kernStride, if_neg (by omega), if_neg (by omega), hword, ok_bind, hsize, if_neg (by omega),
    if_neg (by omega), pure_eq_ok]

theorem kernStride_none {buf : List UInt8} (h : ¬ (48 ≤ xfSize buf ∧ xfSize buf ≤ buf.length)) :
    kernStride buf = .ok none := by
  rw [kernStride]
  split_ifs with hfour height
  · rfl
  · rfl
  · have hword : indices buf 0 8 = (.ok (bytesAt buf 0 8) : KernOutcome (List UInt8)) := indices_ok (by omega)
    have hsize : (UInt64.ofNat (leNat (bytesAt buf 0 8))).toNat = xfSize buf := rfl
    rw [hword, ok_bind, hsize]
    by_cases hlong : xfSize buf = 0 ∨ xfSize buf > buf.length
    · rw [if_pos hlong, pure_eq_ok]
    · rw [if_neg hlong, if_pos (by omega), pure_eq_ok]

/-- A buffer whose first word is no stride has no complete entry. -/
theorem xfiles_nil {buf : List UInt8} (h : ¬ (48 ≤ xfSize buf ∧ xfSize buf ≤ buf.length)) :
    xfiles buf = [] := by
  rw [xfiles]
  split_ifs with hlong
  · have hlt : buf.length < xfSize buf := by omega
    rw [Nat.div_eq_of_lt hlt]
    rfl
  · rfl

/-- On every buffer the parser comes to a map, and to nothing else: that of the first owners of the
complete entries. -/
theorem parseKernFile_ok (buf : Slice) : ∃ map : PidMap,
    (∀ r, ParsesKernFile buf.bytes r ↔ r = .ok map) ∧
      ∀ addr, map[addr]? = firstOwner (xfiles buf.bytes) addr := by
  by_cases h : 48 ≤ xfSize buf.bytes ∧ xfSize buf.bytes ≤ buf.bytes.length
  · obtain ⟨t, hends, ht⟩ := (Taken.start buf.bytes (xfSize buf.bytes)).ends buf.fits h.1 h.2
    have hparse : ∀ fuel, parseKernFile fuel buf.bytes =
        (While.run (kernIteration buf.bytes (xfSize buf.bytes)) fuel ⟨0, ∅⟩).map
          (Except.map KernLoop.map) := by
      intro fuel
      rw [parseKernFile, kernStride_some h.1 h.2]
    refine ⟨t.map, fun r => ?_, fun addr => ?_⟩
    · simp only [ParsesKernFile, hparse, Option.map_eq_some_iff]
      constructor
      · rintro ⟨fuel, e, hrun, rfl⟩
        rw [(While.ends_of_run hrun).unique hends]
        rfl
      · rintro rfl
        obtain ⟨fuel, hrun⟩ := While.ends_iff.mp hends
        exact ⟨fuel, _, hrun, rfl⟩
    · rw [ht.map, xfiles, if_pos h.1]
  · refine ⟨∅, fun r => ?_, fun addr => ?_⟩
    · have hparse : ∀ fuel, parseKernFile fuel buf.bytes = some (.ok ∅) := fun fuel => by
        rw [parseKernFile, kernStride_none h]
      simp only [ParsesKernFile, hparse, Option.some.injEq, exists_const, eq_comm]
    · simp [xfiles_nil h, firstOwner]

/-! ### The join is exact -/

/-- The new sources are the old ones with that of `kern.file`, and have it no second time. -/
def ListsOnce (old new : List UInt8) : Prop :=
  DATA_SOURCE_KERN_FILE ∈ old ∧ new = old ∨ DATA_SOURCE_KERN_FILE ∉ old ∧
    new = old ++ [DATA_SOURCE_KERN_FILE]

/-- What becomes of a record: that of a socket with an entry is given the process and the descriptor
of the first one, and every other is left as it is. An address of 0 is that of no socket. -/
inductive ExactJoin (files : List Xfile) (before : RawSocketRecord) : RawSocketRecord → Prop where
  | owned {addr : UInt64} {owner : Int32 × Int32} {sources : List UInt8} : before.socketId = some addr →
      addr ≠ 0 → firstOwner files addr = some owner → ListsOnce before.sources sources →
      ExactJoin files before { before with pid := some owner.1, fd := some owner.2, sources := sources }
  | unowned : (∀ addr, before.socketId = some addr → addr ≠ 0 → firstOwner files addr = none) →
      ExactJoin files before before

/-- Every record is joined exactly, and a second join changes nothing. -/
structure ExactEnrichment (files : List Xfile) (enrich : List RawSocketRecord → List RawSocketRecord)
    (records : List RawSocketRecord) : Prop where
  join : List.Forall₂ (ExactJoin files) records (enrich records)
  again : enrich (enrich records) = enrich records

/-- The record names the process and the descriptor already. -/
structure RawSocketRecord.Names (rec : RawSocketRecord) (owner : Int32 × Int32) : Prop where
  pid : rec.pid = some owner.1
  fd : rec.fd = some owner.2
  source : DATA_SOURCE_KERN_FILE ∈ rec.sources

theorem listsOnce_listSource (sources : List UInt8) : ListsOnce sources (listSource sources) := by
  by_cases h : DATA_SOURCE_KERN_FILE ∈ sources
  · exact .inl ⟨h, by simp [listSource, h]⟩
  · exact .inr ⟨h, by simp [listSource, h]⟩

theorem mem_listSource (sources : List UInt8) : DATA_SOURCE_KERN_FILE ∈ listSource sources := by
  rcases listsOnce_listSource sources with ⟨hmem, heq⟩ | ⟨-, heq⟩
  · rwa [heq]
  · simp [heq]

theorem ownedBy_eq_self_iff {rec : RawSocketRecord} {owner : Int32 × Int32} :
    rec.ownedBy owner = rec ↔ rec.Names owner := by
  constructor
  · intro h
    refine ⟨?_, ?_, ?_⟩
    · exact (congrArg RawSocketRecord.pid h).symm
    · exact (congrArg RawSocketRecord.fd h).symm
    · rw [← h]
      exact mem_listSource rec.sources
  · intro h
    have hsources : listSource rec.sources = rec.sources := by simp [listSource, h.source]
    rw [RawSocketRecord.ownedBy, ← h.pid, ← h.fd, hsources]

section Join

variable {map : PidMap} {files : List Xfile} {rec : RawSocketRecord}

theorem joinPid_none (map : PidMap) (h : rec.socketId = none) : joinPid map rec = rec := by
  rw [joinPid, h]

theorem joinPid_some (map : PidMap) {addr : UInt64} (h : rec.socketId = some addr) :
    joinPid map rec = (map[addr]?.map rec.ownedBy).getD rec := by
  rw [joinPid, h]
  rcases hget : map[addr]? with _ | owner
  · simp only [hget, Option.map_none, Option.getD_none]
  · simp only [hget, Option.map_some, Option.getD_some]

/-- A record that has been joined is joined with the same entry again. -/
theorem joinPid_joinPid (map : PidMap) (rec : RawSocketRecord) :
    joinPid map (joinPid map rec) = joinPid map rec := by
  rcases hid : rec.socketId with _ | addr
  · rw [joinPid_none map hid, joinPid_none map hid]
  · have hjoin := joinPid_some map hid
    rcases hget : map[addr]? with _ | owner
    · have hsame : joinPid map rec = rec := by simpa [hget] using hjoin
      rw [hsame, hsame]
    · have howned : joinPid map rec = rec.ownedBy owner := by simpa [hget] using hjoin
      have hagain : joinPid map (rec.ownedBy owner) =
          (map[addr]?.map (rec.ownedBy owner).ownedBy).getD (rec.ownedBy owner) := joinPid_some map hid
      rw [howned, hagain, hget]
      exact ownedBy_eq_self_iff.mpr ⟨rfl, rfl, mem_listSource rec.sources⟩

/-- A record whose address is that of no socket is to be left as it is. -/
theorem ExactJoin.eq_of_zero {after : RawSocketRecord} (h : ExactJoin files rec after)
    (hid : rec.socketId = some 0) :
    after = rec := by
  cases h with
  | owned haddr hne =>
    rw [hid, Option.some.injEq] at haddr
    exact absurd haddr.symm hne
  | unowned => rfl

/-- The join of a record is exact but for an entry of address 0, where the record is changed. -/
theorem exactJoin_joinPid_iff (hmap : ∀ addr, map[addr]? = firstOwner files addr) :
    ExactJoin files rec (joinPid map rec) ↔
      (rec.socketId = some 0 → ∀ owner, firstOwner files 0 = some owner → rec.Names owner) := by
  constructor
  · intro h hid owner howner
    rw [joinPid_some map hid, hmap, howner] at h
    exact ownedBy_eq_self_iff.mp (h.eq_of_zero hid)
  · intro h
    rcases hid : rec.socketId with _ | addr
    · rw [joinPid_none map hid]
      exact .unowned (by simp [hid])
    rw [joinPid_some map hid, hmap]
    rcases hfirst : firstOwner files addr with _ | owner
    · refine .unowned fun addr' haddr' _ => ?_
      obtain rfl : addr = addr' := by simpa [hid] using haddr'
      exact hfirst
    by_cases hzero : addr = 0
    · subst hzero
      rw [Option.map_some, Option.getD_some, ownedBy_eq_self_iff.mpr (h hid owner hfirst)]
      exact .unowned fun addr' haddr' hne => absurd (by simpa [hid] using haddr'.symm) hne
    · exact .owned hid hzero hfirst (listsOnce_listSource rec.sources)

end Join

/-- On every buffer the parser comes to a map, and the join with it is exact just if no record with
an address of 0 is given the process of an entry with an address of 0. -/
theorem enrich_exact_iff (buf : Slice) (records : List RawSocketRecord) : ∃ map : PidMap,
    (∀ r, ParsesKernFile buf.bytes r ↔ r = .ok map) ∧
      (ExactEnrichment (xfiles buf.bytes) (enrichWithPidMapping (.ok map : Except CollectError PidMap))
          records ↔
        ∀ rec ∈ records, rec.socketId = some 0 →
          ∀ owner, firstOwner (xfiles buf.bytes) 0 = some owner → rec.Names owner) := by
  obtain ⟨map, hparse, hmap⟩ := parseKernFile_ok buf
  refine ⟨map, hparse, ?_⟩
  constructor
  · intro h rec hrec
    have hjoin := List.forall₂_map_right_iff.mp h.join
    exact (exactJoin_joinPid_iff hmap).mp (List.forall₂_same.mp hjoin rec hrec)
  · intro h
    refine ⟨?_, ?_⟩
    · exact List.forall₂_map_right_iff.mpr
        (List.forall₂_same.mpr fun rec hrec => (exactJoin_joinPid_iff hmap).mpr (h rec hrec))
    · simp only [enrichWithPidMapping, List.map_map]
      exact List.map_congr_left fun rec _ => joinPid_joinPid map rec

/-- For records of the device, as they are before the join: just if no connection is without a
socket, or no entry has an address of 0. -/
theorem enrich_decoded_iff (buf : Slice) (rs : List TcpStats.TcpStatsRecord) :
    (∀ rec ∈ rs.map decode, rec.socketId = some 0 →
        ∀ owner, firstOwner (xfiles buf.bytes) 0 = some owner → rec.Names owner) ↔
      (∃ r ∈ rs, r.tsrSoAddr = 0) → firstOwner (xfiles buf.bytes) 0 = none := by
  have hid : ∀ r, (decode r).socketId = some r.tsrSoAddr := by
    intro r
    rw [decode, ofBytes_bytes]
    rfl
  constructor
  · rintro h ⟨r, hr, hzero⟩
    by_contra hsome
    obtain ⟨owner, howner⟩ := Option.ne_none_iff_exists'.mp hsome
    have hpid := (h _ (List.mem_map_of_mem hr) (by rw [hid, hzero]) owner howner).pid
    cases hpid
  · intro h rec hrec hzero owner howner
    obtain ⟨r, hr, rfl⟩ := List.mem_map.mp hrec
    rw [hid, Option.some.injEq] at hzero
    rw [h ⟨r, hr, hzero⟩] at howner
    cases howner

/-- A buffer with one entry of 48 bytes: process 42 has a socket of address 0 open, as its
descriptor 7. -/
def Sample.closing : Slice where
  bytes := le64 48 ++ le32 42 ++ le32 0 ++ le32 7 ++ le32 0 ++ le16 DTYPE_SOCKET ++ List.replicate 22 0
  fits := by decide

/-- The record of a connection that has no socket. -/
def Sample.orphan : RawSocketRecord :=
  decode (freshRecord (Sample.inpcb 1 INP_IPV4 5) TSR_FIELDS_DEFAULT SBT_1S 1000 0)

/-- It is given that process. -/
theorem orphan_joined :
    (TcpStats.Sample.inpcb 1 INP_IPV4 5).inpSocket = none ∧ Sample.orphan.socketId = some 0 ∧
    ∃ map : PidMap, ParsesKernFile Sample.closing.bytes (.ok map) ∧
      (enrichWithPidMapping (.ok map : Except CollectError PidMap) [Sample.orphan]).map
        RawSocketRecord.pid = [some 42] ∧
      ¬ ExactEnrichment (xfiles Sample.closing.bytes)
        (enrichWithPidMapping (.ok map : Except CollectError PidMap)) [Sample.orphan] := by
  obtain ⟨map, hparse, hmap⟩ := parseKernFile_ok Sample.closing
  have hid : Sample.orphan.socketId = some 0 := by
    rw [Sample.orphan, decode, ofBytes_bytes]
    rfl
  have hfirst : firstOwner (xfiles Sample.closing.bytes) 0 = some (42, 7) := by decide
  refine ⟨rfl, hid, map, (hparse _).mpr rfl, ?_, fun h => ?_⟩
  · rw [enrichWithPidMapping, List.map_singleton, List.map_singleton, joinPid_some map hid, hmap, hfirst]
    rfl
  · have hjoin := List.forall₂_same.mp (List.forall₂_map_right_iff.mp h.join) _ (List.mem_singleton_self _)
    have hpid := ((exactJoin_joinPid_iff hmap).mp hjoin hid _ hfirst).pid
    cases hpid

end TcpStats.Client
