import TcpStats.Client.MacosFields

/-!
# The identities that the macOS layout can carry

`parse_xinpcb_n` looks for the family flag at an offset inside the 16 bytes that it takes the
foreign IPv6 address from. So a body that gives a connection its identity exists for every IPv4
connection, and for an IPv6 connection just if the byte of the foreign address that is read as the
flag has the bit of IPv6 (`represents_iff`).
-/

namespace TcpStats.Client.Macos

open Bytes Panic

/-- The addresses of a connection. -/
inductive Addrs where
  | v4 (laddr faddr : Vector UInt8 4)
  | v6 (laddr faddr : Vector UInt8 16)

/-- The identity of a connection. -/
structure Identity where
  addrs : Addrs
  lport : UInt16
  fport : UInt16
  gencnt : UInt64

/-- The fields of a record that say so. -/
structure Identifies (record : RawSocketRecord) (version : UInt8) (laddr faddr : IpAddr)
    (id : Identity) : Prop where
  ipVersion : record.ipVersion = some version
  localAddr : record.localAddr = some laddr
  remoteAddr : record.remoteAddr = some faddr
  localPort : record.localPort = some id.lport
  remotePort : record.remotePort = some id.fport
  inpGencnt : record.inpGencnt = some id.gencnt

/-- The record has the identity. -/
def Identity.Of (id : Identity) (record : RawSocketRecord) : Prop :=
  match id.addrs with
  | .v4 laddr faddr => Identifies record 4 (.v4 laddr.toList) (.v4 faddr.toList) id
  | .v6 laddr faddr => Identifies record 6 (.v6 laddr.toList) (.v6 faddr.toList) id

/-- The bytes of a word, the high byte first. -/
def be16 (x : UInt16) : List UInt8 := (le16 x).reverse

@[simp] theorem length_be16 (x : UInt16) : (be16 x).length = 2 := rfl

theorem u16BeAt_of_bytesAt {buf : List UInt8} {offset : ℕ} {x : UInt16}
    (h : bytesAt buf offset 2 = be16 x) :
    u16BeAt buf offset = x := by
  rw [u16BeAt, h, be16, List.reverse_reverse, leNat_le16, UInt16.ofNat_toNat]

/-- Each field at its offset in a body of zeros. -/
def Identity.parts (id : Identity) : List (List UInt8) :=
  match id.addrs with
  | .v4 laddr faddr => [List.replicate 44 0, [INP_IPV4], List.replicate 25 0, be16 id.fport, be16 id.lport,
      List.replicate 6 0, faddr.toList, laddr.toList, List.replicate 16 0, le64 id.gencnt, List.replicate 8 0]
  | .v6 laddr faddr => [List.replicate 32 0, faddr.toList, laddr.toList, List.replicate 6 0, be16 id.fport,
      be16 id.lport, List.replicate 30 0, le64 id.gencnt, List.replicate 8 0]

/-- The body is made so; the flag of an IPv6 connection is a byte of its foreign address. -/
def Identity.body (id : Identity) : List UInt8 := id.parts.flatten

/-- The byte that is read as the flag has the bit of the family. -/
def Identity.Representable (id : Identity) : Prop :=
  match id.addrs with
  | .v4 .. => True
  | .v6 _ faddr => faddr[12] &&& INP_IPV6 ≠ 0

theorem Identity.length_body (id : Identity) : id.body.length = 120 := by
  rcases id with ⟨laddr, faddr⟩ | ⟨laddr, faddr⟩
  · simp [body, parts]
  · simp [body, parts]

theorem fieldAt_of_bytes {α : Type} {value : List UInt8 → ℕ → α} {offset width : ℕ} {body : List UInt8}
    {x : α} (hlen : offset + width < body.length) (h : value body offset = x) (old : Option α) :
    fieldAt value offset width body old = some x := by
  rw [fieldAt, if_pos hlen, h]

/-- A field that was not there before was read. -/
theorem eq_of_fieldAt {α : Type} {value : List UInt8 → ℕ → α} {offset width : ℕ} {body : List UInt8} {x : α}
    (h : fieldAt value offset width body none = some x) : value body offset = x := by
  by_cases hlen : offset + width < body.length
  · rw [fieldAt, if_pos hlen] at h
    exact Option.some.inj h
  · rw [fieldAt, if_neg hlen] at h
    cases h

/-! ### Bodies that carry an identity -/

section Body

variable {acc : ConnectionAccumulator} {body : List UInt8} {id : Identity}

theorem Identity.bytesAt_body {p : List UInt8} {offset n : ℕ} (i : ℕ) (hp : id.parts[i]? = some p)
    (ho : ((id.parts.take i).map List.length).sum = offset) (hn : p.length = n) : bytesAt id.body offset n = p :=
  bytesAt_part i hp ho hn

/-- The ports and the generation count are read in both families alike. -/
theorem identifies_of_addrs {version : UInt8} {laddr faddr : IpAddr} (hlen : body.length = 120)
    (hversion : (ConnectionAccumulator.addrs acc.record (u8At body 44) body).ipVersion = some version)
    (hladdr : (ConnectionAccumulator.addrs acc.record (u8At body 44) body).localAddr = some laddr)
    (hfaddr : (ConnectionAccumulator.addrs acc.record (u8At body 44) body).remoteAddr = some faddr)
    (hfport : bytesAt body 70 2 = be16 id.fport) (hlport : bytesAt body 72 2 = be16 id.lport)
    (hgencnt : bytesAt body 104 8 = le64 id.gencnt) :
    Identifies (acc.withXinpcbN body).record version laddr faddr id where
  ipVersion := hversion
  localAddr := hladdr
  remoteAddr := hfaddr
  localPort := fieldAt_of_bytes (by rw [hlen]; decide) (u16BeAt_of_bytesAt hlport) _
  remotePort := fieldAt_of_bytes (by rw [hlen]; decide) (u16BeAt_of_bytesAt hfport) _
  inpGencnt := fieldAt_of_bytes (by rw [hlen]; decide) (u64At_of_bytesAt hgencnt) _

theorem addrs_v4 (record : RawSocketRecord) {vflag : UInt8} (body : List UInt8)
    (hsix : vflag &&& INP_IPV6 = 0)
    (hfour : vflag &&& INP_IPV4 ≠ 0) : (ConnectionAccumulator.addrs record vflag body).ipVersion = some 4 ∧
      (ConnectionAccumulator.addrs record vflag body).localAddr =
        fieldAt (fun b o => .v4 (bytesAt b o 4)) XINPCB_N_INP_LADDR_OFFSET 4 body record.localAddr ∧
      (ConnectionAccumulator.addrs record vflag body).remoteAddr =
        fieldAt (fun b o => .v4 (bytesAt b o 4)) XINPCB_N_INP_FADDR_OFFSET 4 body record.remoteAddr := by
  rw [ConnectionAccumulator.addrs, if_neg (not_not.mpr hsix), if_pos hfour]
  exact ⟨rfl, rfl, rfl⟩

theorem addrs_v6 (record : RawSocketRecord) {vflag : UInt8} (body : List UInt8)
    (hsix : vflag &&& INP_IPV6 ≠ 0) :
    (ConnectionAccumulator.addrs record vflag body).ipVersion = some 6 ∧
      (ConnectionAccumulator.addrs record vflag body).localAddr =
        fieldAt (fun b o => .v6 (bytesAt b o 16)) XINPCB_N_IN6P_LADDR_OFFSET 16 body record.localAddr ∧
      (ConnectionAccumulator.addrs record vflag body).remoteAddr =
        fieldAt (fun b o => .v6 (bytesAt b o 16)) XINPCB_N_IN6P_FADDR_OFFSET 16 body record.remoteAddr := by
  rw [ConnectionAccumulator.addrs, if_pos hsix]
  exact ⟨rfl, rfl, rfl⟩

/-- In an IPv4 body no field is in another's place. -/
theorem body_v4 (acc : ConnectionAccumulator) {laddr faddr : Vector UInt8 4}
    (h : id.addrs = .v4 laddr faddr) :
    Identifies (acc.withXinpcbN id.body).record 4 (.v4 laddr.toList) (.v4 faddr.toList) id := by
  have hlen := id.length_body
  have hparts : id.parts = [List.replicate 44 0, [INP_IPV4], List.replicate 25 0, be16 id.fport, be16 id.lport,
      List.replicate 6 0, faddr.toList, laddr.toList, List.replicate 16 0, le64 id.gencnt, List.replicate 8 0] := by
    rw [Identity.parts, h]
  have hflag : u8At id.body 44 = INP_IPV4 := by
    have hbyte : bytesAt id.body 44 1 = [INP_IPV4] := id.bytesAt_body 1 (by rw [hparts]; rfl) (by simp [hparts]) rfl
    exact u8At_within (i := 0) hbyte (by decide)
  have hladdr : bytesAt id.body 84 4 = laddr.toList :=
    id.bytesAt_body 7 (by rw [hparts]; rfl) (by simp [hparts]) (by simp)
  have hfaddr : bytesAt id.body 80 4 = faddr.toList :=
    id.bytesAt_body 6 (by rw [hparts]; rfl) (by simp [hparts]) (by simp)
  have hsix : u8At id.body 44 &&& INP_IPV6 = 0 := by
    rw [hflag]
    decide
  have hfour : u8At id.body 44 &&& INP_IPV4 ≠ 0 := by
    rw [hflag]
    decide
  obtain ⟨hversion, hlocal, hremote⟩ := addrs_v4 acc.record id.body hsix hfour
  apply identifies_of_addrs hlen hversion
  · rw [hlocal]
    apply fieldAt_of_bytes
    · rw [hlen]
      decide
    · exact congrArg IpAddr.v4 hladdr
  · rw [hremote]
    apply fieldAt_of_bytes
    · rw [hlen]
      decide
    · exact congrArg IpAddr.v4 hfaddr
  · exact id.bytesAt_body 3 (by rw [hparts]; rfl) (by simp [hparts]) rfl
  · exact id.bytesAt_body 4 (by rw [hparts]; rfl) (by simp [hparts]) rfl
  · exact id.bytesAt_body 9 (by rw [hparts]; rfl) (by simp [hparts]) rfl

/-- The flag is the thirteenth byte of the foreign address. -/
theorem flag_of_faddr {faddr : Vector UInt8 16} (h : bytesAt body 32 16 = faddr.toList) :
    u8At body 44 = faddr[12] := by
  have hbyte : u8At body (32 + 12) = u8At faddr.toList 12 := u8At_within h (by decide)
  rw [hbyte]
  simp [u8At]

/-- An IPv6 body carries its identity when that byte has the bit. -/
theorem body_v6 (acc : ConnectionAccumulator) {laddr faddr : Vector UInt8 16}
    (h : id.addrs = .v6 laddr faddr) (hflag : faddr[12] &&& INP_IPV6 ≠ 0) :
    Identifies (acc.withXinpcbN id.body).record 6 (.v6 laddr.toList) (.v6 faddr.toList) id := by
  have hlen := id.length_body
  have hparts : id.parts = [List.replicate 32 0, faddr.toList, laddr.toList, List.replicate 6 0, be16 id.fport,
      be16 id.lport, List.replicate 30 0, le64 id.gencnt, List.replicate 8 0] := by
    rw [Identity.parts, h]
  have hladdr : bytesAt id.body 48 16 = laddr.toList :=
    id.bytesAt_body 2 (by rw [hparts]; rfl) (by simp [hparts]) (by simp)
  have hfaddr : bytesAt id.body 32 16 = faddr.toList :=
    id.bytesAt_body 1 (by rw [hparts]; rfl) (by simp [hparts]) (by simp)
  rw [← flag_of_faddr hfaddr] at hflag
  obtain ⟨hversion, hlocal, hremote⟩ := addrs_v6 acc.record id.body hflag
  apply identifies_of_addrs hlen hversion
  · rw [hlocal]
    apply fieldAt_of_bytes
    · rw [hlen]
      decide
    · exact congrArg IpAddr.v6 hladdr
  · rw [hremote]
    apply fieldAt_of_bytes
    · rw [hlen]
      decide
    · exact congrArg IpAddr.v6 hfaddr
  · exact id.bytesAt_body 4 (by rw [hparts]; rfl) (by simp [hparts]) rfl
  · exact id.bytesAt_body 5 (by rw [hparts]; rfl) (by simp [hparts]) rfl
  · exact id.bytesAt_body 7 (by rw [hparts]; rfl) (by simp [hparts]) rfl

end Body

/-! ### Identities that a body can carry -/

/-- A body of an IPv6 connection has the bit in the foreign address. -/
theorem flag_of_identifies {body : List UInt8} {acc : ConnectionAccumulator} {laddr faddr : Vector UInt8 16}
    {id : Identity} (hparse : ConnectionAccumulator.parseXinpcbN default body = .ok acc)
    (h : Identifies acc.record 6 (.v6 laddr.toList) (.v6 faddr.toList) id) : faddr[12] &&& INP_IPV6 ≠ 0 := by
  have hlen : XINPCB_N_INP_VFLAG_OFFSET < body.length := by
    by_contra hshort
    rw [ConnectionAccumulator.parseXinpcbN_short _ (Nat.not_lt.mp hshort), Except.ok.injEq] at hparse
    subst hparse
    have hnone : (none : Option UInt8) = some 6 := h.ipVersion
    simp at hnone
  rw [ConnectionAccumulator.parseXinpcbN_ok _ hlen, Except.ok.injEq] at hparse
  subst hparse
  have hversion : (ConnectionAccumulator.addrs default (u8At body 44) body).ipVersion = some 6 := h.ipVersion
  have hremote : (ConnectionAccumulator.addrs default (u8At body 44) body).remoteAddr = some (.v6 faddr.toList) :=
    h.remoteAddr
  have hsix : u8At body 44 &&& INP_IPV6 ≠ 0 := by
    by_contra hclear
    by_cases hfour : u8At body 44 &&& INP_IPV4 ≠ 0
    · rw [(addrs_v4 default body hclear hfour).1] at hversion
      exact absurd (Option.some.inj hversion) (by decide)
    · rw [ConnectionAccumulator.addrs, if_neg (not_not.mpr hclear), if_neg hfour] at hversion
      have hnone : (none : Option UInt8) = some 6 := hversion
      simp at hnone
  rw [(addrs_v6 default body hsix).2.2] at hremote
  have hbytes : bytesAt body 32 16 = faddr.toList := IpAddr.v6.inj (eq_of_fieldAt hremote)
  rwa [← flag_of_faddr hbytes]

/-- There is a body that gives a connection its identity just if it is an IPv4 connection, or the
thirteenth byte of its foreign address has the bit of the IPv6 flag. -/
theorem represents_iff (id : Identity) :
    (∃ body, ∀ acc : ConnectionAccumulator, ∃ acc', acc.parseXinpcbN body = .ok acc' ∧ id.Of acc'.record) ↔
      id.Representable := by
  have hparse : ∀ acc : ConnectionAccumulator, acc.parseXinpcbN id.body = .ok (acc.withXinpcbN id.body) := fun acc =>
    ConnectionAccumulator.parseXinpcbN_ok _ (by rw [id.length_body]; decide)
  rcases haddrs : id.addrs with ⟨laddr, faddr⟩ | ⟨laddr, faddr⟩
  · simp only [Identity.Of, Identity.Representable, haddrs, iff_true]
    exact ⟨id.body, fun acc => ⟨_, hparse acc, body_v4 acc haddrs⟩⟩
  · simp only [Identity.Of, Identity.Representable, haddrs]
    constructor
    · rintro ⟨body, hbody⟩
      obtain ⟨acc, hdefault, hid⟩ := hbody default
      exact flag_of_identifies hdefault hid
    · intro hflag
      exact ⟨id.body, fun acc => ⟨_, hparse acc, body_v6 acc haddrs hflag⟩⟩

/-- A connection between two global addresses. -/
def globalUnicast : Identity where
  addrs := .v6 #v[0x20, 0x01, 0x0D, 0xB8, 0, 0, 0, 0, 0, 0, 0, 0, 0, 0, 0, 1]
    #v[0x20, 0x01, 0x0D, 0xB8, 0, 0, 0, 0, 0, 0, 0, 0, 0, 0, 0, 2]
  lport := 443
  fport := 50000
  gencnt := 7

/-- No body carries it. -/
theorem globalUnicast_lost :
    ¬ ∃ body, ∀ acc : ConnectionAccumulator, ∃ acc', acc.parseXinpcbN body = .ok acc' ∧ globalUnicast.Of acc'.record := by
  rintro ⟨body, hbody⟩
  obtain ⟨acc, hparse, hid⟩ := hbody default
  exact flag_of_identifies hparse hid (by decide)

end TcpStats.Client.Macos
