import A2dp.Proofs.Capability
import A2dp.Proofs.Lookup

/-!
# The capability grammar

The buffers that are capabilities of a codec, written out octet by octet and without reference
to a layout: length octet, media type, codec type, identity, and the bits that each family asks
for. The builtin registry accepts exactly these buffers, each in the roles of its codec.
-/

namespace A2dp

namespace Codec

def announced : Codec → Nat
  | .aptX | .opus => 9
  | .ldac => 10
  | .lhdcV2 | .lhdcV3 => 11
  | .aptXHD | .lhdcV5 => 13

/-- The octets of the vendor's number, least significant first. -/
def vendorOctets : Codec → Octets
  | .aptX => [0x4F, 0x00, 0x00, 0x00]
  | .aptXHD => [0xD7, 0x00, 0x00, 0x00]
  | .ldac => [0x2D, 0x01, 0x00, 0x00]
  | .opus => [0xE0, 0x00, 0x00, 0x00]
  | .lhdcV2 | .lhdcV3 | .lhdcV5 => [0x3A, 0x05, 0x00, 0x00]

/-- The octets of the codec's number, least significant first. -/
def codecOctets : Codec → Octets
  | .aptX => [0x01, 0x00]
  | .aptXHD => [0x24, 0x00]
  | .ldac => [0xAA, 0x00]
  | .opus => [0x01, 0x00]
  | .lhdcV2 => [0x32, 0x4C]
  | .lhdcV3 => [0x33, 0x4C]
  | .lhdcV5 => [0x35, 0x4C]

/-- The octets behind the header of a capability: at least one bit of every choice, and a rate
code that is in the table. -/
def HasFields (b : Octets) : Codec → Prop
  | .aptX | .aptXHD => b.getD 9 0 &&& 0x30 ≠ 0 ∧ b.getD 9 0 &&& 0x03 ≠ 0
  | .ldac => b.getD 9 0 &&& 0x3F ≠ 0 ∧ b.getD 10 0 &&& 0x07 ≠ 0
  | .opus => b.getD 9 0 &&& 0x80 ≠ 0 ∧ b.getD 9 0 &&& 0x18 ≠ 0 ∧ b.getD 9 0 &&& 0x07 ≠ 0
  | .lhdcV2 | .lhdcV3 =>
    b.getD 9 0 &&& 0x0F ≠ 0 ∧ b.getD 9 0 &&& 0x30 ≠ 0 ∧ b.getD 10 0 &&& 0x03 ≠ 3
  | .lhdcV5 => b.getD 9 0 &&& 0x1E ≠ 0 ∧ b.getD 10 0 &&& 0x07 ≠ 0

structure IsCapability (c : Codec) (b : Octets) : Prop where
  losc : (b.getD 0 0).toNat = c.announced
  length : c.announced + 1 ≤ b.length
  media : b.getD 1 0 < 0x10
  type : b.getD 2 0 = 0xFF
  vendor : (b.drop 3).take 4 = c.vendorOctets
  codec : (b.drop 7).take 2 = c.codecOctets
  fields : c.HasFields b

def playedRoles : Codec → List Role
  | .aptX | .aptXHD | .lhdcV2 => [.localSource, .peerSink]
  | .ldac | .opus | .lhdcV3 | .lhdcV5 => [.localSource, .localSink, .peerSource, .peerSink]

theorem supports_iff_mem_playedRoles (c : Codec) (role : Role) :
    c.profile.roles.supports role = true ↔ role ∈ c.playedRoles := by
  cases c <;> cases role <;> decide

private theorem losc_eq_announced (c : Codec) : c.profile.losc.toNat = c.announced := by
  cases c <;> rfl

private theorem ofNat_vendorId (c : Codec) :
    Octets.ofNat 4 c.profile.key.vendorId.toNat = c.vendorOctets := by
  cases c <;> rfl

private theorem ofNat_codecId (c : Codec) :
    Octets.ofNat 2 c.profile.key.codecId.toNat = c.codecOctets := by
  cases c <;> rfl

end Codec

private theorem getElem?_eq_some_iff_getD {b : Octets} {i : Nat} (h : i < b.length) {x : UInt8} :
    b[i]? = some x ↔ b.getD i 0 = x := by
  rw [List.getD_eq_getElem?_getD, List.getElem?_eq_getElem h]
  simp

namespace Codec

/-- The header check of a codec, octet by octet. -/
theorem check_iff (c : Codec) (b : Octets) :
    Header.check b c.profile.losc c.profile.key = .ok () ↔
      (b.getD 0 0).toNat = c.announced ∧ c.announced + 1 ≤ b.length ∧ b.getD 1 0 < 0x10 ∧
        b.getD 2 0 = 0xFF ∧ (b.drop 3).take 4 = c.vendorOctets ∧
        (b.drop 7).take 2 = c.codecOctets := by
  have hnine : 9 ≤ c.announced := by cases c <;> decide
  rw [Header.check_eq_ok_iff, Header.key_eq_ok_iff, Header.vendorId_eq_ok_iff,
    Header.codecId_eq_ok_iff, losc_eq_announced, ofNat_vendorId, ofNat_codecId]
  by_cases hlength : c.announced + 1 ≤ b.length
  · have hat : ∀ {i : Nat} {x : UInt8}, i < 9 → (b[i]? = some x ↔ b.getD i 0 = x) := by
      intro i x hi
      exact getElem?_eq_some_iff_getD (by omega)
    have hlosc : b.getD 0 0 = c.profile.losc ↔ (b.getD 0 0).toNat = c.announced := by
      rw [← UInt8.toNat_inj, losc_eq_announced]
    have hseven : 7 ≤ b.length := by omega
    have hall : 9 ≤ b.length := by omega
    simp only [hat (show 0 < 9 by decide), hat (show 1 < 9 by decide), hat (show 2 < 9 by decide),
      hlosc, hlength, hseven, hall, exists_eq_left', true_and]
  · simp only [hlength, false_and, and_false]

private theorem and_three_toNat_lt_three_iff {octet : UInt8} :
    (octet &&& 3).toNat < 3 ↔ octet &&& 3 ≠ 3 := by
  have hle : (octet &&& 3).toNat ≤ 3 := by
    rw [UInt8.toNat_and]
    exact Nat.and_le_right
  have hthree : octet &&& 3 = 3 ↔ (octet &&& 3).toNat = 3 := by
    rw [← UInt8.toNat_inj]
    rfl
  rw [Ne, hthree]
  omega

private theorem admits_aptXSettings_iff {octet : UInt8} :
    (∀ field ∈ aptXSettings, field.Admits .capability octet) ↔
      octet &&& 0x30 ≠ 0 ∧ octet &&& 0x03 ≠ 0 := by
  simp only [aptXSettings, List.forall_mem_cons, List.not_mem_nil, false_implies, implies_true,
    and_true, Field.admits_choice_iff]
  exact Iff.rfl

private theorem admits_ldac_iff {x y : UInt8} {rest : Octets} :
    ldacProfile.layout.Admits .capability (x :: y :: rest) ↔
      x &&& 0x3F ≠ 0 ∧ y &&& 0x07 ≠ 0 := by
  simp only [ldacProfile, Layout.admits_cons, Layout.admits_nil, List.forall_mem_cons,
    List.not_mem_nil, false_implies, implies_true, and_true, Field.admits_choice_iff]
  exact Iff.rfl

private theorem admits_opus_iff {x : UInt8} {rest : Octets} :
    opusProfile.layout.Admits .capability (x :: rest) ↔
      x &&& 0x80 ≠ 0 ∧ x &&& 0x18 ≠ 0 ∧ x &&& 0x07 ≠ 0 := by
  simp only [opusProfile, Layout.admits_cons, Layout.admits_nil, List.forall_mem_cons,
    List.not_mem_nil, false_implies, implies_true, and_true, Field.admits_choice_iff]
  exact Iff.rfl

private theorem admits_lhdcV3_iff {x y z : UInt8} {rest : Octets} :
    lhdcV3Layout.Admits .capability (x :: y :: z :: rest) ↔
      x &&& 0x0F ≠ 0 ∧ x &&& 0x30 ≠ 0 ∧ y &&& 0x03 ≠ 3 := by
  simp only [lhdcV3Layout, lhdcFeatures, Layout.admits_cons, Layout.admits_nil,
    List.forall_mem_cons, List.not_mem_nil, false_implies, implies_true, and_true,
    Field.admits_choice_iff, Field.admits_rateCode_iff, Field.admits_features, and_assoc]
  rw [← and_three_toNat_lt_three_iff]
  exact Iff.rfl

private theorem admits_lhdcV5_iff {x y z u v : UInt8} {rest : Octets} :
    lhdcV5Profile.layout.Admits .capability (x :: y :: z :: u :: v :: rest) ↔
      x &&& 0x1E ≠ 0 ∧ y &&& 0x07 ≠ 0 := by
  have hcode : (z &&& 3).toNat < 4 := by
    rw [UInt8.toNat_and]
    exact Nat.lt_succ_of_le Nat.and_le_right
  simp only [lhdcV5Profile, lhdcFeatures, Layout.admits_cons, Layout.admits_nil,
    List.forall_mem_cons, List.not_mem_nil, false_implies, implies_true, and_true,
    Field.admits_choice_iff, Field.admits_rateCode_iff, Field.admits_features,
    Field.admits_version, List.length_cons, List.length_nil, hcode]
  exact Iff.rfl

theorem admits_iff_hasFields (c : Codec) (b : Octets) (hlength : c.announced + 1 ≤ b.length) :
    c.profile.layout.Admits .capability (b.drop Header.size) ↔ c.HasFields b := by
  have hdrop : ∀ i, i < c.announced + 1 → b.drop i = b.getD i 0 :: b.drop (i + 1) := by
    intro i hi
    exact Octets.drop_eq_getD_cons (by omega)
  rw [show Header.size = 9 from rfl, hdrop 9 (by cases c <;> decide)]
  cases c with
  | aptX =>
    exact Layout.admits_cons.trans (by simp only [admits_aptXSettings_iff, Layout.admits_nil,
      and_true, HasFields])
  | aptXHD =>
    rw [hdrop 10 (by decide), hdrop 11 (by decide), hdrop 12 (by decide), hdrop 13 (by decide)]
    simp only [profile, aptXHDProfile, Layout.admits_cons, Layout.admits_nil,
      admits_aptXSettings_iff, List.forall_mem_cons, List.not_mem_nil, false_implies,
      implies_true, Field.admits_reserved, and_true, HasFields]
  | ldac =>
    rw [hdrop 10 (by decide)]
    exact admits_ldac_iff
  | opus => exact admits_opus_iff
  | lhdcV2 =>
    rw [hdrop 10 (by decide), hdrop 11 (by decide)]
    exact admits_lhdcV3_iff
  | lhdcV3 =>
    rw [hdrop 10 (by decide), hdrop 11 (by decide)]
    exact admits_lhdcV3_iff
  | lhdcV5 =>
    rw [hdrop 10 (by decide), hdrop 11 (by decide), hdrop 12 (by decide), hdrop 13 (by decide)]
    exact admits_lhdcV5_iff

private theorem isValid_iff_isCapability (c : Codec) (b : Octets) :
    c.profile.isValid b = true ↔ c.IsCapability b := by
  rw [Profile.isValid_iff, check_iff]
  constructor
  · intro ⟨⟨hlosc, hlength, hmedia, htype, hvendor, hcodec⟩, hadmits⟩
    exact ⟨hlosc, hlength, hmedia, htype, hvendor, hcodec,
      (admits_iff_hasFields c b hlength).mp hadmits⟩
  · intro h
    exact ⟨⟨h.losc, h.length, h.media, h.type, h.vendor, h.codec⟩,
      (admits_iff_hasFields c b h.length).mpr h.fields⟩

theorem IsCapability.key {c : Codec} {b : Octets} (h : c.IsCapability b) :
    Header.key b = .ok c.profile.key := by
  have hcheck := (check_iff c b).mpr ⟨h.losc, h.length, h.media, h.type, h.vendor, h.codec⟩
  exact (Header.check_eq_ok_iff.mp hcheck).2.2.2.2

end Codec

/-- The builtin registry accepts a buffer in a role exactly when it is a capability of a codec
with that role, and a buffer is a capability of at most one codec. -/
theorem Registry.isValidFor_builtin_iff_grammar (scmsT : Bool) (role : Role) (b : Octets) :
    (((builtin scmsT).isValidFor role b).value = true ↔
      ∃ c : Codec, role ∈ c.playedRoles ∧ c.IsCapability b) ∧
    ∀ c d : Codec, c.IsCapability b → d.IsCapability b → c = d := by
  constructor
  · rw [isValidFor_iff]
    constructor
    · intro ⟨family, hfamily, hrole, hvalid⟩
      obtain ⟨c, hc, -⟩ := familyOf_builtin_eq_some_iff.mp hfamily
      subst hc
      exact ⟨c, (c.supports_iff_mem_playedRoles role).mp hrole,
        (c.isValid_iff_isCapability b).mp hvalid⟩
    · intro ⟨c, hrole, hcapability⟩
      exact ⟨.codec c, familyOf_builtin_eq_some_iff.mpr ⟨c, rfl, hcapability.key⟩,
        (c.supports_iff_mem_playedRoles role).mpr hrole,
        (c.isValid_iff_isCapability b).mpr hcapability⟩
  · intro c d hc hd
    have hkey : Except.ok c.profile.key = Except.ok d.profile.key := hc.key.symm.trans hd.key
    exact Codec.eq_of_key_eq (Except.ok.inj hkey)

end A2dp
