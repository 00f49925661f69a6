import A2dp.Proofs.SinkSupport

/-!
# What a sink accepts is what it advertises

A profile has the stores of its sink's default and the octets that its sink accepts side by side,
written from the same constants but not one from the other. Here the answers of a sink are compared
with the buffer that those stores leave, bit field by bit field: a source is supported exactly when
each of its bit fields has a bit in common with the advertised capability, and a configuration when
it has one bit in each field and that one is advertised. Rate codes never decide, since the last one
of the table is advertised.
-/

namespace A2dp

/-- A field of bits in a capability, by its octet and the bits that are known. -/
structure BitField where
  octet : Nat
  known : UInt8
  deriving DecidableEq, Repr

def BitField.bits (field : BitField) (b : Octets) : UInt8 := b.getD field.octet 0 &&& field.known

namespace Codec

/-- The bit fields of a capability of the codec. -/
def bitFields : Codec → List BitField
  | .aptX | .aptXHD => [⟨9, 0x30⟩, ⟨9, 0x03⟩]
  | .ldac => [⟨9, 0x3F⟩, ⟨10, 0x07⟩]
  | .opus => [⟨9, 0x80⟩, ⟨9, 0x18⟩, ⟨9, 0x07⟩]
  | .lhdcV2 | .lhdcV3 => [⟨9, 0x0F⟩, ⟨9, 0x30⟩]
  | .lhdcV5 => [⟨9, 0x1E⟩, ⟨10, 0x07⟩]

/-- The octet whose two low bits are the rate code. -/
def rateCodeOctet? : Codec → Option Nat
  | .aptX | .aptXHD | .ldac | .opus => none
  | .lhdcV2 | .lhdcV3 => some 10
  | .lhdcV5 => some 11

end Codec

namespace Field

variable {field : Field} {reading : Reading} {offer x : UInt8}

/-- An offer with the last rate code of a table takes every rate code. -/
theorem suits_iff_of_rateCount_le (h : field.rateCount ≤ (offer &&& 3).toNat + 1) :
    field.Suits reading offer x ↔
      field.Admits reading x ∧ (field.isChoice = true → field.common offer x ≠ 0) := by
  cases field with
  | choice setting choices =>
    rw [suits_iff_of_isChoice rfl]
    simp only [Admits, isChoice, true_implies]
  | rateCode rates =>
    have hmeets : (rateCode rates).Admits reading x →
        ((rateCode rates).entry x).meets (offer &&& 3) = true := by
      intro hadmits
      have hlt := admits_rateCode_iff.mp hadmits
      have hle : (x &&& 3).toNat ≤ (offer &&& 3).toNat := by
        simp only [rateCount] at h
        omega
      exact decide_eq_true (UInt8.le_iff_toNat_le.mpr hle)
    simp only [isChoice, Bool.false_eq_true, false_implies, and_true]
    exact ⟨And.left, fun hadmits => ⟨hadmits, hmeets hadmits⟩⟩
  | version => simp [Suits, Admits, Entry.meets, entry, isChoice]
  | features table => simp [Suits, Admits, Entry.meets, entry, isChoice]
  | reserved => simp [Suits, Admits, Entry.meets, entry, isChoice]

private theorem suits_configuration_iff :
    field.Suits .configuration offer x ↔
      field.Suits .capability offer x ∧
        (field.isChoice = true → bitCount (x &&& field.known) = 1) := by
  by_cases hchoice : field.isChoice = true
  · rw [suits_iff_of_isChoice hchoice, suits_iff_of_isChoice hchoice]
    simp only [hchoice, true_implies]
    constructor
    · rintro ⟨hadmits, hcommon⟩
      exact ⟨⟨Reading.admits_capability hadmits, hcommon⟩, by simpa [Reading.admits] using hadmits⟩
    · rintro ⟨⟨-, hcommon⟩, hone⟩
      exact ⟨by simpa [Reading.admits] using hone, hcommon⟩
  · rw [suits_configuration_iff_of_not_isChoice (Bool.eq_false_iff.mpr hchoice)]
    exact ⟨fun hsuits => ⟨hsuits, fun h => absurd h hchoice⟩, And.left⟩

end Field

namespace Layout

variable {layout : Layout} {reading : Reading} {octets offer b d : Octets}

private theorem forall_getElem?_cons {P : Nat → List Field → Prop} {fields : List Field} :
    (∀ i : Nat, ∀ found ∈ (fields :: layout)[i]?, P i found) ↔
      P 0 fields ∧ ∀ i : Nat, ∀ found ∈ layout[i]?, P (i + 1) found := by
  constructor
  · intro hall
    exact ⟨hall 0 fields rfl, fun i => hall (i + 1)⟩
  · rintro ⟨hfirst, hrest⟩ (_ | i) found hfound
    · cases hfound
      exact hfirst
    · exact hrest i found hfound

private theorem forall_mem_zip_iff {P : List Field → UInt8 → Prop}
    (h : layout.length ≤ octets.length) :
    (∀ pair ∈ layout.zip octets, P pair.1 pair.2) ↔
      ∀ i : Nat, ∀ fields ∈ layout[i]?, P fields (octets.getD i 0) := by
  induction layout generalizing octets with
  | nil => simp
  | cons fields layout ih =>
    cases octets with
    | nil => simp at h
    | cons x octets =>
      rw [List.zip_cons_cons, List.forall_mem_cons, ih (Nat.le_of_succ_le_succ h),
        forall_getElem?_cons]
      exact Iff.rfl

theorem admits_iff_forall (h : layout.length ≤ octets.length) :
    layout.Admits reading octets ↔
      ∀ i : Nat, ∀ fields ∈ layout[i]?, ∀ field ∈ fields,
        field.Admits reading (octets.getD i 0) :=
  forall_mem_zip_iff (P := fun fields x => ∀ field ∈ fields, field.Admits reading x) h

private theorem suits_iff_forall (hoctets : layout.length ≤ octets.length)
    (hoffer : layout.length ≤ offer.length) :
    layout.Suits reading offer octets ↔
      ∀ i : Nat, ∀ fields ∈ layout[i]?, ∀ field ∈ fields,
        field.Suits reading (offer.getD i 0) (octets.getD i 0) := by
  induction layout generalizing octets offer with
  | nil => simp [Suits, admits_nil, entries, Settings.meets]
  | cons fields layout ih =>
    cases octets with
    | nil => simp at hoctets
    | cons x octets =>
      cases offer with
      | nil => simp at hoffer
      | cons q offer =>
        rw [suits_cons, ih (Nat.le_of_succ_le_succ hoctets) (Nat.le_of_succ_le_succ hoffer),
          forall_getElem?_cons]
        exact Iff.rfl

def bitFields (layout : Layout) : List BitField :=
  layout.zipIdx.flatMap fun row =>
    (row.1.filter Field.isChoice).map fun field => ⟨Header.size + row.2, field.known⟩

theorem forall_mem_bitFields_iff {P : BitField → Prop} :
    (∀ field ∈ layout.bitFields, P field) ↔
      ∀ i : Nat, ∀ fields ∈ layout[i]?, ∀ field ∈ fields, field.isChoice = true →
        P ⟨Header.size + i, field.known⟩ := by
  simp only [bitFields, List.mem_flatMap, List.mem_map, List.mem_filter, Prod.exists,
    List.mem_zipIdx_iff_getElem?]
  constructor
  · intro hall i fields hfields field hfield hchoice
    exact hall _ ⟨fields, i, hfields, field, ⟨hfield, hchoice⟩, rfl⟩
  · rintro hall _ ⟨fields, i, hfields, field, ⟨hfield, hchoice⟩, rfl⟩
    exact hall i fields hfields field hfield hchoice

/-- Every rate code of a table is at most the one that is offered. -/
def OffersAllRates (layout : Layout) (offer : Octets) : Prop :=
  ∀ pair ∈ layout.zip offer, ∀ field ∈ pair.1, field.rateCount ≤ (pair.2 &&& 3).toNat + 1

instance : Decidable (layout.OffersAllRates offer) :=
  inferInstanceAs (Decidable (∀ pair ∈ layout.zip offer, ∀ field ∈ pair.1,
    field.rateCount ≤ (pair.2 &&& 3).toNat + 1))

theorem OffersAllRates.rateCount_le (h : layout.OffersAllRates offer)
    (hlength : layout.length ≤ offer.length) {i : Nat} {fields : List Field}
    (hfields : fields ∈ layout[i]?) {field : Field} (hfield : field ∈ fields) :
    field.rateCount ≤ (offer.getD i 0 &&& 3).toNat + 1 := by
  have hall := (forall_mem_zip_iff (P := fun fields x => ∀ field ∈ fields,
    field.rateCount ≤ (x &&& 3).toNat + 1) hlength).mp h
  exact hall i fields hfields field hfield

section Buffers

variable (hb : Header.size + layout.length ≤ b.length) (hd : Header.size + layout.length ≤ d.length)
include hb hd

private theorem length_le_drop : layout.length ≤ (b.drop Header.size).length ∧
    layout.length ≤ (d.drop Header.size).length := by
  rw [List.length_drop, List.length_drop]
  omega

/-- A buffer suits an offer as a capability when every bit field has a bit in common with it. -/
theorem suits_capability_iff_bitFields (hrates : layout.OffersAllRates (d.drop Header.size)) :
    layout.Suits .capability (d.drop Header.size) (b.drop Header.size) ↔
      layout.Admits .capability (b.drop Header.size) ∧
        ∀ field ∈ layout.bitFields, field.bits b &&& field.bits d ≠ 0 := by
  obtain ⟨hlb, hld⟩ := length_le_drop hb hd
  have hcommon : ∀ (i : Nat) (field : Field),
      BitField.bits ⟨Header.size + i, field.known⟩ b &&&
        BitField.bits ⟨Header.size + i, field.known⟩ d =
      field.common ((d.drop Header.size).getD i 0) ((b.drop Header.size).getD i 0) := by
    intro i field
    rw [Octets.getD_drop, Octets.getD_drop]
    exact field.and_known_and_offer _ _
  rw [suits_iff_forall hlb hld, admits_iff_forall hlb, forall_mem_bitFields_iff]
  simp only [hcommon, ← forall_and]
  exact forall_congr' fun i => forall₂_congr fun fields hfields => forall₂_congr fun field hfield =>
    Field.suits_iff_of_rateCount_le (hrates.rateCount_le hld hfields hfield)

/-- It suits as a configuration when, moreover, every bit field has exactly one bit. -/
theorem suits_configuration_iff_bitFields :
    layout.Suits .configuration (d.drop Header.size) (b.drop Header.size) ↔
      layout.Suits .capability (d.drop Header.size) (b.drop Header.size) ∧
        ∀ field ∈ layout.bitFields, bitCount (field.bits b) = 1 := by
  obtain ⟨hlb, hld⟩ := length_le_drop hb hd
  rw [suits_iff_forall hlb hld, suits_iff_forall hlb hld, forall_mem_bitFields_iff]
  simp only [Field.suits_configuration_iff, Octets.getD_drop, forall_and]
  exact Iff.rfl

/-- No rate code that is admitted is above the one that is offered. -/
theorem rateCode_le (hrates : layout.OffersAllRates (d.drop Header.size))
    (hadmits : layout.Admits .capability (b.drop Header.size)) {i : Nat} {fields : List Field}
    (hfields : fields ∈ layout[i]?) {rates : List Nat} (hfield : .rateCode rates ∈ fields) :
    b.getD (Header.size + i) 0 &&& 3 ≤ d.getD (Header.size + i) 0 &&& 3 := by
  obtain ⟨hlb, hld⟩ := length_le_drop hb hd
  have hcode := Field.admits_rateCode_iff.mp
    ((admits_iff_forall hlb).mp hadmits i fields hfields _ hfield)
  have hcount := hrates.rateCount_le hld hfields hfield
  rw [Octets.getD_drop] at hcode hcount
  simp only [Field.rateCount] at hcount
  rw [UInt8.le_iff_toNat_le]
  omega

end Buffers

end Layout

namespace Codec

variable {c : Codec} {b d : Octets} {offer : Octets}

theorem bitFields_eq (c : Codec) : c.profile.layout.bitFields = c.bitFields := by
  cases c <;> rfl

private theorem exists_rateCode (c : Codec) {octet : Nat} (h : octet ∈ c.rateCodeOctet?) :
    ∃ i, ∃ fields ∈ c.profile.layout[i]?, ∃ rates, Field.rateCode rates ∈ fields ∧
      octet = Header.size + i := by
  cases c with
  | lhdcV2 => exact ⟨1, _, rfl, _, List.mem_singleton_self _, (Option.mem_some_iff.mp h).symm⟩
  | lhdcV3 => exact ⟨1, _, rfl, _, List.mem_singleton_self _, (Option.mem_some_iff.mp h).symm⟩
  | lhdcV5 => exact ⟨2, _, rfl, _, List.mem_singleton_self _, (Option.mem_some_iff.mp h).symm⟩
  | aptX => cases h
  | aptXHD => cases h
  | ldac => cases h
  | opus => cases h

private theorem offersAllRates_sinkOffer (c : Codec) :
    ∀ offer ∈ c.profile.offer .sink, c.profile.layout.OffersAllRates offer := by
  cases c <;> decide

section Announcement

variable (hoffer : c.profile.offer .sink = some offer)
include hoffer

private theorem lengths (hcheck : Header.check b c.profile.losc c.profile.key = .ok ()) :
    Header.size + c.profile.layout.length ≤ b.length ∧
      Header.size + c.profile.layout.length ≤ (c.profile.announcement offer).length := by
  refine ⟨Profile.length_of_check hcheck, ?_⟩
  apply Nat.le_of_eq
  rw [Profile.length_announcement, Profile.length_offer hoffer]

private theorem offersAllRates_announcement :
    c.profile.layout.OffersAllRates ((c.profile.announcement offer).drop Header.size) := by
  rw [Profile.drop_announcement]
  exact c.offersAllRates_sinkOffer offer hoffer

private theorem meetsSink_iff_suits_announcement {reading : Reading} :
    c.profile.meetsSink reading b = true ↔
      Header.check b c.profile.losc c.profile.key = .ok () ∧
        c.profile.layout.Suits reading ((c.profile.announcement offer).drop Header.size)
          (b.drop Header.size) := by
  rw [meetsSink_iff, hoffer, Profile.drop_announcement]
  simp only [Option.mem_some_iff, exists_eq_left']

private theorem meetsSink_capability_iff_bitFields :
    c.profile.meetsSink .capability b = true ↔
      c.profile.isValid b = true ∧
        ∀ field ∈ c.bitFields, field.bits b &&& field.bits (c.profile.announcement offer) ≠ 0 := by
  rw [meetsSink_iff_suits_announcement hoffer, Profile.isValid_iff, and_assoc, ← bitFields_eq]
  apply and_congr_right
  intro hcheck
  obtain ⟨hb, hd⟩ := lengths hoffer hcheck
  exact Layout.suits_capability_iff_bitFields hb hd (offersAllRates_announcement hoffer)

private theorem meetsSink_configuration_iff_bitFields :
    c.profile.meetsSink .configuration b = true ↔
      c.profile.meetsSink .capability b = true ∧
        ∀ field ∈ c.bitFields, bitCount (field.bits b) = 1 := by
  rw [meetsSink_iff_suits_announcement hoffer, meetsSink_iff_suits_announcement hoffer, and_assoc,
    ← bitFields_eq]
  apply and_congr_right
  intro hcheck
  obtain ⟨hb, hd⟩ := lengths hoffer hcheck
  exact Layout.suits_configuration_iff_bitFields hb hd

private theorem rateCode_le_announcement (hvalid : c.profile.isValid b = true) {octet : Nat}
    (hoctet : octet ∈ c.rateCodeOctet?) :
    b.getD octet 0 &&& 3 ≤ (c.profile.announcement offer).getD octet 0 &&& 3 := by
  obtain ⟨hcheck, hadmits⟩ := Profile.isValid_iff.mp hvalid
  obtain ⟨hb, hd⟩ := lengths hoffer hcheck
  obtain ⟨i, fields, hfields, rates, hfield, rfl⟩ := c.exists_rateCode hoctet
  exact Layout.rateCode_le hb hd (offersAllRates_announcement hoffer) hadmits hfields hfield

end Announcement

end Codec

namespace Registry

/-- A sink accepts what it advertises. Let `d` be the default capability of a sink index. A peer
source with the key of the index is supported exactly when it is valid and has a known bit in common
with `d` in each bit field, and a configuration exactly when it has one known bit in each, which is
then one of `d`. The rate code of a valid buffer is never above that of `d`. -/
theorem supported_iff_meets_advertised (scmsT : Bool) (c : Codec) (index : CodecIndex) (b : Octets)
    (hdirection : index.direction = .sink) (howner : index.owner = .vendor c.profile.key)
    (hkey : Header.key b = .ok c.profile.key) :
    let r := builtin scmsT
    ∃ e, (r.defaultEndpoint index).value = some e ∧
      let d := e.capability
      ((r.isPeerSourceSupported b).value = true ↔
        (r.isValidFor .peerSource b).value = true ∧
          ∀ field ∈ c.bitFields, field.bits b &&& field.bits d ≠ 0) ∧
      ((r.isLocalSinkSupported b).value = true ↔
        (r.isPeerSourceSupported b).value = true ∧
          ∀ field ∈ c.bitFields, bitCount (field.bits b) = 1) ∧
      ((r.isLocalSinkSupported b).value = true →
        ∀ field ∈ c.bitFields, field.bits b &&& field.bits d = field.bits b) ∧
      ∀ role, (r.isValidFor role b).value = true →
        ∀ octet ∈ c.rateCodeOctet?, b.getD octet 0 &&& 3 ≤ d.getD octet 0 &&& 3 := by
  intro r
  obtain ⟨offer, e, hoffer, hdefault, hcapability, -⟩ :=
    initialise_of_codec howner (resolve_builtin_key scmsT c)
  rw [hdirection] at hoffer
  have hrole : Role.peerSource ∈ c.playedRoles := (c.supports_iff_mem_playedRoles _).mp
    (c.profile.supports_sink.2.trans (Option.isSome_of_eq_some hoffer))
  have hvalid : (r.isValidFor .peerSource b).value = true ↔ c.profile.isValid b = true := by
    rw [isValidFor_builtin_iff_of_key hkey]
    exact and_iff_right hrole
  have hpeer := Codec.meetsSink_capability_iff_bitFields (b := b) hoffer
  have hlocal := Codec.meetsSink_configuration_iff_bitFields (b := b) hoffer
  refine ⟨e, hdefault, ?_⟩
  simp only [hcapability, hvalid, r, value_isPeerSourceSupported_of_key hkey,
    value_isLocalSinkSupported_of_key hkey]
  refine ⟨hpeer, hlocal, ?_, ?_⟩
  · intro hsupported field hfield
    obtain ⟨hmeets, hone⟩ := hlocal.mp hsupported
    exact Bits.part_of_bitCount (hone field hfield) ((hpeer.mp hmeets).2 field hfield)
  · intro role hrole octet hoctet
    exact Codec.rateCode_le_announcement hoffer ((isValidFor_builtin_iff_of_key hkey).mp hrole).2
      hoctet

/-- LHDC at 44.1 kHz in 16 and 24 bits is a supported source and no supported configuration; at
88.2 kHz, which the sink does not advertise, it is neither. -/
theorem supported_advertised_lhdcV3 :
    let source := [0x0B, 0x00, 0xFF, 0x3A, 0x05, 0x00, 0x00, 0x33, 0x4C, 0x38, 0x00, 0x00]
    let other := [0x0B, 0x00, 0xFF, 0x3A, 0x05, 0x00, 0x00, 0x33, 0x4C, 0x22, 0x00, 0x00]
    ((builtin.isPeerSourceSupported source).value = true ∧
      (builtin.isLocalSinkSupported source).value = false) ∧
    (builtin.isPeerSourceSupported other).value = false := by
  intro source other
  obtain ⟨e, he, hpeer, hlocal, -⟩ :=
    supported_iff_meets_advertised false .lhdcV3 .sinkLhdcV3 source rfl rfl rfl
  obtain ⟨e', he', hpeer', -⟩ :=
    supported_iff_meets_advertised false .lhdcV3 .sinkLhdcV3 other rfl rfl rfl
  cases he
  cases he'
  refine ⟨⟨hpeer.mpr ⟨by decide, by decide⟩, ?_⟩, ?_⟩
  · rw [Bool.eq_false_iff, ne_eq, hlocal]
    rintro ⟨-, hone⟩
    exact absurd (hone ⟨9, 0x30⟩ (by decide)) (by decide)
  · rw [Bool.eq_false_iff, ne_eq, hpeer']
    rintro ⟨-, hcommon⟩
    exact hcommon ⟨9, 0x0F⟩ (by decide) (by decide)

end Registry

end A2dp
