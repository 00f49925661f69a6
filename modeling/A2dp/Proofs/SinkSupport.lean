import A2dp.Proofs.DefaultEndpoint
import A2dp.Proofs.Selection
import Mathlib.Data.List.Forall2

/-!
# What a sink supports

A local sink supports a configuration that stays within its offer, and a peer source whose
capability has something in common with every choice of the offer. The two belong together: a source
is supported exactly when a supported configuration can be selected from its capability.
-/

namespace A2dp

namespace Entry

variable {entry other : Entry} {accepted : UInt8}

/-- The entry of an offer says what is accepted. Of a choice, only its own bits count: fields that
share an octet may be compared with the whole of it. -/
def Encodes (entry : Entry) (accepted : UInt8) : Prop :=
  entry.value = if entry.field.isChoice then accepted &&& entry.field.known else accepted

instance : Decidable (entry.Encodes accepted) :=
  inferInstanceAs (Decidable (entry.value = _))

private theorem meets_value (h : entry.Encodes accepted) (hfield : other.field = entry.field)
    (hpart : other.value &&& other.field.known = other.value) :
    other.meets accepted = other.meets entry.value := by
  obtain ⟨field, value⟩ := other
  obtain ⟨_, offered⟩ := entry
  obtain rfl := hfield
  cases field with
  | choice setting choices =>
    obtain rfl : offered = accepted &&& (Field.choice setting choices).known := h
    simp only [meets]
    rw [UInt8.and_comm accepted, ← UInt8.and_assoc, hpart]
  | rateCode rates =>
    obtain rfl : offered = accepted := h
    rfl
  | version => rfl
  | features table => rfl
  | reserved => rfl

end Entry

namespace Settings

/-- A sink may be asked with what it accepts or with what it offers. -/
theorem meets_values {offered settings : Settings} {accepted : List UInt8}
    (h : List.Forall₂ Entry.Encodes offered accepted)
    (hfields : settings.map Entry.field = offered.map Entry.field)
    (hparts : ∀ entry ∈ settings, entry.value &&& entry.field.known = entry.value) :
    settings.meets accepted = settings.meets (offered.map Entry.value) := by
  induction h generalizing settings with
  | nil => rfl
  | @cons entry x offered accepted hentry _ ih =>
    cases settings with
    | nil => rfl
    | cons other settings =>
      obtain ⟨hfield, hfields⟩ := List.cons.inj hfields
      have hhead := Entry.meets_value hentry hfield (hparts other List.mem_cons_self)
      have htail := ih hfields fun entry hmem => hparts entry (List.mem_cons_of_mem other hmem)
      simp only [meets, List.map_cons, List.zip_cons_cons, List.all_cons, hhead] at htail ⊢
      rw [htail]

end Settings

namespace Layout

variable {layout : Layout} {octets : Octets}

private theorem value_part_of_mem_entries {entry : Entry} (h : entry ∈ layout.entries octets) :
    entry.value &&& entry.field.known = entry.value := by
  obtain ⟨pair, -, field, -, rfl⟩ := mem_entries.mp h
  exact Bits.and_part_right pair.2 field.known

end Layout

namespace Codec

variable {c : Codec} {b narrow wide : Octets}

/-- The octets of a capability that hold choices. -/
def choiceOctets : Codec → List Nat
  | .aptX | .aptXHD | .opus | .lhdcV2 | .lhdcV3 => [9]
  | .ldac | .lhdcV5 => [9, 10]

theorem isSelectable_layout (c : Codec) : c.profile.layout.IsSelectable := by
  cases c <;> decide

theorem size_le_of_mem_choiceOctets (c : Codec) : ∀ i ∈ c.choiceOctets, Header.size ≤ i := by
  cases c <;> decide

private theorem size_add_mem_choiceOctets_iff (c : Codec) (i : Nat) :
    Header.size + i ∈ c.choiceOctets ↔ c.profile.layout.HasChoicesAt i := by
  by_cases hi : i < 5
  · have hsmall : ∀ i < 5, Header.size + i ∈ c.choiceOctets ↔
        ∃ fields ∈ c.profile.layout[i]?, fields.all Field.isChoice = true := by
      cases c <;> decide
    exact hsmall i hi
  · have hlength : c.profile.layout.length ≤ 5 := by cases c <;> decide
    have hplaces : ∀ j ∈ c.choiceOctets, j ≤ 10 := by cases c <;> decide
    constructor
    · intro hmem
      have hle := hplaces _ hmem
      simp only [Header.size] at hle
      omega
    · rintro ⟨fields, hfields, -⟩
      rw [List.getElem?_eq_none (by omega)] at hfields
      cases hfields

theorem narrows_of_body {body : Octets} (hsize : Header.size ≤ b.length)
    (h : Octets.Narrows c.profile.layout.HasChoicesAt body (b.drop Header.size)) :
    Octets.Narrows (· ∈ c.choiceOctets) (b.take Header.size ++ body) b := by
  have hnarrows : Octets.Narrows (· ∈ c.choiceOctets) (b.take Header.size ++ body)
      (b.take Header.size ++ b.drop Header.size) := by
    apply Octets.Narrows.append_left
    simpa only [List.length_take_of_le hsize, size_add_mem_choiceOctets_iff] using h
  rwa [List.take_append_drop] at hnarrows

theorem body_of_narrows (h : Octets.Narrows (· ∈ c.choiceOctets) narrow wide) :
    Octets.Narrows c.profile.layout.HasChoicesAt (narrow.drop Header.size)
      (wide.drop Header.size) := by
  simpa only [size_add_mem_choiceOctets_iff] using h.drop Header.size

/-- The default that a sink announces encodes, field by field, what it accepts. -/
theorem sinkOffer_encodes (c : Codec) : ∀ offer ∈ c.profile.offer .sink,
    ∀ accepted ∈ c.profile.accepted,
      List.Forall₂ Entry.Encodes (c.profile.layout.entries offer) accepted := by
  cases c <;> decide

private theorem length_layout_le_of_sinkOffer {offer : Octets} (h : offer ∈ c.profile.offer .sink) :
    c.profile.layout.length ≤ offer.length :=
  Nat.le_of_eq (Profile.length_offer h).symm

/-- What a sink accepts is asked of its offer instead. -/
theorem any_accepted_meets {octets : Octets} (h : c.profile.layout.length ≤ octets.length) :
    c.profile.accepted.any (fun accepted => (c.profile.layout.entries octets).meets accepted) =
      (c.profile.offer .sink).any fun offer =>
        (c.profile.layout.entries octets).meets (c.profile.layout.values offer) := by
  have hencodes := c.sinkOffer_encodes
  have hsome : (c.profile.offer .sink).isSome = c.profile.accepted.isSome := by
    rw [c.profile.accepted_isSome, Profile.offer, Option.isSome_map]
    rfl
  cases hoffer : c.profile.offer .sink with
  | none =>
    rw [hoffer, Option.isSome_none] at hsome
    rw [Option.isNone_iff_eq_none.mp (Option.isSome_eq_false_iff.mp hsome.symm)]
    rfl
  | some offer =>
    rw [hoffer, Option.isSome_some] at hsome
    obtain ⟨accepted, haccepted⟩ := Option.isSome_iff_exists.mp hsome.symm
    rw [haccepted, Option.any_some, Option.any_some]
    refine Settings.meets_values (hencodes offer hoffer accepted haccepted) ?_ fun _ hmem =>
      Layout.value_part_of_mem_entries hmem
    rw [Layout.map_field_entries h,
      Layout.map_field_entries (length_layout_le_of_sinkOffer hoffer)]

/-- A sink takes a buffer with the header of the codec whose octets suit its offer. -/
theorem meetsSink_iff {reading : Reading} :
    c.profile.meetsSink reading b = true ↔
      Header.check b c.profile.losc c.profile.key = .ok () ∧
        ∃ offer ∈ c.profile.offer .sink,
          c.profile.layout.Suits reading offer (b.drop Header.size) := by
  rw [Profile.meetsSink_eq_any]
  simp only [Option.any_eq_true, toOption_eq_some, Profile.read_eq_ok_iff,
    Layout.read_eq_ok_iff, Layout.Suits]
  constructor
  · rintro ⟨settings, ⟨hcheck, hadmits, rfl⟩, hmeets⟩
    have hlength := Profile.length_layout_le_of_check hcheck
    rw [← Option.any_eq_true, any_accepted_meets hlength, Option.any_eq_true] at hmeets
    obtain ⟨offer, hoffer, hmeets⟩ := hmeets
    exact ⟨hcheck, offer, hoffer, hadmits, hmeets⟩
  · rintro ⟨hcheck, offer, hoffer, hadmits, hmeets⟩
    have hlength := Profile.length_layout_le_of_check hcheck
    refine ⟨_, ⟨hcheck, hadmits, rfl⟩, ?_⟩
    rw [← Option.any_eq_true, any_accepted_meets hlength, Option.any_eq_true]
    exact ⟨offer, hoffer, hmeets⟩

private theorem meetsSink_capability_of_narrows
    (h : Octets.Narrows (· ∈ c.choiceOctets) narrow wide)
    (hmeets : c.profile.meetsSink .configuration narrow = true) :
    c.profile.meetsSink .capability wide = true := by
  obtain ⟨hcheck, offer, hoffer, hsuits⟩ := meetsSink_iff.mp hmeets
  have hagree := h.agree c.size_le_of_mem_choiceOctets
  rw [meetsSink_iff, ← hagree.check]
  exact ⟨hcheck, offer, hoffer, Layout.suits_of_narrows c.isSelectable_layout
    (length_layout_le_of_sinkOffer hoffer) (body_of_narrows h) hsuits⟩

/-- A sink takes a source exactly when it takes a configuration that is selected from it. -/
theorem meetsSink_capability_iff_exists :
    c.profile.meetsSink .capability b = true ↔
      ∃ s, Octets.Narrows (· ∈ c.choiceOctets) s b ∧
        c.profile.meetsSink .configuration s = true := by
  constructor
  · intro h
    obtain ⟨hcheck, offer, hoffer, hsuits⟩ := meetsSink_iff.mp h
    have hselected := Layout.suits_select c.isSelectable_layout
      (length_layout_le_of_sinkOffer hoffer) hsuits
    have hsize := Header.size_le_of_key (Header.check_eq_ok_iff.mp hcheck).2.2.2.2
    have hnarrows := narrows_of_body hsize (Layout.narrows_select c.profile.layout offer _)
    refine ⟨_, hnarrows, meetsSink_iff.mpr ⟨?_, offer, hoffer, ?_⟩⟩
    · rw [(hnarrows.agree c.size_le_of_mem_choiceOctets).check]
      exact hcheck
    · rw [List.drop_left' (List.length_take_of_le hsize)]
      exact hselected
  · rintro ⟨s, hnarrows, hmeets⟩
    exact meetsSink_capability_of_narrows hnarrows hmeets

private theorem supports_of_isSupported {role : Role} (h : c.profile.isSupported role b = true) :
    c.profile.roles.supports role = true := by
  have hsink : ∀ reading, c.profile.meetsSink reading b = true →
      (c.profile.offer .sink).isSome = true := by
    intro reading hmeets
    obtain ⟨-, offer, hoffer, -⟩ := meetsSink_iff.mp hmeets
    exact Option.isSome_of_mem hoffer
  cases role with
  | localSink => exact c.profile.supports_sink.1.trans (hsink _ h)
  | peerSource => exact c.profile.supports_sink.2.trans (hsink _ h)
  | localSource => cases h
  | peerSink => cases h

end Codec

namespace Registry

variable {scmsT : Bool} {c : Codec} {b : Octets}

private theorem value_askFor_isSupported (hkey : Header.key b = .ok c.profile.key) (role : Role) :
    ((builtin scmsT).askFor role b false fun family => family.isSupported role b).value =
      c.profile.isSupported role b := by
  have hfamily : (builtin scmsT).familyOf b = some (.codec c) := familyOf_builtin_of_key hkey
  by_cases hrole : c.profile.roles.supports role = true
  · exact value_askFor_of_family hfamily hrole _ _
  · have hfalse : c.profile.isSupported role b = false :=
      Bool.eq_false_iff.mpr fun h => hrole (Codec.supports_of_isSupported h)
    have hfamilyRole : ¬ (Family.codec c).roles.supports role = true := hrole
    rw [value_askFor, hfamily, hfalse]
    simp only [Option.filter, if_neg hfamilyRole, Option.elim_none]

theorem value_isLocalSinkSupported_of_key (hkey : Header.key b = .ok c.profile.key) :
    ((builtin scmsT).isLocalSinkSupported b).value = c.profile.meetsSink .configuration b :=
  value_askFor_isSupported hkey .localSink

theorem value_isPeerSourceSupported_of_key (hkey : Header.key b = .ok c.profile.key) :
    ((builtin scmsT).isPeerSourceSupported b).value = c.profile.meetsSink .capability b :=
  value_askFor_isSupported hkey .peerSource

/-- A peer source is supported exactly when clearing bits in the octets of choices can leave a
configuration that the local sink supports. So a source that offers more stays supported, and a
supported configuration is itself a supported source. -/
theorem isPeerSourceSupported_iff_exists_narrowing (scmsT : Bool) (c : Codec) (b : Octets)
    (hkey : Header.key b = .ok c.profile.key) :
    (((builtin scmsT).isPeerSourceSupported b).value = true ↔
      ∃ s, Octets.Narrows (· ∈ c.choiceOctets) s b ∧
        ((builtin scmsT).isLocalSinkSupported s).value = true) ∧
    (∀ wide, Octets.Narrows (· ∈ c.choiceOctets) b wide →
      ((builtin scmsT).isPeerSourceSupported b).value = true →
        ((builtin scmsT).isPeerSourceSupported wide).value = true) ∧
    (((builtin scmsT).isLocalSinkSupported b).value = true →
      ((builtin scmsT).isPeerSourceSupported b).value = true) := by
  have hkeyOf : ∀ {s t : Octets}, Octets.Narrows (· ∈ c.choiceOctets) s t →
      Header.key s = Header.key t := fun h => (h.agree c.size_le_of_mem_choiceOctets).key
  rw [value_isPeerSourceSupported_of_key hkey, value_isLocalSinkSupported_of_key hkey,
    Codec.meetsSink_capability_iff_exists]
  refine ⟨exists_congr fun s => and_congr_right fun hnarrows => ?_, ?_, ?_⟩
  · rw [value_isLocalSinkSupported_of_key ((hkeyOf hnarrows).trans hkey)]
  · rintro wide hwide ⟨s, hnarrows, hmeets⟩
    rw [value_isPeerSourceSupported_of_key ((hkeyOf hwide).symm.trans hkey),
      Codec.meetsSink_capability_iff_exists]
    exact ⟨s, hnarrows.trans hwide, hmeets⟩
  · intro hmeets
    exact ⟨b, .refl _ _, hmeets⟩

/-- Opus with all bits set can be decided; LDAC with only the two highest rates, which the sink does
not offer, cannot. -/
theorem exists_narrowing_opus_not_ldac :
    (∃ s, Octets.Narrows (· ∈ Codec.opus.choiceOctets) s
        [0x09, 0x00, 0xFF, 0xE0, 0x00, 0x00, 0x00, 0x01, 0x00, 0xFF] ∧
      ((builtin false).isLocalSinkSupported s).value = true) ∧
    ¬ ∃ s, Octets.Narrows (· ∈ Codec.ldac.choiceOctets) s
        [0x0A, 0x00, 0xFF, 0x2D, 0x01, 0x00, 0x00, 0xAA, 0x00, 0x03, 0x07] ∧
      ((builtin false).isLocalSinkSupported s).value = true := by
  constructor
  · exact (isPeerSourceSupported_iff_exists_narrowing false .opus _ rfl).1.mp (by decide)
  · rw [← (isPeerSourceSupported_iff_exists_narrowing false .ldac _ rfl).1]
    decide

end Registry

end A2dp
