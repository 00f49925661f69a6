import A2dp.Proofs.Preservation

/-!
# The adjusted form as a canonical form

Capabilities with one key say the same exactly when their adjusted forms announce the same octets
and their reserved octets agree as they stand: these count in a comparison although adjusting clears
them. So a capability says the same as its adjusted form unless there is something in a reserved
octet.
-/

namespace A2dp

/-- The octets behind the header up to the last one that the length octet announces. -/
def Header.body (b : Octets) : Octets := (b.take ((b.headD 0).toNat + 1)).drop size

private theorem Profile.body_of_check {p : Profile} {b : Octets}
    (h : Header.check b p.losc p.key = .ok ()) :
    Header.body b = (b.drop Header.size).take p.layout.length := by
  have hlosc : b.headD 0 = p.losc := by
    have hfirst := (Header.check_eq_ok_iff.mp h).2.1
    rw [List.headD_eq_head?_getD, List.head?_eq_getElem?, hfirst]
    rfl
  have hsize : 8 + p.layout.length + 1 - Header.size = p.layout.length := by
    simp only [Header.size]
    omega
  rw [Header.body, hlosc, p.losc_toNat, List.drop_take, hsize]

namespace Layout

variable {layout : Layout} {octets other : Octets}

/-- The octets that have a reserved field. -/
def reservedOctets (layout : Layout) (octets : Octets) : Octets :=
  ((layout.zip octets).filter fun pair => pair.1.contains .reserved).map Prod.snd

private theorem reservedOctets_eq_nil (h : ∀ fields ∈ layout, .reserved ∉ fields)
    (octets : Octets) : layout.reservedOctets octets = [] := by
  unfold reservedOctets
  rw [List.map_eq_nil_iff, List.filter_eq_nil_iff]
  intro pair hpair
  simpa using h pair.1 (List.of_mem_zip hpair).1

private theorem entry_reserved (x : UInt8) : Field.reserved.entry x = ⟨.reserved, x⟩ :=
  congrArg (Entry.mk .reserved) UInt8.and_neg_one

private theorem map_entry_eq_iff {fields : List Field} {x y : UInt8} :
    fields.map (fun field => field.entry x) = fields.map (fun field => field.entry y) ↔
      fields.map (fun field => (field.entry x).cleared) =
        fields.map (fun field => (field.entry y).cleared) ∧ (.reserved ∈ fields → x = y) := by
  simp only [List.map_inj_left]
  constructor
  · intro h
    refine ⟨fun field hfield => congrArg Entry.cleared (h field hfield), ?_⟩
    intro hreserved
    have hentry := h .reserved hreserved
    rw [entry_reserved, entry_reserved] at hentry
    exact congrArg Entry.value hentry
  · intro ⟨hcleared, hreserved⟩ field hfield
    -- a reserved octet is compared as a whole, and clearing leaves other fields alone
    by_cases hfieldReserved : field = .reserved
    · subst hfieldReserved
      rw [hreserved hfield]
    · have hself : ∀ z, (field.entry z).cleared = field.entry z := fun z =>
        Entry.cleared_eq_self hfieldReserved
      rw [← hself x, ← hself y]
      exact hcleared field hfield

private theorem entries_eq_iff (hlength : layout.length ≤ octets.length)
    (hother : layout.length ≤ other.length) :
    layout.entries octets = layout.entries other ↔
      (layout.entries octets).cleared = (layout.entries other).cleared ∧
        layout.reservedOctets octets = layout.reservedOctets other := by
  induction layout generalizing octets other with
  | nil => simp [entries, reservedOctets]
  | cons fields layout ih =>
    cases octets with
    | nil => simp at hlength
    | cons x octets =>
      cases other with
      | nil => simp at hother
      | cons y other =>
        have htail := ih (Nat.le_of_succ_le_succ hlength) (Nat.le_of_succ_le_succ hother)
        have hreserved : reservedOctets (fields :: layout) (x :: octets) =
            reservedOctets (fields :: layout) (y :: other) ↔
              (.reserved ∈ fields → x = y) ∧
                reservedOctets layout octets = reservedOctets layout other := by
          by_cases hmem : .reserved ∈ fields
          · simp [reservedOctets, hmem]
          · simp [reservedOctets, hmem]
        rw [cleared_entries_cons, cleared_entries_cons, entries_cons, entries_cons,
          map_append_eq_iff, map_append_eq_iff, map_entry_eq_iff, htail, hreserved]
        exact and_and_and_comm

end Layout

namespace Codec

variable {a b : Octets}

private theorem drop_header (h : 14 ≤ b.length) :
    b.drop Header.size = b.getD 9 0 :: b.getD 10 0 :: b.getD 11 0 :: b.getD 12 0 ::
      b.getD 13 0 :: b.drop 14 := by
  rw [show Header.size = 9 from rfl, Octets.drop_eq_getD_cons (by omega),
    Octets.drop_eq_getD_cons (by omega), Octets.drop_eq_getD_cons (by omega),
    Octets.drop_eq_getD_cons (by omega), Octets.drop_eq_getD_cons (by omega)]

private theorem reservedOctets_eq_iff (c : Codec) (ha : c.announced + 1 ≤ a.length)
    (hb : c.announced + 1 ≤ b.length) :
    c.profile.layout.reservedOctets (a.drop Header.size) =
        c.profile.layout.reservedOctets (b.drop Header.size) ↔
      (c = .aptXHD → (a.drop 10).take 4 = (b.drop 10).take 4) := by
  by_cases hc : c = .aptXHD
  · subst hc
    have hoctets : ∀ {d : Octets}, 14 ≤ d.length →
        aptXHDProfile.layout.reservedOctets (d.drop Header.size) = (d.drop 10).take 4 := by
      intro d hd
      have hten : d.drop 10 = (d.drop Header.size).drop 1 := by rw [List.drop_drop]; rfl
      rw [hten, drop_header hd]
      rfl
    simp only [profile, hoctets ha, hoctets hb, true_implies]
  · have hnone : ∀ fields ∈ c.profile.layout, .reserved ∉ fields := by
      cases c with
      | aptXHD => exact absurd rfl hc
      | aptX => decide
      | ldac => decide
      | opus => decide
      | lhdcV2 => decide
      | lhdcV3 => decide
      | lhdcV5 => decide
    simp only [Layout.reservedOctets_eq_nil hnone, hc, false_implies]

private theorem reserved_adjust (h : Header.check b aptXHDProfile.losc aptXHDProfile.key = .ok ()) :
    ((aptXHDProfile.adjust b).2.drop 10).take 4 = List.replicate 4 0 := by
  have hlength : 14 ≤ b.length := Profile.length_of_check h
  have hdrop : (aptXHDProfile.adjust b).2.drop 10 =
      ((aptXHDProfile.adjust b).2.drop Header.size).drop 1 := by
    rw [List.drop_drop]
    rfl
  have hzero : ∀ x, (Layout.normalOctet [.reserved] x).2 = 0 := by
    intro x
    exact UInt8.and_zero
  rw [hdrop, Profile.drop_adjust h, drop_header hlength]
  simp only [aptXHDProfile, Layout.normalise, hzero, List.drop_succ_cons, List.drop_zero,
    List.take_succ_cons, List.take_zero]
  rfl

end Codec

namespace Registry

variable {scmsT : Bool} {a b : Octets}

theorem configEquals_builtin_iff_of_key {c : Codec} (ha : Header.key a = .ok c.profile.key)
    (hb : Header.key b = .ok c.profile.key) (hva : c.profile.isValid a = true)
    (hvb : c.profile.isValid b = true) :
    ((builtin scmsT).configEquals a b).value = true ↔
      c.profile.layout.entries (a.drop Header.size) =
        c.profile.layout.entries (b.drop Header.size) := by
  have hstated : ∀ {d : Octets}, Header.key d = .ok c.profile.key → c.profile.isValid d = true →
      (builtin scmsT).Says c (c.profile.layout.entries (d.drop Header.size)) d :=
    fun hkey hvalid => ⟨familyOf_builtin_of_key hkey, Profile.read_of_isValid hvalid⟩
  rw [configEquals_iff]
  constructor
  · intro ⟨d, s, hsa, hsb⟩
    rw [← (hsa.unique (hstated ha hva)).2, ← (hsb.unique (hstated hb hvb)).2]
  · intro heq
    exact ⟨c, _, hstated ha hva, heq ▸ hstated hb hvb⟩

private theorem configEquals_iff_body_adjust_eq {c : Codec} (ha : Header.key a = .ok c.profile.key)
    (hb : Header.key b = .ok c.profile.key) (hva : c.profile.isValid a = true)
    (hvb : c.profile.isValid b = true) :
    ((builtin scmsT).configEquals a b).value = true ↔
      Header.body ((builtin scmsT).adjust a).value.2 =
          Header.body ((builtin scmsT).adjust b).value.2 ∧
        (c = .aptXHD → (a.drop 10).take 4 = (b.drop 10).take 4) := by
  obtain ⟨hca, hadmitsa⟩ := Profile.isValid_iff.mp hva
  obtain ⟨hcb, hadmitsb⟩ := Profile.isValid_iff.mp hvb
  have hlengtha := Profile.length_layout_le_of_check hca
  have hlengthb := Profile.length_layout_le_of_check hcb
  have hbody : ∀ {d : Octets}, Header.key d = .ok c.profile.key →
      Header.check d c.profile.losc c.profile.key = .ok () →
      Header.body ((builtin scmsT).adjust d).value.2 =
        (c.profile.layout.normalise (d.drop Header.size)).2.take c.profile.layout.length := by
    intro d hkey hd
    have hcheck := (c.profile.check_adjust d).trans hd
    rw [value_adjust_builtin_of_key hkey, Profile.body_of_check hcheck, Profile.drop_adjust hd]
  rw [configEquals_builtin_iff_of_key ha hb hva hvb,
    Layout.entries_eq_iff hlengtha hlengthb, hbody ha hca, hbody hb hcb,
    Layout.take_normalise_eq_iff c.isTidy_layout hadmitsa hadmitsb hlengtha hlengthb,
    c.reservedOctets_eq_iff ((Codec.check_iff c a).mp hca).2.1 ((Codec.check_iff c b).mp hcb).2.1]

private theorem configEquals_adjust_iff {c : Codec} (ha : Header.key a = .ok c.profile.key)
    (hva : c.profile.isValid a = true) :
    ((builtin scmsT).configEquals a ((builtin scmsT).adjust a).value.2).value = true ↔
      (c = .aptXHD → ∀ x ∈ (a.drop 10).take 4, x = 0) := by
  have hadjust : ((builtin scmsT).adjust a).value = c.profile.adjust a :=
    value_adjust_builtin_of_key ha
  have hkey : Header.key (c.profile.adjust a).2 = .ok c.profile.key :=
    (c.profile.agree_adjust a).key.trans ha
  have hagain : ((builtin scmsT).adjust (c.profile.adjust a).2).value.2 =
      (c.profile.adjust a).2 := by
    rw [value_adjust_builtin_of_key hkey, c.profile.adjust_adjust]
  have hvalid := Profile.isValid_adjust c.isTidy_layout hva
  have hcheck := (Profile.isValid_iff.mp hva).1
  rw [hadjust, configEquals_iff_body_adjust_eq ha hkey hva hvalid, hagain, hadjust]
  simp only [true_and]
  apply imp_congr_right
  intro hc
  subst hc
  have hfour : ((a.drop 10).take 4).length = 4 :=
    Octets.length_take_drop (Profile.length_of_check hcheck)
  rw [show (Codec.aptXHD.profile.adjust a).2 = (Codec.aptXHDProfile.adjust a).2 from rfl,
    Codec.reserved_adjust hcheck, List.eq_replicate_iff]
  simp only [hfour, true_and]

/-- Adjusting computes a canonical form: capabilities with one key say the same exactly when the
octets that their adjusted forms announce behind the header agree, where for aptX-HD the reserved
octets have to agree as they stand. So a capability says the same as its adjusted form except if it
is one of aptX-HD with something in a reserved octet. -/
theorem adjust_canonical_for_configEquals (scmsT : Bool) (a : Octets)
    (ha : ((builtin scmsT).isValidFor .localSource a).value = true) :
    let r := builtin scmsT
    let adjusted := fun b : Octets => (r.adjust b).value.2
    (∀ b, (r.isValidFor .localSource b).value = true → Header.key a = Header.key b →
      ((r.configEquals a b).value = true ↔
        Header.body (adjusted a) = Header.body (adjusted b) ∧
          (Header.key a = .ok .aptXHD → (a.drop 10).take 4 = (b.drop 10).take 4))) ∧
    ((r.configEquals a (adjusted a)).value = true ↔
      ¬ (Header.key a = .ok .aptXHD ∧ ∃ x ∈ (a.drop 10).take 4, x ≠ 0)) := by
  intro r adjusted
  obtain ⟨family, hfamily, -⟩ := isValidFor_iff.mp ha
  obtain ⟨c, -, hc⟩ := familyOf_builtin_eq_some_iff.mp hfamily
  have hva := ((isValidFor_builtin_iff_of_key hc).mp ha).2
  have hcodec : Header.key a = .ok .aptXHD ↔ c = .aptXHD := by
    rw [hc]
    constructor
    · intro h
      exact Codec.eq_of_key_eq (Except.ok.inj h)
    · intro h
      rw [h]
      rfl
  refine ⟨?_, ?_⟩
  · intro b hb hkey
    rw [hc] at hkey
    have hvb := ((isValidFor_builtin_iff_of_key hkey.symm).mp hb).2
    rw [hcodec]
    exact configEquals_iff_body_adjust_eq hc hkey.symm hva hvb
  · rw [configEquals_adjust_iff hc hva, hcodec]
    simp only [not_and, not_exists, ne_eq, Classical.not_not]

theorem not_configEquals_adjust_reserved_aptXHD :
    let a := [0x0D, 0x00, 0xFF, 0xD7, 0x00, 0x00, 0x00, 0x24, 0x00, 0xF2, 0x00, 0x01, 0x00, 0x00]
    (builtin.isValidFor .localSource a).value = true ∧
      (builtin.configEquals a (builtin.adjust a).value.2).value = false := by
  have hvalid : (builtin.isValidFor .localSource
      [0x0D, 0x00, 0xFF, 0xD7, 0x00, 0x00, 0x00, 0x24, 0x00, 0xF2, 0x00, 0x01, 0x00, 0x00]).value =
        true := by
    decide
  refine ⟨hvalid, ?_⟩
  rw [Bool.eq_false_iff, ne_eq, (adjust_canonical_for_configEquals false _ hvalid).2,
    Classical.not_not]
  exact ⟨rfl, 0x01, by decide, by decide⟩

end Registry

end A2dp
