import A2dp.Proofs.Adjustment
import A2dp.Proofs.Answers
import A2dp.Proofs.Grammar
import A2dp.Proofs.NormalReading

/-!
# Adjusting keeps the meaning

A capability and its adjusted form have the same answers. A buffer that is no capability stays none,
unless it belongs to the second or third version of LHDC and its rate code is the only fault: that
code is lowered to the highest one there is.
-/

namespace A2dp

theorem Codec.isTidy_layout (c : Codec) : c.profile.layout.IsTidy := by
  cases c <;> decide

namespace Profile

variable {p : Profile} {b : Octets}

theorem check_adjust (p : Profile) (b : Octets) :
    Header.check (p.adjust b).2 p.losc p.key = Header.check b p.losc p.key :=
  (p.agree_adjust b).check p.losc p.key

private theorem isValid_adjust_iff (htidy : p.layout.IsTidy) :
    p.isValid (p.adjust b).2 = true ↔
      Header.check b p.losc p.key = .ok () ∧ p.layout.AdmitsChoices (b.drop Header.size) := by
  rw [isValid_iff, check_adjust]
  apply and_congr_right
  intro hcheck
  rw [drop_adjust hcheck]
  exact Layout.admits_normalise_iff htidy p.rateCount_le

theorem isValid_adjust (htidy : p.layout.IsTidy) (h : p.isValid b = true) :
    p.isValid (p.adjust b).2 = true := by
  obtain ⟨hcheck, hadmits⟩ := isValid_iff.mp h
  exact (isValid_adjust_iff htidy).mpr
    ⟨hcheck, fun pair hpair field hfield => .inl (hadmits pair hpair field hfield)⟩

theorem read_of_isValid (h : p.isValid b = true) :
    p.read .capability b = .ok (p.layout.entries (b.drop Header.size)) := by
  obtain ⟨hcheck, hadmits⟩ := isValid_iff.mp h
  exact read_eq_ok_iff.mpr ⟨hcheck, Layout.read_eq_ok_iff.mpr ⟨hadmits, rfl⟩⟩

/-- The adjusted capability says what the capability says, reserved octets apart. -/
theorem cleared_read_adjust (htidy : p.layout.IsTidy) (h : p.isValid b = true) :
    (p.read .capability (p.adjust b).2).map Settings.cleared =
      (p.read .capability b).map Settings.cleared := by
  obtain ⟨hcheck, hadmits⟩ := isValid_iff.mp h
  rw [read_of_isValid h, read_of_isValid (isValid_adjust htidy h), drop_adjust hcheck]
  exact congrArg Except.ok (Layout.cleared_entries_normalise htidy hadmits)

end Profile

namespace Codec

/-- A capability of the second or third version of LHDC but for the rate code, which is not in the
table. -/
structure HasHighRateCode (c : Codec) (b : Octets) : Prop where
  version : c = .lhdcV2 ∨ c = .lhdcV3
  check : Header.check b c.profile.losc c.profile.key = .ok ()
  sampleRate : b.getD 9 0 &&& 0x0F ≠ 0
  bitDepth : b.getD 9 0 &&& 0x30 ≠ 0
  rateCode : b.getD 10 0 &&& 0x03 = 3

private theorem admitsChoices_lhdcV3_iff {x y z : UInt8} {rest : Octets} :
    lhdcV3Layout.AdmitsChoices (x :: y :: z :: rest) ↔ x &&& 0x0F ≠ 0 ∧ x &&& 0x30 ≠ 0 := by
  simp only [lhdcV3Layout, lhdcFeatures, Layout.admitsChoices_cons, Layout.admitsChoices_nil,
    List.forall_mem_cons, List.not_mem_nil, false_implies, implies_true, and_true,
    Field.admits_choice_iff, Field.admits_features, Field.rateCount, Nat.lt_irrefl, or_false,
    List.length_cons, Nat.zero_lt_succ, or_true]
  exact Iff.rfl

private theorem layout_and_announced {c : Codec} (h : c = .lhdcV2 ∨ c = .lhdcV3) :
    c.profile.layout = lhdcV3Layout ∧ c.announced = 11 := by
  rcases h with rfl | rfl
  · exact ⟨rfl, rfl⟩
  · exact ⟨rfl, rfl⟩

/-- Of the seven layouts only one has a table that leaves a rate code out. -/
theorem admitsChoices_iff (c : Codec) (b : Octets) (hlength : c.announced + 1 ≤ b.length) :
    c.profile.layout.AdmitsChoices (b.drop Header.size) ↔
      c.HasFields b ∨ (c = .lhdcV2 ∨ c = .lhdcV3) ∧ b.getD 9 0 &&& 0x0F ≠ 0 ∧
        b.getD 9 0 &&& 0x30 ≠ 0 ∧ b.getD 10 0 &&& 0x03 = 3 := by
  by_cases hversion : c = .lhdcV2 ∨ c = .lhdcV3
  · obtain ⟨hlayout, hannounced⟩ := layout_and_announced hversion
    have hfields : c.HasFields b ↔ b.getD 9 0 &&& 0x0F ≠ 0 ∧ b.getD 9 0 &&& 0x30 ≠ 0 ∧
        b.getD 10 0 &&& 0x03 ≠ 3 := by
      rcases hversion with rfl | rfl <;> exact Iff.rfl
    rw [hlayout, hfields, show Header.size = 9 from rfl,
      Octets.drop_eq_getD_cons (by omega), Octets.drop_eq_getD_cons (by omega),
      Octets.drop_eq_getD_cons (by omega), admitsChoices_lhdcV3_iff]
    simp only [hversion, true_and]
    by_cases hcode : b.getD 10 0 &&& 0x03 = 3
    · simp only [hcode, ne_eq, not_true_eq_false, and_false, and_true, false_or]
    · simp only [hcode, ne_eq, not_false_eq_true, and_false, and_true, or_false]
  · have htables : ∀ fields ∈ c.profile.layout, ∀ field ∈ fields,
        field.rateCount = 0 ∨ field.rateCount = 4 := by
      cases c with
      | lhdcV2 => simp at hversion
      | lhdcV3 => simp at hversion
      | aptX => decide
      | aptXHD => decide
      | ldac => decide
      | opus => decide
      | lhdcV5 => decide
    rw [Layout.admitsChoices_iff_admits htables, admits_iff_hasFields c b hlength]
    simp only [hversion, false_and, or_false]

/-- Adjusting makes a capability of a buffer only by lowering a rate code. -/
theorem isValid_adjust_iff (c : Codec) (b : Octets) :
    c.profile.isValid (c.profile.adjust b).2 = true ↔
      c.profile.isValid b = true ∨ c.HasHighRateCode b := by
  rw [Profile.isValid_adjust_iff c.isTidy_layout, Profile.isValid_iff]
  constructor
  · intro ⟨hcheck, hchoices⟩
    have hlength := ((check_iff c b).mp hcheck).2.1
    rcases (admitsChoices_iff c b hlength).mp hchoices with hfields | ⟨hv, hrate, hdepth, hcode⟩
    · exact .inl ⟨hcheck, (admits_iff_hasFields c b hlength).mpr hfields⟩
    · exact .inr ⟨hv, hcheck, hrate, hdepth, hcode⟩
  · intro h
    rcases h with ⟨hcheck, hadmits⟩ | hhigh
    · have hlength := ((check_iff c b).mp hcheck).2.1
      exact ⟨hcheck, (admitsChoices_iff c b hlength).mpr
        (.inl ((admits_iff_hasFields c b hlength).mp hadmits))⟩
    · have hlength := ((check_iff c b).mp hhigh.check).2.1
      exact ⟨hhigh.check, (admitsChoices_iff c b hlength).mpr
        (.inr ⟨hhigh.version, hhigh.sampleRate, hhigh.bitDepth, hhigh.rateCode⟩)⟩

namespace HasHighRateCode

variable {c : Codec} {b : Octets}

theorem key (h : c.HasHighRateCode b) : Header.key b = .ok c.profile.key :=
  (Header.check_eq_ok_iff.mp h.check).2.2.2.2

private theorem not_isValid (h : c.HasHighRateCode b) : c.profile.isValid b = false := by
  have hlength := ((check_iff c b).mp h.check).2.1
  rw [Bool.eq_false_iff, ne_eq, Profile.isValid_iff, admits_iff_hasFields c b hlength]
  intro ⟨_, hfields⟩
  rcases h.version with rfl | rfl
  · exact hfields.2.2 h.rateCode
  · exact hfields.2.2 h.rateCode

private theorem rateCode_adjust (h : c.HasHighRateCode b) :
    (c.profile.adjust b).2.getD 10 0 &&& 0x03 = 2 := by
  obtain ⟨hlayout, hannounced⟩ := layout_and_announced h.version
  have hlength := ((check_iff c b).mp h.check).2.1
  rw [show 10 = Header.size + 1 from rfl, ← Octets.getD_drop, Profile.drop_adjust h.check, hlayout,
    show Header.size = 9 from rfl, Octets.drop_eq_getD_cons (by omega),
    Octets.drop_eq_getD_cons (by omega)]
  have hlowered :
      (Layout.normalOctet [.rateCode [400000, 500000, 900000]] (b.getD 10 0)).2 = 2 := by
    simp only [Layout.normalOctet, Layout.keptBits_rateCode, h.rateCode]
    rfl
  exact congrArg (· &&& 0x03) hlowered

end HasHighRateCode

end Codec

namespace Registry

variable {r : Registry} {scmsT : Bool} {role : Role} {b : Octets}

private theorem answers_adjust (h : (r.isValidFor role b).value = true) :
    r.answers (r.adjust b).value.2 = r.answers b := by
  obtain ⟨family, hfamily, -, hvalid⟩ := isValidFor_iff.mp h
  have hagree := (r.isAdjustment_adjust b).agree
  apply answers_congr hagree.codecType hagree.vendorId hagree.codecId
  intro other hother
  cases hfamily.symm.trans hother
  rw [value_adjust, hfamily]
  cases family with
  | codec c => exact Codec.agree_of_cleared_eq (Profile.cleared_read_adjust c.isTidy_layout hvalid)
  | nominal n => cases hvalid

theorem isValidFor_builtin_iff_of_key {c : Codec} (h : Header.key b = .ok c.profile.key) :
    ((builtin scmsT).isValidFor role b).value = true ↔
      role ∈ c.playedRoles ∧ c.profile.isValid b = true := by
  rw [isValidFor_iff, familyOf_builtin_of_key h, ← c.supports_iff_mem_playedRoles]
  simp only [Option.some.injEq, exists_eq_left']
  exact Iff.rfl

theorem value_adjust_builtin_of_key {c : Codec} (h : Header.key b = .ok c.profile.key) :
    ((builtin scmsT).adjust b).value = c.profile.adjust b := by
  rw [value_adjust, familyOf_builtin_of_key h]
  rfl

private theorem isValidFor_adjust_builtin_iff_of_key {c : Codec}
    (h : Header.key b = .ok c.profile.key) :
    ((builtin scmsT).isValidFor role ((builtin scmsT).adjust b).value.2).value = true ↔
      role ∈ c.playedRoles ∧ (c.profile.isValid b = true ∨ c.HasHighRateCode b) := by
  have hkey : Header.key (c.profile.adjust b).2 = .ok c.profile.key :=
    (c.profile.agree_adjust b).key.trans h
  rw [value_adjust_builtin_of_key h, isValidFor_builtin_iff_of_key hkey, c.isValid_adjust_iff b]

/-- A capability in any role and its adjusted form have the same answers to every question. Of the
buffers that are valid in no role, adjusting makes valid exactly those of LHDC whose only fault is
a rate code outside the table, in the roles of their version and with the last code of it. -/
theorem adjust_preserves_answers (scmsT : Bool) (b : Octets) :
    let r := builtin scmsT
    let adjusted := (r.adjust b).value.2
    ((∃ role, (r.isValidFor role b).value = true) → r.answers adjusted = r.answers b) ∧
    ((∀ role, (r.isValidFor role b).value = false) →
      ((∃ role, (r.isValidFor role adjusted).value = true) ↔
        ∃ c : Codec, c.HasHighRateCode b)) ∧
    ∀ c : Codec, c.HasHighRateCode b →
      (∀ role, (r.isValidFor role b).value = false) ∧
      (∀ role, (r.isValidFor role adjusted).value = true ↔ role ∈ c.playedRoles) ∧
      adjusted.getD 10 0 &&& 0x03 = 2 := by
  intro r adjusted
  have hhigh : ∀ c : Codec, c.HasHighRateCode b → ∀ role,
      (r.isValidFor role adjusted).value = true ↔ role ∈ c.playedRoles := by
    intro c hc role
    rw [isValidFor_adjust_builtin_iff_of_key hc.key]
    simp only [hc, or_true, and_true]
  refine ⟨fun ⟨role, hvalid⟩ => answers_adjust hvalid, ?_, ?_⟩
  · intro hinvalid
    constructor
    · intro ⟨role, hvalid⟩
      obtain ⟨family, hfamily, -⟩ := isValidFor_iff.mp hvalid
      obtain ⟨c, -, hc⟩ := familyOf_builtin_eq_some_iff.mp hfamily
      rw [(r.isAdjustment_adjust b).agree.key] at hc
      obtain ⟨hrole, hbefore | hcode⟩ := (isValidFor_adjust_builtin_iff_of_key hc).mp hvalid
      · have hvalidBefore : (r.isValidFor role b).value = true :=
          (isValidFor_builtin_iff_of_key hc).mpr ⟨hrole, hbefore⟩
        exact absurd hvalidBefore (Bool.eq_false_iff.mp (hinvalid role))
      · exact ⟨c, hcode⟩
    · intro ⟨c, hc⟩
      have hsource : Role.localSource ∈ c.playedRoles := by cases c <;> decide
      exact ⟨.localSource, (hhigh c hc .localSource).mpr hsource⟩
  · intro c hc
    refine ⟨?_, hhigh c hc, ?_⟩
    · intro role
      rw [Bool.eq_false_iff, ne_eq, isValidFor_builtin_iff_of_key hc.key, hc.not_isValid]
      simp only [Bool.false_eq_true, and_false, not_false_eq_true]
    · simp only [adjusted, r, value_adjust_builtin_of_key hc.key]
      exact hc.rateCode_adjust

end Registry

end A2dp
