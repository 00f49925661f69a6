import A2dp.Proofs.Capability
import A2dp.Proofs.Lookup
import A2dp.Proofs.NormalForm

/-!
# Adjusting a buffer

Adjusting leaves the length, the header and all octets beyond the announced ones alone, and tells
exactly whether an octet differs. So the adjusted buffer has the same family and passes the same
check, and since its octets are in normal form, adjusting it again does nothing.
-/

namespace A2dp

/-- What may come of adjusting a buffer: the flag is exact, and only octets behind the header that
the length octet announces differ. -/
structure IsAdjustment (b : Octets) (result : Bool × Octets) : Prop where
  flag : result.1 = true ↔ result.2 ≠ b
  agree : Header.Agree result.2 b
  beyond : ∀ losc i, b[0]? = some losc → losc.toNat < i → result.2[i]? = b[i]?

theorem IsAdjustment.refl (b : Octets) : IsAdjustment b (false, b) :=
  ⟨by simp, ⟨rfl, rfl⟩, fun _ _ _ _ => rfl⟩

theorem IsAdjustment.flag_iff_exists {b : Octets} {result : Bool × Octets}
    (h : IsAdjustment b result) : result.1 = true ↔ ∃ i : Nat, result.2[i]? ≠ b[i]? := by
  rw [h.flag, ← Classical.not_forall, ← List.ext_getElem?_iff]

namespace Profile

variable {p : Profile} {b : Octets}

theorem adjust_of_check (h : Header.check b p.losc p.key = .ok ()) :
    p.adjust b = ((p.layout.normalise (b.drop Header.size)).1,
      b.take Header.size ++ (p.layout.normalise (b.drop Header.size)).2) := by
  unfold adjust
  rw [h]

theorem adjust_of_not_check (h : Header.check b p.losc p.key ≠ .ok ()) :
    p.adjust b = (false, b) := by
  unfold adjust
  cases hcheck : Header.check b p.losc p.key with
  | ok _ => exact absurd hcheck h
  | error cause => rfl

private theorem length_take_size (h : Header.check b p.losc p.key = .ok ()) :
    (b.take Header.size).length = Header.size := by
  have hlength := length_of_check h
  rw [List.length_take]
  omega

theorem drop_adjust (h : Header.check b p.losc p.key = .ok ()) :
    (p.adjust b).2.drop Header.size = (p.layout.normalise (b.drop Header.size)).2 := by
  rw [adjust_of_check h]
  exact List.drop_left' (length_take_size h)

theorem agree_adjust (p : Profile) (b : Octets) : Header.Agree (p.adjust b).2 b := by
  by_cases h : Header.check b p.losc p.key = .ok ()
  · rw [adjust_of_check h]
    constructor
    · have hlength := length_of_check h
      simp only [List.length_append, Layout.length_normalise, List.length_take, List.length_drop]
      omega
    · exact List.take_left' (length_take_size h)
  · rw [adjust_of_not_check h]
    exact ⟨rfl, rfl⟩

theorem isAdjustment_adjust (p : Profile) (b : Octets) : IsAdjustment b (p.adjust b) := by
  by_cases h : Header.check b p.losc p.key = .ok ()
  · refine ⟨?_, agree_adjust p b, ?_⟩
    · rw [adjust_of_check h]
      have hsplit : b.take Header.size ++ (p.layout.normalise (b.drop Header.size)).2 = b ↔
          (p.layout.normalise (b.drop Header.size)).2 = b.drop Header.size := by
        conv => lhs; rhs; rw [← List.take_append_drop Header.size b]
        exact List.append_right_inj _
      rw [ne_eq, hsplit]
      exact Layout.normalise_flag_iff
    · intro losc i hlosc hi
      have hfirst := (Header.check_eq_ok_iff.mp h).2.1
      have hannounced : losc.toNat = 8 + p.layout.length := by
        rw [hfirst] at hlosc
        cases hlosc
        exact p.losc_toNat
      have hsize : Header.size = 9 := rfl
      have hbehind : ∀ a : Octets, a[i]? = (a.drop Header.size)[i - Header.size]? := by
        intro a
        rw [List.getElem?_drop, Nat.add_sub_cancel' (by omega)]
      rw [hbehind, hbehind b, drop_adjust h]
      exact Layout.getElem?_normalise (by omega)
  · rw [adjust_of_not_check h]
    exact .refl b

/-- The adjusted buffer is in normal form. -/
theorem isNormal_adjust (h : Header.check b p.losc p.key = .ok ()) :
    p.layout.IsNormal ((p.adjust b).2.drop Header.size) := by
  rw [drop_adjust h]
  exact Layout.isNormal_normalise p.rateCount_le _

theorem adjust_flag_iff_not_isNormal (h : Header.check b p.losc p.key = .ok ()) :
    (p.adjust b).1 = true ↔ ¬ p.layout.IsNormal (b.drop Header.size) := by
  rw [adjust_of_check h]
  exact Layout.normalise_flag_iff_not_isNormal p.rateCount_le

private theorem adjust_of_isNormal (h : p.layout.IsNormal (b.drop Header.size)) :
    p.adjust b = (false, b) := by
  by_cases hcheck : Header.check b p.losc p.key = .ok ()
  · rw [adjust_of_check hcheck, Layout.normalise_eq_self h, List.take_append_drop]
  · exact adjust_of_not_check hcheck

theorem adjust_adjust (p : Profile) (b : Octets) :
    p.adjust (p.adjust b).2 = (false, (p.adjust b).2) := by
  by_cases h : Header.check b p.losc p.key = .ok ()
  · exact adjust_of_isNormal (isNormal_adjust h)
  · rw [adjust_of_not_check h]
    exact adjust_of_not_check h

end Profile

namespace Family

theorem isAdjustment_adjust (family : Family) (b : Octets) :
    IsAdjustment b (family.adjust b).value := by
  cases family with
  | codec c => exact c.profile.isAdjustment_adjust b
  | nominal n => exact .refl b

theorem adjust_adjust (family : Family) (b : Octets) :
    (family.adjust (family.adjust b).value.2).value = (false, (family.adjust b).value.2) := by
  cases family with
  | codec c => exact c.profile.adjust_adjust b
  | nominal n => rfl

end Family

namespace Registry

variable (r : Registry) (b : Octets)

theorem value_adjust :
    (r.adjust b).value = (r.familyOf b).elim (false, b) fun family => (family.adjust b).value :=
  r.value_ask b (false, b) _

theorem isAdjustment_adjust : IsAdjustment b (r.adjust b).value := by
  rw [value_adjust]
  cases r.familyOf b with
  | none => exact .refl b
  | some family => exact family.isAdjustment_adjust b

theorem adjust_adjust :
    (r.adjust (r.adjust b).value.2).value = (false, (r.adjust b).value.2) := by
  have hfamily := r.familyOf_congr (r.isAdjustment_adjust b).agree.key
  rw [value_adjust, hfamily, value_adjust]
  cases r.familyOf b with
  | none => rfl
  | some family => exact family.adjust_adjust b

example :
    (builtin.adjust
      [0x0B, 0x00, 0xFF, 0x3A, 0x05, 0x00, 0x00, 0x33, 0x4C, 0xFF, 0x07, 0xFF, 0xFF]).value =
      (true, [0x0B, 0x00, 0xFF, 0x3A, 0x05, 0x00, 0x00, 0x33, 0x4C, 0x3F, 0x02, 0xC0, 0xFF]) := by
  decide

/-- Only a codec whose header check passes adjusts a buffer. -/
theorem adjust_of_no_check
    (h : ∀ c : Codec, r.familyOf b = some (.codec c) →
      Header.check b c.profile.losc c.profile.key ≠ .ok ()) :
    (r.adjust b).value = (false, b) := by
  rw [value_adjust]
  cases hfamily : r.familyOf b with
  | none => rfl
  | some family =>
    cases family with
    | codec c => exact Profile.adjust_of_not_check (h c hfamily)
    | nominal n => rfl

end Registry

end A2dp
