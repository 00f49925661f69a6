import A2dp.Codec.Layout

/-!
# The normal form of the octets of a layout

An octet is in normal form when every bit of it belongs to a field that keeps its bits, and every
rate code of it is in the table. Normalising clears bits and then lowers rate codes, so an octet
only ever gets smaller: the two steps cannot undo each other, the reported flag says exactly
whether an octet differs, and octets in normal form stay as they are.
-/

namespace A2dp

private theorem and_or_eq_self {a b c : UInt8} (h : a &&& b = a ∨ a &&& c = a) :
    a &&& (b ||| c) = a := by
  have hbit : ∀ d : UInt8, a &&& d = a → ∀ i, (a.toBitVec.getLsbD i && d.toBitVec.getLsbD i) =
      a.toBitVec.getLsbD i := by
    intro d hd i
    rw [← BitVec.getLsbD_and, ← UInt8.toBitVec_and, hd]
  apply UInt8.toBitVec_inj.mp
  apply BitVec.eq_of_getLsbD_eq
  intro i hi
  simp only [UInt8.toBitVec_and, UInt8.toBitVec_or, BitVec.getLsbD_and, BitVec.getLsbD_or,
    Bool.and_or_distrib_left]
  cases h with
  | inl hb =>
    rw [hbit b hb]
    cases a.toBitVec.getLsbD i <;> simp
  | inr hc =>
    rw [hbit c hc]
    cases a.toBitVec.getLsbD i <;> simp

namespace Field

/-- The highest octet that a field leaves as it is: the last code of a table, and otherwise any. -/
def top : Field → Nat
  | .rateCode rates => rates.length - 1
  | _ => 255

/-- The octet is not above what the field leaves. -/
def InRange (octet : UInt8) (field : Field) : Prop := octet.toNat ≤ field.top

theorem InRange.mono {field : Field} {x y : UInt8} (hx : field.InRange x) (hle : y ≤ x) :
    field.InRange y :=
  Nat.le_trans (UInt8.le_iff_toNat_le.mp hle) hx

/-- Clamping is the minimum with the highest octet of the field. -/
theorem toNat_clamp (field : Field) (x : UInt8) :
    (field.clamp x).toNat = min x.toNat field.top := by
  have hx := x.toNat_lt
  have hany : x.toNat = min x.toNat 255 := by omega
  cases field with
  | rateCode rates =>
    simp only [clamp, top]
    split
    · omega
    · rw [UInt8.toNat_ofNat', Nat.mod_eq_of_lt (by omega)]
      omega
  | choice setting choices => exact hany
  | version => exact hany
  | features table => exact hany
  | reserved => exact hany

private theorem clamp_le (field : Field) (x : UInt8) : field.clamp x ≤ x := by
  rw [UInt8.le_iff_toNat_le, toNat_clamp]
  exact Nat.min_le_left _ _

private theorem inRange_clamp (field : Field) (x : UInt8) : field.InRange (field.clamp x) := by
  rw [InRange, toNat_clamp]
  exact Nat.min_le_right _ _

private theorem clamp_eq_self {field : Field} {x : UInt8} (h : field.InRange x) :
    field.clamp x = x := by
  rw [← UInt8.toNat_inj, toNat_clamp]
  exact Nat.min_eq_left h

/-- A rate code that is lowered fits into the two bits of its field. -/
theorem clamp_and_eq_self {field : Field} {bits x : UInt8} (hcount : field.rateCount ≤ 4)
    (hkept : field.kept &&& bits = field.kept) (hx : x &&& bits = x) :
    field.clamp x &&& bits = field.clamp x := by
  cases field with
  | rateCode rates =>
    have hbits : (3 : UInt8) &&& bits = 3 := hkept
    have hlength : rates.length ≤ 4 := hcount
    have hsmall : ∀ n < 4, UInt8.ofNat n &&& 3 = UInt8.ofNat n := by decide
    simp only [clamp]
    split
    · exact hx
    · rw [← hsmall (rates.length - 1) (by omega), UInt8.and_assoc, hbits]
  | choice setting choices => exact hx
  | version => exact hx
  | features table => exact hx
  | reserved => exact hx

end Field

namespace Layout

theorem kept_and_keptBits {fields : List Field} {field : Field} (h : field ∈ fields) :
    field.kept &&& keptBits fields = field.kept := by
  induction fields with
  | nil => cases h
  | cons first fields ih =>
    apply and_or_eq_self
    cases h with
    | head => exact .inl UInt8.and_self
    | tail _ htail => exact .inr (ih htail)

structure IsNormalOctet (fields : List Field) (octet : UInt8) : Prop where
  kept : octet &&& keptBits fields = octet
  inRange : ∀ field ∈ fields, field.InRange octet

/-- The octets that a layout covers are in normal form. -/
def IsNormal (layout : Layout) (octets : Octets) : Prop :=
  ∀ pair ∈ layout.zip octets, IsNormalOctet pair.1 pair.2

private theorem foldl_clamp_le (fields : List Field) (x : UInt8) :
    fields.foldl (fun x field => field.clamp x) x ≤ x := by
  induction fields generalizing x with
  | nil => exact UInt8.le_refl x
  | cons field fields ih => exact UInt8.le_trans (ih (field.clamp x)) (field.clamp_le x)

private theorem inRange_foldl_clamp (fields : List Field) (x : UInt8) :
    ∀ field ∈ fields, field.InRange (fields.foldl (fun x field => field.clamp x) x) := by
  induction fields generalizing x with
  | nil =>
    intro field hfield
    cases hfield
  | cons first fields ih =>
    intro field hfield
    cases hfield with
    | head => exact (first.inRange_clamp x).mono (foldl_clamp_le fields (first.clamp x))
    | tail _ htail => exact ih (first.clamp x) field htail

private theorem foldl_clamp_eq_self {fields : List Field} {x : UInt8}
    (h : ∀ field ∈ fields, field.InRange x) :
    fields.foldl (fun x field => field.clamp x) x = x := by
  induction fields with
  | nil => rfl
  | cons field fields ih =>
    rw [List.foldl_cons, Field.clamp_eq_self (h field List.mem_cons_self)]
    exact ih fun other hother => h other (List.mem_cons_of_mem field hother)

private theorem foldl_clamp_and_eq_self {fields : List Field} {bits x : UInt8}
    (hcount : ∀ field ∈ fields, field.rateCount ≤ 4)
    (hkept : ∀ field ∈ fields, field.kept &&& bits = field.kept) (hx : x &&& bits = x) :
    fields.foldl (fun x field => field.clamp x) x &&& bits =
      fields.foldl (fun x field => field.clamp x) x := by
  induction fields generalizing x with
  | nil => exact hx
  | cons field fields ih =>
    have hfirst := Field.clamp_and_eq_self (hcount field List.mem_cons_self)
      (hkept field List.mem_cons_self) hx
    exact ih (fun other hother => hcount other (List.mem_cons_of_mem field hother))
      (fun other hother => hkept other (List.mem_cons_of_mem field hother)) hfirst

section NormalOctet

variable {fields : List Field} {octet : UInt8}

theorem isNormalOctet_normalOctet (hcount : ∀ field ∈ fields, field.rateCount ≤ 4)
    (octet : UInt8) : IsNormalOctet fields (normalOctet fields octet).2 := by
  have hmasked : octet &&& keptBits fields &&& keptBits fields = octet &&& keptBits fields := by
    rw [UInt8.and_assoc, UInt8.and_self]
  exact ⟨foldl_clamp_and_eq_self hcount (fun _ => kept_and_keptBits) hmasked,
    inRange_foldl_clamp fields _⟩

theorem normalOctet_eq_self (h : IsNormalOctet fields octet) :
    normalOctet fields octet = (false, octet) := by
  unfold normalOctet
  simp only [h.kept, foldl_clamp_eq_self h.inRange, bne_self_eq_false, Bool.or_self]

/-- Both steps only lower the octet, so neither undoes the other. -/
theorem normalOctet_flag_iff :
    (normalOctet fields octet).1 = true ↔ (normalOctet fields octet).2 ≠ octet := by
  have hmask : octet &&& keptBits fields ≤ octet := UInt8.and_le_left
  have hclamp := foldl_clamp_le fields (octet &&& keptBits fields)
  simp only [normalOctet, Bool.or_eq_true, bne_iff_ne]
  constructor
  · intro h heq
    have hkept : octet &&& keptBits fields = octet :=
      UInt8.le_antisymm hmask (by rwa [heq] at hclamp)
    cases h with
    | inl hbits => exact hbits hkept
    | inr hcode => exact hcode (by rw [heq, hkept])
  · intro h
    by_cases hkept : octet &&& keptBits fields = octet
    · rw [hkept] at h ⊢
      exact .inr h
    · exact .inl hkept

end NormalOctet

section Normalise

variable {layout : Layout} {octets : Octets}

@[simp] theorem length_normalise (layout : Layout) (octets : Octets) :
    (layout.normalise octets).2.length = octets.length := by
  induction layout generalizing octets with
  | nil => rfl
  | cons fields layout ih =>
    cases octets with
    | nil => rfl
    | cons octet octets => simp only [normalise, List.length_cons, ih]

theorem normalise_flag_iff :
    (layout.normalise octets).1 = true ↔ (layout.normalise octets).2 ≠ octets := by
  induction layout generalizing octets with
  | nil => simp [normalise]
  | cons fields layout ih =>
    cases octets with
    | nil => simp [normalise]
    | cons octet octets =>
      simp only [normalise, Bool.or_eq_true, normalOctet_flag_iff, ih, ne_eq, List.cons.injEq,
        Classical.not_and_iff_not_or_not]

/-- Octets beyond the layout stay. -/
theorem getElem?_normalise {i : Nat} (h : layout.length ≤ i) :
    (layout.normalise octets).2[i]? = octets[i]? := by
  induction layout generalizing octets i with
  | nil => rfl
  | cons fields layout ih =>
    cases octets with
    | nil => rfl
    | cons octet octets =>
      cases i with
      | zero => simp at h
      | succ i =>
        simp only [normalise, List.getElem?_cons_succ]
        exact ih (Nat.le_of_succ_le_succ h)

private theorem isNormal_cons {fields : List Field} {octet : UInt8} :
    IsNormal (fields :: layout) (octet :: octets) ↔
      IsNormalOctet fields octet ∧ IsNormal layout octets := by
  simp only [IsNormal, List.zip_cons_cons, List.mem_cons, forall_eq_or_imp]

theorem isNormal_normalise (hcount : ∀ fields ∈ layout, ∀ field ∈ fields, field.rateCount ≤ 4)
    (octets : Octets) : layout.IsNormal (layout.normalise octets).2 := by
  induction layout generalizing octets with
  | nil =>
    intro pair hpair
    simp at hpair
  | cons fields layout ih =>
    cases octets with
    | nil =>
      intro pair hpair
      simp [normalise] at hpair
    | cons octet octets =>
      apply isNormal_cons.mpr
      exact ⟨isNormalOctet_normalOctet (hcount fields List.mem_cons_self) octet,
        ih (fun other hother => hcount other (List.mem_cons_of_mem fields hother)) octets⟩

theorem normalise_eq_self (h : layout.IsNormal octets) :
    layout.normalise octets = (false, octets) := by
  induction layout generalizing octets with
  | nil => rfl
  | cons fields layout ih =>
    cases octets with
    | nil => rfl
    | cons octet octets =>
      obtain ⟨hfirst, hrest⟩ := isNormal_cons.mp h
      simp only [normalise, normalOctet_eq_self hfirst, ih hrest, Bool.or_self]

/-- The flag tells whether the octets were in normal form. -/
theorem normalise_flag_iff_not_isNormal
    (hcount : ∀ fields ∈ layout, ∀ field ∈ fields, field.rateCount ≤ 4) :
    (layout.normalise octets).1 = true ↔ ¬ layout.IsNormal octets := by
  constructor
  · intro hflag hnormal
    rw [normalise_eq_self hnormal] at hflag
    cases hflag
  · intro hnormal
    apply normalise_flag_iff.mpr
    intro heq
    apply hnormal
    rw [← heq]
    exact isNormal_normalise hcount octets

end Normalise

end Layout

end A2dp
