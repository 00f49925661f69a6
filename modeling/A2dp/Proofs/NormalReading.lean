import A2dp.Proofs.Bits
import A2dp.Proofs.NormalForm
import A2dp.Proofs.Reserved

/-!
# What the normal form says

Of an octet, normalising keeps the bits that some field knows, except for a reserved one, and then
lowers a rate code: one mask for all fields, and one rate code for the whole octet. Here it is
worked out what each field reads afterwards. Where all rate codes are in the table, every field
reads the same before and after, reserved octets apart, and normal forms agree exactly where all
these fields do. Where a rate code is not, lowering it is the only way in which normalising makes
octets admissible.
-/

namespace A2dp

namespace Field

variable {field : Field} {x y : UInt8}

def isRateCode : Field → Bool
  | .rateCode _ => true
  | .choice _ _ | .version | .features _ | .reserved => false

private theorem inRange_of_not_rateCode (h : field.isRateCode = false) (x : UInt8) :
    field.InRange x := by
  have hx : x.toNat ≤ 255 := Nat.le_of_lt_succ x.toNat_lt
  cases field with
  | rateCode rates => cases h
  | choice setting choices => exact hx
  | version => exact hx
  | features table => exact hx
  | reserved => exact hx

private theorem rateCount_of_not_rateCode (h : field.isRateCode = false) : field.rateCount = 0 := by
  cases field with
  | rateCode rates => cases h
  | choice setting choices => rfl
  | version => rfl
  | features table => rfl
  | reserved => rfl

private theorem admits_congr (h : x &&& field.kept = y &&& field.kept) (reading : Reading) :
    field.Admits reading x ↔ field.Admits reading y := by
  cases field with
  | choice setting choices =>
    have hknown : x &&& (choice setting choices).known = y &&& (choice setting choices).known := h
    simp only [Admits, hknown]
  | rateCode rates =>
    have hknown : x &&& (rateCode rates).known = y &&& (rateCode rates).known := h
    simp only [Admits, hknown]
  | version => exact Iff.rfl
  | features table => exact Iff.rfl
  | reserved => exact Iff.rfl

private theorem cleared_entry_eq_iff :
    (field.entry x).cleared = (field.entry y).cleared ↔ x &&& field.kept = y &&& field.kept := by
  cases field with
  | reserved => simp only [entry, Entry.cleared, kept, UInt8.and_zero]
  | choice setting choices => simp [entry, Entry.cleared, kept]
  | rateCode rates => simp [entry, Entry.cleared, kept]
  | version => simp [entry, Entry.cleared, kept]
  | features table => simp [entry, Entry.cleared, kept]

end Field

namespace Layout

section Octet

variable {fields : List Field} {field : Field} {x y : UInt8}

/-- A rate code, which is lowered together with the rest of its octet, shares it with no field. -/
def IsTidyOctet (fields : List Field) : Prop :=
  fields.length = 1 ∨ ∀ field ∈ fields, field.isRateCode = false

instance : Decidable (IsTidyOctet fields) :=
  inferInstanceAs (Decidable (fields.length = 1 ∨ ∀ field ∈ fields, field.isRateCode = false))

theorem IsTidyOctet.cases (h : IsTidyOctet fields) :
    (∃ rates, fields = [.rateCode rates]) ∨ ∀ field ∈ fields, field.isRateCode = false := by
  rcases h with hone | hnone
  · obtain ⟨field, rfl⟩ := List.length_eq_one_iff.mp hone
    cases field with
    | rateCode rates => exact .inl ⟨rates, rfl⟩
    | choice setting choices => exact .inr (by simp [Field.isRateCode])
    | version => exact .inr (by simp [Field.isRateCode])
    | features table => exact .inr (by simp [Field.isRateCode])
    | reserved => exact .inr (by simp [Field.isRateCode])
  · exact .inr hnone

theorem keptBits_rateCode (rates : List Nat) : keptBits [.rateCode rates] = 0x03 :=
  UInt8.or_zero

/-- Only rate codes that are out of range are lowered. -/
theorem normalOctet_of_inRange
    (h : ∀ field ∈ fields, field.InRange (x &&& keptBits fields)) :
    (normalOctet fields x).2 = x &&& keptBits fields := by
  have hmasked : x &&& keptBits fields &&& keptBits fields = x &&& keptBits fields := by
    rw [UInt8.and_assoc, UInt8.and_self]
  have hself := normalOctet_eq_self (IsNormalOctet.mk hmasked h)
  calc (normalOctet fields x).2
      = (normalOctet fields (x &&& keptBits fields)).2 := by simp only [normalOctet, hmasked]
    _ = x &&& keptBits fields := by rw [hself]

private theorem inRange_of_admits (htidy : IsTidyOctet fields)
    (h : ∀ field ∈ fields, field.Admits .capability x) :
    ∀ field ∈ fields, field.InRange (x &&& keptBits fields) := by
  rcases htidy.cases with ⟨rates, rfl⟩ | hnone
  · intro field hfield
    have hadmits := h field hfield
    cases List.mem_singleton.mp hfield
    rw [keptBits_rateCode]
    exact Nat.le_sub_one_of_lt (Field.admits_rateCode_iff.mp hadmits)
  · intro field hfield
    exact Field.inRange_of_not_rateCode (hnone field hfield) _

private theorem normalOctet_and_kept (h : ∀ field ∈ fields, field.InRange (x &&& keptBits fields))
    (hfield : field ∈ fields) : (normalOctet fields x).2 &&& field.kept = x &&& field.kept := by
  rw [normalOctet_of_inRange h, UInt8.and_assoc, UInt8.and_comm (keptBits fields),
    kept_and_keptBits hfield]

private theorem cleared_entry_normalOctet (htidy : IsTidyOctet fields)
    (h : ∀ field ∈ fields, field.Admits .capability x) (hfield : field ∈ fields) :
    (field.entry (normalOctet fields x).2).cleared = (field.entry x).cleared :=
  Field.cleared_entry_eq_iff.mpr (normalOctet_and_kept (inRange_of_admits htidy h) hfield)

/-- A rate code is in the table once it has been lowered, if there is one in the table. -/
theorem admits_normalOctet_iff (htidy : IsTidyOctet fields)
    (hcount : ∀ field ∈ fields, field.rateCount ≤ 4) (hfield : field ∈ fields) :
    field.Admits .capability (normalOctet fields x).2 ↔
      field.Admits .capability x ∨ 0 < field.rateCount := by
  rcases htidy.cases with ⟨rates, rfl⟩ | hnone
  · -- a rate code alone in its octet is lowered below the length of the table
    cases List.mem_singleton.mp hfield
    have hnormal := isNormalOctet_normalOctet hcount x
    have hrange : (normalOctet [.rateCode rates] x).2.toNat ≤ rates.length - 1 :=
      hnormal.inRange _ hfield
    have hkept := hnormal.kept
    rw [keptBits_rateCode] at hkept
    rw [Field.admits_rateCode_iff, Field.admits_rateCode_iff, hkept, Field.rateCount]
    omega
  · -- any other field is left as it is
    have hrange : ∀ field ∈ fields, field.InRange (x &&& keptBits fields) := fun field hfield =>
      Field.inRange_of_not_rateCode (hnone field hfield) _
    rw [Field.rateCount_of_not_rateCode (hnone field hfield)]
    simp only [Nat.lt_irrefl, or_false]
    exact Field.admits_congr (normalOctet_and_kept hrange hfield) .capability

private theorem and_keptBits_congr (h : ∀ field ∈ fields, x &&& field.kept = y &&& field.kept) :
    x &&& keptBits fields = y &&& keptBits fields := by
  induction fields with
  | nil => rw [keptBits, List.foldr_nil, UInt8.and_zero, UInt8.and_zero]
  | cons field fields ih =>
    obtain ⟨hfirst, hrest⟩ := List.forall_mem_cons.mp h
    have hbits : keptBits (field :: fields) = field.kept ||| keptBits fields := rfl
    rw [hbits, Bits.and_or_distrib_left, Bits.and_or_distrib_left, hfirst, ih hrest]

private theorem normalOctet_eq_iff (htidy : IsTidyOctet fields)
    (hx : ∀ field ∈ fields, field.Admits .capability x)
    (hy : ∀ field ∈ fields, field.Admits .capability y) :
    (normalOctet fields x).2 = (normalOctet fields y).2 ↔
      ∀ field ∈ fields, (field.entry x).cleared = (field.entry y).cleared := by
  constructor
  · intro heq field hfield
    rw [← cleared_entry_normalOctet htidy hx hfield, heq, cleared_entry_normalOctet htidy hy hfield]
  · intro hentries
    have hmasked : x &&& keptBits fields = y &&& keptBits fields :=
      and_keptBits_congr fun field hfield => Field.cleared_entry_eq_iff.mp (hentries field hfield)
    simp only [normalOctet, hmasked]

end Octet

section Octets

variable {layout : Layout} {octets other : Octets}

def IsTidy (layout : Layout) : Prop := ∀ fields ∈ layout, IsTidyOctet fields

instance : Decidable layout.IsTidy :=
  inferInstanceAs (Decidable (∀ fields ∈ layout, IsTidyOctet fields))

theorem cleared_entries_cons (fields : List Field) (layout : Layout) (octet : UInt8)
    (octets : Octets) :
    (entries (fields :: layout) (octet :: octets)).cleared =
      fields.map (fun field => (field.entry octet).cleared) ++ (entries layout octets).cleared := by
  simp only [entries_cons, Settings.cleared, List.map_append, List.map_map, Function.comp_def]

theorem map_append_eq_iff {fields : List Field} {f g : Field → Entry} {s t : Settings} :
    fields.map f ++ s = fields.map g ++ t ↔ fields.map f = fields.map g ∧ s = t := by
  constructor
  · intro h
    exact List.append_inj h (by simp only [List.length_map])
  · intro h
    rw [h.1, h.2]

theorem cleared_entries_normalise (htidy : layout.IsTidy)
    (h : layout.Admits .capability octets) :
    (layout.entries (layout.normalise octets).2).cleared = (layout.entries octets).cleared := by
  induction layout generalizing octets with
  | nil => rfl
  | cons fields layout ih =>
    cases octets with
    | nil => rfl
    | cons octet octets =>
      obtain ⟨hfields, hlayout⟩ := List.forall_mem_cons.mp htidy
      obtain ⟨hhead, htail⟩ := admits_cons.mp h
      have hfirst : fields.map (fun field => (field.entry (normalOctet fields octet).2).cleared) =
          fields.map (fun field => (field.entry octet).cleared) :=
        List.map_congr_left fun field hfield => cleared_entry_normalOctet hfields hhead hfield
      simp only [normalise, cleared_entries_cons, hfirst, ih hlayout htail]

/-- Every field has a value in its octet, or is a rate code with a table. -/
def AdmitsChoices (layout : Layout) (octets : Octets) : Prop :=
  ∀ pair ∈ layout.zip octets, ∀ field ∈ pair.1,
    field.Admits .capability pair.2 ∨ 0 < field.rateCount

theorem admitsChoices_nil (octets : Octets) : AdmitsChoices [] octets := by
  simp [AdmitsChoices]

theorem admitsChoices_cons {fields : List Field} {octet : UInt8} :
    AdmitsChoices (fields :: layout) (octet :: octets) ↔
      (∀ field ∈ fields, field.Admits .capability octet ∨ 0 < field.rateCount) ∧
        layout.AdmitsChoices octets :=
  List.forall_mem_cons

/-- The normal form is admitted exactly when the choices are: rate codes take care of themselves. -/
theorem admits_normalise_iff (htidy : layout.IsTidy)
    (hcount : ∀ fields ∈ layout, ∀ field ∈ fields, field.rateCount ≤ 4) :
    layout.Admits .capability (layout.normalise octets).2 ↔ layout.AdmitsChoices octets := by
  induction layout generalizing octets with
  | nil => simp [Admits, AdmitsChoices]
  | cons fields layout ih =>
    cases octets with
    | nil => simp [normalise, Admits, AdmitsChoices]
    | cons octet octets =>
      obtain ⟨hfields, hlayout⟩ := List.forall_mem_cons.mp htidy
      obtain ⟨hcountFields, hcountLayout⟩ := List.forall_mem_cons.mp hcount
      have hfirst : (∀ field ∈ fields, field.Admits .capability (normalOctet fields octet).2) ↔
          ∀ field ∈ fields, field.Admits .capability octet ∨ 0 < field.rateCount :=
        forall₂_congr fun field hfield => admits_normalOctet_iff hfields hcountFields hfield
      simp only [normalise, admits_cons, admitsChoices_cons, hfirst, ih hlayout hcountLayout]

/-- A table with a rate for each of the four codes excludes none. -/
theorem admitsChoices_iff_admits
    (h : ∀ fields ∈ layout, ∀ field ∈ fields, field.rateCount = 0 ∨ field.rateCount = 4) :
    layout.AdmitsChoices octets ↔ layout.Admits .capability octets := by
  constructor
  · intro hchoices pair hpair field hfield
    rcases hchoices pair hpair field hfield with hadmits | hrates
    · exact hadmits
    · have hfour : field.rateCount = 4 := by
        rcases h pair.1 (List.of_mem_zip hpair).1 field hfield with hzero | hfour
        · omega
        · exact hfour
      cases field with
      | rateCode rates =>
        have hlength : rates.length = 4 := hfour
        have hcode : (pair.2 &&& 3).toNat ≤ 3 := by
          rw [UInt8.toNat_and]
          exact Nat.and_le_right
        rw [Field.admits_rateCode_iff]
        omega
      | choice setting choices => cases hfour
      | version => trivial
      | features table => trivial
      | reserved => trivial
  · intro hadmits pair hpair field hfield
    exact .inl (hadmits pair hpair field hfield)

/-- Admitted octets agree in normal form exactly when they say the same, reserved octets apart. -/
theorem take_normalise_eq_iff (htidy : layout.IsTidy) (hadmits : layout.Admits .capability octets)
    (hother : layout.Admits .capability other) (hlength : layout.length ≤ octets.length)
    (hlengthOther : layout.length ≤ other.length) :
    (layout.normalise octets).2.take layout.length = (layout.normalise other).2.take layout.length ↔
      (layout.entries octets).cleared = (layout.entries other).cleared := by
  induction layout generalizing octets other with
  | nil => simp [entries]
  | cons fields layout ih =>
    cases octets with
    | nil => simp at hlength
    | cons x octets =>
      cases other with
      | nil => simp at hlengthOther
      | cons y other =>
        obtain ⟨hfields, hlayout⟩ := List.forall_mem_cons.mp htidy
        obtain ⟨hx, hoctets⟩ := admits_cons.mp hadmits
        obtain ⟨hy, hrest⟩ := admits_cons.mp hother
        have htail := ih hlayout hoctets hrest (Nat.le_of_succ_le_succ hlength)
          (Nat.le_of_succ_le_succ hlengthOther)
        have hhead : fields.map (fun field => (field.entry x).cleared) =
            fields.map (fun field => (field.entry y).cleared) ↔
              (normalOctet fields x).2 = (normalOctet fields y).2 := by
          rw [normalOctet_eq_iff hfields hx hy, List.map_inj_left]
        simp only [normalise, List.length_cons, List.take_succ_cons, List.cons.injEq,
          cleared_entries_cons, map_append_eq_iff, hhead, htail]

end Octets

end Layout

end A2dp
