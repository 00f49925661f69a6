import A2dp.Proofs.Bits
import A2dp.Proofs.Header
import A2dp.Proofs.NormalReading
import Mathlib.Data.List.GetD

/-!
# Selecting a configuration from a capability

From octets that have something in common with each choice of an offer, a configuration is selected
by keeping the lowest common bit of every choice. The choices of an octet have no bits in common, so
the selections for them do not interfere. Conversely, bits that are added to a choice take nothing
away from what it has in common with an offer.
-/

namespace A2dp

/-- The first buffer is the second with some bits cleared, and only in octets where that is
allowed. -/
structure Octets.Narrows (allowed : Nat → Prop) (narrow wide : Octets) : Prop where
  length : narrow.length = wide.length
  part : ∀ i, narrow.getD i 0 &&& wide.getD i 0 = narrow.getD i 0
  same : ∀ i, ¬ allowed i → narrow.getD i 0 = wide.getD i 0

namespace Octets.Narrows

variable {allowed : Nat → Prop} {a b narrow wide : Octets} {x y : UInt8}

theorem refl (allowed : Nat → Prop) (b : Octets) : Narrows allowed b b where
  length := rfl
  part _ := UInt8.and_self
  same _ _ := rfl

theorem trans (h : Narrows allowed narrow b) (h' : Narrows allowed b wide) :
    Narrows allowed narrow wide where
  length := h.length.trans h'.length
  part i := Bits.part_trans (h.part i) (h'.part i)
  same i hi := (h.same i hi).trans (h'.same i hi)

theorem cons_iff :
    Narrows allowed (y :: narrow) (x :: wide) ↔
      (y &&& x = y ∧ (¬ allowed 0 → y = x)) ∧ Narrows (fun i => allowed (i + 1)) narrow wide := by
  constructor
  · intro h
    exact ⟨⟨h.part 0, h.same 0⟩, Nat.succ.inj h.length, fun i => h.part (i + 1),
      fun i => h.same (i + 1)⟩
  · intro ⟨⟨hpart, hsame⟩, htail⟩
    refine ⟨congrArg Nat.succ htail.length, fun i => ?_, fun i => ?_⟩
    · cases i with
      | zero => exact hpart
      | succ i => exact htail.part i
    · cases i with
      | zero => exact hsame
      | succ i => exact htail.same i

theorem drop (h : Narrows allowed narrow wide) (n : Nat) :
    Narrows (fun i => allowed (n + i)) (narrow.drop n) (wide.drop n) := by
  refine ⟨?_, fun i => ?_, fun i hi => ?_⟩
  · rw [List.length_drop, List.length_drop, h.length]
  · rw [getD_drop, getD_drop]
    exact h.part (n + i)
  · rw [getD_drop, getD_drop]
    exact h.same (n + i) hi

theorem append_left (front : Octets)
    (h : Narrows (fun i => allowed (front.length + i)) narrow wide) :
    Narrows allowed (front ++ narrow) (front ++ wide) := by
  induction front generalizing allowed with
  | nil => simpa using h
  | cons x front ih =>
    refine cons_iff.mpr ⟨⟨UInt8.and_self, fun _ => rfl⟩, ih ?_⟩
    simpa only [List.length_cons, Nat.add_right_comm] using h

theorem agree (h : Narrows allowed narrow wide) (hallowed : ∀ i, allowed i → Header.size ≤ i) :
    Header.Agree narrow wide := by
  have hsame : ∀ i < Header.size, narrow.getD i 0 = wide.getD i 0 := by
    intro i hi
    exact h.same i fun hallowedAt => absurd (hallowed i hallowedAt) (Nat.not_le.mpr hi)
  refine ⟨h.length, List.ext_getElem ?_ fun i hi hi' => ?_⟩
  · rw [List.length_take, List.length_take, h.length]
  · rw [List.length_take] at hi hi'
    have hoctet := hsame i (by omega)
    rw [List.getElem_take, List.getElem_take]
    rwa [List.getD_eq_getElem narrow 0 (by omega), List.getD_eq_getElem wide 0 (by omega)]
      at hoctet

end Octets.Narrows

namespace Field

variable {field : Field} {x y offer : UInt8}

def isChoice : Field → Bool
  | .choice _ _ => true
  | .rateCode _ | .version | .features _ | .reserved => false

/-- The bits of the field that an octet has in common with an offer. -/
def common (field : Field) (offer x : UInt8) : UInt8 := x &&& (offer &&& field.known)

private theorem common_part_octet (field : Field) (offer x : UInt8) :
    field.common offer x &&& x = field.common offer x :=
  Bits.and_part_left x (offer &&& field.known)

private theorem common_part_known (field : Field) (offer x : UInt8) :
    field.common offer x &&& field.known = field.common offer x :=
  Bits.part_trans (Bits.and_part_right x (offer &&& field.known))
    (Bits.and_part_right offer field.known)

private theorem common_part_offer (field : Field) (offer x : UInt8) :
    field.common offer x &&& (offer &&& field.known) = field.common offer x :=
  Bits.and_part_right x (offer &&& field.known)

theorem and_known_and_offer (field : Field) (offer x : UInt8) :
    x &&& field.known &&& (offer &&& field.known) = field.common offer x := by
  rw [common, UInt8.and_assoc, UInt8.and_comm field.known, Bits.and_part_right]

/-- The reading admits the field, and it has something in common with the offer. -/
def Suits (reading : Reading) (field : Field) (offer x : UInt8) : Prop :=
  field.Admits reading x ∧ (field.entry x).meets (offer &&& field.known) = true

theorem suits_iff_of_isChoice (h : field.isChoice = true) (reading : Reading) :
    field.Suits reading offer x ↔
      reading.admits (x &&& field.known) = true ∧ field.common offer x ≠ 0 := by
  cases field with
  | choice setting choices =>
    simp only [Suits, Admits, Entry.meets, entry, and_known_and_offer, bne_iff_ne]
  | rateCode rates => cases h
  | version => cases h
  | features table => cases h
  | reserved => cases h

theorem suits_configuration_iff_of_not_isChoice (h : field.isChoice = false) :
    field.Suits .configuration offer x ↔ field.Suits .capability offer x := by
  cases field with
  | choice setting choices => cases h
  | rateCode rates => exact Iff.rfl
  | version => exact Iff.rfl
  | features table => exact Iff.rfl
  | reserved => exact Iff.rfl

private theorem suits_of_part (h : field.isChoice = true) (hpart : y &&& x = y)
    (hsuits : field.Suits .configuration offer y) : field.Suits .capability offer x := by
  rw [suits_iff_of_isChoice h] at hsuits ⊢
  obtain ⟨hadmits, hcommon⟩ := hsuits
  have hknown : y &&& field.known ≠ 0 := by
    simpa [Reading.admits] using Reading.admits_capability hadmits
  have hadded := Bits.and_ne_zero_of_part hpart hknown
  exact ⟨by simpa [Reading.admits] using hadded, Bits.and_ne_zero_of_part hpart hcommon⟩

end Field

namespace Layout

section Octet

variable {fields : List Field} {field : Field} {x y offer : UInt8}

/-- The octet with the lowest bit that each field has in common with an offer. -/
def selectOctet (fields : List Field) (offer x : UInt8) : UInt8 :=
  fields.foldr (fun field bits => Bits.lowest (field.common offer x) ||| bits) 0

private theorem selectOctet_cons (field : Field) (fields : List Field) (offer x : UInt8) :
    selectOctet (field :: fields) offer x =
      Bits.lowest (field.common offer x) ||| selectOctet fields offer x := rfl

private theorem lowest_common_part_known (field : Field) (offer x : UInt8) :
    Bits.lowest (field.common offer x) &&& field.known = Bits.lowest (field.common offer x) :=
  Bits.part_trans (Bits.lowest_and_self _) (field.common_part_known offer x)

private theorem selectOctet_part (fields : List Field) (offer x : UInt8) :
    selectOctet fields offer x &&& x = selectOctet fields offer x := by
  induction fields with
  | nil => exact UInt8.zero_and
  | cons field fields ih =>
    have hfirst := Bits.part_trans (Bits.lowest_and_self _) (field.common_part_octet offer x)
    rw [selectOctet_cons, Bits.and_or_distrib_right, ih, hfirst]

private theorem selectOctet_and_eq_zero {bits : UInt8}
    (h : ∀ field ∈ fields, field.known &&& bits = 0) :
    selectOctet fields offer x &&& bits = 0 := by
  induction fields with
  | nil => exact UInt8.zero_and
  | cons field fields ih =>
    obtain ⟨hfirst, hrest⟩ := List.forall_mem_cons.mp h
    rw [selectOctet_cons, Bits.and_or_distrib_right, ih hrest, UInt8.or_zero,
      ← lowest_common_part_known, UInt8.and_assoc, hfirst, UInt8.and_zero]

/-- No two of the fields have a bit in common. -/
def IsDisjoint (fields : List Field) : Prop :=
  fields.Pairwise fun field other => field.known &&& other.known = 0

instance : Decidable (IsDisjoint fields) :=
  inferInstanceAs (Decidable (fields.Pairwise fun field other => field.known &&& other.known = 0))

private theorem selectOctet_and_known (h : IsDisjoint fields) (hfield : field ∈ fields) :
    selectOctet fields offer x &&& field.known = Bits.lowest (field.common offer x) := by
  induction fields with
  | nil => cases hfield
  | cons first fields ih =>
    obtain ⟨hfirst, hrest⟩ := List.pairwise_cons.mp h
    rw [selectOctet_cons, Bits.and_or_distrib_right]
    -- the bit of any other field is one of its own, and so falls out under the mask
    cases hfield with
    | head =>
      have hothers : ∀ other ∈ fields, other.known &&& field.known = 0 := by
        intro other hother
        rw [UInt8.and_comm]
        exact hfirst other hother
      rw [selectOctet_and_eq_zero hothers, UInt8.or_zero, lowest_common_part_known]
    | tail _ htail =>
      rw [ih hrest htail, ← lowest_common_part_known first, UInt8.and_assoc, hfirst field htail,
        UInt8.and_zero, UInt8.zero_or]

private theorem suits_selectOctet (h : IsDisjoint fields) (hfield : field ∈ fields)
    (hchoice : field.isChoice = true) (hsuits : field.Suits .capability offer x) :
    field.Suits .configuration offer (selectOctet fields offer x) := by
  have hone := Bits.bitCount_lowest ((Field.suits_iff_of_isChoice hchoice _).mp hsuits).2
  have hselected : selectOctet fields offer x &&& field.known =
      Bits.lowest (field.common offer x) := selectOctet_and_known h hfield
  -- what the selected octet has in common with the offer is again the one bit
  have hoffer := Bits.part_trans (Bits.lowest_and_self _) (field.common_part_offer offer x)
  rw [Field.suits_iff_of_isChoice hchoice, ← Field.and_known_and_offer, hselected, hoffer]
  refine ⟨by simpa [Reading.admits] using hone, ?_⟩
  intro hzero
  rw [hzero] at hone
  exact absurd hone (by decide)

/-- An octet of choices that have no bits in common, or one without choices. -/
def IsSelectableOctet (fields : List Field) : Prop :=
  (fields.all Field.isChoice = true ∧ IsDisjoint fields) ∨
    ∀ field ∈ fields, field.isChoice = false

instance : Decidable (IsSelectableOctet fields) :=
  inferInstanceAs (Decidable ((fields.all Field.isChoice = true ∧ IsDisjoint fields) ∨
    ∀ field ∈ fields, field.isChoice = false))

/-- Selects in an octet of choices and leaves any other alone. -/
def decideOctet (fields : List Field) (offer x : UInt8) : UInt8 :=
  if fields.all Field.isChoice then selectOctet fields offer x else x

private theorem decideOctet_part (fields : List Field) (offer x : UInt8) :
    decideOctet fields offer x &&& x = decideOctet fields offer x := by
  unfold decideOctet
  split
  · exact selectOctet_part fields offer x
  · exact UInt8.and_self

private theorem suits_decideOctet (h : IsSelectableOctet fields)
    (hsuits : ∀ field ∈ fields, field.Suits .capability offer x) :
    ∀ field ∈ fields, field.Suits .configuration offer (decideOctet fields offer x) := by
  intro field hfield
  rcases h with ⟨hchoices, hdisjoint⟩ | hnone
  · rw [decideOctet, if_pos hchoices]
    exact suits_selectOctet hdisjoint hfield (List.all_eq_true.mp hchoices field hfield)
      (hsuits field hfield)
  · have hother : ¬ fields.all Field.isChoice = true := by
      intro hchoices
      have hchoice := List.all_eq_true.mp hchoices field hfield
      rw [hnone field hfield] at hchoice
      cases hchoice
    rw [decideOctet, if_neg hother,
      Field.suits_configuration_iff_of_not_isChoice (hnone field hfield)]
    exact hsuits field hfield

private theorem suits_of_part (h : IsSelectableOctet fields) (hpart : y &&& x = y)
    (hsame : ¬ fields.all Field.isChoice = true → y = x)
    (hsuits : ∀ field ∈ fields, field.Suits .configuration offer y) :
    ∀ field ∈ fields, field.Suits .capability offer x := by
  intro field hfield
  -- bits were added only where all fields are choices; any other octet is the same
  by_cases hchoices : fields.all Field.isChoice = true
  · exact Field.suits_of_part (List.all_eq_true.mp hchoices field hfield) hpart
      (hsuits field hfield)
  · have hnone := h.resolve_left fun hall => hchoices hall.1
    rw [← hsame hchoices, ← Field.suits_configuration_iff_of_not_isChoice (hnone field hfield)]
    exact hsuits field hfield

end Octet

section Octets

variable {layout : Layout} {reading : Reading} {octets offer narrow wide : Octets}

/-- The values of all fields, in the order of the octets. -/
def values (layout : Layout) (octets : Octets) : List UInt8 :=
  (layout.entries octets).map Entry.value

/-- The reading admits the octets, and every field has something in common with the offer. -/
def Suits (reading : Reading) (layout : Layout) (offer octets : Octets) : Prop :=
  layout.Admits reading octets ∧ (layout.entries octets).meets (layout.values offer) = true

theorem suits_nil (reading : Reading) (layout : Layout) (offer : Octets) :
    layout.Suits reading offer [] := by
  simp [Suits, Admits, entries, Settings.meets]

theorem suits_cons {fields : List Field} {x q : UInt8} :
    Suits reading (fields :: layout) (q :: offer) (x :: octets) ↔
      (∀ field ∈ fields, field.Suits reading q x) ∧ layout.Suits reading offer octets := by
  have hmeets : (entries (fields :: layout) (x :: octets)).meets
      (values (fields :: layout) (q :: offer)) = true ↔
        (∀ field ∈ fields, (field.entry x).meets (q &&& field.known) = true) ∧
          (entries layout octets).meets (values layout offer) = true := by
    simp only [Settings.meets, values, entries_cons, List.map_append, List.map_map]
    rw [List.zip_append (by simp only [List.length_map]), List.all_append, Bool.and_eq_true,
      List.zip_map', List.all_map, List.all_eq_true]
    exact Iff.rfl
  simp only [Suits, Field.Suits, admits_cons, hmeets, forall_and]
  exact and_and_and_comm

def IsSelectable (layout : Layout) : Prop := ∀ fields ∈ layout, IsSelectableOctet fields

instance : Decidable layout.IsSelectable :=
  inferInstanceAs (Decidable (∀ fields ∈ layout, IsSelectableOctet fields))

/-- The octet at the index holds choices only. -/
def HasChoicesAt (layout : Layout) (i : Nat) : Prop :=
  ∃ fields ∈ layout[i]?, fields.all Field.isChoice = true

/-- The octets with the lowest bit that each choice has in common with the offer. -/
def select : Layout → Octets → Octets → Octets
  | fields :: layout, q :: offer, x :: octets =>
    decideOctet fields q x :: select layout offer octets
  | _, _, octets => octets

/-- A configuration can be selected from what suits as a capability. -/
theorem suits_select (h : layout.IsSelectable) (hlength : layout.length ≤ offer.length)
    (hsuits : layout.Suits .capability offer octets) :
    layout.Suits .configuration offer (layout.select offer octets) := by
  induction layout generalizing offer octets with
  | nil => exact ⟨admits_nil _ _, rfl⟩
  | cons fields layout ih =>
    cases offer with
    | nil => simp at hlength
    | cons q offer =>
      cases octets with
      | nil => exact suits_nil _ _ _
      | cons x octets =>
        obtain ⟨hfields, hlayout⟩ := List.forall_mem_cons.mp h
        obtain ⟨hhead, htail⟩ := suits_cons.mp hsuits
        exact suits_cons.mpr
          ⟨suits_decideOctet hfields hhead, ih hlayout (Nat.le_of_succ_le_succ hlength) htail⟩

theorem narrows_select (layout : Layout) (offer octets : Octets) :
    Octets.Narrows layout.HasChoicesAt (layout.select offer octets) octets := by
  induction layout generalizing offer octets with
  | nil => exact .refl _ _
  | cons fields layout ih =>
    cases offer with
    | nil => exact .refl _ _
    | cons q offer =>
      cases octets with
      | nil => exact .refl _ _
      | cons x octets =>
        refine Octets.Narrows.cons_iff.mpr ⟨⟨decideOctet_part fields q x, ?_⟩, ih offer octets⟩
        intro hother
        exact if_neg fun hchoices => hother ⟨fields, rfl, hchoices⟩

/-- What was selected from suits as a capability. -/
theorem suits_of_narrows (h : layout.IsSelectable) (hlength : layout.length ≤ offer.length)
    (hnarrows : Octets.Narrows layout.HasChoicesAt narrow wide)
    (hsuits : layout.Suits .configuration offer narrow) :
    layout.Suits .capability offer wide := by
  induction layout generalizing offer narrow wide with
  | nil => exact ⟨admits_nil _ _, rfl⟩
  | cons fields layout ih =>
    cases offer with
    | nil => simp at hlength
    | cons q offer =>
      cases wide with
      | nil => exact suits_nil _ _ _
      | cons x wide =>
        cases narrow with
        | nil => cases hnarrows.length
        | cons y narrow =>
          obtain ⟨hfields, hlayout⟩ := List.forall_mem_cons.mp h
          obtain ⟨hhead, htail⟩ := suits_cons.mp hsuits
          obtain ⟨⟨hpart, hsame⟩, hrest⟩ := Octets.Narrows.cons_iff.mp hnarrows
          have hother : ¬ fields.all Field.isChoice = true → y = x := by
            intro hchoices
            apply hsame
            rintro ⟨found, hfound, hall⟩
            cases Option.mem_some_iff.mp hfound
            exact hchoices hall
          exact suits_cons.mpr ⟨suits_of_part hfields hpart hother hhead,
            ih hlayout (Nat.le_of_succ_le_succ hlength) hrest htail⟩

end Octets

end Layout

end A2dp
