import A2dp.Proofs.SinkSupport

/-!
# The configurations that a capability describes

Clearing bits in the choices of a capability leaves the configurations it describes, and there is at
least one. A configuration is read as a capability with the same settings, and as such it describes
itself alone: a choice of one bit has no smaller part that is still a choice.
-/

namespace A2dp

namespace Field

variable {field : Field} {x y : UInt8}

/-- What is left of a choice of one bit is this bit. -/
theorem entry_eq_of_part (hchoice : field.isChoice = true) (hpart : y &&& x = y)
    (hwide : field.Admits .configuration x) (hnarrow : field.Admits .capability y) :
    field.entry y = field.entry x := by
  cases field with
  | choice setting choices =>
    have hone : bitCount (x &&& (choice setting choices).known) = 1 := beq_iff_eq.mp hwide
    have hknown := admits_choice_iff.mp hnarrow
    have hcommon : x &&& (choice setting choices).known &&& y =
        y &&& (choice setting choices).known := by
      rw [UInt8.and_comm, ← UInt8.and_assoc, hpart]
    have hsame := Bits.part_of_bitCount hone (by rwa [hcommon])
    exact congrArg (Entry.mk _) (hcommon.symm.trans hsame)
  | rateCode rates => cases hchoice
  | version => cases hchoice
  | features table => cases hchoice
  | reserved => cases hchoice

/-- A field suits the offer it makes itself. -/
theorem suits_self (h : field.Admits .capability x) : field.Suits .capability x x := by
  refine ⟨h, ?_⟩
  cases field with
  | choice setting choices => simpa [entry, Entry.meets] using admits_choice_iff.mp h
  | rateCode rates => exact decide_eq_true (UInt8.le_refl _)
  | version => rfl
  | features table => rfl
  | reserved => rfl

end Field

namespace Layout

variable {layout : Layout} {octets narrow wide : Octets}

private theorem suits_self (h : layout.Admits .capability octets) :
    layout.Suits .capability octets octets := by
  induction layout generalizing octets with
  | nil => exact ⟨h, rfl⟩
  | cons fields layout ih =>
    cases octets with
    | nil => exact suits_nil _ _ _
    | cons x octets =>
      obtain ⟨hhead, htail⟩ := admits_cons.mp h
      exact suits_cons.mpr ⟨fun field hfield => Field.suits_self (hhead field hfield), ih htail⟩

/-- No capability is left of a configuration but one with the same entries. -/
theorem entries_eq_of_narrows (hnarrows : Octets.Narrows layout.HasChoicesAt narrow wide)
    (hwide : layout.Admits .configuration wide) (hnarrow : layout.Admits .capability narrow) :
    layout.entries narrow = layout.entries wide := by
  induction layout generalizing narrow wide with
  | nil => rfl
  | cons fields layout ih =>
    cases wide with
    | nil =>
      rw [List.eq_nil_of_length_eq_zero hnarrows.length]
    | cons x wide =>
      cases narrow with
      | nil => cases hnarrows.length
      | cons y narrow =>
        obtain ⟨⟨hpart, hsame⟩, hrest⟩ := Octets.Narrows.cons_iff.mp hnarrows
        obtain ⟨hhead, htail⟩ := admits_cons.mp hwide
        obtain ⟨hhead', htail'⟩ := admits_cons.mp hnarrow
        rw [entries_cons, entries_cons, ih hrest htail htail']
        congr 1
        -- an octet that is not all choices has no bit cleared
        by_cases hchoices : fields.all Field.isChoice = true
        · apply List.map_congr_left
          intro field hfield
          exact Field.entry_eq_of_part (List.all_eq_true.mp hchoices field hfield) hpart
            (hhead field hfield) (hhead' field hfield)
        · have hother : ¬ HasChoicesAt (fields :: layout) 0 := by
            rintro ⟨found, hfound, hall⟩
            cases Option.mem_some_iff.mp hfound
            exact hchoices hall
          rw [hsame hother]

end Layout

namespace Codec

variable {c : Codec} {b narrow : Octets} {s t : Settings}

/-- The settings are those of a configuration that is left when bits in the choices of the buffer
are cleared. -/
def Describes (c : Codec) (b : Octets) (settings : Settings) : Prop :=
  ∃ narrow, Octets.Narrows (· ∈ c.choiceOctets) narrow b ∧
    c.profile.read .configuration narrow = .ok settings

/-- Keeping the lowest bit of each choice leaves a configuration. -/
theorem exists_describes (h : c.profile.read .capability b = .ok s) : ∃ t, c.Describes b t := by
  obtain ⟨hcheck, hread⟩ := Profile.read_eq_ok_iff.mp h
  have hadmits := (Layout.read_eq_ok_iff.mp hread).1
  have hselected := Layout.suits_select c.isSelectable_layout
    (Profile.length_layout_le_of_check hcheck) (Layout.suits_self hadmits)
  have hsize := Header.size_le_of_key (Header.check_eq_ok_iff.mp hcheck).2.2.2.2
  have hnarrows := narrows_of_body hsize
    (Layout.narrows_select c.profile.layout (b.drop Header.size) (b.drop Header.size))
  refine ⟨_, _, hnarrows, Profile.read_eq_ok_iff.mpr ⟨?_, Layout.read_eq_ok_iff.mpr ⟨?_, rfl⟩⟩⟩
  · rw [(hnarrows.agree c.size_le_of_mem_choiceOctets).check]
    exact hcheck
  · rw [List.drop_left' (List.length_take_of_le hsize)]
    exact hselected.1

private theorem eq_of_narrows_configuration (h : c.profile.read .configuration b = .ok s)
    (hnarrows : Octets.Narrows (· ∈ c.choiceOctets) narrow b)
    (hread : c.profile.read .capability narrow = .ok t) : t = s := by
  obtain ⟨hwide, rfl⟩ := Layout.read_eq_ok_iff.mp (Profile.read_eq_ok_iff.mp h).2
  obtain ⟨hnarrow, rfl⟩ := Layout.read_eq_ok_iff.mp (Profile.read_eq_ok_iff.mp hread).2
  exact Layout.entries_eq_of_narrows (body_of_narrows hnarrows) hwide hnarrow

private theorem describes_iff_of_configuration (h : c.profile.read .configuration b = .ok s) :
    c.Describes b t ↔ t = s := by
  constructor
  · rintro ⟨narrow, hnarrows, hread⟩
    exact eq_of_narrows_configuration h hnarrows (Profile.read_configuration_eq_ok_iff.mp hread).1
  · rintro rfl
    exact ⟨b, .refl _ _, h⟩

/-- A configuration is read as a capability with the same settings. So trying both readings gives
what the capability says or why it says nothing, and of all capabilities, which each describe a
configuration, the configurations are those that describe their own settings and no others. -/
theorem configuration_describes_itself_only (c : Codec) (b : Octets) :
    (∀ s, c.profile.read .configuration b = .ok s → c.profile.read .capability b = .ok s) ∧
    c.profile.readAny b = c.profile.read .capability b ∧
    (∀ s, c.profile.read .capability b = .ok s →
      (∃ t, c.Describes b t) ∧
        (c.profile.read .configuration b = .ok s ↔ ∀ t, c.Describes b t ↔ t = s)) := by
  refine ⟨fun s hread => (Profile.read_configuration_eq_ok_iff.mp hread).1,
    c.profile.readAny_eq_read_capability b, ?_⟩
  intro s hread
  refine ⟨exists_describes hread, fun h t => describes_iff_of_configuration h, ?_⟩
  intro honly
  -- the settings are those of some configuration, and so are decided
  obtain ⟨narrow, -, hnarrow⟩ := (honly s).mpr rfl
  have hdecided := (Profile.read_configuration_eq_ok_iff.mp hnarrow).2
  exact Profile.read_configuration_eq_ok_iff.mpr ⟨hread, hdecided⟩

end Codec

end A2dp
