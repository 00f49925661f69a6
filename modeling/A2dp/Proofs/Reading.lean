import A2dp.Codec.Settings

/-!
# The two readings of a layout

A layout is read when every field admits its octet, and what is read then does not depend on the
reading: a configuration is a capability whose choices are all made up. So a buffer that can be
read as a configuration says the same as a capability, and the settings of a capability decide
whether it is also a configuration.
-/

namespace A2dp

theorem Reading.admits_capability {bits : UInt8}
    (h : Reading.configuration.admits bits = true) : Reading.capability.admits bits = true := by
  simp only [admits, bne_iff_ne, beq_iff_eq] at h ⊢
  intro hzero
  rw [hzero] at h
  exact absurd h (by decide)

private theorem ite_ok_error_eq_ok_iff {α : Type} {p : Prop} [Decidable p] {a value : α}
    {cause : Error} :
    (if p then Except.ok a else .error cause) = .ok value ↔ p ∧ value = a := by
  by_cases h : p
  · simp [h, eq_comm]
  · simp [h]

namespace Field

def Admits (field : Field) (reading : Reading) (octet : UInt8) : Prop :=
  match field with
  | .choice _ _ => reading.admits (octet &&& field.known) = true
  | .rateCode rates => (octet &&& field.known).toNat < rates.length
  | .version | .features _ | .reserved => True

theorem admits_choice_iff {setting : Setting} {choices : List Choice} {octet : UInt8} :
    (choice setting choices).Admits .capability octet ↔
      octet &&& (choice setting choices).known ≠ 0 := by
  simp [Admits, Reading.admits]

theorem admits_rateCode_iff {rates : List Nat} {reading : Reading} {octet : UInt8} :
    (rateCode rates).Admits reading octet ↔ (octet &&& 3).toNat < rates.length := Iff.rfl

theorem admits_version (reading : Reading) (octet : UInt8) : version.Admits reading octet := trivial

theorem admits_features (table : List Feature) (reading : Reading) (octet : UInt8) :
    (features table).Admits reading octet := trivial

theorem admits_reserved (reading : Reading) (octet : UInt8) : reserved.Admits reading octet :=
  trivial

theorem read_eq_ok_iff {field : Field} {reading : Reading} {octet value : UInt8} :
    field.read reading octet = .ok value ↔
      field.Admits reading octet ∧ value = octet &&& field.known := by
  cases field with
  | choice setting choices => exact ite_ok_error_eq_ok_iff
  | rateCode rates => exact ite_ok_error_eq_ok_iff
  | version => simp [read, Admits, eq_comm]
  | features table => simp [read, Admits, eq_comm]
  | reserved => simp [read, Admits, eq_comm]

def entry (field : Field) (octet : UInt8) : Entry := ⟨field, octet &&& field.known⟩

end Field

/-- The entry leaves no choice open. -/
def Entry.isDecided (entry : Entry) : Bool :=
  match entry.field with
  | .choice _ _ => Reading.configuration.admits entry.value
  | .rateCode _ | .version | .features _ | .reserved => true

def Settings.isDecided (settings : Settings) : Bool := settings.all Entry.isDecided

/-- A configuration is a capability that is decided. -/
theorem Field.admits_configuration_iff {field : Field} {octet : UInt8} :
    field.Admits .configuration octet ↔
      field.Admits .capability octet ∧ (field.entry octet).isDecided = true := by
  cases field with
  | choice setting choices =>
    simp only [Admits, entry, Entry.isDecided]
    exact ⟨fun h => ⟨Reading.admits_capability h, h⟩, And.right⟩
  | rateCode rates => simp [Admits, entry, Entry.isDecided]
  | version => simp [Admits, entry, Entry.isDecided]
  | features table => simp [Admits, entry, Entry.isDecided]
  | reserved => simp [Admits, entry, Entry.isDecided]

namespace Layout

def Admits (reading : Reading) (layout : Layout) (octets : Octets) : Prop :=
  ∀ pair ∈ layout.zip octets, ∀ field ∈ pair.1, field.Admits reading pair.2

/-- The entries of all fields, in the order of the octets. -/
def entries (layout : Layout) (octets : Octets) : Settings :=
  (layout.zip octets).flatMap fun pair => pair.1.map fun field => field.entry pair.2

theorem entries_cons (fields : List Field) (layout : Layout) (octet : UInt8) (octets : Octets) :
    entries (fields :: layout) (octet :: octets) =
      fields.map (fun field => field.entry octet) ++ entries layout octets := rfl

theorem mem_entries {layout : Layout} {octets : Octets} {entry : Entry} :
    entry ∈ layout.entries octets ↔
      ∃ pair ∈ layout.zip octets, ∃ field ∈ pair.1, field.entry pair.2 = entry := by
  simp only [entries, List.mem_flatMap, List.mem_map]

theorem map_field_entries {layout : Layout} {octets : Octets}
    (h : layout.length ≤ octets.length) :
    (layout.entries octets).map Entry.field = layout.flatten := by
  induction layout generalizing octets with
  | nil => rfl
  | cons fields layout ih =>
    cases octets with
    | nil => simp at h
    | cons octet octets =>
      rw [entries_cons, List.map_append, List.map_map, ih (Nat.le_of_succ_le_succ h),
        List.flatten_cons]
      exact congrArg (· ++ layout.flatten) (List.map_id' fields)

theorem admits_nil (reading : Reading) (octets : Octets) : Admits reading [] octets := by
  simp [Admits]

theorem admits_cons {reading : Reading} {fields : List Field} {layout : Layout} {octet : UInt8}
    {octets : Octets} :
    Admits reading (fields :: layout) (octet :: octets) ↔
      (∀ field ∈ fields, field.Admits reading octet) ∧ layout.Admits reading octets :=
  List.forall_mem_cons

private theorem readOctet_eq_ok_iff {reading : Reading} {octet : UInt8} {fields : List Field}
    {settings : Settings} :
    readOctet reading octet fields = .ok settings ↔
      (∀ field ∈ fields, field.Admits reading octet) ∧
        settings = fields.map fun field => field.entry octet := by
  induction fields generalizing settings with
  | nil => simp [readOctet, eq_comm]
  | cons field fields ih =>
    simp only [readOctet, bind_eq_ok, Field.read_eq_ok_iff, ih]
    constructor
    · intro h
      obtain ⟨value, ⟨hfield, rfl⟩, rest, ⟨hfields, rfl⟩, hsettings⟩ := h
      cases hsettings
      exact ⟨List.forall_mem_cons.mpr ⟨hfield, hfields⟩, rfl⟩
    · intro h
      obtain ⟨hall, rfl⟩ := h
      obtain ⟨hfield, hfields⟩ := List.forall_mem_cons.mp hall
      exact ⟨_, ⟨hfield, rfl⟩, _, ⟨hfields, rfl⟩, rfl⟩

/-- The reading succeeds exactly where it is admitted, and gives the entries of the fields. -/
theorem read_eq_ok_iff {reading : Reading} {layout : Layout} {octets : Octets}
    {settings : Settings} :
    layout.read reading octets = .ok settings ↔
      layout.Admits reading octets ∧ settings = layout.entries octets := by
  induction layout generalizing octets settings with
  | nil => simp [read, Admits, entries, eq_comm]
  | cons fields layout ih =>
    cases octets with
    | nil => simp [read, Admits, entries, eq_comm]
    | cons octet octets =>
      simp only [read, bind_eq_ok, readOctet_eq_ok_iff, ih]
      constructor
      · intro h
        obtain ⟨head, ⟨hhead, rfl⟩, tail, ⟨htail, rfl⟩, hsettings⟩ := h
        cases hsettings
        exact ⟨admits_cons.mpr ⟨hhead, htail⟩, rfl⟩
      · intro h
        obtain ⟨hall, rfl⟩ := h
        obtain ⟨hhead, htail⟩ := admits_cons.mp hall
        exact ⟨_, ⟨hhead, rfl⟩, _, ⟨htail, rfl⟩, rfl⟩

theorem admits_configuration_iff {layout : Layout} {octets : Octets} :
    layout.Admits .configuration octets ↔
      layout.Admits .capability octets ∧ (layout.entries octets).isDecided = true := by
  simp only [Admits, entries, Settings.isDecided, Field.admits_configuration_iff, List.all_flatMap,
    List.all_map, List.all_eq_true, Function.comp_apply]
  exact ⟨fun h => ⟨fun pair hpair field hfield => (h pair hpair field hfield).1,
      fun pair hpair field hfield => (h pair hpair field hfield).2⟩,
    fun h pair hpair field hfield => ⟨h.1 pair hpair field hfield, h.2 pair hpair field hfield⟩⟩

/-- The octets are a configuration exactly when they are a capability with decided settings. -/
theorem read_configuration_eq_ok_iff {layout : Layout} {octets : Octets} {settings : Settings} :
    layout.read .configuration octets = .ok settings ↔
      layout.read .capability octets = .ok settings ∧ settings.isDecided = true := by
  simp only [read_eq_ok_iff, admits_configuration_iff]
  constructor
  · intro h
    obtain ⟨⟨hadmits, hdecided⟩, rfl⟩ := h
    exact ⟨⟨hadmits, rfl⟩, hdecided⟩
  · intro h
    obtain ⟨⟨hadmits, rfl⟩, hdecided⟩ := h
    exact ⟨⟨hadmits, hdecided⟩, rfl⟩

end Layout

end A2dp
