import A2dp.Proofs.Advertisement
import A2dp.Proofs.EveryFamily

/-!
# The numbers of a stream

A configuration has made every choice, each choice has a row in its table, and so every question
for a number has an answer: a configuration gets all numbers, and nothing else gets any. Some codecs
look up the bit rate or the played channels by the bits of a choice, in another table than the one
that gives the choice its number. That the two agree is checked row by row.
-/

namespace A2dp

namespace Field

variable {setting : Setting} {choices : List Choice} {field : Field} {octet bits : UInt8}

/-- Every alternative of a choice is one bit. -/
def HasSingleBits : Field → Prop
  | .choice _ choices => ∀ choice ∈ choices, bitCount choice.bit = 1
  | .rateCode _ | .version | .features _ | .reserved => True

instance : DecidablePred HasSingleBits
  | .choice _ choices =>
    inferInstanceAs (Decidable (∀ choice ∈ choices, bitCount choice.bit = 1))
  | .rateCode _ | .version | .features _ | .reserved => isTrue trivial

/-- The field is a choice for the setting. -/
def settles (setting : Setting) : Field → Bool
  | .choice s _ => s = setting
  | .rateCode _ | .version | .features _ | .reserved => false

/-- The alternatives that the field has for a setting. -/
def rows (setting : Setting) : Field → List Choice
  | .choice s choices => if s = setting then choices else []
  | .rateCode _ | .version | .features _ | .reserved => []

private theorem exists_choice_of_and_known (h : bits &&& (choice setting choices).known ≠ 0) :
    ∃ choice ∈ choices, bits &&& choice.bit ≠ 0 := by
  induction choices with
  | nil => exact absurd UInt8.and_zero h
  | cons first choices ih =>
    have hknown : (choice setting (first :: choices)).known =
        first.bit ||| (choice setting choices).known := rfl
    rw [hknown, Bits.and_or_distrib_left] at h
    by_cases hfirst : bits &&& first.bit = 0
    · rw [hfirst, UInt8.zero_or] at h
      obtain ⟨found, hmem, hbit⟩ := ih h
      exact ⟨found, List.mem_cons_of_mem first hmem, hbit⟩
    · exact ⟨first, List.mem_cons_self, hfirst⟩

/-- The one bit of a choice that is made has a row in the table, and the row has its number. -/
theorem exists_row (hsettles : field.settles setting = true) (hbits : field.HasSingleBits)
    (hadmits : field.Admits .configuration octet) :
    ∃ row ∈ field.rows setting, (field.entry octet).bits? setting = some row.bit ∧
      (field.entry octet).number? setting = some row.value := by
  cases field with
  | choice s choices =>
    have hs : s = setting := of_decide_eq_true hsettles
    have hone : bitCount (octet &&& (choice s choices).known) = 1 := by
      simpa [Admits, Reading.admits] using hadmits
    have hmade : octet &&& (choice s choices).known &&& (choice s choices).known ≠ 0 := by
      rw [Bits.and_part_right]
      simpa [Admits, Reading.admits] using Reading.admits_capability hadmits
    -- the one bit that is set meets some row, whose bit is single too, so they are the same bit
    obtain ⟨row, hrow, hcommon⟩ := exists_choice_of_and_known hmade
    have hbit := Bits.eq_of_bitCount hone (hbits row hrow) hcommon
    have hsome : (choices.find? fun row =>
        row.bit == octet &&& (choice s choices).known).isSome = true :=
      List.find?_isSome.mpr ⟨row, hrow, by simp [hbit]⟩
    obtain ⟨first, hfirst⟩ := Option.isSome_iff_exists.mp hsome
    have hfound := List.find?_some hfirst
    have hsame : first.bit = octet &&& (choice s choices).known := eq_of_beq hfound
    simp only [rows, entry, Entry.bits?, Entry.number?, if_pos hs, hfirst, Option.map_some]
    exact ⟨first, List.mem_of_find?_eq_some hfirst, congrArg some hsame.symm, rfl⟩
  | rateCode rates => cases hsettles
  | version => cases hsettles
  | features table => cases hsettles
  | reserved => cases hsettles

private theorem admits_configuration_iff_bitCount :
    field.Admits .configuration octet ↔
      field.Admits .capability octet ∧
        (field.isChoice = true → bitCount (octet &&& field.known) = 1) := by
  rw [admits_configuration_iff]
  apply and_congr_right
  intro _
  cases field <;> simp [Entry.isDecided, entry, isChoice, Reading.admits]

end Field

private theorem Entry.none_of_not_settles {entry : Entry} {setting : Setting}
    (h : ¬ entry.field.settles setting = true) :
    entry.bits? setting = none ∧ entry.number? setting = none := by
  obtain ⟨field, value⟩ := entry
  cases field with
  | choice s choices =>
    have hs : s ≠ setting := fun hs => h (decide_eq_true hs)
    simp only [bits?, number?, if_neg hs, and_self]
  | rateCode rates => exact ⟨rfl, rfl⟩
  | version => exact ⟨rfl, rfl⟩
  | features table => exact ⟨rfl, rfl⟩
  | reserved => exact ⟨rfl, rfl⟩

namespace Settings

variable {settings : Settings} {setting : Setting}

/-- The first field that settles a setting gives both its bits and its number. -/
theorem exists_row {rows : List Choice}
    (hrows : ∀ entry ∈ settings, entry.field.settles setting = true →
      ∃ row ∈ rows, entry.bits? setting = some row.bit ∧ entry.number? setting = some row.value)
    (hsome : ∃ entry ∈ settings, entry.field.settles setting = true) :
    ∃ row ∈ rows,
      settings.bits? setting = some row.bit ∧ settings.number? setting = some row.value := by
  induction settings with
  | nil => simp at hsome
  | cons entry settings ih =>
    rw [List.forall_mem_cons] at hrows
    by_cases hsettles : entry.field.settles setting = true
    · obtain ⟨row, hrow, hbits, hnumber⟩ := hrows.1 hsettles
      exact ⟨row, hrow, by simp [bits?, hbits], by simp [number?, hnumber]⟩
    · have hrest : ∃ entry ∈ settings, entry.field.settles setting = true := by
        simpa [hsettles] using hsome
      obtain ⟨row, hrow, hbits, hnumber⟩ := ih hrows.2 hrest
      obtain ⟨hnoBits, hnoNumber⟩ := Entry.none_of_not_settles hsettles
      refine ⟨row, hrow, ?_, ?_⟩
      · rw [bits?, List.findSome?_cons, hnoBits]
        exact hbits
      · rw [number?, List.findSome?_cons, hnoNumber]
        exact hnumber

end Settings

namespace Layout

variable {layout : Layout} {reading : Reading} {octets b : Octets} {field : Field}

private theorem admits_of_mem_entries (hadmits : layout.Admits reading octets) {entry : Entry}
    (hentry : entry ∈ layout.entries octets) :
    ∃ field ∈ layout.flatten, ∃ octet, entry = field.entry octet ∧ field.Admits reading octet := by
  obtain ⟨pair, hpair, field, hfield, rfl⟩ := mem_entries.mp hentry
  exact ⟨field, List.mem_flatten.mpr ⟨pair.1, (List.of_mem_zip hpair).1, hfield⟩, pair.2, rfl,
    hadmits pair hpair field hfield⟩

private theorem exists_entry_of_mem (hlength : layout.length ≤ octets.length)
    (hadmits : layout.Admits reading octets) (hfield : field ∈ layout.flatten) :
    ∃ octet, field.entry octet ∈ layout.entries octets ∧ field.Admits reading octet := by
  obtain ⟨fields, hfields, hmem⟩ := List.mem_flatten.mp hfield
  rw [← List.map_fst_zip hlength] at hfields
  obtain ⟨pair, hpair, rfl⟩ := List.mem_map.mp hfields
  exact ⟨pair.2, mem_entries.mpr ⟨pair, hpair, field, hmem, rfl⟩, hadmits pair hpair field hmem⟩

/-- A configuration is a capability with one known bit in each bit field. -/
theorem admits_configuration_iff_bitFields (hlength : Header.size + layout.length ≤ b.length) :
    layout.Admits .configuration (b.drop Header.size) ↔
      layout.Admits .capability (b.drop Header.size) ∧
        ∀ field ∈ layout.bitFields, bitCount (field.bits b) = 1 := by
  have hbody : layout.length ≤ (b.drop Header.size).length := by
    rw [List.length_drop]
    omega
  rw [admits_iff_forall hbody, admits_iff_forall hbody, forall_mem_bitFields_iff]
  simp only [Field.admits_configuration_iff_bitCount, Octets.getD_drop, forall_and]
  exact Iff.rfl

private theorem rate?_entries_of_rates (h : ∀ field ∈ layout.flatten, field.rates = []) :
    (layout.entries octets).rate? = none := by
  apply List.findSome?_eq_none_iff.mpr
  intro entry hentry
  cases hrate : entry.rate? with
  | none => rfl
  | some n =>
    have hmem := Entry.mem_rates hrate
    rw [h entry.field (field_mem_of_mem_entries hentry)] at hmem
    cases hmem

/-- The only rate code of a layout decides the rate. -/
theorem rate?_entries_of_getElem? {i : Nat} {rates : List Nat}
    (hfields : layout[i]? = some [.rateCode rates])
    (hothers : ∀ field ∈ (layout.eraseIdx i).flatten, field.rates = [])
    (hlength : layout.length ≤ octets.length) :
    (layout.entries octets).rate? = rates[(octets.getD i 0 &&& 3).toNat]? := by
  induction layout generalizing i octets with
  | nil => cases hfields
  | cons fields layout ih =>
    cases octets with
    | nil => cases hlength
    | cons x octets =>
      rw [entries_cons, Settings.rate?, List.findSome?_append]
      cases i with
      | zero =>
        cases hfields
        have hrest : (entries layout octets).rate? = none := rate?_entries_of_rates hothers
        rw [Settings.rate?] at hrest
        rw [hrest, Option.or_none]
        exact List.findSome?_singleton
      | succ i =>
        rw [List.eraseIdx_cons_succ, List.flatten_cons, List.forall_mem_append] at hothers
        have hfirst : (entries [fields] [x]).rate? = none :=
          rate?_entries_of_rates (by simpa using hothers.1)
        rw [entries_cons, Settings.rate?, List.findSome?_append] at hfirst
        rw [(Option.or_eq_none_iff.mp hfirst).1, Option.none_or]
        exact ih hfields hothers.2 (Nat.le_of_succ_le_succ hlength)

end Layout

namespace Profile

variable {p : Profile} {b : Octets} {setting : Setting}

/-- Some field chooses the setting. -/
def chooses (p : Profile) (setting : Setting) : Bool := p.layout.flatten.any (·.settles setting)

/-- Every configuration has a number for the setting: some field chooses it, or it is constant. -/
def settles (p : Profile) (setting : Setting) : Bool :=
  p.chooses setting || (p.constants.lookup setting).isSome

/-- The alternatives that a codec has for a setting. -/
def rows (p : Profile) (setting : Setting) : List Choice :=
  p.layout.flatten.flatMap (·.rows setting)

theorem value_configuration_eq_some_iff {settings : Settings} :
    (p.configuration b).value = some settings ↔ p.read .configuration b = .ok settings := by
  rw [value_configuration, ← toOption_read_configuration, toOption_eq_some]

section Configuration

variable (hbits : ∀ field ∈ p.layout.flatten, field.HasSingleBits) {settings : Settings}
  (hread : p.read .configuration b = .ok settings)
include hbits hread

/-- What is chosen in a configuration is one row of a table, with its bits and its number. -/
theorem exists_row (hchosen : p.chooses setting = true) :
    ∃ row ∈ p.rows setting, settings.bits? setting = some row.bit ∧
      p.number? settings setting = some row.value := by
  obtain ⟨hcheck, hlayout⟩ := read_eq_ok_iff.mp hread
  obtain ⟨hadmits, rfl⟩ := Layout.read_eq_ok_iff.mp hlayout
  have hrows : ∀ entry ∈ p.layout.entries (b.drop Header.size),
      entry.field.settles setting = true → ∃ row ∈ p.rows setting,
        entry.bits? setting = some row.bit ∧ entry.number? setting = some row.value := by
    intro entry hentry hsettles
    obtain ⟨field, hfield, octet, rfl, hoctet⟩ := Layout.admits_of_mem_entries hadmits hentry
    obtain ⟨row, hrow, hboth⟩ := Field.exists_row hsettles (hbits field hfield) hoctet
    exact ⟨row, List.mem_flatMap.mpr ⟨field, hfield, hrow⟩, hboth⟩
  obtain ⟨field, hfield, hsettles⟩ := List.any_eq_true.mp hchosen
  obtain ⟨octet, hentry, -⟩ :=
    Layout.exists_entry_of_mem (length_layout_le_of_check hcheck) hadmits hfield
  obtain ⟨row, hrow, hrowBits, hnumber⟩ := Settings.exists_row hrows ⟨_, hentry, hsettles⟩
  exact ⟨row, hrow, hrowBits, Option.or_eq_some_iff.mpr (Or.inl hnumber)⟩

theorem exists_number? (hsettles : p.settles setting = true) :
    ∃ n, p.number? settings setting = some n := by
  rcases Bool.or_eq_true_iff.mp hsettles with hchosen | hconstant
  · obtain ⟨row, -, -, hnumber⟩ := exists_row hbits hread hchosen
    exact ⟨row.value, hnumber⟩
  · rw [← Option.isSome_iff_exists, number?, Option.isSome_or, hconstant, Bool.or_true]

end Configuration

end Profile

/-- The rule has mono for the channel modes that count one channel. -/
def SinkChannelRule.Fits (p : Profile) : SinkChannelRule → Prop
  | .monoFor bits => p.chooses .channelMode = true ∧
      ∀ row ∈ p.rows .channelMode, row.value = 1 ↔ row.bit = bits
  | .always channels =>
      ∀ n ∈ p.numbers .channelMode, channels = if n = 1 then .mono else .stereo

instance (p : Profile) : DecidablePred (SinkChannelRule.Fits p)
  | .monoFor bits => inferInstanceAs (Decidable (p.chooses .channelMode = true ∧
      ∀ row ∈ p.rows .channelMode, row.value = 1 ↔ row.bit = bits))
  | .always channels => inferInstanceAs (Decidable
      (∀ n ∈ p.numbers .channelMode, channels = if n = 1 then .mono else .stereo))

namespace Codec

variable {c : Codec} {b : Octets} {settings : Settings}

/-- How the bit rate of a stream follows from its other numbers and its rate code. -/
def BitRateLaw (b : Octets) (rate hertz depth channels : Int) : Codec → Prop
  | .aptX | .aptXHD => 4 * rate = hertz * depth * channels
  | .ldac => (44100 ∣ hertz → rate = 909000) ∧ (48000 ∣ hertz → rate = 990000) ∧
      (44100 ∣ hertz ∨ 48000 ∣ hertz)
  | .opus => rate = 128000 * channels
  | .lhdcV2 | .lhdcV3 => channels = 2 ∧
      [400000, 500000, 900000, 1000000][(b.getD 10 0 &&& 3).toNat]? = some rate
  | .lhdcV5 => channels = 2 ∧
      [400000, 500000, 900000, 1000000][(b.getD 11 0 &&& 3).toNat]? = some rate

/-- The number of the channel layout in which a stream of some channels is played, if at all. -/
def playedChannels (channels : Int) : Codec → Int
  | .aptX | .aptXHD | .lhdcV2 => -1
  | .ldac | .opus | .lhdcV3 | .lhdcV5 => if channels = 1 then 1 else 3

theorem hasSingleBits (c : Codec) : ∀ field ∈ c.profile.layout.flatten, field.HasSingleBits := by
  cases c <;> decide

theorem settles (c : Codec) :
    ∀ setting ∈ [Setting.sampleRate, .bitDepth, .channelMode],
      c.profile.settles setting = true := by
  cases c <;> decide

/-- A configuration is a valid buffer with one known bit in each bit field. -/
theorem exists_read_configuration_iff :
    (∃ settings, c.profile.read .configuration b = .ok settings) ↔
      c.profile.isValid b = true ∧ ∀ field ∈ c.bitFields, bitCount (field.bits b) = 1 := by
  rw [← isOk_iff, Profile.isOk_read_iff, Profile.isValid_iff, and_assoc, ← bitFields_eq]
  apply and_congr_right
  intro hcheck
  exact Layout.admits_configuration_iff_bitFields (Profile.length_of_check hcheck)

section Configuration

variable (hread : c.profile.read .configuration b = .ok settings)
include hread

private theorem mem_numbers_of_read {setting : Setting} {n : Nat}
    (hn : c.profile.number? settings setting = some n) : n ∈ c.profile.numbers setting := by
  rw [Profile.entries_of_configuration (Profile.value_configuration_eq_some_iff.mpr hread)] at hn
  exact Profile.mem_numbers hn

section Numbers

variable {hertz depth channels : Nat}
  (hhertz : c.profile.number? settings .sampleRate = some hertz)
  (hdepth : c.profile.number? settings .bitDepth = some depth)
  (hchannels : c.profile.number? settings .channelMode = some channels)
include hchannels

private theorem channels_eq_one_or_two : channels = 1 ∨ channels = 2 := by
  have htables : ∀ m ∈ c.profile.numbers .channelMode, m = 1 ∨ m = 2 := by
    cases c <;> decide
  exact htables channels (mem_numbers_of_read hread hchannels)

include hhertz hdepth

private theorem exists_quarter (hrule : c.profile.bitRateRule = .quarterOfPcm)
    (htables : ∀ m ∈ c.profile.numbers .bitDepth, 4 ∣ m) :
    ∃ rate : Nat, c.profile.bitRate? settings = some rate ∧
      (4 * rate : Int) = hertz * depth * channels := by
  refine ⟨hertz * depth * channels / 4, ?_, ?_⟩
  · simp [Profile.bitRate?, hrule, hhertz, hdepth, hchannels]
  · have hdvd : 4 ∣ hertz * depth * channels :=
      Nat.dvd_mul_right_of_dvd
        (Nat.dvd_mul_left_of_dvd (htables depth (mem_numbers_of_read hread hdepth)) hertz) channels
    exact_mod_cast Nat.mul_div_cancel' hdvd

omit hhertz hdepth in
private theorem exists_coded (hrule : c.profile.bitRateRule = .byCode)
    (htables : ∀ m ∈ c.profile.numbers .channelMode, m = 2) (i : Nat) {rates : List Nat}
    (hfields : c.profile.layout[i]? = some [.rateCode rates])
    (hothers : ∀ field ∈ (c.profile.layout.eraseIdx i).flatten, field.rates = [])
    (hrates : rates <+: [400000, 500000, 900000, 1000000]) :
    ∃ rate : Nat, c.profile.bitRate? settings = some rate ∧ (channels : Int) = 2 ∧
      ([400000, 500000, 900000, 1000000] : List Int)[
        (b.getD (Header.size + i) 0 &&& 3).toNat]? = some (rate : Int) := by
  have htwo := htables channels (mem_numbers_of_read hread hchannels)
  obtain ⟨hcheck, hok⟩ := Profile.read_eq_ok_iff.mp hread
  obtain ⟨hadmits, rfl⟩ := Layout.read_eq_ok_iff.mp hok
  have hle := Profile.length_layout_le_of_check hcheck
  have hcode := Field.admits_rateCode_iff.mp
    ((Layout.admits_iff_forall hle).mp hadmits i _ hfields _ (List.mem_singleton_self _))
  simp only [Profile.bitRate?, hrule, Layout.rate?_entries_of_getElem? hfields hothers hle]
  rw [Octets.getD_drop] at hcode ⊢
  refine ⟨_, List.getElem?_eq_getElem hcode, by exact_mod_cast htwo, ?_⟩
  -- the versions with three rates have the start of the table with four
  obtain ⟨more, hmore⟩ := hrates
  have hcast : ([400000, 500000, 900000, 1000000] : List Int) = (rates ++ more).map Nat.cast := by
    rw [hmore]
    rfl
  rw [hcast, List.getElem?_map, List.getElem?_append_left hcode, List.getElem?_eq_getElem hcode]
  rfl

omit hchannels hhertz hdepth in
/-- A rate that is tabled by the bits of a choice is related to the number of the choice as each row
of the choice is to the rate in the table. -/
theorem exists_tabled {setting : Setting} {n : Nat}
    (hn : c.profile.number? settings setting = some n) {table : List (UInt8 × Nat)}
    (hrule : c.profile.bitRateRule = .byBits setting table)
    (hchosen : c.profile.chooses setting = true) {P : Nat → Nat → Prop}
    (hrows : ∀ row ∈ c.profile.rows setting, ∃ rate ∈ table.lookup row.bit, P rate row.value) :
    ∃ rate : Nat, c.profile.bitRate? settings = some rate ∧ P rate n := by
  obtain ⟨row, hrow, hbits, hnumber⟩ := Profile.exists_row c.hasSingleBits hread hchosen
  obtain rfl : row.value = n := Option.some.inj (hnumber.symm.trans hn)
  obtain ⟨rate, hrate, hlaw⟩ := hrows row hrow
  refine ⟨rate, ?_, hlaw⟩
  simp only [Profile.bitRate?, hrule, hbits, Option.bind_some]
  exact hrate

/-- A configuration has a bit rate, and it is the one that the other numbers call for. -/
theorem exists_bitRate? :
    ∃ rate : Nat, c.profile.bitRate? settings = some rate ∧
      c.BitRateLaw b rate hertz depth channels := by
  cases c with
  | aptX => exact exists_quarter hread hhertz hdepth hchannels rfl (by decide)
  | aptXHD => exact exists_quarter hread hhertz hdepth hchannels rfl (by decide)
  | ldac =>
    exact exists_tabled hread hhertz rfl rfl (P := fun rate hertz =>
      (44100 ∣ (hertz : Int) → (rate : Int) = 909000) ∧
        (48000 ∣ (hertz : Int) → (rate : Int) = 990000) ∧
          (44100 ∣ (hertz : Int) ∨ 48000 ∣ (hertz : Int))) (by decide)
  | opus =>
    exact exists_tabled hread hchannels rfl rfl
      (P := fun rate channels => (rate : Int) = 128000 * channels) (by decide)
  | lhdcV2 => exact exists_coded hread hchannels rfl (by decide) 1 rfl (by decide) (by decide)
  | lhdcV3 => exact exists_coded hread hchannels rfl (by decide) 1 rfl (by decide) (by decide)
  | lhdcV5 => exact exists_coded hread hchannels rfl (by decide) 2 rfl (by decide) (by decide)

end Numbers

/-- A configuration has all numbers, and they fit together. -/
theorem exists_numbers :
    ∃ rate hertz depth channels : Nat,
      (c.profile.bitRate b).value = some rate ∧
      (c.profile.number .sampleRate b).value = some hertz ∧
      (c.profile.number .bitDepth b).value = some depth ∧
      (c.profile.number .channelMode b).value = some channels ∧
      (channels = 1 ∨ channels = 2) ∧ c.BitRateLaw b rate hertz depth channels := by
  have hconfiguration := Profile.value_configuration_eq_some_iff.mpr hread
  have hsome : ∀ setting ∈ [Setting.sampleRate, .bitDepth, .channelMode],
      ∃ n, c.profile.number? settings setting = some n := fun setting hsetting =>
    Profile.exists_number? c.hasSingleBits hread (c.settles setting hsetting)
  obtain ⟨hertz, hhertz⟩ := hsome .sampleRate (by decide)
  obtain ⟨depth, hdepth⟩ := hsome .bitDepth (by decide)
  obtain ⟨channels, hchannels⟩ := hsome .channelMode (by decide)
  obtain ⟨rate, hrate, hlaw⟩ := exists_bitRate? hread hhertz hdepth hchannels
  refine ⟨rate, hertz, depth, channels, ?_, ?_, ?_, ?_,
    channels_eq_one_or_two hread hchannels, hlaw⟩
  · exact (congrArg (Option.bind · _) hconfiguration).trans hrate
  · exact (congrArg (Option.bind · _) hconfiguration).trans hhertz
  · exact (congrArg (Option.bind · _) hconfiguration).trans hdepth
  · exact (congrArg (Option.bind · _) hconfiguration).trans hchannels

end Configuration

/-- The channels that a fitting rule gives are those that the channel mode counts. -/
theorem channels_eq (hread : c.profile.read .configuration b = .ok settings)
    {rule : SinkChannelRule} (hfits : rule.Fits c.profile) {channels : Nat}
    (hchannels : c.profile.number? settings .channelMode = some channels) :
    rule.channels settings = if channels = 1 then .mono else .stereo := by
  cases rule with
  | monoFor bits =>
    obtain ⟨hchosen, hrows⟩ := hfits
    obtain ⟨row, hrow, hbits, hnumber⟩ := Profile.exists_row c.hasSingleBits hread hchosen
    obtain rfl : row.value = channels := Option.some.inj (hnumber.symm.trans hchannels)
    simp only [SinkChannelRule.channels, hbits, Option.some.injEq, hrows row hrow]
  | always played => exact hfits channels (mem_numbers_of_read hread hchannels)

private theorem number_pos {setting : Setting} {n : Nat}
    (h : (c.profile.number setting b).value = some n) : 0 < n := by
  have htables : ∀ m ∈ c.profile.numbers setting, 0 < m := by
    cases c <;> cases setting <;> decide
  exact htables n (Profile.number_mem h)

private theorem bitRate_pos {n : Nat} (h : (c.profile.bitRate b).value = some n) : 0 < n := by
  have htables : ∀ m ∈ c.profile.bitRates, 0 < m := by
    cases c <;> decide
  exact htables n (Profile.bitRate_mem h)

private theorem playedChannels_eq (c : Codec) (channels : Int) :
    c.playedChannels channels =
      if Role.localSink ∈ c.playedRoles then if channels = 1 then 1 else 3 else -1 := by
  cases c <;> rfl

/-- A codec that is received has a rule for its channels, and the rule fits its channel modes. -/
theorem exists_sinkChannelRule (c : Codec) (hrole : Role.localSink ∈ c.playedRoles) :
    ∃ rule, c.profile.sinkChannelRule = some rule ∧ rule.Fits c.profile := by
  cases c with
  | ldac => exact ⟨_, rfl, by decide⟩
  | opus => exact ⟨_, rfl, by decide⟩
  | lhdcV3 => exact ⟨_, rfl, by decide⟩
  | lhdcV5 => exact ⟨_, rfl, by decide⟩
  | aptX => exact absurd hrole (by decide)
  | aptXHD => exact absurd hrole (by decide)
  | lhdcV2 => exact absurd hrole (by decide)

/-- Every codec that is received has a channel layout: one channel is mono and two are stereo. -/
theorem value_sinkChannels (hrole : Role.localSink ∈ c.playedRoles) :
    (c.profile.sinkChannels b).value = (c.profile.number .channelMode b).value.map
      fun channels => if channels = 1 then .mono else .stereo := by
  obtain ⟨rule, hrule, hfits⟩ := c.exists_sinkChannelRule hrole
  simp only [Profile.sinkChannels, Profile.number, hrule, Reported.value_map]
  cases hvalue : (c.profile.configuration b).value with
  | none => rfl
  | some settings =>
    have hread := Profile.value_configuration_eq_some_iff.mp hvalue
    obtain ⟨channels, hchannels⟩ :=
      Profile.exists_number? c.hasSingleBits hread (c.settles .channelMode (by decide))
    simp only [Option.map_some, Option.bind_some, hchannels, Option.some.injEq]
    exact channels_eq hread hfits hchannels

end Codec

namespace Registry

variable {scmsT : Bool} {b : Octets} {c : Codec}

section Family

variable {r : Registry} (hfamily : r.familyOf b = some (.codec c))
include hfamily

theorem value_bitRate_of_family :
    (r.bitRate b).value = (c.profile.bitRate b).value.elim (-1) Nat.cast := by
  rw [bitRate, Reported.value_map, value_ask, hfamily]
  exact answer_eq fun n hn => Codec.bitRate_lt hn

theorem value_trackNumber_of_family (setting : Setting) :
    (r.trackNumber setting b).value =
      (c.profile.number setting b).value.elim (-1) Nat.cast := by
  rw [trackNumber, Reported.value_map, value_ask, hfamily]
  exact answer_eq fun n hn => Codec.number_lt hn

end Family

private theorem resolveBuffer_builtin_eq_iff :
    (builtin scmsT).resolveBuffer b = .ok (some (.codec c)) ↔
      Header.key b = .ok c.profile.key := by
  simp only [resolveBuffer_eq_ok_some_iff, familyOf_builtin_eq_some_iff, Family.codec.injEq]
  exact ⟨fun ⟨d, hd, hkey⟩ => hd ▸ hkey, fun hkey => ⟨c, rfl, hkey⟩⟩

section Key

variable (hkey : Header.key b = .ok c.profile.key)
include hkey

private theorem exists_isValidFor_iff_of_key :
    (∃ role, ((builtin scmsT).isValidFor role b).value = true) ↔ c.profile.isValid b = true := by
  simp only [isValidFor_builtin_iff_of_key hkey]
  constructor
  · rintro ⟨role, -, hvalid⟩
    exact hvalid
  · intro hvalid
    have hsource : Role.localSource ∈ c.playedRoles := by cases c <;> decide
    exact ⟨.localSource, hsource, hvalid⟩

private theorem value_bitRate_of_key :
    ((builtin scmsT).bitRate b).value = (c.profile.bitRate b).value.elim (-1) Nat.cast :=
  value_bitRate_of_family (familyOf_builtin_of_key hkey)

private theorem value_trackNumber_of_key (setting : Setting) :
    ((builtin scmsT).trackNumber setting b).value =
      (c.profile.number setting b).value.elim (-1) Nat.cast :=
  value_trackNumber_of_family (familyOf_builtin_of_key hkey) setting

private theorem value_sinkChannelType_of_key :
    ((builtin scmsT).sinkChannelType b).value =
      (c.profile.number .channelMode b).value.elim (-1) fun n => c.playedChannels n := by
  rw [sinkChannelType, Reported.value_map, value_askFor, familyOf_builtin_of_key hkey]
  by_cases hrole : Role.localSink ∈ c.playedRoles
  · have hsupports : (Family.codec c).roles.supports .localSink = true :=
      (c.supports_iff_mem_playedRoles _).mpr hrole
    have hvalue : ((Family.codec c).sinkChannels b).value = _ := Codec.value_sinkChannels hrole
    simp only [Option.filter, hsupports, if_true, Option.elim_some, hvalue, c.playedChannels_eq,
      if_pos hrole]
    cases (c.profile.number .channelMode b).value with
    | none => rfl
    | some n =>
      by_cases hone : n = 1
      · subst hone
        rfl
      · have hcast : (n : Int) ≠ 1 := by exact_mod_cast hone
        simp only [Option.map_some, Option.elim_some, if_neg hone, if_neg hcast]
        rfl
  · have hsupports : (Family.codec c).roles.supports .localSink = false :=
      Bool.eq_false_iff.mpr fun h => hrole ((c.supports_iff_mem_playedRoles _).mp h)
    simp only [Option.filter, hsupports, c.playedChannels_eq, if_neg hrole]
    cases (c.profile.number .channelMode b).value <;> rfl

end Key

/-- Only a configuration of a known codec has numbers. -/
theorem numbers_of_not_configuration
    (h : ∀ c : Codec, Header.key b = .ok c.profile.key →
      ∀ settings, c.profile.read .configuration b ≠ .ok settings) :
    ((builtin scmsT).bitRate b).value = -1 ∧
      (∀ setting, ((builtin scmsT).trackNumber setting b).value = -1) ∧
      ((builtin scmsT).sinkChannelType b).value = -1 := by
  cases hfamily : (builtin scmsT).familyOf b with
  | none =>
    refine ⟨?_, fun setting => ?_, ?_⟩
    · rw [bitRate, Reported.value_map, value_ask, hfamily]
      rfl
    · rw [trackNumber, Reported.value_map, value_ask, hfamily]
      rfl
    · rw [sinkChannelType, Reported.value_map, value_askFor, hfamily]
      rfl
  | some family =>
    obtain ⟨c, -, hkey⟩ := familyOf_builtin_eq_some_iff.mp hfamily
    have hnone : (c.profile.configuration b).value = none := by
      rw [Option.eq_none_iff_forall_ne_some]
      intro settings hsettings
      exact h c hkey settings (Profile.value_configuration_eq_some_iff.mp hsettings)
    have hnumber : ∀ setting, (c.profile.number setting b).value = none := fun setting =>
      congrArg (Option.bind · _) hnone
    refine ⟨?_, fun setting => ?_, ?_⟩
    · have hrate : (c.profile.bitRate b).value = none := congrArg (Option.bind · _) hnone
      rw [value_bitRate_of_key hkey, hrate]
      rfl
    · rw [value_trackNumber_of_key hkey, hnumber]
      rfl
    · rw [value_sinkChannelType_of_key hkey, hnumber]
      rfl

/-- The numbers of a stream stand or fall together: all are given for a valid buffer with one known
bit in each bit field, and none for any other. Those that are given agree with each other. -/
theorem streamNumbers_agree (scmsT : Bool) (b : Octets) :
    let r := builtin scmsT
    let rate := (r.bitRate b).value
    let hertz := (r.sampleRate b).value
    let depth := (r.bitsPerSample b).value
    let channels := (r.channelCount b).value
    let played := (r.sinkChannelType b).value
    (rate = -1 ∧ hertz = -1 ∧ depth = -1 ∧ channels = -1 ∧ played = -1 ∨
      0 < rate ∧ 0 < hertz ∧ 0 < depth ∧ 0 < channels) ∧
    (0 < rate ↔
      (∃ role, (r.isValidFor role b).value = true) ∧
        ∃ c, r.resolveBuffer b = .ok (some (.codec c)) ∧
          ∀ field ∈ c.bitFields, bitCount (field.bits b) = 1) ∧
    ∀ c, r.resolveBuffer b = .ok (some (.codec c)) → 0 < rate →
      (channels = 1 ∨ channels = 2) ∧ played = c.playedChannels channels ∧
        c.BitRateLaw b rate hertz depth channels := by
  intro r rate hertz depth channels played
  by_cases hconfiguration : ∃ c : Codec, Header.key b = .ok c.profile.key ∧
      ∃ settings, c.profile.read .configuration b = .ok settings
  · -- a configuration: every number is there
    obtain ⟨c, hkey, settings, hread⟩ := hconfiguration
    obtain ⟨n, m, k, l, hn, hm, hk, hl, hcount, hlaw⟩ := Codec.exists_numbers hread
    have hrate : rate = n := by simp only [rate, r, value_bitRate_of_key hkey, hn, Option.elim_some]
    have hhertz : hertz = m := by
      simp only [hertz, r, sampleRate, value_trackNumber_of_key hkey, hm, Option.elim_some]
    have hdepth : depth = k := by
      simp only [depth, r, bitsPerSample, value_trackNumber_of_key hkey, hk, Option.elim_some]
    have hchannels : channels = l := by
      simp only [channels, r, channelCount, value_trackNumber_of_key hkey, hl, Option.elim_some]
    have hplayed : played = c.playedChannels l := by
      simp only [played, r, value_sinkChannelType_of_key hkey, hl, Option.elim_some]
    have hpositive : 0 < rate ∧ 0 < hertz ∧ 0 < depth ∧ 0 < channels := by
      rw [hrate, hhertz, hdepth, hchannels]
      exact ⟨Int.natCast_pos.mpr (Codec.bitRate_pos hn), Int.natCast_pos.mpr (Codec.number_pos hm),
        Int.natCast_pos.mpr (Codec.number_pos hk), Int.natCast_pos.mpr (Codec.number_pos hl)⟩
    obtain ⟨hvalid, hone⟩ := Codec.exists_read_configuration_iff.mp ⟨settings, hread⟩
    refine ⟨Or.inr hpositive, iff_of_true hpositive.1 ?_, ?_⟩
    · exact ⟨(exists_isValidFor_iff_of_key hkey).mpr hvalid, c,
        resolveBuffer_builtin_eq_iff.mpr hkey, hone⟩
    · intro d hd _
      have hsame : Header.key b = .ok d.profile.key := resolveBuffer_builtin_eq_iff.mp hd
      obtain rfl : c = d := Codec.eq_of_key_eq (Except.ok.inj (hkey.symm.trans hsame))
      rw [hplayed, hrate, hhertz, hdepth, hchannels]
      exact ⟨by exact_mod_cast hcount, rfl, hlaw⟩
  · -- anything else, from a malformed header to a capability that leaves a choice open
    have hnone : ∀ c : Codec, Header.key b = .ok c.profile.key →
        ∀ settings, c.profile.read .configuration b ≠ .ok settings :=
      fun c hkey settings hread => hconfiguration ⟨c, hkey, settings, hread⟩
    obtain ⟨hrate, hnumber, hplayed⟩ :
        rate = -1 ∧ (∀ setting, (r.trackNumber setting b).value = -1) ∧ played = -1 :=
      numbers_of_not_configuration hnone
    have hnot : ¬ 0 < rate := by
      rw [hrate]
      decide
    refine ⟨Or.inl ⟨hrate, hnumber _, hnumber _, hnumber _, hplayed⟩, iff_of_false hnot ?_,
      fun _ _ hpositive => absurd hpositive hnot⟩
    rintro ⟨hvalid, c, hc, hone⟩
    have hkey : Header.key b = .ok c.profile.key := resolveBuffer_builtin_eq_iff.mp hc
    rw [exists_isValidFor_iff_of_key hkey] at hvalid
    exact hconfiguration ⟨c, hkey, Codec.exists_read_configuration_iff.mpr ⟨hvalid, hone⟩⟩

end Registry

end A2dp
