import A2dp.Proofs.Capability

/-!
# Where the numbers of a codec come from

A codec answers with the numbers of its tables: those of its choices, its constants, its rate
codes, and what its rule for the bit rate makes of them. The tables of the codecs are short, so
what is true of all their numbers is checked once, and no answer is too large to be given.
-/

namespace A2dp

private theorem mem_of_lookup {α β : Type} [BEq α] [LawfulBEq α] {rows : List (α × β)} {a : α}
    {x : β} (h : rows.lookup a = some x) : (a, x) ∈ rows := by
  obtain ⟨before, after, hrows, -⟩ := List.lookup_eq_some_iff.mp h
  rw [hrows]
  exact List.mem_append_right before List.mem_cons_self

namespace Field

def numbers (setting : Setting) : Field → List Nat
  | .choice s choices => if s = setting then choices.map (·.value) else []
  | .rateCode _ | .version | .features _ | .reserved => []

def rates : Field → List Nat
  | .rateCode rates => rates
  | .choice _ _ | .version | .features _ | .reserved => []

end Field

namespace Entry

theorem mem_numbers {entry : Entry} {setting : Setting} {n : Nat}
    (h : entry.number? setting = some n) : n ∈ entry.field.numbers setting := by
  obtain ⟨field, value⟩ := entry
  cases field with
  | choice s choices =>
    simp only [number?] at h
    simp only [Field.numbers]
    by_cases hs : s = setting
    · rw [if_pos hs] at h ⊢
      obtain ⟨choice, hfound, hvalue⟩ := Option.map_eq_some_iff.mp h
      exact List.mem_map.mpr ⟨choice, List.mem_of_find?_eq_some hfound, hvalue⟩
    · rw [if_neg hs] at h
      cases h
  | rateCode rates => cases h
  | version => cases h
  | features table => cases h
  | reserved => cases h

theorem mem_rates {entry : Entry} {n : Nat} (h : entry.rate? = some n) :
    n ∈ entry.field.rates := by
  obtain ⟨field, value⟩ := entry
  cases field with
  | rateCode rates => exact List.mem_of_getElem? h
  | choice s choices => cases h
  | version => cases h
  | features table => cases h
  | reserved => cases h

end Entry

/-- The fields of the entries are those of the layout. -/
theorem Layout.field_mem_of_mem_entries {layout : Layout} {octets : Octets} {entry : Entry}
    (h : entry ∈ layout.entries octets) : entry.field ∈ layout.flatten := by
  obtain ⟨pair, hpair, field, hfield, rfl⟩ := mem_entries.mp h
  exact List.mem_flatten.mpr ⟨pair.1, (List.of_mem_zip hpair).1, hfield⟩

namespace Profile

variable {p : Profile} {b octets : Octets} {n : Nat}

def numbers (p : Profile) (setting : Setting) : List Nat :=
  p.layout.flatten.flatMap (·.numbers setting) ++
    (p.constants.filter fun row => row.1 = setting).map (·.2)

def bitRates (p : Profile) : List Nat :=
  match p.bitRateRule with
  | .quarterOfPcm =>
    (p.numbers .sampleRate).flatMap fun rate =>
      (p.numbers .bitDepth).flatMap fun depth =>
        (p.numbers .channelMode).map fun channels => rate * depth * channels / 4
  | .byBits _ table => table.map (·.2)
  | .byCode => p.layout.flatten.flatMap Field.rates

theorem mem_numbers {setting : Setting}
    (h : p.number? (p.layout.entries octets) setting = some n) : n ∈ p.numbers setting := by
  unfold number? at h
  rcases Option.or_eq_some_iff.mp h with hfield | ⟨-, hconstant⟩
  · obtain ⟨entry, hentry, hn⟩ := List.exists_of_findSome?_eq_some hfield
    apply List.mem_append_left
    exact List.mem_flatMap.mpr
      ⟨entry.field, Layout.field_mem_of_mem_entries hentry, Entry.mem_numbers hn⟩
  · apply List.mem_append_right
    exact List.mem_map.mpr ⟨(setting, n), by simpa using mem_of_lookup hconstant, rfl⟩

private theorem mem_bitRates (h : p.bitRate? (p.layout.entries octets) = some n) :
    n ∈ p.bitRates := by
  unfold bitRate? at h
  unfold bitRates
  cases hrule : p.bitRateRule with
  | quarterOfPcm =>
    simp only [hrule, bind, Option.bind_eq_some_iff] at h
    obtain ⟨rate, hrate, depth, hdepth, channels, hchannels, hn⟩ := h
    simp only [List.mem_flatMap, List.mem_map]
    exact ⟨rate, mem_numbers hrate, depth, mem_numbers hdepth, channels, mem_numbers hchannels,
      Option.some.inj hn⟩
  | byBits setting table =>
    simp only [hrule, Option.bind_eq_some_iff] at h
    obtain ⟨bits, -, hn⟩ := h
    exact List.mem_map.mpr ⟨(bits, n), mem_of_lookup hn, rfl⟩
  | byCode =>
    simp only [hrule] at h
    obtain ⟨entry, hentry, hn⟩ := List.exists_of_findSome?_eq_some h
    exact List.mem_flatMap.mpr
      ⟨entry.field, Layout.field_mem_of_mem_entries hentry, Entry.mem_rates hn⟩

theorem entries_of_configuration {settings : Settings}
    (h : (p.configuration b).value = some settings) :
    settings = p.layout.entries (b.drop Header.size) := by
  rw [value_configuration, Option.filter_eq_some_iff, toOption_eq_some, read_eq_ok_iff,
    Layout.read_eq_ok_iff] at h
  exact h.1.2.2

theorem number_mem {setting : Setting} (h : (p.number setting b).value = some n) :
    n ∈ p.numbers setting := by
  obtain ⟨settings, hsettings, hn⟩ := Option.bind_eq_some_iff.mp h
  rw [entries_of_configuration hsettings] at hn
  exact mem_numbers hn

theorem bitRate_mem (h : (p.bitRate b).value = some n) : n ∈ p.bitRates := by
  obtain ⟨settings, hsettings, hn⟩ := Option.bind_eq_some_iff.mp h
  rw [entries_of_configuration hsettings] at hn
  exact mem_bitRates hn

end Profile

namespace Codec

variable {c : Codec} {b : Octets} {n : Nat}

theorem number_lt {setting : Setting} (h : (c.profile.number setting b).value = some n) :
    n < 0x80000000 := by
  have htables : ∀ m ∈ c.profile.numbers setting, m < 0x80000000 := by
    cases c <;> cases setting <;> decide
  exact htables n (Profile.number_mem h)

theorem bitRate_lt (h : (c.profile.bitRate b).value = some n) : n < 0x80000000 := by
  have htables : ∀ m ∈ c.profile.bitRates, m < 0x80000000 := by
    cases c <;> decide
  exact htables n (Profile.bitRate_mem h)

end Codec

end A2dp
