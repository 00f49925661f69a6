import A2dp.Codec
import A2dp.Proofs.Header
import A2dp.Proofs.Reading

/-!
# Buffers as capabilities of a codec

A buffer is a capability of a codec when its header passes the check and the octets behind it
are admitted by the layout. Reading it as a configuration adds nothing to that, so the buffers
that can be read at all are the capabilities, and every answer of a codec follows from what the
buffer says as a capability.
-/

namespace A2dp

namespace Layout

theorem read_take (reading : Reading) (layout : Layout) (octets : Octets) :
    layout.read reading (octets.take layout.length) = layout.read reading octets := by
  induction layout generalizing octets with
  | nil => cases octets <;> rfl
  | cons fields layout ih =>
    cases octets with
    | nil => rfl
    | cons octet octets => simp [read, ih]

end Layout

namespace Profile

variable {p : Profile} {b : Octets} {settings : Settings}

theorem length_of_check (h : Header.check b p.losc p.key = .ok ()) :
    Header.size + p.layout.length ≤ b.length := by
  have hlosc := (Header.check_eq_ok_iff.mp h).1
  rw [p.losc_toNat] at hlosc
  simp only [Header.size]
  omega

theorem length_layout_le_of_check (h : Header.check b p.losc p.key = .ok ()) :
    p.layout.length ≤ (b.drop Header.size).length := by
  have hlength := length_of_check h
  rw [List.length_drop]
  omega

theorem read_of_check {reading : Reading} (h : Header.check b p.losc p.key = .ok ()) :
    p.read reading b = p.layout.read reading (b.drop Header.size) := by
  have hslice := Octets.slice_eq_ok_iff.mpr ⟨length_of_check h, rfl⟩
  unfold read
  rw [h, hslice]
  exact Layout.read_take reading p.layout (b.drop Header.size)

theorem read_eq_ok_iff {reading : Reading} :
    p.read reading b = .ok settings ↔
      Header.check b p.losc p.key = .ok () ∧
        p.layout.read reading (b.drop Header.size) = .ok settings := by
  constructor
  · intro h
    obtain ⟨⟨⟩, hcheck, -⟩ := bind_eq_ok.mp h
    exact ⟨hcheck, (read_of_check hcheck).symm.trans h⟩
  · intro ⟨hcheck, hread⟩
    exact (read_of_check hcheck).trans hread

/-- A configuration is a capability with decided settings. -/
theorem read_configuration_eq_ok_iff :
    p.read .configuration b = .ok settings ↔
      p.read .capability b = .ok settings ∧ settings.isDecided = true := by
  rw [read_eq_ok_iff, read_eq_ok_iff, Layout.read_configuration_eq_ok_iff, and_assoc]

/-- Trying the configuration first changes neither what is read nor why nothing is. -/
theorem readAny_eq_read_capability (p : Profile) (b : Octets) :
    p.readAny b = p.read .capability b := by
  unfold readAny
  cases h : p.read .configuration b with
  | ok settings => exact (read_configuration_eq_ok_iff.mp h).1.symm
  | error cause => rfl

/-- What a buffer says as a configuration follows from what it says as a capability. -/
theorem toOption_read_configuration (p : Profile) (b : Octets) :
    (p.read .configuration b).toOption =
      (p.read .capability b).toOption.filter Settings.isDecided := by
  apply Option.ext
  intro settings
  rw [Option.filter_eq_some_iff, toOption_eq_some, toOption_eq_some, read_configuration_eq_ok_iff]

theorem isValid_eq_isOk (p : Profile) (b : Octets) :
    p.isValid b = (p.read .capability b).isOk := by
  unfold isValid
  rw [readAny_eq_read_capability]

theorem isOk_read_iff {reading : Reading} :
    (p.read reading b).isOk = true ↔
      Header.check b p.losc p.key = .ok () ∧ p.layout.Admits reading (b.drop Header.size) := by
  simp only [isOk_iff, read_eq_ok_iff, Layout.read_eq_ok_iff, exists_and_left, exists_eq, and_true]

theorem isValid_iff :
    p.isValid b = true ↔
      Header.check b p.losc p.key = .ok () ∧
        p.layout.Admits .capability (b.drop Header.size) := by
  rw [isValid_eq_isOk, isOk_read_iff]

theorem configEquals_iff {a b : Octets} :
    p.configEquals a b = true ↔
      ∃ settings, p.read .capability a = .ok settings ∧ p.read .capability b = .ok settings := by
  unfold configEquals
  rw [readAny_eq_read_capability, readAny_eq_read_capability]
  cases ha : p.read .capability a with
  | error cause => simp
  | ok s =>
    cases hb : p.read .capability b with
    | error cause => simp
    | ok t =>
      simp only [beq_iff_eq, Except.ok.injEq]
      constructor
      · intro h
        exact ⟨s, rfl, h.symm⟩
      · intro ⟨settings, hs, ht⟩
        exact hs.trans ht.symm

theorem value_configuration (p : Profile) (b : Octets) :
    (p.configuration b).value = (p.read .capability b).toOption.filter Settings.isDecided := by
  rw [← toOption_read_configuration]
  unfold configuration
  cases p.read .configuration b <;> rfl

theorem meetsSink_eq_any (p : Profile) (reading : Reading) (b : Octets) :
    p.meetsSink reading b = (p.read reading b).toOption.any
      fun settings => p.accepted.any fun accepted => settings.meets accepted := by
  unfold meetsSink
  cases p.read reading b <;> cases p.accepted <;> rfl

end Profile

end A2dp
