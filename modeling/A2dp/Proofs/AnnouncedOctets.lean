import A2dp.Proofs.Adjustment
import A2dp.Proofs.Answers

/-!
# Only announced octets count

A buffer announces its own length. What follows the announced octets is never read: no answer
depends on it, and adjusting leaves it where it is. In particular nothing is lost when an endpoint
cuts its capability out of the room for it. A buffer from which announced octets are missing, on
the other hand, is valid in no role.
-/

namespace A2dp

namespace Octets

variable {b : Octets} {i start count needed : Nat}

private theorem require_of_le (h : needed ≤ b.length) : b.require needed = .ok () :=
  demand_eq_ok.mpr h

private theorem octet_append (h : i < b.length) (s : Octets) : (b ++ s).octet i = b.octet i := by
  unfold octet
  rw [List.getElem?_append_left h, List.getElem?_eq_getElem h]

private theorem slice_append (h : start + count ≤ b.length) (s : Octets) :
    (b ++ s).slice start count = b.slice start count := by
  have hlonger : start + count ≤ (b ++ s).length := by
    rw [List.length_append]
    omega
  have hdrop : ((b ++ s).drop start).take count = (b.drop start).take count := by
    rw [List.drop_append_of_le_length (by omega), List.take_append_of_le_length]
    rw [List.length_drop]
    omega
  unfold slice
  rw [if_pos hlonger, if_pos h, hdrop]

end Octets

namespace Header

variable {b : Octets}

/-- The header is there, and all octets that it announces. -/
structure IsComplete (b : Octets) : Prop where
  header : size ≤ b.length
  announced : (b.headD 0).toNat + 1 ≤ b.length

private theorem octet_zero_eq (h : 0 < b.length) : b.octet 0 = .ok (b.headD 0) := by
  cases b with
  | nil => cases h
  | cons x rest => rfl

section Append

variable (h : size ≤ b.length) (s : Octets)
include h

private theorem headD_append : (b ++ s).headD 0 = b.headD 0 := by
  cases b with
  | nil => cases h
  | cons x rest => rfl

private theorem codecType_append : codecType (b ++ s) = codecType b := by
  unfold codecType
  rw [Octets.octet_append (Nat.lt_of_lt_of_le (by decide) h)]

private theorem vendorId_append : vendorId (b ++ s) = vendorId b := by
  unfold vendorId
  rw [Octets.slice_append (Nat.le_trans (by decide) h)]

private theorem codecId_append : codecId (b ++ s) = codecId b := by
  unfold codecId
  rw [Octets.slice_append (Nat.le_trans (by decide) h)]

private theorem key_append : key (b ++ s) = key b := by
  unfold key
  rw [vendorId_append h, codecId_append h]

end Append

private theorem check_of_wrongLength {losc : UInt8} (hsize : size ≤ b.length) (h : b.headD 0 ≠ losc)
    (k : CodecKey) : check b losc k = .error (.wrongLength losc (b.headD 0)) := by
  unfold check
  rw [Octets.require_of_le hsize, octet_zero_eq (Nat.lt_of_lt_of_le (by decide) hsize)]
  simp only [bind, Except.bind, demand, if_neg h]

/-- The check of a complete buffer does not look beyond it, and fails for the same cause. -/
theorem check_append (h : IsComplete b) (s : Octets) (losc : UInt8) (k : CodecKey) :
    check (b ++ s) losc k = check b losc k := by
  have hlonger : ∀ {needed : Nat}, needed ≤ b.length → needed ≤ (b ++ s).length := by
    intro needed hneeded
    rw [List.length_append]
    omega
  -- the announced octets are asked for only if the length octet is the one of the codec
  by_cases hlosc : b.headD 0 = losc
  · have hat : ∀ {i : Nat}, i < size → (b ++ s).octet i = b.octet i := by
      intro i hi
      exact Octets.octet_append (Nat.lt_of_lt_of_le hi h.header) s
    have hannounced : losc.toNat + 1 ≤ b.length := hlosc ▸ h.announced
    unfold check
    rw [Octets.require_of_le h.header, Octets.require_of_le (hlonger h.header),
      Octets.require_of_le hannounced, Octets.require_of_le (hlonger hannounced),
      hat (i := 0) (by decide), hat (i := 1) (by decide), hat (i := 2) (by decide),
      key_append h.header]
  · have hhead : (b ++ s).headD 0 = b.headD 0 := headD_append h.header s
    rw [check_of_wrongLength h.header hlosc,
      check_of_wrongLength (hlonger h.header) (hhead ▸ hlosc), hhead]

end Header

namespace Layout

private theorem normalise_append {layout : Layout} {octets : Octets}
    (h : layout.length ≤ octets.length) (s : Octets) :
    layout.normalise (octets ++ s) =
      ((layout.normalise octets).1, (layout.normalise octets).2 ++ s) := by
  induction layout generalizing octets with
  | nil => rfl
  | cons fields layout ih =>
    cases octets with
    | nil => simp at h
    | cons x octets =>
      simp only [List.cons_append, normalise, ih (Nat.le_of_succ_le_succ h)]

end Layout

namespace Profile

variable {p : Profile} {b : Octets}

private theorem read_append (h : Header.IsComplete b) (s : Octets) (reading : Reading) :
    p.read reading (b ++ s) = p.read reading b := by
  have happend := Header.check_append h s p.losc p.key
  cases hcheck : Header.check b p.losc p.key with
  | error cause =>
    rw [hcheck] at happend
    unfold read
    rw [happend, hcheck]
    rfl
  | ok _ =>
    rw [read_of_check hcheck, read_of_check (happend.trans hcheck),
      List.drop_append_of_le_length h.header, ← Layout.read_take,
      List.take_append_of_le_length (length_layout_le_of_check hcheck), Layout.read_take]

private theorem adjust_append (h : Header.IsComplete b) (s : Octets) :
    p.adjust (b ++ s) = ((p.adjust b).1, (p.adjust b).2 ++ s) := by
  have happend := Header.check_append h s p.losc p.key
  by_cases hcheck : Header.check b p.losc p.key = .ok ()
  · rw [adjust_of_check hcheck, adjust_of_check (happend.trans hcheck),
      List.drop_append_of_le_length h.header, List.take_append_of_le_length h.header,
      Layout.normalise_append (length_layout_le_of_check hcheck), List.append_assoc]
  · rw [adjust_of_not_check hcheck, adjust_of_not_check (happend ▸ hcheck)]

end Profile

/-- The buffers have one identity, and every codec reads the same in them. -/
structure ReadAlike (a b : Octets) : Prop where
  codecType : Header.codecType a = Header.codecType b
  vendorId : Header.vendorId a = Header.vendorId b
  codecId : Header.codecId a = Header.codecId b
  read : ∀ (c : Codec) (reading : Reading), c.profile.read reading a = c.profile.read reading b

namespace ReadAlike

variable {a b x y : Octets}

theorem refl (b : Octets) : ReadAlike b b := ⟨rfl, rfl, rfl, fun _ _ => rfl⟩

theorem append (h : Header.IsComplete b) (s : Octets) : ReadAlike (b ++ s) b where
  codecType := Header.codecType_append h.header s
  vendorId := Header.vendorId_append h.header s
  codecId := Header.codecId_append h.header s
  read _ reading := Profile.read_append h s reading

theorem answers (h : ReadAlike a b) (r : Registry) : r.answers a = r.answers b := by
  apply Registry.answers_congr h.codecType h.vendorId h.codecId
  intro family _
  cases family with
  | codec c => exact Codec.agree_of_read_eq (h.read c .capability)
  | nominal n => exact ⟨rfl, fun _ => rfl, rfl, fun _ => rfl, rfl, rfl, rfl, rfl⟩

theorem sharedKey? (hab : ReadAlike a b) (hxy : ReadAlike x y) :
    Registry.sharedKey? a x = Registry.sharedKey? b y := by
  unfold Registry.sharedKey? Header.isVendor Header.key
  rw [hab.codecType, hab.vendorId, hab.codecId, hxy.codecType, hxy.vendorId, hxy.codecId]

private theorem familyTypeEquals (hab : ReadAlike a b) (hxy : ReadAlike x y) (family : Family) :
    family.typeEquals a x = family.typeEquals b y := by
  cases family with
  | codec c => simp only [Family.typeEquals, Profile.typeEquals, hab.read c, hxy.read c]
  | nominal n => rfl

private theorem familyConfigEquals (hab : ReadAlike a b) (hxy : ReadAlike x y) (family : Family) :
    family.configEquals a x = family.configEquals b y := by
  cases family with
  | codec c =>
    simp only [Family.configEquals, Profile.configEquals, Profile.readAny, hab.read c, hxy.read c]
  | nominal n => rfl

theorem typeEquals (hab : ReadAlike a b) (hxy : ReadAlike x y) (r : Registry) :
    r.typeEquals a x = r.typeEquals b y := by
  unfold Registry.typeEquals
  simp only [hab.sharedKey? hxy, hab.familyTypeEquals hxy]

theorem configEquals (hab : ReadAlike a b) (hxy : ReadAlike x y) (r : Registry) :
    r.configEquals a x = r.configEquals b y := by
  unfold Registry.configEquals
  simp only [hab.sharedKey? hxy, hab.familyTypeEquals hxy, hab.familyConfigEquals hxy]

end ReadAlike

namespace Endpoint

variable {e : Endpoint}

private theorem length_capability (e : Endpoint) :
    e.capability.length = min ((e.buffer.headD 0).toNat + 1) 20 := by
  rw [capability, List.length_take, e.buffer_length]
  omega

private theorem capability_append_drop (e : Endpoint) :
    e.capability ++ e.buffer.drop e.capability.length = e.buffer := by
  rw [length_capability]
  exact List.take_append_drop _ _

/-- Where the announced octets fill more than the room, all of it is the capability. -/
theorem isComplete_capability_or_eq (h : 8 ≤ (e.buffer.headD 0).toNat) :
    Header.IsComplete e.capability ∨ e.capability = e.buffer := by
  have hlength := e.length_capability
  by_cases hroom : (e.buffer.headD 0).toNat + 1 ≤ 20
  · rw [Nat.min_eq_left hroom] at hlength
    have hhead : e.capability.headD 0 = e.buffer.headD 0 := by
      conv => rhs; rw [← e.capability_append_drop]
      cases hcapability : e.capability with
      | nil => simp [hcapability] at hlength
      | cons x rest => rfl
    refine .inl ⟨?_, ?_⟩
    · rw [hlength]
      exact Nat.succ_le_succ h
    · apply Nat.le_of_eq
      rw [hlength, hhead]
  · rw [capability, Nat.min_eq_right (Nat.le_of_not_le hroom)]
    exact .inr (List.take_of_length_le (Nat.le_of_eq e.buffer_length))

end Endpoint

namespace Registry

variable {r : Registry} {b : Octets}

private theorem adjust_append (h : Header.IsComplete b) (s : Octets) :
    (r.adjust (b ++ s)).value = ((r.adjust b).value.1, (r.adjust b).value.2 ++ s) := by
  rw [value_adjust, value_adjust, r.familyOf_congr (Header.key_append h.header s)]
  cases r.familyOf b with
  | none => rfl
  | some family =>
    cases family with
    | codec c => exact Profile.adjust_append h s
    | nominal n => rfl

/-- A buffer that is valid in a role has all octets that it announces. -/
theorem announced_of_isValidFor {role : Role} (h : (r.isValidFor role b).value = true) :
    (b.headD 0).toNat + 1 ≤ b.length := by
  obtain ⟨family, -, -, hvalid⟩ := isValidFor_iff.mp h
  cases family with
  | nominal n => cases hvalid
  | codec c =>
    obtain ⟨hlength, hlosc, -⟩ := Header.check_eq_ok_iff.mp (Profile.isValid_iff.mp hvalid).1
    rw [List.headD_eq_head?_getD, List.head?_eq_getElem?, hlosc]
    exact hlength

/-- No answer of the registry tells the buffers apart. -/
structure Indistinct (r : Registry) (a b : Octets) : Prop where
  answers : r.answers a = r.answers b
  typeEquals_left : ∀ other, r.typeEquals a other = r.typeEquals b other
  typeEquals_right : ∀ other, r.typeEquals other a = r.typeEquals other b
  configEquals_left : ∀ other, r.configEquals a other = r.configEquals b other
  configEquals_right : ∀ other, r.configEquals other a = r.configEquals other b

private theorem indistinct_of_readAlike {a b : Octets} (h : ReadAlike a b) (r : Registry) :
    r.Indistinct a b where
  answers := h.answers r
  typeEquals_left other := h.typeEquals (.refl other) r
  typeEquals_right other := (ReadAlike.refl other).typeEquals h r
  configEquals_left other := h.configEquals (.refl other) r
  configEquals_right other := (ReadAlike.refl other).configEquals h r

/-- What follows the announced octets of a buffer changes no answer and stays when the buffer is
adjusted. So nothing depends on whether the capability of an endpoint is cut to its announced
length, provided that this is the length of a header at least. A part of a buffer that lacks
announced octets is valid in no role. -/
theorem announced_octets_decide_answers (r : Registry) :
    (∀ b s : Octets, Header.IsComplete b →
      r.Indistinct (b ++ s) b ∧
        (r.adjust (b ++ s)).value = ((r.adjust b).value.1, (r.adjust b).value.2 ++ s)) ∧
    (∀ e : Endpoint, 8 ≤ (e.buffer.headD 0).toNat →
      r.Indistinct e.buffer e.capability ∧
        (r.adjust e.buffer).value = ((r.adjust e.capability).value.1,
          (r.adjust e.capability).value.2 ++ e.buffer.drop e.capability.length)) ∧
    ∀ b start : Octets, start <+: b → start.length < (b.headD 0).toNat + 1 →
      ∀ role, (r.isValidFor role start).value = false := by
  have happend : ∀ b s : Octets, Header.IsComplete b →
      r.Indistinct (b ++ s) b ∧
        (r.adjust (b ++ s)).value = ((r.adjust b).value.1, (r.adjust b).value.2 ++ s) := by
    intro b s h
    exact ⟨indistinct_of_readAlike (.append h s) r, adjust_append h s⟩
  refine ⟨happend, ?_, ?_⟩
  · intro e hlosc
    rcases Endpoint.isComplete_capability_or_eq hlosc with hcomplete | hwhole
    · have hparts := happend e.capability (e.buffer.drop e.capability.length) hcomplete
      rwa [e.capability_append_drop] at hparts
    · rw [hwhole, List.drop_length, List.append_nil]
      exact ⟨indistinct_of_readAlike (.refl e.buffer) r, rfl⟩
  · rintro _ start ⟨rest, rfl⟩ hshort role
    rw [Bool.eq_false_iff]
    intro hvalid
    have hannounced := announced_of_isValidFor hvalid
    cases start with
    | nil => cases hannounced
    | cons x start => exact absurd hannounced (Nat.not_le.mpr hshort)

/-- aptX under a length octet that is too small stays refused when the missing octet follows, and
the endpoint of LDAC has the same answers for its capability as for all of its room. -/
theorem announced_octets_aptX_ldac :
    let b := [0x08, 0x00, 0xFF, 0x4F, 0x00, 0x00, 0x00, 0x01, 0x00]
    let e := (builtin.initialise .sinkLdac .empty).value.2
    (Header.IsComplete b ∧ builtin.answers (b ++ [0x32]) = builtin.answers b) ∧
    (8 ≤ (e.buffer.headD 0).toNat ∧ builtin.answers e.buffer = builtin.answers e.capability) ∧
    ∀ role, (builtin.isValidFor role (e.capability.take 10)).value = false := by
  intro b e
  obtain ⟨happend, hcut, hpart⟩ := announced_octets_decide_answers builtin
  have hcomplete : Header.IsComplete b := ⟨by decide, by decide⟩
  have hlosc : 8 ≤ (e.buffer.headD 0).toNat := by decide
  exact ⟨⟨hcomplete, (happend b [0x32] hcomplete).1.answers⟩, ⟨hlosc, (hcut e hlosc).1.answers⟩,
    hpart e.capability _ (List.take_prefix 10 _) (by decide)⟩

end Registry

end A2dp
