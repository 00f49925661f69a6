import A2dp.Proofs.Capability
import A2dp.Proofs.Lookup

/-!
# Equality of capabilities

Two buffers have the same type when a registry finds both comparable under one key, and they say
the same when the codec that answers for them reads the same settings in both. A buffer has at
most one key and says at most one thing, so both relations are partial equivalences; they are
reflexive exactly on the buffers that are comparable, or that say something.
-/

namespace A2dp

namespace Family

/-- The family can tell the type of a buffer with its key: a codec, if the buffer is one of its
capabilities, any other family always. -/
def Readable (family : Family) (b : Octets) : Prop :=
  match family with
  | .codec d => (d.profile.read .capability b).isOk = true
  | .nominal _ => True

private theorem readable_codec_iff {d : Codec} {b : Octets} :
    (Family.codec d).Readable b ↔ ∃ settings, d.profile.read .capability b = .ok settings :=
  isOk_iff

theorem typeEquals_iff {family : Family} {a b : Octets} :
    (family.typeEquals a b).value = true ↔ family.Readable a ∧ family.Readable b := by
  cases family with
  | codec d => exact Bool.and_eq_true_iff
  | nominal n => simp [typeEquals, Readable]

theorem configEquals_iff {family : Family} {a b : Octets} :
    (family.configEquals a b).value = true ↔
      ∃ d s, family = .codec d ∧ d.profile.read .capability a = .ok s ∧
        d.profile.read .capability b = .ok s := by
  cases family with
  | codec d => simp [configEquals, Profile.configEquals_iff]
  | nominal n => simp [configEquals]

end Family

namespace Registry

variable {r : Registry} {a b c : Octets}

theorem sharedKey?_eq_some_iff {k : CodecKey} :
    sharedKey? a b = some k ↔
      (a[2]? = some 0xFF ∧ Header.key a = .ok k) ∧ b[2]? = some 0xFF ∧ Header.key b = .ok k := by
  unfold sharedKey?
  by_cases hvendor : Header.isVendor a = true ∧ Header.isVendor b = true
  · rw [if_pos (by simpa using hvendor)]
    simp only [Header.isVendor_iff] at hvendor
    cases ha : Header.key a with
    | error cause => simp
    | ok k₁ =>
      cases hb : Header.key b with
      | error cause => simp
      | ok k₂ =>
        simp only [hvendor.1, hvendor.2, true_and, Except.ok.injEq]
        by_cases hk : k₁ = k₂
        · simp [hk]
        · simp only [hk, if_false, reduceCtorEq, false_iff]
          intro ⟨h₁, h₂⟩
          exact hk (h₁.trans h₂.symm)
  · rw [if_neg (by simpa using hvendor)]
    simp only [Header.isVendor_iff] at hvendor
    simp only [reduceCtorEq, false_iff]
    intro ⟨⟨ha, _⟩, hb, _⟩
    exact hvendor ⟨ha, hb⟩

/-- The buffer is of a vendor codec with the key, and readable for the family with the key. -/
structure Comparable (r : Registry) (k : CodecKey) (b : Octets) : Prop where
  vendor : b[2]? = some 0xFF
  key : Header.key b = .ok k
  readable : ∀ family, r.resolve k = some family → family.Readable b

private theorem Comparable.key_unique {k l : CodecKey} (hk : r.Comparable k a)
    (hl : r.Comparable l a) : k = l :=
  Except.ok.inj (hk.key.symm.trans hl.key)

private theorem value_typeEquals (r : Registry) (a b : Octets) :
    (r.typeEquals a b).value =
      (sharedKey? a b).any fun k =>
        (r.resolve k).all fun family => (family.typeEquals a b).value := by
  unfold typeEquals
  cases sharedKey? a b with
  | none => rfl
  | some k =>
    simp only [Option.any_some]
    cases r.resolve k <;> rfl

theorem typeEquals_iff :
    (r.typeEquals a b).value = true ↔ ∃ k, r.Comparable k a ∧ r.Comparable k b := by
  simp only [value_typeEquals, Option.any_eq_true, Option.all_eq_true, sharedKey?_eq_some_iff,
    Family.typeEquals_iff]
  constructor
  · intro ⟨k, ⟨⟨havendor, hakey⟩, hbvendor, hbkey⟩, hread⟩
    exact ⟨k, ⟨havendor, hakey, fun family h => (hread family h).1⟩,
      hbvendor, hbkey, fun family h => (hread family h).2⟩
  · intro ⟨k, ha, hb⟩
    exact ⟨k, ⟨⟨ha.vendor, ha.key⟩, hb.vendor, hb.key⟩,
      fun family h => ⟨ha.readable family h, hb.readable family h⟩⟩

/-- The codec that answers for the buffer reads these settings in it. -/
structure Says (r : Registry) (d : Codec) (settings : Settings) (b : Octets) : Prop where
  family : r.familyOf b = some (.codec d)
  read : d.profile.read .capability b = .ok settings

theorem Says.unique {d e : Codec} {s t : Settings} (hs : r.Says d s a) (ht : r.Says e t a) :
    d = e ∧ s = t := by
  have hcodec : d = e := by
    have hfamily := hs.family.symm.trans ht.family
    simpa using hfamily
  subst hcodec
  exact ⟨rfl, Except.ok.inj (hs.read.symm.trans ht.read)⟩

theorem Says.comparable {d : Codec} {s : Settings} (h : r.Says d s a) :
    r.Comparable d.profile.key a := by
  obtain ⟨hcheck, -⟩ := Profile.read_eq_ok_iff.mp h.read
  obtain ⟨-, -, -, hvendor, hkey⟩ := Header.check_eq_ok_iff.mp hcheck
  obtain ⟨-, hresolve⟩ := familyOf_eq_some_iff.mp h.family
  refine ⟨hvendor, hkey, ?_⟩
  intro family hfamily
  have hcodec : family = .codec d := Option.some.inj (hfamily.symm.trans hresolve)
  rw [hcodec, Family.readable_codec_iff]
  exact ⟨s, h.read⟩

theorem configEquals_iff :
    (r.configEquals a b).value = true ↔ ∃ d s, r.Says d s a ∧ r.Says d s b := by
  have hany : (r.configEquals a b).value = ((sharedKey? a b).bind r.resolve).any
      fun family => (family.typeEquals a b).value && (family.configEquals a b).value := by
    unfold configEquals
    cases (sharedKey? a b).bind r.resolve with
    | none => rfl
    | some family =>
      rw [Reported.value_bind, Option.any_some]
      cases (family.typeEquals a b).value <;> rfl
  simp only [hany, Option.any_eq_true, Option.bind_eq_some_iff, sharedKey?_eq_some_iff,
    Bool.and_eq_true]
  constructor
  · intro ⟨family, ⟨k, ⟨⟨_, hakey⟩, _, hbkey⟩, hresolve⟩, _, hequals⟩
    obtain ⟨d, s, hd, ha, hb⟩ := Family.configEquals_iff.mp hequals
    subst hd
    have hk := key_of_resolve hresolve
    subst hk
    exact ⟨d, s, ⟨familyOf_eq_some_iff.mpr ⟨hakey, hresolve⟩, ha⟩,
      familyOf_eq_some_iff.mpr ⟨hbkey, hresolve⟩, hb⟩
  · intro ⟨d, s, ha, hb⟩
    have hca := ha.comparable
    have hcb := hb.comparable
    have hresolve := (familyOf_eq_some_iff.mp ha.family).2
    exact ⟨.codec d, ⟨d.profile.key, ⟨⟨hca.vendor, hca.key⟩, hcb.vendor, hcb.key⟩, hresolve⟩,
      Family.typeEquals_iff.mpr ⟨hca.readable _ hresolve, hcb.readable _ hresolve⟩,
      Family.configEquals_iff.mpr ⟨d, s, rfl, ha.read, hb.read⟩⟩

theorem typeEquals_comm (r : Registry) (a b : Octets) :
    (r.typeEquals a b).value = (r.typeEquals b a).value := by
  rw [Bool.eq_iff_iff, typeEquals_iff, typeEquals_iff]
  exact exists_congr fun k => and_comm

private theorem typeEquals_trans (hab : (r.typeEquals a b).value = true)
    (hbc : (r.typeEquals b c).value = true) : (r.typeEquals a c).value = true := by
  obtain ⟨k, hka, hkb⟩ := typeEquals_iff.mp hab
  obtain ⟨l, hlb, hlc⟩ := typeEquals_iff.mp hbc
  have hkl := hkb.key_unique hlb
  subst hkl
  exact typeEquals_iff.mpr ⟨k, hka, hlc⟩

theorem configEquals_comm (r : Registry) (a b : Octets) :
    (r.configEquals a b).value = (r.configEquals b a).value := by
  rw [Bool.eq_iff_iff, configEquals_iff, configEquals_iff]
  exact exists_congr fun d => exists_congr fun s => and_comm

private theorem configEquals_trans (hab : (r.configEquals a b).value = true)
    (hbc : (r.configEquals b c).value = true) : (r.configEquals a c).value = true := by
  obtain ⟨d, s, ha, hb⟩ := configEquals_iff.mp hab
  obtain ⟨e, t, hb', hc⟩ := configEquals_iff.mp hbc
  obtain ⟨hde, hst⟩ := hb.unique hb'
  subst hde hst
  exact configEquals_iff.mpr ⟨d, s, ha, hc⟩

private theorem typeEquals_of_configEquals (h : (r.configEquals a b).value = true) :
    (r.typeEquals a b).value = true := by
  obtain ⟨d, s, ha, hb⟩ := configEquals_iff.mp h
  exact typeEquals_iff.mpr ⟨d.profile.key, ha.comparable, hb.comparable⟩

private theorem identity_of_typeEquals (h : (r.typeEquals a b).value = true) :
    (9 ≤ a.length ∧ a[2]? = some 0xFF) ∧ (9 ≤ b.length ∧ b[2]? = some 0xFF) ∧
      ∃ k, Header.key a = .ok k ∧ Header.key b = .ok k := by
  obtain ⟨k, ha, hb⟩ := typeEquals_iff.mp h
  exact ⟨⟨Header.size_le_of_key ha.key, ha.vendor⟩, ⟨Header.size_le_of_key hb.key, hb.vendor⟩,
    k, ha.key, hb.key⟩

private theorem typeEquals_self_iff :
    (r.typeEquals a a).value = true ↔
      9 ≤ a.length ∧ a[2]? = some 0xFF ∧ ∃ k, Header.key a = .ok k ∧
        (r.resolve k = none ∨ (∃ n, r.resolve k = some (.nominal n)) ∨
          ∃ d : Codec, r.resolve k = some (.codec d) ∧
            (d.profile.read .capability a).isOk = true) := by
  rw [typeEquals_iff]
  constructor
  · intro ⟨k, ha, _⟩
    refine ⟨Header.size_le_of_key ha.key, ha.vendor, k, ha.key, ?_⟩
    cases hresolve : r.resolve k with
    | none => exact Or.inl rfl
    | some family =>
      have hread := ha.readable family hresolve
      cases family with
      | nominal n => exact Or.inr (Or.inl ⟨n, rfl⟩)
      | codec d => exact Or.inr (Or.inr ⟨d, rfl, hread⟩)
  · intro ⟨_, hvendor, k, hkey, hcases⟩
    have hcomparable : r.Comparable k a := by
      refine ⟨hvendor, hkey, ?_⟩
      intro family hresolve
      rcases hcases with hnone | ⟨n, hn⟩ | ⟨d, hd, hread⟩
      · rw [hnone] at hresolve
        cases hresolve
      · rw [hn] at hresolve
        cases hresolve
        trivial
      · rw [hd] at hresolve
        cases hresolve
        exact hread
    exact ⟨k, hcomparable, hcomparable⟩

private theorem configEquals_self_iff :
    (r.configEquals a a).value = true ↔
      ∃ k, Header.key a = .ok k ∧ ∃ d : Codec, r.resolve k = some (.codec d) ∧
        (d.profile.read .capability a).isOk = true := by
  rw [configEquals_iff]
  constructor
  · intro ⟨d, s, ha, _⟩
    obtain ⟨hkey, hresolve⟩ := familyOf_eq_some_iff.mp ha.family
    exact ⟨_, hkey, d, hresolve, isOk_iff.mpr ⟨s, ha.read⟩⟩
  · intro ⟨k, hkey, d, hresolve, hok⟩
    obtain ⟨s, hs⟩ := isOk_iff.mp hok
    have hk := key_of_resolve hresolve
    subst hk
    have hsays : r.Says d s a := ⟨familyOf_eq_some_iff.mpr ⟨hkey, hresolve⟩, hs⟩
    exact ⟨d, s, hsays, hsays⟩

/-- Both equalities are symmetric and transitive, the finer one implies the coarser one, and
each says exactly on which buffers it is reflexive. -/
theorem equalities_partial_equivalence (r : Registry) (a b c : Octets) :
    (r.typeEquals a b).value = (r.typeEquals b a).value ∧
    (r.configEquals a b).value = (r.configEquals b a).value ∧
    ((r.typeEquals a b).value = true → (r.typeEquals b c).value = true →
      (r.typeEquals a c).value = true) ∧
    ((r.configEquals a b).value = true → (r.configEquals b c).value = true →
      (r.configEquals a c).value = true) ∧
    ((r.configEquals a b).value = true → (r.typeEquals a b).value = true) ∧
    ((r.typeEquals a b).value = true ∨ (r.configEquals a b).value = true →
      (9 ≤ a.length ∧ a[2]? = some 0xFF) ∧ (9 ≤ b.length ∧ b[2]? = some 0xFF) ∧
        ∃ k, Header.key a = .ok k ∧ Header.key b = .ok k) ∧
    ((r.typeEquals a a).value = true ↔
      9 ≤ a.length ∧ a[2]? = some 0xFF ∧ ∃ k, Header.key a = .ok k ∧
        (r.resolve k = none ∨ (∃ n, r.resolve k = some (.nominal n)) ∨
          ∃ d : Codec, r.resolve k = some (.codec d) ∧
            (d.profile.read .capability a).isOk = true)) ∧
    ((r.configEquals a a).value = true ↔
      ∃ k, Header.key a = .ok k ∧ ∃ d : Codec, r.resolve k = some (.codec d) ∧
        (d.profile.read .capability a).isOk = true) := by
  refine ⟨typeEquals_comm r a b, configEquals_comm r a b, typeEquals_trans, configEquals_trans,
    typeEquals_of_configEquals, ?_, typeEquals_self_iff, configEquals_self_iff⟩
  intro h
  rcases h with htype | hconfig
  · exact identity_of_typeEquals htype
  · exact identity_of_typeEquals (typeEquals_of_configEquals hconfig)

end Registry

end A2dp
