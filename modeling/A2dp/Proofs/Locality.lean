import Mathlib.Data.List.Nodup
import A2dp.Proofs.Adjustment
import A2dp.Proofs.Answers

/-!
# Answers depend on one entry of a registry

What a registry says about a key follows from the first family with that key alone. So the order
of families with different keys, families that come too late for their key, and families with
other keys make no difference, and where no family has the key all answers are those for an
unknown codec.
-/

namespace A2dp

namespace Registry

/-- The registry that keeps only the first family with a key, if there is one. -/
def restrict (r : Registry) (k : CodecKey) : Registry :=
  ⟨(r.families.filter fun family => family.key = k).take 1, r.scmsT⟩

/-- Two registries cannot be told apart by a question about the key: about one or two buffers that
have it, or about an index that it owns. -/
structure SameAbout (k : CodecKey) (r r' : Registry) : Prop where
  resolve : r.resolve k = r'.resolve k
  answers : ∀ b, Header.key b = .ok k → r.answers b = r'.answers b
  adjust : ∀ b, Header.key b = .ok k → r.adjust b = r'.adjust b
  typeEquals : ∀ a b, Header.key a = .ok k → Header.key b = .ok k →
    r.typeEquals a b = r'.typeEquals a b
  configEquals : ∀ a b, Header.key a = .ok k → Header.key b = .ok k →
    r.configEquals a b = r'.configEquals a b
  indexName : ∀ index : CodecIndex, index.owner = .vendor k → r.indexName index = r'.indexName index
  familyOfIndex : ∀ index : CodecIndex, index.owner = .vendor k →
    r.familyOfIndex index = r'.familyOfIndex index
  initialise : ∀ (index : CodecIndex) (e : Endpoint), index.owner = .vendor k →
    r.initialise index e = r'.initialise index e
  defaultEndpoint : ∀ index : CodecIndex, index.owner = .vendor k →
    r.defaultEndpoint index = r'.defaultEndpoint index

section

variable {r r' : Registry} {k : CodecKey} {a b : Octets}

private theorem lookup_congr (hresolve : r.resolve k = r'.resolve k) (hkey : Header.key b = .ok k) :
    r.lookup b = r'.lookup b := by
  simp only [lookup, hkey, hresolve]

private theorem ask_congr {α : Type} (hresolve : r.resolve k = r'.resolve k)
    (hkey : Header.key b = .ok k) (unknown : α) (question : Family → Reported α) :
    r.ask b unknown question = r'.ask b unknown question := by
  unfold ask
  rw [lookup_congr hresolve hkey]

private theorem askFor_congr {α : Type} (hresolve : r.resolve k = r'.resolve k)
    (hkey : Header.key b = .ok k) (role : Role) (unknown : α) (question : Family → Reported α) :
    r.askFor role b unknown question = r'.askFor role b unknown question := by
  unfold askFor lookupFor
  rw [lookup_congr hresolve hkey]

private theorem answers_congr_registry (hresolve : r.resolve k = r'.resolve k)
    (hscmsT : r.scmsT = r'.scmsT) (hkey : Header.key b = .ok k) : r.answers b = r'.answers b := by
  have hfamily : r.resolveBuffer b = r'.resolveBuffer b := by
    simp only [resolveBuffer, hkey, Except.map, hresolve]
  simp only [Registry.answers, codecName, isValidFor, isLocalSinkSupported, isPeerSourceSupported,
    bitRate, sampleRate, bitsPerSample, channelCount, trackNumber, sinkChannelType, usesRtpHeader,
    buildHeader, packetTimestamp, sourceIndex, sinkIndex, encoder, decoder, describe,
    ask_congr hresolve hkey, askFor_congr hresolve hkey, hfamily, hscmsT]

private theorem sameAbout_of_resolve_eq (hresolve : r.resolve k = r'.resolve k)
    (hscmsT : r.scmsT = r'.scmsT) : SameAbout k r r' := by
  -- a pair of buffers has no other key in common than that of the second one
  have hshared : ∀ {a b : Octets} {l : CodecKey}, Header.key b = .ok k →
      sharedKey? a b = some l → r.resolve l = r'.resolve l := by
    intro a b l hb hl
    have hkey := (sharedKey?_eq_some_iff.mp hl).2.2
    rw [hb] at hkey
    rw [← Except.ok.inj hkey]
    exact hresolve
  have hinitialise : ∀ (index : CodecIndex) (e : Endpoint), index.owner = .vendor k →
      r.initialise index e = r'.initialise index e := by
    intro index e howner
    simp only [Registry.initialise, howner, hresolve, hscmsT]
  refine ⟨hresolve, ?_, ?_, ?_, ?_, ?_, ?_, hinitialise, ?_⟩
  · intro b hkey
    exact answers_congr_registry hresolve hscmsT hkey
  · intro b hkey
    exact ask_congr hresolve hkey _ _
  · intro a b _ hb
    unfold Registry.typeEquals
    cases hl : sharedKey? a b with
    | none => rfl
    | some l => simp only [hshared hb hl]
  · intro a b _ hb
    unfold Registry.configEquals
    cases hl : sharedKey? a b with
    | none => rfl
    | some l => simp only [Option.bind_some, hshared hb hl]
  · intro index howner
    simp only [Registry.indexName, howner, hresolve]
  · intro index howner
    simp only [Registry.familyOfIndex, CodecIndex.key?, howner, Option.bind_some, hresolve]
  · intro index howner
    unfold Registry.defaultEndpoint
    rw [hinitialise index _ howner]

end

private theorem resolve_restrict (r : Registry) (k : CodecKey) :
    (r.restrict k).resolve k = r.resolve k := by
  have hfirst : (r.restrict k).families = (r.resolve k).toList := by
    simp only [restrict, List.take_one, List.head?_filter]
    rfl
  unfold resolve at hfirst ⊢
  rw [hfirst]
  cases h : r.families.find? fun family => family.key == k with
  | none => rfl
  | some family => simp [key_of_resolve h]

private theorem resolve_perm {families families' : List Family} {scmsT : Bool}
    (hperm : families.Perm families') (hnodup : (families.map Family.key).Nodup) (k : CodecKey) :
    resolve ⟨families, scmsT⟩ k = resolve ⟨families', scmsT⟩ k := by
  have hunique : ∀ {l : List Family}, (l.map Family.key).Nodup →
      ∀ f ∈ l, ∀ g ∈ l, f.key = g.key → f = g := by
    intro l hl f hf g hg hkey
    exact List.inj_on_of_nodup_map hl hf hg hkey
  have hnodup' := (hperm.map Family.key).nodup_iff.mp hnodup
  apply Option.ext
  intro family
  rw [resolve_eq_some_iff (hunique hnodup), resolve_eq_some_iff (hunique hnodup')]
  simp only [hperm.mem_iff]

section

variable {before after : List Family} {family : Family} {scmsT : Bool} {k : CodecKey}

private theorem resolve_insert_of_ne (h : family.key ≠ k) :
    resolve ⟨before ++ family :: after, scmsT⟩ k = resolve ⟨before ++ after, scmsT⟩ k := by
  simp [resolve, List.find?_append, h]

private theorem resolve_insert_of_mem (h : family.key ∈ before.map Family.key) :
    resolve ⟨before ++ family :: after, scmsT⟩ k = resolve ⟨before ++ after, scmsT⟩ k := by
  by_cases hk : family.key = k
  · obtain ⟨earlier, hmem, hearlier⟩ := List.mem_map.mp h
    have hfound : (before.find? fun family => family.key == k).isSome = true :=
      List.find?_isSome.mpr ⟨earlier, hmem, by simp [hearlier, hk]⟩
    simp only [resolve, List.find?_append, Option.or_of_isSome hfound]
  · exact resolve_insert_of_ne hk

end

private theorem resolve_eq_none_iff {r : Registry} {k : CodecKey} :
    r.resolve k = none ↔ k ∉ r.families.map Family.key := by
  simp [resolve]

end Registry

/-- The answers about a buffer of an unknown codec. -/
def Answers.unknown (b : Octets) : Answers where
  codecType := Header.codecType b
  vendorId := Header.vendorId b
  codecId := Header.codecId b
  family := (Header.key b).map fun _ => none
  name := "UNKNOWN VENDOR CODEC"
  valid _ := false
  localSinkSupported := false
  peerSourceSupported := false
  bitRate := -1
  sampleRate := -1
  bitsPerSample := -1
  channelCount := -1
  sinkChannelType := -1
  usesRtpHeader _ := true
  header packet _ := (false, packet)
  timestamp _ := none
  sourceIndex := none
  sinkIndex := none
  encoder := none
  decoder := none
  description := Registry.unsupportedText b

namespace Registry

variable {r : Registry} {b : Octets}

theorem familyOf_eq_none_iff :
    r.familyOf b = none ↔ ∀ k, Header.key b = .ok k → r.resolve k = none := by
  unfold familyOf
  cases Header.key b <;> simp [Except.toOption]

private theorem answers_eq_unknown (h : r.familyOf b = none) : r.answers b = Answers.unknown b := by
  have hfamily : r.resolveBuffer b = (Header.key b).map fun _ => none := by
    unfold resolveBuffer
    cases hkey : Header.key b with
    | error cause => rfl
    | ok k => simp only [Except.map, familyOf_eq_none_iff.mp h k hkey]
  simp only [Registry.answers, codecName, isValidFor, isLocalSinkSupported, isPeerSourceSupported,
    bitRate, sampleRate, bitsPerSample, channelCount, trackNumber, sinkChannelType, usesRtpHeader,
    buildHeader, packetTimestamp, sourceIndex, sinkIndex, encoder, decoder, describe,
    Reported.value_map, value_ask, value_askFor, hfamily, h, Option.filter_none, Option.elim_none]
  rfl

private theorem adjust_of_unknown (h : r.familyOf b = none) : (r.adjust b).value = (false, b) := by
  rw [value_adjust, h, Option.elim_none]

private theorem configEquals_of_unknown (h : r.familyOf b = none) (a : Octets) :
    (r.configEquals a b).value = false := by
  rw [Bool.eq_false_iff, ne_eq, configEquals_iff]
  intro ⟨d, settings, _, hb⟩
  have hfamily := hb.family
  rw [h] at hfamily
  cases hfamily

theorem key_of_short {k : CodecKey} (h : b.length < 9) : Header.key b ≠ .ok k := by
  intro hkey
  exact absurd (Header.size_le_of_key hkey) (Nat.not_le.mpr h)

private theorem typeEquals_of_short (h : b.length < 9) (a : Octets) :
    (r.typeEquals a b).value = false := by
  rw [Bool.eq_false_iff, ne_eq, typeEquals_iff]
  intro ⟨k, _, hb⟩
  exact key_of_short h hb.key

/-- An index whose key has no family is refused, and the configuration stays. -/
theorem index_of_unknown {index : CodecIndex} {k : CodecKey} (howner : index.owner = .vendor k)
    (h : r.resolve k = none) :
    (r.indexName index).value = "UNKNOWN CODEC INDEX" ∧ r.familyOfIndex index = none ∧
      (∀ e, (r.initialise index e).value = (false, e)) ∧
        (r.defaultEndpoint index).value = none := by
  have hinitialise : ∀ e, (r.initialise index e).value = (false, e) := by
    intro e
    simp only [initialise, howner, h, Reported.value_noting]
  refine ⟨?_, ?_, hinitialise, ?_⟩
  · simp only [indexName, howner, h, Reported.value_quiet]
  · simp only [familyOfIndex, CodecIndex.key?, howner, Option.bind_some, h]
  · simp [defaultEndpoint, hinitialise]

/-- The first family with a key decides all that is said about it. Without one, and for a buffer
that is too short for a key, the answers are those for an unknown codec and nothing is changed. -/
theorem answers_decided_by_first_entry (r : Registry) :
    (∀ k, SameAbout k r (r.restrict k)) ∧
    (∀ families, r.families.Perm families → (r.families.map Family.key).Nodup →
      ∀ k, SameAbout k r ⟨families, r.scmsT⟩) ∧
    (∀ before family after k, r.families = before ++ after →
      family.key ∈ before.map Family.key ∨ family.key ≠ k →
        SameAbout k r ⟨before ++ family :: after, r.scmsT⟩) ∧
    (∀ b, b.length < 9 ∨ (∃ k, k ∉ r.families.map Family.key ∧ Header.key b = .ok k) →
      r.answers b = Answers.unknown b ∧ (r.adjust b).value = (false, b) ∧
        ∀ a, (r.configEquals a b).value = false ∧ (r.configEquals b a).value = false) ∧
    (∀ a b, b.length < 9 →
      (r.typeEquals a b).value = false ∧ (r.typeEquals b a).value = false) ∧
    ∀ index k, index.owner = .vendor k → k ∉ r.families.map Family.key →
      (r.indexName index).value = "UNKNOWN CODEC INDEX" ∧ r.familyOfIndex index = none ∧
        (∀ e, (r.initialise index e).value = (false, e)) ∧
          (r.defaultEndpoint index).value = none := by
  refine ⟨?_, ?_, ?_, ?_, ?_, ?_⟩
  · intro k
    exact sameAbout_of_resolve_eq (r.resolve_restrict k).symm rfl
  · intro families hperm hnodup k
    exact sameAbout_of_resolve_eq (resolve_perm hperm hnodup k) rfl
  · intro before family after k hfamilies hfamily
    have hsplit : r.resolve k = resolve ⟨before ++ after, r.scmsT⟩ k := by
      unfold resolve
      rw [hfamilies]
    refine sameAbout_of_resolve_eq (hsplit.trans ?_) rfl
    rcases hfamily with hearlier | hother
    · exact (resolve_insert_of_mem hearlier).symm
    · exact (resolve_insert_of_ne hother).symm
  · intro b hb
    have hnone : r.familyOf b = none := by
      rw [familyOf_eq_none_iff]
      intro l hl
      rcases hb with hshort | ⟨k, hk, hkey⟩
      · exact absurd hl (key_of_short hshort)
      · rw [hl] at hkey
        rw [Except.ok.inj hkey, resolve_eq_none_iff]
        exact hk
    refine ⟨answers_eq_unknown hnone, adjust_of_unknown hnone, ?_⟩
    intro a
    rw [configEquals_comm r b a]
    exact ⟨configEquals_of_unknown hnone a, configEquals_of_unknown hnone a⟩
  · intro a b hshort
    rw [typeEquals_comm r b a]
    exact ⟨typeEquals_of_short hshort a, typeEquals_of_short hshort a⟩
  · intro index k howner hk
    exact index_of_unknown howner (resolve_eq_none_iff.mpr hk)

/-- A family known by name comes before the codec with the same key and answers in its place. -/
theorem first_entry_shadows_ldac :
    let shadow : Family := .nominal ⟨"shadow", .ldac, .all, some 7⟩
    let b := [0x0A, 0x00, 0xFF, 0x2D, 0x01, 0x00, 0x00, 0xAA, 0x00, 0x10, 0x01]
    (bitRate ⟨[.codec .opus, shadow, .codec .ldac], false⟩ b).value = 7 ∧
      answers ⟨[.codec .opus, shadow, .codec .ldac], false⟩ b = answers ⟨[shadow], false⟩ b ∧
      answers ⟨[.codec .opus], false⟩ b = Answers.unknown b := by
  intro shadow b
  have hkey : Header.key b = .ok .ldac := by decide
  have hshadow := (answers_decided_by_first_entry
    ⟨[.codec .opus, shadow, .codec .ldac], false⟩).1 .ldac
  have hopus := (answers_decided_by_first_entry ⟨[.codec .opus], false⟩).2.2.2.1 b
    (Or.inr ⟨.ldac, by decide, hkey⟩)
  exact ⟨by decide, hshadow.answers b hkey, hopus.1⟩

end Registry

end A2dp
