import A2dp.Proofs.Adjustment
import A2dp.Proofs.Equality
import A2dp.Proofs.Numbers

/-!
# Asking every family

A registry asks only the family that the key of a buffer names. A codec that is asked directly
checks the header again, so it refuses every buffer with another key. In a registry of codecs,
asking all of them and taking the first answer therefore comes to the same as asking the one, and
so does adjusting a buffer with each of them in turn.
-/

namespace A2dp

/-- Asked directly, the family has nothing to say about the buffer. -/
structure Family.Refuses (family : Family) (b : Octets) : Prop where
  isValid : (family.isValid b).value = false
  isSupported : ∀ role, (family.isSupported role b).value = false
  configEquals : ∀ a, (family.configEquals a b).value = false
  bitRate : (family.bitRate b).value = none
  number : ∀ setting, (family.number setting b).value = none
  sinkChannels : (family.sinkChannels b).value = none
  encoder : (family.encoder b).value = none
  decoder : (family.decoder b).value = none
  adjust : (family.adjust b).value = (false, b)

/-- A codec refuses what has another key, whatever else the buffer holds. -/
theorem Codec.refuses_of_key_ne {c : Codec} {b : Octets} (h : Header.key b ≠ .ok c.profile.key) :
    (Family.codec c).Refuses b := by
  have hcheck : Header.check b c.profile.losc c.profile.key ≠ .ok () := by
    intro hcheck
    exact h (Header.check_eq_ok_iff.mp hcheck).2.2.2.2
  have hread : ∀ reading settings, c.profile.read reading b ≠ .ok settings := by
    intro reading settings hread
    exact hcheck (Profile.read_eq_ok_iff.mp hread).1
  have hnone : ∀ reading, (c.profile.read reading b).toOption = none := by
    intro reading
    rw [Option.eq_none_iff_forall_ne_some]
    intro settings hsettings
    exact hread reading settings (toOption_eq_some.mp hsettings)
  have hvalid : c.profile.isValid b = false := by
    rw [Bool.eq_false_iff, ne_eq, Profile.isValid_iff]
    exact fun hvalid => hcheck hvalid.1
  have hmeets : ∀ reading, c.profile.meetsSink reading b = false := by
    intro reading
    rw [Profile.meetsSink_eq_any, hnone, Option.any_none]
  have hconfiguration : (c.profile.configuration b).value = none := by
    rw [Profile.value_configuration, hnone, Option.filter_none]
  refine ⟨hvalid, ?_, ?_, ?_, ?_, ?_, ?_, ?_, Profile.adjust_of_not_check hcheck⟩
  · intro role
    cases role with
    | localSink => exact hmeets .configuration
    | peerSource => exact hmeets .capability
    | localSource => rfl
    | peerSink => rfl
  · intro a
    rw [Bool.eq_false_iff, ne_eq, Family.configEquals_iff]
    intro ⟨d, settings, hd, _, hb⟩
    cases hd
    exact hread .capability settings hb
  · simp [Family.bitRate, Profile.bitRate, hconfiguration]
  · intro setting
    simp [Family.number, Profile.number, hconfiguration]
  · simp only [Family.sinkChannels, Profile.sinkChannels]
    cases c.profile.sinkChannelRule with
    | some rule => simp [hconfiguration]
    | none => rfl
  · simp [Family.encoder, Profile.encoder, hvalid]
  · simp [Family.decoder, Profile.decoder, hvalid]

/-- Adjusts a buffer with one family after the other, and tells whether any of them changed it. -/
def Family.adjustAll : List Family → Octets → Bool × Octets
  | [], b => (false, b)
  | family :: families, b =>
    let first := (family.adjust b).value
    let rest := adjustAll families first.2
    (first.1 || rest.1, rest.2)

namespace Registry

def ofCodecs (codecs : List Codec) (scmsT : Bool) : Registry := ⟨codecs.map .codec, scmsT⟩

/-- The families that take part in a role. -/
def familiesFor (r : Registry) (role : Role) : List Family :=
  r.families.filter fun family => family.roles.supports role

variable {codecs : List Codec} {scmsT : Bool} {a b : Octets} {family : Family}

theorem mem_families_ofCodecs :
    family ∈ (ofCodecs codecs scmsT).families ↔ ∃ c ∈ codecs, Family.codec c = family :=
  List.mem_map

theorem familyOf_ofCodecs_eq_some_iff :
    (ofCodecs codecs scmsT).familyOf b = some family ↔
      family ∈ (ofCodecs codecs scmsT).families ∧ Header.key b = .ok family.key := by
  rw [familyOf_eq_some_iff, resolve_eq_some_iff]
  · simp only [and_true]
    exact and_comm
  · intro f hf g hg hkey
    obtain ⟨c, -, rfl⟩ := mem_families_ofCodecs.mp hf
    obtain ⟨d, -, rfl⟩ := mem_families_ofCodecs.mp hg
    rw [Codec.eq_of_key_eq hkey]

/-- Only the family that answers for a buffer has anything to say about it. -/
theorem familyOf_ofCodecs_of_not_refuses (hmem : family ∈ (ofCodecs codecs scmsT).families)
    (h : ¬ family.Refuses b) : (ofCodecs codecs scmsT).familyOf b = some family := by
  refine familyOf_ofCodecs_eq_some_iff.mpr ⟨hmem, ?_⟩
  obtain ⟨c, -, rfl⟩ := mem_families_ofCodecs.mp hmem
  by_cases hkey : Header.key b = .ok c.profile.key
  · exact hkey
  · exact absurd (Codec.refuses_of_key_ne hkey) h

private theorem exists_familyOf_ofCodecs_iff {P : Family → Prop}
    (hP : ∀ family : Family, family.Refuses b → ¬ P family) :
    (∃ family, (ofCodecs codecs scmsT).familyOf b = some family ∧ P family) ↔
      ∃ family ∈ (ofCodecs codecs scmsT).families, P family := by
  constructor
  · intro ⟨family, hfamily, h⟩
    exact ⟨family, (familyOf_ofCodecs_eq_some_iff.mp hfamily).1, h⟩
  · intro ⟨family, hmem, h⟩
    exact ⟨family, familyOf_ofCodecs_of_not_refuses hmem fun hrefuses => hP family hrefuses h, h⟩

/-- The first answer of the families that a test admits is that of the family of the buffer. -/
theorem findSome?_filter_ofCodecs {α : Type} {question : Family → Option α}
    (hquestion : ∀ family : Family, family.Refuses b → question family = none)
    (test : Family → Bool) :
    ((ofCodecs codecs scmsT).families.filter test).findSome? question =
      (((ofCodecs codecs scmsT).familyOf b).filter test).bind question := by
  have hfamily : ∀ family x, family ∈ (ofCodecs codecs scmsT).families →
      question family = some x → (ofCodecs codecs scmsT).familyOf b = some family := by
    intro family x hmem hx
    apply familyOf_ofCodecs_of_not_refuses hmem
    intro hrefuses
    rw [hquestion family hrefuses] at hx
    cases hx
  apply Option.ext
  intro x
  constructor
  · intro h
    obtain ⟨family, hmem, hx⟩ := List.exists_of_findSome?_eq_some h
    obtain ⟨hmem, htest⟩ := List.mem_filter.mp hmem
    rw [hfamily family x hmem hx, Option.filter_some, if_pos htest]
    exact hx
  · intro h
    obtain ⟨family, hfilter, hx⟩ := Option.bind_eq_some_iff.mp h
    obtain ⟨hof, htest⟩ := Option.filter_eq_some_iff.mp hfilter
    have hmem := (familyOf_ofCodecs_eq_some_iff.mp hof).1
    have hsome := List.findSome?_isSome_iff.mpr
      ⟨family, List.mem_filter.mpr ⟨hmem, htest⟩, Option.isSome_iff_exists.mpr ⟨x, hx⟩⟩
    -- whoever answers first is the family of the buffer, too
    obtain ⟨y, hy⟩ := Option.isSome_iff_exists.mp hsome
    obtain ⟨first, hfirst, hyfirst⟩ := List.exists_of_findSome?_eq_some hy
    have hsame := hfamily first y (List.mem_filter.mp hfirst).1 hyfirst
    rw [hof] at hsame
    cases hsame
    rw [hy, ← hyfirst, hx]

private theorem value_ask_ofCodecs {α : Type} {question : Family → Reported (Option α)}
    (hquestion : ∀ family : Family, family.Refuses b → (question family).value = none) :
    ((ofCodecs codecs scmsT).ask b none question).value =
      (ofCodecs codecs scmsT).families.findSome? fun family => (question family).value := by
  have hall : (ofCodecs codecs scmsT).families.filter (fun _ => true) =
      (ofCodecs codecs scmsT).families :=
    List.filter_eq_self.mpr fun _ _ => rfl
  rw [← hall, findSome?_filter_ofCodecs hquestion, value_ask]
  cases (ofCodecs codecs scmsT).familyOf b <;> rfl

private theorem value_askFor_ofCodecs {α : Type} {question : Family → Reported (Option α)}
    (hquestion : ∀ family : Family, family.Refuses b → (question family).value = none)
    (role : Role) :
    ((ofCodecs codecs scmsT).askFor role b none question).value =
      ((ofCodecs codecs scmsT).familiesFor role).findSome?
        fun family => (question family).value := by
  unfold familiesFor
  rw [findSome?_filter_ofCodecs hquestion, value_askFor]
  cases ((ofCodecs codecs scmsT).familyOf b).filter fun family => family.roles.supports role <;>
    rfl

private theorem value_askFor_ofCodecs_iff {question : Family → Reported Bool}
    (hquestion : ∀ family : Family, family.Refuses b → (question family).value = false)
    (role : Role) :
    ((ofCodecs codecs scmsT).askFor role b false question).value = true ↔
      ∃ family ∈ (ofCodecs codecs scmsT).families,
        family.roles.supports role = true ∧ (question family).value = true := by
  rw [← exists_familyOf_ofCodecs_iff (b := b), value_askFor]
  · cases (ofCodecs codecs scmsT).familyOf b with
    | none => simp
    | some family => cases hrole : family.roles.supports role <;> simp [Option.filter, hrole]
  · intro family hrefuses h
    rw [hquestion family hrefuses] at h
    exact absurd h.2 (by decide)

theorem answer_eq {x : Option Nat} (h : ∀ n, x = some n → n < 0x80000000) :
    answer x = x.elim (-1) Nat.cast := by
  cases x with
  | none => rfl
  | some n => simp [answer, h n rfl]

/-- The first number that a codec answers with is small enough to be given. -/
theorem answer_findSome?_ofCodecs {question : Family → Option Nat}
    (hquestion : ∀ c n, question (.codec c) = some n → n < 0x80000000) :
    answer ((ofCodecs codecs scmsT).families.findSome? question) =
      ((ofCodecs codecs scmsT).families.findSome? question).elim (-1) Nat.cast := by
  apply answer_eq
  intro n hn
  obtain ⟨family, hmem, hfamily⟩ := List.exists_of_findSome?_eq_some hn
  obtain ⟨c, -, rfl⟩ := mem_families_ofCodecs.mp hmem
  exact hquestion c n hfamily

private theorem value_bitRate_ofCodecs :
    ((ofCodecs codecs scmsT).bitRate b).value =
      ((ofCodecs codecs scmsT).families.findSome? fun family => (family.bitRate b).value).elim
        (-1) Nat.cast := by
  rw [← answer_findSome?_ofCodecs fun c n hn => Codec.bitRate_lt hn]
  exact congrArg answer (value_ask_ofCodecs fun family hrefuses => hrefuses.bitRate)

private theorem value_trackNumber_ofCodecs (setting : Setting) :
    ((ofCodecs codecs scmsT).trackNumber setting b).value =
      ((ofCodecs codecs scmsT).families.findSome?
        fun family => (family.number setting b).value).elim (-1) Nat.cast := by
  rw [← answer_findSome?_ofCodecs fun c n hn => Codec.number_lt hn]
  exact congrArg answer (value_ask_ofCodecs fun family hrefuses => hrefuses.number setting)

private theorem value_sinkChannelType_ofCodecs :
    ((ofCodecs codecs scmsT).sinkChannelType b).value =
      (((ofCodecs codecs scmsT).familiesFor .localSink).findSome?
        fun family => (family.sinkChannels b).value).elim (-1)
          fun channels => (channels.number : Int) := by
  have hnumber : ∀ channels : Option SinkChannels, answer (channels.map SinkChannels.number) =
      channels.elim (-1) fun channels => (channels.number : Int) := by
    intro channels
    rcases channels with _ | _ | _ <;> rfl
  rw [← hnumber]
  exact congrArg (fun channels => answer (channels.map SinkChannels.number))
    (value_askFor_ofCodecs (fun family hrefuses => hrefuses.sinkChannels) .localSink)

private theorem configEquals_ofCodecs_iff :
    ((ofCodecs codecs scmsT).configEquals a b).value = true ↔
      ∃ family ∈ (ofCodecs codecs scmsT).families, (family.configEquals a b).value = true := by
  rw [← exists_familyOf_ofCodecs_iff (b := b), configEquals_iff]
  · constructor
    · intro ⟨d, settings, ha, hb⟩
      exact ⟨.codec d, hb.family, Family.configEquals_iff.mpr ⟨d, settings, rfl, ha.read, hb.read⟩⟩
    · intro ⟨family, hfamily, h⟩
      obtain ⟨d, settings, rfl, ha, hb⟩ := Family.configEquals_iff.mp h
      -- the codec reads the first buffer, too, so it answers for that one as well
      have hmem := (familyOf_ofCodecs_eq_some_iff.mp hfamily).1
      have hafamily : (ofCodecs codecs scmsT).familyOf a = some (.codec d) := by
        apply familyOf_ofCodecs_of_not_refuses hmem
        intro hrefuses
        have hself := hrefuses.configEquals a
        rw [Bool.eq_false_iff, ne_eq, Family.configEquals_iff] at hself
        exact hself ⟨d, settings, rfl, ha, ha⟩
      exact ⟨d, settings, ⟨hafamily, ha⟩, hfamily, hb⟩
  · intro family hrefuses h
    rw [hrefuses.configEquals a] at h
    cases h

private theorem familyOf_ofCodecs_cons_of_key_ne {c : Codec}
    (h : Header.key b ≠ .ok c.profile.key) :
    (ofCodecs (c :: codecs) scmsT).familyOf b = (ofCodecs codecs scmsT).familyOf b := by
  apply Option.ext
  intro family
  rw [familyOf_ofCodecs_eq_some_iff, familyOf_ofCodecs_eq_some_iff]
  have hcons : family ∈ (ofCodecs (c :: codecs) scmsT).families ↔
      family = .codec c ∨ family ∈ (ofCodecs codecs scmsT).families := List.mem_cons
  rw [hcons]
  constructor
  · intro ⟨hmem, hkey⟩
    rcases hmem with rfl | hmem
    · exact absurd hkey h
    · exact ⟨hmem, hkey⟩
  · intro ⟨hmem, hkey⟩
    exact ⟨Or.inr hmem, hkey⟩

/-- The codec with the key of the buffer does all the adjusting: those before it refuse the
buffer, and to those after it the buffer is foreign or adjusted already. -/
theorem adjustAll_ofCodecs (codecs : List Codec) (scmsT : Bool) (b : Octets) :
    Family.adjustAll (ofCodecs codecs scmsT).families b =
      ((ofCodecs codecs scmsT).adjust b).value := by
  induction codecs generalizing b with
  | nil =>
    rw [value_adjust]
    cases h : (ofCodecs [] scmsT).familyOf b with
    | none => rfl
    | some family => cases (familyOf_ofCodecs_eq_some_iff.mp h).1
  | cons c codecs ih =>
    have hstep : Family.adjustAll (ofCodecs (c :: codecs) scmsT).families b =
        ((c.profile.adjust b).1 || ((ofCodecs codecs scmsT).adjust (c.profile.adjust b).2).value.1,
          ((ofCodecs codecs scmsT).adjust (c.profile.adjust b).2).value.2) := by
      rw [← ih]
      rfl
    rw [hstep]
    by_cases hkey : Header.key b = .ok c.profile.key
    · have hfamily : (ofCodecs (c :: codecs) scmsT).familyOf b = some (.codec c) :=
        familyOf_ofCodecs_eq_some_iff.mpr ⟨List.mem_cons_self, hkey⟩
      have hrest : ((ofCodecs codecs scmsT).adjust (c.profile.adjust b).2).value =
          (false, (c.profile.adjust b).2) := by
        rw [value_adjust]
        cases h : (ofCodecs codecs scmsT).familyOf (c.profile.adjust b).2 with
        | none => rfl
        | some family =>
          obtain ⟨hmem, hadjusted⟩ := familyOf_ofCodecs_eq_some_iff.mp h
          obtain ⟨d, -, rfl⟩ := mem_families_ofCodecs.mp hmem
          rw [(c.profile.agree_adjust b).key, hkey] at hadjusted
          rw [← Codec.eq_of_key_eq (Except.ok.inj hadjusted)]
          exact c.profile.adjust_adjust b
      rw [hrest, value_adjust, hfamily, Bool.or_false]
      rfl
    · have hadjust : c.profile.adjust b = (false, b) := (Codec.refuses_of_key_ne hkey).adjust
      rw [hadjust, value_adjust _ b, value_adjust, familyOf_ofCodecs_cons_of_key_ne hkey,
        Bool.false_or]

/-- In a registry of codecs, the answers to a buffer are those that asking every family gives. -/
theorem answers_eq_asking_every_family (codecs : List Codec) (scmsT : Bool) (a b : Octets) :
    let r := ofCodecs codecs scmsT
    (∀ role, (r.isValidFor role b).value = true ↔
      ∃ family ∈ r.families, family.roles.supports role = true ∧
        (family.isValid b).value = true) ∧
    (r.bitRate b).value =
      (r.families.findSome? fun family => (family.bitRate b).value).elim (-1) Nat.cast ∧
    (r.sampleRate b).value =
      (r.families.findSome? fun family => (family.number .sampleRate b).value).elim
        (-1) Nat.cast ∧
    (r.bitsPerSample b).value =
      (r.families.findSome? fun family => (family.number .bitDepth b).value).elim (-1) Nat.cast ∧
    (r.channelCount b).value =
      (r.families.findSome? fun family => (family.number .channelMode b).value).elim
        (-1) Nat.cast ∧
    ((r.isLocalSinkSupported b).value = true ↔
      ∃ family ∈ r.families, family.roles.supports .localSink = true ∧
        (family.isSupported .localSink b).value = true) ∧
    ((r.isPeerSourceSupported b).value = true ↔
      ∃ family ∈ r.families, family.roles.supports .peerSource = true ∧
        (family.isSupported .peerSource b).value = true) ∧
    (r.sinkChannelType b).value =
      ((r.familiesFor .localSink).findSome? fun family => (family.sinkChannels b).value).elim
        (-1) (fun channels => (channels.number : Int)) ∧
    (r.encoder b).value =
      (r.familiesFor .localSource).findSome? (fun family => (family.encoder b).value) ∧
    (r.decoder b).value =
      (r.familiesFor .localSink).findSome? (fun family => (family.decoder b).value) ∧
    ((r.configEquals a b).value = true ↔
      ∃ family ∈ r.families, (family.configEquals a b).value = true) ∧
    (r.adjust b).value = Family.adjustAll r.families b ∧
    ∀ f ∈ r.families, ∀ g ∈ r.families,
      (f.isValid b).value = true → (g.isValid b).value = true → f.key = g.key := by
  intro r
  refine ⟨?_, value_bitRate_ofCodecs, value_trackNumber_ofCodecs .sampleRate,
    value_trackNumber_ofCodecs .bitDepth, value_trackNumber_ofCodecs .channelMode, ?_, ?_,
    value_sinkChannelType_ofCodecs, ?_, ?_, configEquals_ofCodecs_iff,
    (adjustAll_ofCodecs codecs scmsT b).symm, ?_⟩
  · intro role
    exact value_askFor_ofCodecs_iff (fun family hrefuses => hrefuses.isValid) role
  · exact value_askFor_ofCodecs_iff (fun family hrefuses => hrefuses.isSupported _) .localSink
  · exact value_askFor_ofCodecs_iff (fun family hrefuses => hrefuses.isSupported _) .peerSource
  · exact value_askFor_ofCodecs (fun family hrefuses => hrefuses.encoder) .localSource
  · exact value_askFor_ofCodecs (fun family hrefuses => hrefuses.decoder) .localSink
  · intro f hf g hg hfvalid hgvalid
    have hanswers : ∀ family ∈ r.families, (family.isValid b).value = true →
        r.familyOf b = some family := by
      intro family hmem hvalid
      apply familyOf_ofCodecs_of_not_refuses hmem
      intro hrefuses
      rw [hrefuses.isValid] at hvalid
      cases hvalid
    have hsame := (hanswers f hf hfvalid).symm.trans (hanswers g hg hgvalid)
    rw [Option.some.inj hsame]

end Registry

end A2dp
