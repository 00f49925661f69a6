import A2dp.Proofs.Equality
import A2dp.Proofs.Reserved

/-!
# Everything that is answered about a buffer

All answers of a registry about one buffer, taken together. They follow from the identity of the
buffer and from what its family answers, and the answers of a codec follow from what it reads in
the buffer as a capability. So buffers that say the same cannot be told apart by any question.
-/

namespace A2dp

/-- All answers of a registry about a buffer. -/
@[ext]
structure Answers where
  codecType : Except Error CodecType
  vendorId : Except Error UInt32
  codecId : Except Error UInt16
  family : Except Error (Option Family)
  name : String
  valid : Role → Bool
  localSinkSupported : Bool
  peerSourceSupported : Bool
  bitRate : Int
  sampleRate : Int
  bitsPerSample : Int
  channelCount : Int
  sinkChannelType : Int
  /-- With content protection or without. -/
  usesRtpHeader : Bool → Bool
  /-- For every packet and number of frames. -/
  header : Packet → UInt16 → Bool × Packet
  /-- For all encoded data. -/
  timestamp : Octets → Option UInt32
  sourceIndex : Option CodecIndex
  sinkIndex : Option CodecIndex
  encoder : Option Handle
  decoder : Option Handle
  description : String

def Registry.answers (r : Registry) (b : Octets) : Answers where
  codecType := Header.codecType b
  vendorId := Header.vendorId b
  codecId := Header.codecId b
  family := r.resolveBuffer b
  name := (r.codecName b).value
  valid role := (r.isValidFor role b).value
  localSinkSupported := (r.isLocalSinkSupported b).value
  peerSourceSupported := (r.isPeerSourceSupported b).value
  bitRate := (r.bitRate b).value
  sampleRate := (r.sampleRate b).value
  bitsPerSample := (r.bitsPerSample b).value
  channelCount := (r.channelCount b).value
  sinkChannelType := (r.sinkChannelType b).value
  usesRtpHeader contentProtection := (r.usesRtpHeader contentProtection b).value
  header packet frames := (r.buildHeader b packet frames).value
  timestamp data := (r.packetTimestamp b data).value
  sourceIndex := (r.sourceIndex b).value
  sinkIndex := (r.sinkIndex b).value
  encoder := (r.encoder b).value
  decoder := (r.decoder b).value
  description := (r.describe b).value

/-- A family answers the same about two buffers. -/
structure Family.Agree (family : Family) (a b : Octets) : Prop where
  isValid : (family.isValid a).value = (family.isValid b).value
  isSupported : ∀ role, (family.isSupported role a).value = (family.isSupported role b).value
  bitRate : (family.bitRate a).value = (family.bitRate b).value
  number : ∀ setting, (family.number setting a).value = (family.number setting b).value
  sinkChannels : (family.sinkChannels a).value = (family.sinkChannels b).value
  encoder : (family.encoder a).value = (family.encoder b).value
  decoder : (family.decoder a).value = (family.decoder b).value
  describe : (family.describe a).value = (family.describe b).value

/-- What is reserved is not described. -/
theorem Profile.describe_eq (p : Profile) (b : Octets) :
    p.describe b = match (p.read .capability b).map Settings.cleared with
      | .ok settings => "\tname: " ++ p.name ++ "\n" ++ settings.text
      | .error cause => p.name ++ " parse failed: " ++ cause.message := by
  unfold describe
  rw [readAny_eq_read_capability]
  cases p.read .capability b with
  | error cause => rfl
  | ok settings => simp only [Except.map, Settings.text_cleared]

/-- Each answer of a codec follows from what it reads in a buffer as a capability, and none from
what is reserved there. -/
theorem Codec.agree_of_cleared_eq {d : Codec} {a b : Octets}
    (h : (d.profile.read .capability a).map Settings.cleared =
      (d.profile.read .capability b).map Settings.cleared) :
    (Family.codec d).Agree a b := by
  have hcapability : Settings.Alike (d.profile.read .capability a).toOption
      (d.profile.read .capability b).toOption := by
    unfold Settings.Alike
    rw [← toOption_map, ← toOption_map, h]
  have hvalid : d.profile.isValid a = d.profile.isValid b := by
    rw [Profile.isValid_eq_isOk, Profile.isValid_eq_isOk, ← isOk_map Settings.cleared, h, isOk_map]
  have hread : ∀ reading, Settings.Alike (d.profile.read reading a).toOption
      (d.profile.read reading b).toOption := by
    intro reading
    cases reading with
    | capability => exact hcapability
    | configuration =>
      rw [Profile.toOption_read_configuration, Profile.toOption_read_configuration]
      exact hcapability.filter Settings.isDecided_cleared
  have hmeets : ∀ reading, d.profile.meetsSink reading a = d.profile.meetsSink reading b := by
    intro reading
    rw [Profile.meetsSink_eq_any, Profile.meetsSink_eq_any]
    apply (hread reading).any
    intro settings
    simp only [Settings.meets_cleared]
  have hconfiguration : Settings.Alike (d.profile.configuration a).value
      (d.profile.configuration b).value := by
    rw [Profile.value_configuration, Profile.value_configuration]
    exact hcapability.filter Settings.isDecided_cleared
  have hnumber : ∀ setting settings,
      d.profile.number? (Settings.cleared settings) setting =
        d.profile.number? settings setting := by
    intro setting settings
    simp only [Profile.number?, Settings.number?_cleared]
  refine ⟨hvalid, ?_, ?_, ?_, ?_, ?_, ?_, ?_⟩
  · intro role
    cases role with
    | localSink => exact hmeets .configuration
    | peerSource => exact hmeets .capability
    | localSource => rfl
    | peerSink => rfl
  · apply hconfiguration.bind
    intro settings
    simp only [Profile.bitRate?, hnumber, Settings.rate?_cleared, Settings.bits?_cleared]
  · intro setting
    exact hconfiguration.bind (hnumber setting)
  · simp only [Family.sinkChannels, Profile.sinkChannels]
    split
    · next rule _ =>
      apply hconfiguration.map
      intro settings
      cases rule <;> simp only [SinkChannelRule.channels, Settings.bits?_cleared]
    · rfl
  · simp only [Family.encoder, Profile.encoder, hvalid]
  · simp only [Family.decoder, Profile.decoder, hvalid]
  · simp only [Family.describe, Profile.describe_eq, h]

theorem Codec.agree_of_read_eq {d : Codec} {a b : Octets}
    (h : d.profile.read .capability a = d.profile.read .capability b) :
    (Family.codec d).Agree a b :=
  Codec.agree_of_cleared_eq (congrArg (Except.map Settings.cleared) h)

namespace Registry

variable {r : Registry} {a b : Octets}

private theorem value_ask_congr {α : Type} {unknown : α} {question question' : Family → Reported α}
    (hfamily : r.familyOf a = r.familyOf b)
    (h : ∀ family, r.familyOf b = some family →
      (question family).value = (question' family).value) :
    (r.ask a unknown question).value = (r.ask b unknown question').value := by
  rw [value_ask, value_ask, hfamily]
  cases hb : r.familyOf b with
  | none => rfl
  | some family => exact h family hb

private theorem value_askFor_congr {α : Type} {role : Role} {unknown : α}
    {question question' : Family → Reported α} (hfamily : r.familyOf a = r.familyOf b)
    (h : ∀ family, r.familyOf b = some family →
      (question family).value = (question' family).value) :
    (r.askFor role a unknown question).value = (r.askFor role b unknown question').value := by
  rw [value_askFor, value_askFor, hfamily]
  cases hb : (r.familyOf b).filter fun family => family.roles.supports role with
  | none => rfl
  | some family => exact h family (Option.filter_eq_some_iff.mp hb).1

/-- Buffers with one identity about which their family answers the same have the same answers. -/
theorem answers_congr (htype : Header.codecType a = Header.codecType b)
    (hvendor : Header.vendorId a = Header.vendorId b) (hcodec : Header.codecId a = Header.codecId b)
    (h : ∀ family, r.familyOf b = some family → family.Agree a b) :
    r.answers a = r.answers b := by
  have hkey : Header.key a = Header.key b := by
    unfold Header.key
    rw [hvendor, hcodec]
  have hfamily := r.familyOf_congr hkey
  have hnumber : ∀ setting, (r.trackNumber setting a).value = (r.trackNumber setting b).value := by
    intro setting
    exact congrArg answer (value_ask_congr hfamily fun family hf => (h family hf).number setting)
  apply Answers.ext
  · exact htype
  · exact hvendor
  · exact hcodec
  · simp only [answers, resolveBuffer, hkey]
  · exact value_ask_congr hfamily fun _ _ => rfl
  · funext role
    exact value_askFor_congr hfamily fun family hf => (h family hf).isValid
  · exact value_askFor_congr hfamily fun family hf => (h family hf).isSupported .localSink
  · exact value_askFor_congr hfamily fun family hf => (h family hf).isSupported .peerSource
  · exact congrArg answer (value_ask_congr hfamily fun family hf => (h family hf).bitRate)
  · exact hnumber .sampleRate
  · exact hnumber .bitDepth
  · exact hnumber .channelMode
  · exact congrArg (fun channels => answer (channels.map SinkChannels.number))
      (value_askFor_congr hfamily fun family hf => (h family hf).sinkChannels)
  · funext contentProtection
    exact value_ask_congr hfamily fun _ _ => rfl
  · funext packet frames
    exact value_ask_congr hfamily fun _ _ => rfl
  · funext data
    exact value_ask_congr hfamily fun _ _ => rfl
  · exact value_askFor_congr hfamily fun _ _ => rfl
  · exact value_askFor_congr hfamily fun _ _ => rfl
  · exact value_askFor_congr hfamily fun family hf => (h family hf).encoder
  · exact value_askFor_congr hfamily fun family hf => (h family hf).decoder
  · have htext : unsupportedText a = unsupportedText b := by
      unfold unsupportedText
      rw [hkey]
    simp only [answers, describe, htext]
    exact value_ask_congr hfamily fun family hf => (h family hf).describe

/-- Buffers that say the same have the same answers to every question. -/
theorem answers_eq_of_configEquals (r : Registry) (a b : Octets)
    (h : (r.configEquals a b).value = true) : r.answers a = r.answers b := by
  obtain ⟨d, s, ha, hb⟩ := configEquals_iff.mp h
  have hca := ha.comparable
  have hcb := hb.comparable
  obtain ⟨hvendora, hcodeca⟩ := Header.key_eq_ok_iff.mp hca.key
  obtain ⟨hvendorb, hcodecb⟩ := Header.key_eq_ok_iff.mp hcb.key
  apply answers_congr
  · rw [Header.codecType_of_vendor hca.vendor, Header.codecType_of_vendor hcb.vendor]
  · exact hvendora.trans hvendorb.symm
  · exact hcodeca.trans hcodecb.symm
  · intro family hfamily
    have hd : family = .codec d := Option.some.inj (hfamily.symm.trans hb.family)
    rw [hd]
    exact Codec.agree_of_read_eq (ha.read.trans hb.read.symm)

/-- Unknown bits, the low half of the media octet and what follows the capability do not count. -/
theorem answers_eq_of_ldac_configEquals :
    let a := [0x0A, 0x00, 0xFF, 0x2D, 0x01, 0x00, 0x00, 0xAA, 0x00, 0x10, 0x01]
    let b := [0x0A, 0x07, 0xFF, 0x2D, 0x01, 0x00, 0x00, 0xAA, 0x00, 0xD0, 0xF9, 0x55]
    (builtin.configEquals a b).value = true ∧ builtin.answers a = builtin.answers b := by
  have h : (builtin.configEquals
      [0x0A, 0x00, 0xFF, 0x2D, 0x01, 0x00, 0x00, 0xAA, 0x00, 0x10, 0x01]
      [0x0A, 0x07, 0xFF, 0x2D, 0x01, 0x00, 0x00, 0xAA, 0x00, 0xD0, 0xF9, 0x55]).value = true := by
    decide
  exact ⟨h, answers_eq_of_configEquals builtin _ _ h⟩

end Registry

end A2dp
