import A2dp.Proofs.EndpointRuns
import A2dp.Proofs.StreamNumbers

/-!
# Verdicts, handles and indexes

Whether a buffer is valid in a role, has an encoder or a decoder, is supported by the local sink or
has an index: a codec answers each of these from a field of its own in its profile, roles, handles,
layout, what its sink accepts. The profile carries the proof that these fields fit together, and so
do the answers, whatever a registry lists. Only a codec ever gives one of them, and a codec has a
decoder, a sink index and a default configuration for it exactly if it takes part in the roles of a
sink.
-/

namespace A2dp

namespace Codec

private theorem isSome_ofKey? (c : Codec) (direction : Direction) :
    (c.profile.offer direction).isSome = true →
      (CodecIndex.ofKey? c.profile.key direction).isSome = true := by
  cases c <;> cases direction <;> decide

end Codec

private theorem CodecIndex.of_ofKey? {key : CodecKey} {direction : Direction} {index : CodecIndex}
    (h : ofKey? key direction = some index) :
    index.direction = direction ∧ index.owner = .vendor key := by
  have hfound := List.find?_some h
  simpa using hfound

namespace Profile

variable {p : Profile} {reading : Reading} {b : Octets} {settings : Settings}

private theorem exists_read_of_meetsSink (h : p.meetsSink reading b = true) :
    ∃ settings, p.read reading b = .ok settings := by
  unfold meetsSink at h
  cases hread : p.read reading b with
  | ok settings => exact ⟨settings, rfl⟩
  | error cause => simp [hread] at h

private theorem isValid_of_read (h : p.read reading b = .ok settings) : p.isValid b = true := by
  rw [isValid_eq_isOk, isOk_iff]
  cases reading with
  | capability => exact ⟨settings, h⟩
  | configuration => exact ⟨settings, (read_configuration_eq_ok_iff.mp h).1⟩

end Profile

namespace Registry

variable {r : Registry} {b : Octets} {role : Role} {c : Codec} {handle : Handle}

/-- An answer that neither an unknown codec nor a family known by name alone gets comes from a codec
with the role. -/
theorem value_askFor_eq_iff {α : Type} {unknown answer : α} {question : Family → Reported α}
    (hunknown : unknown ≠ answer) (hnominal : ∀ n, (question (.nominal n)).value ≠ answer) :
    (r.askFor role b unknown question).value = answer ↔
      ∃ c, r.familyOf b = some (.codec c) ∧ c.profile.roles.supports role = true ∧
        (question (.codec c)).value = answer := by
  rw [value_askFor]
  cases r.familyOf b with
  | none => simp [hunknown]
  | some family =>
    cases family with
    | codec c => cases hrole : c.profile.roles.supports role <;>
        simp [Option.filter, Family.roles, hrole, hunknown]
    | nominal n => cases hrole : n.roles.supports role <;>
        simp [Option.filter, Family.roles, hrole, hunknown, hnominal n]

/-- The buffer is one of this codec, and valid in the role. -/
structure Accepts (r : Registry) (role : Role) (b : Octets) (c : Codec) : Prop where
  family : r.familyOf b = some (.codec c)
  role : c.profile.roles.supports role = true
  valid : c.profile.isValid b = true

private theorem Accepts.asSource (h : r.Accepts role b c) :
    r.Accepts .localSource b c ∧ r.Accepts .peerSink b c :=
  ⟨⟨h.family, c.profile.supports_source.1, h.valid⟩, h.family, c.profile.supports_source.2, h.valid⟩

private theorem accepts_localSink_iff : r.Accepts .localSink b c ↔ r.Accepts .peerSource b c :=
  have hroles := c.profile.supports_sink
  ⟨fun h => ⟨h.family, hroles.2.trans (hroles.1.symm.trans h.role), h.valid⟩,
    fun h => ⟨h.family, hroles.1.trans (hroles.2.symm.trans h.role), h.valid⟩⟩

private theorem isValidFor_iff_accepts :
    (r.isValidFor role b).value = true ↔ ∃ c, r.Accepts role b c := by
  have hask : (r.isValidFor role b).value = true ↔ ∃ c, r.familyOf b = some (.codec c) ∧
      c.profile.roles.supports role = true ∧ c.profile.isValid b = true :=
    value_askFor_eq_iff nofun nofun
  rw [hask]
  exact exists_congr fun c => ⟨fun ⟨hfamily, hrole, hvalid⟩ => ⟨hfamily, hrole, hvalid⟩,
    fun h => ⟨h.family, h.role, h.valid⟩⟩

private theorem encoder_eq_some_iff :
    (r.encoder b).value = some handle ↔
      ∃ c, r.Accepts .localSource b c ∧ c.profile.encoderHandle = handle := by
  have hask : (r.encoder b).value = some handle ↔ ∃ c, r.familyOf b = some (.codec c) ∧
      c.profile.roles.supports .localSource = true ∧ c.profile.encoder b = some handle :=
    value_askFor_eq_iff nofun nofun
  simp only [hask, Profile.encoder, Option.ite_none_right_eq_some, Option.some.injEq]
  refine exists_congr fun c => ⟨?_, ?_⟩
  · rintro ⟨hfamily, hrole, hvalid, hhandle⟩
    exact ⟨⟨hfamily, hrole, hvalid⟩, hhandle⟩
  · rintro ⟨h, hhandle⟩
    exact ⟨h.family, h.role, h.valid, hhandle⟩

private theorem decoder_eq_some_iff :
    (r.decoder b).value = some handle ↔
      ∃ c, r.Accepts .localSink b c ∧ c.profile.decoderHandle = some handle := by
  have hask : (r.decoder b).value = some handle ↔ ∃ c, r.familyOf b = some (.codec c) ∧
      c.profile.roles.supports .localSink = true ∧ c.profile.decoder b = some handle :=
    value_askFor_eq_iff nofun nofun
  simp only [hask, Profile.decoder, Option.filter_eq_some_iff]
  refine exists_congr fun c => ⟨?_, ?_⟩
  · rintro ⟨hfamily, hrole, hhandle, hvalid⟩
    exact ⟨⟨hfamily, hrole, hvalid⟩, hhandle⟩
  · rintro ⟨h, hhandle⟩
    exact ⟨h.family, h.role, hhandle, h.valid⟩

/-- A codec with the role of a sink has a decoder. -/
theorem Accepts.exists_decoderHandle (h : r.Accepts .localSink b c) :
    ∃ handle, c.profile.decoderHandle = some handle := by
  have hoffer := c.profile.supports_sink.1.symm.trans h.role
  rw [Profile.offer, Option.isSome_map] at hoffer
  exact ⟨_, c.profile.decoderHandle_eq.trans (if_pos hoffer)⟩

/-- An encoder or decoder has the key of the buffer that it is for. -/
theorem Accepts.key_eq (h : r.Accepts role b c)
    (hhandle : c.profile.encoderHandle = handle ∨ c.profile.decoderHandle = some handle) :
    Header.key b = .ok handle.key := by
  have hkey : Header.key b = .ok c.profile.key := (familyOf_eq_some_iff.mp h.family).1
  have hsame : c.profile.encoderHandle = handle := by
    rcases hhandle with hencoder | hdecoder
    · exact hencoder
    · rw [c.profile.decoderHandle_eq, Option.ite_none_right_eq_some] at hdecoder
      exact Option.some.inj hdecoder.2
  rw [hkey, ← hsame, c.profile.encoderHandle_eq]

/-- What the local sink supports can be read, and is valid. -/
theorem exists_read_of_supported {reading : Reading}
    (hreading : ∀ c : Codec, c.profile.isSupported role b = c.profile.meetsSink reading b)
    (h : (r.askFor role b false fun family => family.isSupported role b).value = true) :
    ∃ c, r.Accepts role b c ∧ ∃ settings, c.profile.read reading b = .ok settings := by
  have hask : (r.askFor role b false fun family => family.isSupported role b).value = true ↔
      ∃ c, r.familyOf b = some (.codec c) ∧ c.profile.roles.supports role = true ∧
        c.profile.isSupported role b = true :=
    value_askFor_eq_iff nofun nofun
  obtain ⟨c, hfamily, hrole, hsupported⟩ := hask.mp h
  rw [hreading] at hsupported
  obtain ⟨settings, hread⟩ := Profile.exists_read_of_meetsSink hsupported
  exact ⟨c, ⟨hfamily, hrole, Profile.isValid_of_read hread⟩, settings, hread⟩

/-- A configuration of the codec that answers for a buffer has all numbers. -/
theorem numbers_ne_of_read {settings : Settings} (hfamily : r.familyOf b = some (.codec c))
    (hread : c.profile.read .configuration b = .ok settings) :
    (r.bitRate b).value ≠ -1 ∧ (r.sampleRate b).value ≠ -1 ∧ (r.bitsPerSample b).value ≠ -1 ∧
      (r.channelCount b).value ≠ -1 := by
  have hcast : ∀ n : Nat, (n : Int) ≠ -1 := by
    intro n
    omega
  obtain ⟨rate, hertz, depth, channels, hrate, hhertz, hdepth, hchannels, -⟩ :=
    Codec.exists_numbers hread
  simp only [sampleRate, bitsPerSample, channelCount, value_bitRate_of_family hfamily,
    value_trackNumber_of_family hfamily, hrate, hhertz, hdepth, hchannels, Option.elim_some]
  exact ⟨hcast rate, hcast hertz, hcast depth, hcast channels⟩

/-- The index stands for the codec of a buffer in a direction: it belongs to the key of the buffer,
the family of the buffer answers for it, and it has a default configuration. -/
structure IsIndexOf (r : Registry) (b : Octets) (direction : Direction) (index : CodecIndex) :
    Prop where
  direction : index.direction = direction
  owner : ∃ key, Header.key b = .ok key ∧ index.owner = .vendor key
  family : ∃ family, r.resolveBuffer b = .ok (some family) ∧ r.familyOfIndex index = some family
  hasDefault : ∃ d, (r.defaultEndpoint index).value = some d

private theorem exists_isIndexOf (direction : Direction) (hfamily : r.familyOf b = some (.codec c))
    (hoffer : (c.profile.offer direction).isSome = true) :
    ∃ index, CodecIndex.ofKey? c.profile.key direction = some index ∧
      r.IsIndexOf b direction index := by
  obtain ⟨hkey, hresolve⟩ := familyOf_eq_some_iff.mp hfamily
  obtain ⟨index, hindex⟩ := Option.isSome_iff_exists.mp (c.isSome_ofKey? direction hoffer)
  obtain ⟨hdirection, howner⟩ := CodecIndex.of_ofKey? hindex
  obtain ⟨-, d, -, hdefault, -⟩ := initialise_of_codec howner hresolve
  exact ⟨index, hindex, hdirection, ⟨_, hkey, howner⟩,
    ⟨_, resolveBuffer_eq_ok_some_iff.mpr hfamily,
      familyOfIndex_eq_some_iff.mpr ⟨_, howner, hresolve⟩⟩, d, hdefault⟩

/-- What a registry says of a buffer fits together. It has an encoder exactly where it is valid as a
local source, and a decoder exactly where it is valid as a local sink, each with the key of the
buffer. The roles of a peer go with the opposite local ones, and what can be received can be sent.
What the local sink supports is valid, and a supported configuration has all numbers. A valid buffer
has an index in its direction that leads back to its family and has a default configuration. -/
theorem verdicts_handles_indexes_agree (r : Registry) (b : Octets) :
    let valid := fun role => (r.isValidFor role b).value
    (r.encoder b).value.isSome = valid .localSource ∧
    (r.decoder b).value.isSome = valid .localSink ∧
    (∀ handle, (r.encoder b).value = some handle ∨ (r.decoder b).value = some handle →
      Header.key b = .ok handle.key) ∧
    valid .localSink = valid .peerSource ∧
    valid .localSource = valid .peerSink ∧
    (valid .localSink = true → valid .localSource = true) ∧
    ((r.isLocalSinkSupported b).value = true → valid .localSink = true ∧
      (r.bitRate b).value ≠ -1 ∧ (r.sampleRate b).value ≠ -1 ∧
      (r.bitsPerSample b).value ≠ -1 ∧ (r.channelCount b).value ≠ -1) ∧
    ((r.isPeerSourceSupported b).value = true → valid .peerSource = true) ∧
    (valid .localSource = true →
      ∃ index, (r.sourceIndex b).value = some index ∧ r.IsIndexOf b .source index) ∧
    (valid .localSink = true →
      ∃ index, (r.sinkIndex b).value = some index ∧ r.IsIndexOf b .sink index) := by
  intro valid
  have hvalid : ∀ {role}, valid role = true ↔ ∃ c, r.Accepts role b c := isValidFor_iff_accepts
  have hsource : ∀ {role}, valid role = true →
      valid .localSource = true ∧ valid .peerSink = true := by
    intro role h
    obtain ⟨c, hc⟩ := hvalid.mp h
    exact ⟨hvalid.mpr ⟨c, hc.asSource.1⟩, hvalid.mpr ⟨c, hc.asSource.2⟩⟩
  refine ⟨?_, ?_, ?_, ?_, ?_, fun h => (hsource h).1, ?_, ?_, ?_, ?_⟩
  · rw [Bool.eq_iff_iff, Option.isSome_iff_exists, hvalid]
    simp only [encoder_eq_some_iff]
    exact ⟨fun ⟨_, c, hc, _⟩ => ⟨c, hc⟩, fun ⟨c, hc⟩ => ⟨_, c, hc, rfl⟩⟩
  · rw [Bool.eq_iff_iff, Option.isSome_iff_exists, hvalid]
    simp only [decoder_eq_some_iff]
    constructor
    · rintro ⟨handle, c, hc, -⟩
      exact ⟨c, hc⟩
    · rintro ⟨c, hc⟩
      obtain ⟨handle, hhandle⟩ := hc.exists_decoderHandle
      exact ⟨handle, c, hc, hhandle⟩
  · rintro handle (h | h)
    · obtain ⟨c, hc, hhandle⟩ := encoder_eq_some_iff.mp h
      exact hc.key_eq (Or.inl hhandle)
    · obtain ⟨c, hc, hhandle⟩ := decoder_eq_some_iff.mp h
      exact hc.key_eq (Or.inr hhandle)
  · rw [Bool.eq_iff_iff, hvalid, hvalid]
    exact exists_congr fun c => accepts_localSink_iff
  · rw [Bool.eq_iff_iff]
    exact ⟨fun h => (hsource h).2, fun h => (hsource h).1⟩
  · intro h
    obtain ⟨c, hc, settings, hread⟩ := exists_read_of_supported (fun _ => rfl) h
    exact ⟨hvalid.mpr ⟨c, hc⟩, numbers_ne_of_read hc.family hread⟩
  · intro h
    obtain ⟨c, hc, -⟩ := exists_read_of_supported (fun _ => rfl) h
    exact hvalid.mpr ⟨c, hc⟩
  · intro h
    obtain ⟨c, hc⟩ := hvalid.mp h
    obtain ⟨index, hindex, hof⟩ := exists_isIndexOf .source hc.family rfl
    exact ⟨index, (value_askFor_of_family hc.family hc.role _ _).trans hindex, hof⟩
  · intro h
    obtain ⟨c, hc⟩ := hvalid.mp h
    obtain ⟨index, hindex, hof⟩ :=
      exists_isIndexOf .sink hc.family (c.profile.supports_sink.1.symm.trans hc.role)
    exact ⟨index, (value_askFor_of_family hc.family hc.role _ _).trans hindex, hof⟩

end Registry

end A2dp
