import A2dp.Proofs.AccessInRange
import A2dp.Proofs.Locality
import A2dp.Proofs.Verdicts

/-!
# What is reported beside an answer

Records arise at three places: where the family of a buffer is looked up, where its roles are
compared with that of a question, and where a codec reads a configuration or writes a header. A
question that stops at one of them never comes to the next, so it leaves one record at most. The
codecs report exactly where they have no number or no header to give, and are silent beside every
other answer.
-/

namespace A2dp

namespace Reported

variable {α β : Type}

def levels (x : Reported α) : List Level := x.records.map Diagnostic.level

@[simp] theorem levels_quiet (a : α) : (quiet a).levels = [] := rfl

@[simp] theorem levels_noting (a : α) (d : Diagnostic) : (noting a d).levels = [d.level] := rfl

@[simp] theorem levels_map (f : α → β) (x : Reported α) : (x.map f).levels = x.levels := rfl

@[simp] theorem levels_bind (x : Reported α) (f : α → Reported β) :
    (x.bind f).levels = x.levels ++ (f x.value).levels :=
  List.map_append

@[simp] theorem length_levels (x : Reported α) : x.levels.length = x.records.length :=
  List.length_map _

/-- There is one record, of the level, where the condition holds, and none elsewhere. -/
def NotesIff (x : Reported α) (level : Level) (condition : Prop) : Prop :=
  (x.levels = [level] ↔ condition) ∧ (x.records = [] ↔ ¬ condition)

private theorem NotesIff.of_true {x : Reported α} {level : Level} {condition : Prop}
    (hlevels : x.levels = [level]) (h : condition) : x.NotesIff level condition := by
  have hne : x.records ≠ [] := by
    intro hnil
    simp [levels, hnil] at hlevels
  exact ⟨iff_of_true hlevels h, iff_of_false hne (not_not_intro h)⟩

private theorem NotesIff.of_false {x : Reported α} {level : Level} {condition : Prop}
    (hrecords : x.records = []) (h : ¬ condition) : x.NotesIff level condition := by
  have hne : x.levels ≠ [level] := by simp [levels, hrecords]
  exact ⟨iff_of_false hne h, iff_of_true hrecords h⟩

private theorem NotesIff.length_le {x : Reported α} {level : Level} {condition : Prop}
    (h : x.NotesIff level condition) : x.records.length ≤ 1 := by
  by_cases hcondition : condition
  · simp [← length_levels, h.1.mpr hcondition]
  · simp [h.2.mpr hcondition]

end Reported

/-! ## Questions as data -/

/-- A question that goes to the family of a buffer, with all that it is asked with. -/
inductive Question where
  | codecName
  | describe
  | isValidFor (role : Role)
  | isLocalSinkSupported
  | isPeerSourceSupported
  | bitRate
  | sampleRate
  | bitsPerSample
  | channelCount
  | sinkChannelType
  | usesRtpHeader (contentProtection : Bool)
  | buildHeader (packet : Packet) (frames : UInt16)
  | packetTimestamp (data : Octets)
  | sourceIndex
  | sinkIndex
  | encoder
  | decoder
  | adjust

namespace Question

/-- Asks the question, and tells whether a number or a header was wanted and there is none. -/
def ask (r : Registry) (b : Octets) : Question → Reported Bool
  | .codecName => (r.codecName b).map fun _ => false
  | .describe => (r.describe b).map fun _ => false
  | .isValidFor role => (r.isValidFor role b).map fun _ => false
  | .isLocalSinkSupported => (r.isLocalSinkSupported b).map fun _ => false
  | .isPeerSourceSupported => (r.isPeerSourceSupported b).map fun _ => false
  | .bitRate => (r.bitRate b).map fun n => n == -1
  | .sampleRate => (r.sampleRate b).map fun n => n == -1
  | .bitsPerSample => (r.bitsPerSample b).map fun n => n == -1
  | .channelCount => (r.channelCount b).map fun n => n == -1
  | .sinkChannelType => (r.sinkChannelType b).map fun n => n == -1
  | .usesRtpHeader contentProtection =>
    (r.usesRtpHeader contentProtection b).map fun _ => false
  | .buildHeader packet frames => (r.buildHeader b packet frames).map fun result => !result.1
  | .packetTimestamp data => (r.packetTimestamp b data).map fun _ => false
  | .sourceIndex => (r.sourceIndex b).map fun _ => false
  | .sinkIndex => (r.sinkIndex b).map fun _ => false
  | .encoder => (r.encoder b).map fun _ => false
  | .decoder => (r.decoder b).map fun _ => false
  | .adjust => (r.adjust b).map fun _ => false

/-- The role in which a family has to take part to be asked. -/
def role? : Question → Option Role
  | .isValidFor role => some role
  | .sourceIndex | .encoder => some .localSource
  | .isLocalSinkSupported | .sinkChannelType | .sinkIndex | .decoder => some .localSink
  | .isPeerSourceSupported => some .peerSource
  | .codecName | .describe | .bitRate | .sampleRate | .bitsPerSample | .channelCount
  | .usesRtpHeader _ | .buildHeader _ _ | .packetTimestamp _ | .adjust => none

/-- A number or a header is wanted, of which there may be none. -/
def mayFail : Question → Bool
  | .bitRate | .sampleRate | .bitsPerSample | .channelCount | .sinkChannelType
  | .buildHeader _ _ => true
  | .codecName | .describe | .isValidFor _ | .isLocalSinkSupported | .isPeerSourceSupported
  | .usesRtpHeader _ | .packetTimestamp _ | .sourceIndex | .sinkIndex | .encoder | .decoder
  | .adjust => false

end Question

namespace Registry

/-- No family has the key of the buffer, or it does not take part in the role. -/
def isUnserved (r : Registry) (b : Octets) (role? : Option Role) : Bool :=
  (r.familyOf b).all fun family => role?.any fun role => !family.roles.supports role

/-- The levels of what is reported about a buffer: of the first fault that a question meets. -/
def faultLevels (r : Registry) (b : Octets) (role? : Option Role) (fails : Bool) : List Level :=
  if b.length < 9 then [.warn]
  else if r.isUnserved b role? then [.trace]
  else if fails then [.debug]
  else []

end Registry

/-- A call of a registry. -/
inductive Call where
  | ask (question : Question) (b : Octets)
  | typeEquals (a b : Octets)
  | configEquals (a b : Octets)
  | codecType (b : Octets)
  | vendorId (b : Octets)
  | codecId (b : Octets)
  | resolveBuffer (b : Octets)
  | familyOfIndex (index : CodecIndex)
  | indexName (index : CodecIndex)
  | initialise (index : CodecIndex) (e : Endpoint)
  | defaultEndpoint (index : CodecIndex)

/-- The records of a call. What asks no family, to read a header or to find the family of a key, has
no place for records and is quiet. -/
def Call.records (r : Registry) : Call → List Diagnostic
  | .ask question b => (question.ask r b).records
  | .typeEquals a b => (r.typeEquals a b).records
  | .configEquals a b => (r.configEquals a b).records
  | .indexName index => (r.indexName index).records
  | .codecType b => (Reported.quiet (Header.codecType b)).records
  | .vendorId b => (Reported.quiet (Header.vendorId b)).records
  | .codecId b => (Reported.quiet (Header.codecId b)).records
  | .resolveBuffer b => (Reported.quiet (r.resolveBuffer b)).records
  | .familyOfIndex index => (Reported.quiet (r.familyOfIndex index)).records
  | .initialise index e => (r.initialise index e).records
  | .defaultEndpoint index => (r.defaultEndpoint index).records

/-! ## The three places -/

private theorem FrameHeader.levels_write (header : FrameHeader) (packet : Packet)
    (frames : UInt16) : (header.write packet frames).levels =
      if !(header.write packet frames).value.1 then [.debug] else [] := by
  unfold write
  split
  · rfl
  · cases packet.grow header.size <;> rfl

namespace Profile

private theorem levels_buildHeader (p : Profile) (packet : Packet) (frames : UInt16) :
    (p.buildHeader packet frames).levels =
      if !(p.buildHeader packet frames).value.1 then [.debug] else [] := by
  unfold buildHeader
  cases p.frameHeader with
  | none => rfl
  | some header => exact header.levels_write packet frames

private theorem levels_configuration (p : Profile) (b : Octets) :
    (p.configuration b).levels = if (p.configuration b).value.isNone then [.debug] else [] := by
  unfold configuration
  cases p.read .configuration b <;> rfl

end Profile

namespace Codec

variable {c : Codec} {b : Octets}

/-- A number is given exactly where there is a configuration. -/
theorem isNone_number {setting : Setting}
    (h : setting ∈ [Setting.sampleRate, .bitDepth, .channelMode]) :
    (c.profile.number setting b).value.isNone = (c.profile.configuration b).value.isNone := by
  simp only [Profile.number, Reported.value_map]
  cases hvalue : (c.profile.configuration b).value with
  | none => rfl
  | some settings =>
    have hread := Profile.value_configuration_eq_some_iff.mp hvalue
    obtain ⟨n, hn⟩ := Profile.exists_number? c.hasSingleBits hread (c.settles setting h)
    simp [hn]

private theorem isNone_bitRate :
    (c.profile.bitRate b).value.isNone = (c.profile.configuration b).value.isNone := by
  cases hvalue : (c.profile.configuration b).value with
  | none => simp [Profile.bitRate, hvalue]
  | some settings =>
    have hread := Profile.value_configuration_eq_some_iff.mp hvalue
    obtain ⟨rate, -, -, -, hrate, -⟩ := exists_numbers hread
    simp [hrate]

private theorem isNone_sinkChannels (h : c.profile.roles.supports .localSink = true) :
    (c.profile.sinkChannels b).value.isNone = (c.profile.configuration b).value.isNone := by
  rw [value_sinkChannels ((c.supports_iff_mem_playedRoles _).mp h), Option.isNone_map,
    isNone_number (by decide)]

end Codec

namespace Registry

variable {α : Type} {r : Registry} {b : Octets} {role : Role}

private theorem levels_lookup (r : Registry) (b : Octets) :
    (r.lookup b).levels =
      if b.length < 9 then [.warn] else (r.familyOf b).elim [.trace] fun _ => [] := by
  unfold lookup familyOf
  by_cases hshort : b.length < 9
  · rw [if_pos hshort]
    cases hkey : Header.key b with
    | error cause => rfl
    | ok k => exact absurd hkey (key_of_short hshort)
  · obtain ⟨k, hkey⟩ := Header.exists_key_of_size_le (Nat.not_lt.mp hshort)
    rw [if_neg hshort, hkey]
    simp only [Except.toOption, Option.bind_some]
    cases r.resolve k <;> rfl

private theorem familyOf_of_short (h : b.length < 9) : r.familyOf b = none :=
  familyOf_eq_none_iff.mpr fun _ hkey => absurd hkey (key_of_short h)

private theorem levels_ask (r : Registry) (b : Octets) (unknown : α)
    (question : Family → Reported α) : (r.ask b unknown question).levels =
      if b.length < 9 then [.warn]
      else (r.familyOf b).elim [.trace] fun family => (question family).levels := by
  unfold ask
  rw [Reported.levels_bind, levels_lookup, value_lookup]
  by_cases hshort : b.length < 9
  · simp [hshort, familyOf_of_short hshort]
  · cases r.familyOf b <;> simp [hshort]

private theorem levels_askFor (r : Registry) (role : Role) (b : Octets) (unknown : α)
    (question : Family → Reported α) : (r.askFor role b unknown question).levels =
      if b.length < 9 then [.warn]
      else ((r.familyOf b).filter fun family => family.roles.supports role).elim [.trace]
        fun family => (question family).levels := by
  unfold askFor lookupFor
  rw [Reported.levels_bind, Reported.levels_bind, levels_lookup, Reported.value_bind, value_lookup]
  by_cases hshort : b.length < 9
  · simp [hshort, familyOf_of_short hshort]
  · cases r.familyOf b with
    | none => simp [hshort]
    | some family =>
      cases hrole : family.roles.supports role <;>
        simp [hshort, hrole, Option.filter, Diagnostic.level]

/-- A question is exact if the families report exactly where they fail. -/
theorem levels_ask_of_family {unknown : α} {question : Family → Reported α} (fails : α → Bool)
    (h : ∀ family, r.familyOf b = some family →
      (question family).levels = if fails (question family).value then [.debug] else []) :
    (r.ask b unknown question).levels =
      r.faultLevels b none (fails (r.ask b unknown question).value) := by
  rw [levels_ask, value_ask, faultLevels]
  by_cases hshort : b.length < 9
  · rw [if_pos hshort, if_pos hshort]
  · rw [if_neg hshort, if_neg hshort]
    cases hfamily : r.familyOf b with
    | none => simp [isUnserved, hfamily]
    | some family =>
      have hserved : r.isUnserved b none = false := by simp [isUnserved, hfamily]
      rw [hserved]
      exact h family hfamily

private theorem levels_askFor_of_family {unknown : α} {question : Family → Reported α}
    (fails : α → Bool)
    (h : ∀ family, r.familyOf b = some family → family.roles.supports role = true →
      (question family).levels = if fails (question family).value then [.debug] else []) :
    (r.askFor role b unknown question).levels =
      r.faultLevels b (some role) (fails (r.askFor role b unknown question).value) := by
  rw [levels_askFor, value_askFor, faultLevels]
  by_cases hshort : b.length < 9
  · rw [if_pos hshort, if_pos hshort]
  · rw [if_neg hshort, if_neg hshort]
    cases hfamily : r.familyOf b with
    | none => simp [isUnserved, hfamily]
    | some family =>
      have hserved : r.isUnserved b (some role) = !family.roles.supports role := by
        simp [isUnserved, hfamily]
      rw [hserved]
      cases hrole : family.roles.supports role with
      | false => simp [Option.filter, hrole]
      | true =>
        have hasked : (some family).filter (fun family => family.roles.supports role) =
            some family := Option.filter_some_pos hrole
        rw [hasked]
        exact h family hfamily hrole

/-- Where the families are silent, only a lookup that fails leaves a record. -/
theorem levels_ask_of_silent {unknown : α} {question : Family → Reported α}
    (h : ∀ family, (question family).records = []) :
    (r.ask b unknown question).levels = r.faultLevels b none false := by
  apply levels_ask_of_family fun _ => false
  intro family _
  rw [Reported.levels, h family]
  rfl

private theorem levels_askFor_of_silent {unknown : α} {question : Family → Reported α}
    (h : ∀ family, (question family).records = []) :
    (r.askFor role b unknown question).levels = r.faultLevels b (some role) false := by
  apply levels_askFor_of_family fun _ => false
  intro family _ _
  rw [Reported.levels, h family]
  rfl

/-- Numbers that are small enough are told from the answer for none. -/
theorem answer_beq_notApplicable {x : Option Nat} (h : ∀ n, x = some n → n < 0x80000000) :
    (answer x == -1) = x.isNone := by
  rw [answer_eq h]
  cases x with
  | none => rfl
  | some n =>
    simp

private theorem number_beq_notApplicable (channels : Option SinkChannels) :
    (answer (channels.map SinkChannels.number) == -1) = channels.isNone := by
  rcases channels with _ | _ | _ <;> rfl

end Registry

namespace Codec

variable {c : Codec} {b : Octets}

private theorem levels_bitRate :
    (c.profile.bitRate b).levels =
      if Registry.answer (c.profile.bitRate b).value == -1 then [.debug] else [] := by
  rw [Registry.answer_beq_notApplicable fun n hn => bitRate_lt hn, isNone_bitRate]
  exact c.profile.levels_configuration b

private theorem levels_number {setting : Setting}
    (h : setting ∈ [Setting.sampleRate, .bitDepth, .channelMode]) :
    (c.profile.number setting b).levels =
      if Registry.answer (c.profile.number setting b).value == -1 then [.debug] else [] := by
  rw [Registry.answer_beq_notApplicable fun n hn => number_lt hn, isNone_number h]
  exact c.profile.levels_configuration b

/-- The codecs that are received have a channel layout for every configuration. -/
theorem levels_sinkChannels (h : c.profile.roles.supports .localSink = true) :
    (c.profile.sinkChannels b).levels =
      if Registry.answer ((c.profile.sinkChannels b).value.map SinkChannels.number) == -1 then
        [.debug] else [] := by
  obtain ⟨rule, hrule, -⟩ :=
    c.exists_sinkChannelRule ((c.supports_iff_mem_playedRoles _).mp h)
  have hlevels : (c.profile.sinkChannels b).levels = (c.profile.configuration b).levels := by
    simp only [Profile.sinkChannels, hrule, Reported.levels_map]
  rw [Registry.number_beq_notApplicable, isNone_sinkChannels h, hlevels]
  exact c.profile.levels_configuration b

end Codec

namespace Registry

variable {r : Registry} {codecs : List Codec} {scmsT : Bool} {b : Octets} {role : Role}

private theorem exists_codec_of_familyOf {family : Family}
    (h : (ofCodecs codecs scmsT).familyOf b = some family) : ∃ c, family = .codec c := by
  obtain ⟨c, -, hc⟩ := mem_families_ofCodecs.mp (familyOf_ofCodecs_eq_some_iff.mp h).1
  exact ⟨c, hc.symm⟩

private theorem levels_trackNumber {setting : Setting}
    (h : setting ∈ [Setting.sampleRate, .bitDepth, .channelMode]) :
    ((ofCodecs codecs scmsT).trackNumber setting b).levels =
      (ofCodecs codecs scmsT).faultLevels b none
        (((ofCodecs codecs scmsT).trackNumber setting b).value == -1) := by
  apply levels_ask_of_family fun n => answer n == -1
  intro family hfamily
  obtain ⟨c, rfl⟩ := exists_codec_of_familyOf hfamily
  exact Codec.levels_number h

/-- Each question leaves the record of the first fault that it meets, and no other. -/
theorem levels_question (question : Question) :
    (question.ask (ofCodecs codecs scmsT) b).levels =
      (ofCodecs codecs scmsT).faultLevels b question.role?
        (question.ask (ofCodecs codecs scmsT) b).value := by
  cases question with
  | codecName => exact levels_ask_of_silent (·.isSilent.codecName b)
  | describe => exact levels_ask_of_silent (·.isSilent.describe b)
  | isValidFor role => exact levels_askFor_of_silent (·.isSilent.isValid b)
  | isLocalSinkSupported => exact levels_askFor_of_silent (·.isSilent.isSupported _ b)
  | isPeerSourceSupported => exact levels_askFor_of_silent (·.isSilent.isSupported _ b)
  | usesRtpHeader contentProtection => exact levels_ask_of_silent (·.isSilent.usesRtp _ _)
  | packetTimestamp data => exact levels_ask_of_silent (·.isSilent.timestamp data)
  | sourceIndex => exact levels_askFor_of_silent fun _ => rfl
  | sinkIndex => exact levels_askFor_of_silent fun _ => rfl
  | encoder => exact levels_askFor_of_silent (·.isSilent.encoder b)
  | decoder => exact levels_askFor_of_silent (·.isSilent.decoder b)
  | adjust => exact levels_ask_of_silent (·.isSilent.adjust b)
  | bitRate =>
    apply levels_ask_of_family fun n => answer n == -1
    intro family hfamily
    obtain ⟨c, rfl⟩ := exists_codec_of_familyOf hfamily
    exact Codec.levels_bitRate
  | sampleRate => exact levels_trackNumber (by decide)
  | bitsPerSample => exact levels_trackNumber (by decide)
  | channelCount => exact levels_trackNumber (by decide)
  | sinkChannelType =>
    apply levels_askFor_of_family fun channels : Option SinkChannels =>
      answer (channels.map SinkChannels.number) == -1
    intro family hfamily hrole
    obtain ⟨c, rfl⟩ := exists_codec_of_familyOf hfamily
    exact Codec.levels_sinkChannels hrole
  | buildHeader packet frames =>
    apply levels_ask_of_family fun result : Bool × Packet => !result.1
    intro family hfamily
    obtain ⟨c, rfl⟩ := exists_codec_of_familyOf hfamily
    exact c.profile.levels_buildHeader packet frames

private theorem length_faultLevels_le (r : Registry) (b : Octets) (role? : Option Role)
    (fails : Bool) : (r.faultLevels b role? fails).length ≤ 1 := by
  unfold faultLevels
  repeat' split
  all_goals simp

private theorem familyOf_of_unserved (h : b.length < 9 ∨ r.isUnserved b none = true) :
    r.familyOf b = none := by
  rcases h with hshort | hunserved
  · exact familyOf_of_short hshort
  · cases hfamily : r.familyOf b with
    | none => rfl
    | some family => simp [isUnserved, hfamily] at hunserved

private theorem filter_familyOf_of_unserved
    (h : b.length < 9 ∨ r.isUnserved b (some role) = true) :
    ((r.familyOf b).filter fun family => family.roles.supports role) = none := by
  rcases h with hshort | hunserved
  · rw [familyOf_of_short hshort, Option.filter_none]
  · rw [Option.filter_eq_none_iff]
    intro family hfamily
    simpa [isUnserved, hfamily] using hunserved

private theorem trackNumber_of_unserved {setting : Setting}
    (h : b.length < 9 ∨ r.isUnserved b none = true) :
    ((r.trackNumber setting b).value == -1) = true := by
  simp only [trackNumber, Reported.value_map, value_ask, familyOf_of_unserved h]
  rfl

/-- A number or a header is not given where the question does not reach a family. -/
theorem ask_eq_true_of_unserved {question : Question} (hmay : question.mayFail = true)
    (h : b.length < 9 ∨ r.isUnserved b question.role? = true) :
    (question.ask r b).value = true := by
  cases question with
  | bitRate =>
    simp only [Question.ask, bitRate, Reported.value_map, value_ask, familyOf_of_unserved h]
    rfl
  | sampleRate => exact trackNumber_of_unserved h
  | bitsPerSample => exact trackNumber_of_unserved h
  | channelCount => exact trackNumber_of_unserved h
  | sinkChannelType =>
    simp only [Question.ask, sinkChannelType, Reported.value_map, value_askFor,
      filter_familyOf_of_unserved h]
    rfl
  | buildHeader packet frames =>
    simp only [Question.ask, buildHeader, Reported.value_map, value_ask, familyOf_of_unserved h]
    rfl
  | _ => cases hmay

/-- A number or a header is missing exactly where there is a record. -/
theorem ask_iff_exists_record {question : Question} (hmay : question.mayFail = true)
    (hlevels : (question.ask r b).levels =
      r.faultLevels b question.role? (question.ask r b).value) :
    ((question.ask r b).value = true ↔ ∃ record, (question.ask r b).records = [record]) ∧
      ((question.ask r b).value = false ↔ (question.ask r b).records = []) := by
  have hlength : (question.ask r b).records.length =
      if (question.ask r b).value then 1 else 0 := by
    rw [← Reported.length_levels, hlevels, faultLevels]
    by_cases hreach : b.length < 9 ∨ r.isUnserved b question.role? = true
    · rw [ask_eq_true_of_unserved hmay hreach]
      rcases hreach with hshort | hunserved
      · simp [hshort]
      · simp only [hunserved]
        split <;> rfl
    · obtain ⟨hshort, hserved⟩ := not_or.mp hreach
      rw [if_neg hshort, if_neg hserved]
      cases (question.ask r b).value <;> rfl
  rw [← List.length_eq_one_iff, ← List.length_eq_zero_iff, hlength]
  cases (question.ask r b).value <;> simp

/-- Types are compared in silence, but for a key that both buffers have and no family. -/
theorem notesIff_typeEquals (r : Registry) (a b : Octets) :
    (r.typeEquals a b).NotesIff .trace
      (Header.isVendor a = true ∧ Header.isVendor b = true ∧
        ∃ k, Header.key a = .ok k ∧ Header.key b = .ok k ∧ r.resolve k = none) := by
  have hshared : ∀ k, sharedKey? a b = some k ↔ Header.isVendor a = true ∧
      Header.isVendor b = true ∧ Header.key a = .ok k ∧ Header.key b = .ok k := by
    intro k
    rw [sharedKey?_eq_some_iff, Header.isVendor_iff, Header.isVendor_iff]
    tauto
  unfold typeEquals
  cases hkey : sharedKey? a b with
  | none =>
    apply Reported.NotesIff.of_false rfl
    rintro ⟨ha, hb, k, hka, hkb, -⟩
    rw [(hshared k).mpr ⟨ha, hb, hka, hkb⟩] at hkey
    cases hkey
  | some k =>
    obtain ⟨ha, hb, hka, hkb⟩ := (hshared k).mp hkey
    simp only
    cases hresolve : r.resolve k with
    | none => exact Reported.NotesIff.of_true rfl ⟨ha, hb, k, hka, hkb, hresolve⟩
    | some family =>
      apply Reported.NotesIff.of_false (family.isSilent.typeEquals a b)
      rintro ⟨-, -, l, hla, -, hnone⟩
      cases hka.symm.trans hla
      cases hresolve.symm.trans hnone

/-- Configurations are compared in silence: without a family there is nothing to say, and a family
says nothing. -/
theorem records_configEquals (r : Registry) (a b : Octets) : (r.configEquals a b).records = [] := by
  unfold configEquals
  cases (sharedKey? a b).bind r.resolve with
  | none => rfl
  | some family =>
    rw [Reported.records_bind, family.isSilent.typeEquals a b, List.nil_append]
    split
    · exact family.isSilent.configEquals a b
    · rfl

private theorem records_indexName (r : Registry) (index : CodecIndex) :
    (r.indexName index).records = [] := by
  unfold indexName
  cases index.owner with
  | standard => rfl
  | unimplemented => rfl
  | vendor k =>
    simp only
    cases r.resolve k with
    | none => rfl
    | some family => exact family.isSilent.indexName index.direction

/-- A default is announced in silence, but for an index without a family. -/
theorem notesIff_initialise (r : Registry) (index : CodecIndex) (e : Endpoint) :
    (r.initialise index e).NotesIff .debug
      (∃ k, index.owner = .vendor k ∧ r.resolve k = none) := by
  unfold initialise
  cases howner : index.owner with
  | standard => exact Reported.NotesIff.of_false rfl (by simp)
  | unimplemented => exact Reported.NotesIff.of_false rfl (by simp)
  | vendor k =>
    simp only
    cases hresolve : r.resolve k with
    | none => exact Reported.NotesIff.of_true rfl ⟨k, rfl, hresolve⟩
    | some family =>
      apply Reported.NotesIff.of_false (Direct.records_initialise _ _ _ _)
      rintro ⟨l, hl, hnone⟩
      cases hl
      cases hresolve.symm.trans hnone

/-- What a registry of codecs reports is exact. Every call leaves at most one record. A question
about a buffer leaves a warning if the buffer is too short to have a key, else a trace if no family
is asked, else a debugging record if a number or a header is wanted that there is none of, and
nothing otherwise; so what is missing is always reported, and what is given never. -/
theorem records_exact (codecs : List Codec) (scmsT : Bool) :
    let r := ofCodecs codecs scmsT
    (∀ call : Call, (call.records r).length ≤ 1) ∧
    (∀ b (question : Question),
      (question.ask r b).levels =
        if b.length < 9 then [.warn]
        else if r.isUnserved b question.role? then [.trace]
        else if (question.ask r b).value then [.debug]
        else []) ∧
    (∀ b (question : Question), question.mayFail = true →
      ((question.ask r b).value = true ↔ ∃ record, (question.ask r b).records = [record]) ∧
        ((question.ask r b).value = false ↔ (question.ask r b).records = [])) ∧
    (∀ a b, (Call.configEquals a b).records r = []) ∧
    (∀ a b, (r.typeEquals a b).NotesIff .trace
      (Header.isVendor a = true ∧ Header.isVendor b = true ∧
        ∃ k, Header.key a = .ok k ∧ Header.key b = .ok k ∧ r.resolve k = none)) ∧
    ∀ index e, (r.initialise index e).NotesIff .debug
      (∃ k, index.owner = .vendor k ∧ r.resolve k = none) := by
  intro r
  refine ⟨?_, fun b question => levels_question question,
    fun b question hmay => ask_iff_exists_record hmay (levels_question question),
    r.records_configEquals, r.notesIff_typeEquals, r.notesIff_initialise⟩
  intro call
  cases call with
  | ask question b =>
    rw [Call.records, ← Reported.length_levels, levels_question question]
    exact r.length_faultLevels_le b question.role? _
  | typeEquals a b => exact (r.notesIff_typeEquals a b).length_le
  | initialise index e => exact (r.notesIff_initialise index e).length_le
  | defaultEndpoint index => exact (r.notesIff_initialise index .empty).length_le
  | configEquals a b => simp [Call.records, r.records_configEquals a b]
  | indexName index => simp [Call.records, r.records_indexName index]
  | codecType b => exact Nat.zero_le 1
  | vendorId b => exact Nat.zero_le 1
  | codecId b => exact Nat.zero_le 1
  | resolveBuffer b => exact Nat.zero_le 1
  | familyOfIndex index => exact Nat.zero_le 1

end Registry

end A2dp
