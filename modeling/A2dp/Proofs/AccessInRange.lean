import A2dp.Probe.Report
import A2dp.Proofs.DirectCodec
import A2dp.Proofs.EndpointRuns

/-!
# Every access is in range

Families and registries by direct access. A family that is known by name alone looks at no octet,
and a registry reads nothing but the key before it asks a family; so whatever a buffer, a packet or
an endpoint holds, no question about it leaves the range of the octets that are there.
-/

namespace A2dp

/-- The family has nothing to report, except beside numbers, packet headers and defaults. -/
structure Family.IsSilent (family : Family) : Prop where
  isValid : ∀ b, (family.isValid b).records = []
  isSupported : ∀ role b, (family.isSupported role b).records = []
  typeEquals : ∀ a b, (family.typeEquals a b).records = []
  configEquals : ∀ a b, (family.configEquals a b).records = []
  usesRtp : ∀ scmsT contentProtection, (family.usesRtp scmsT contentProtection).records = []
  timestamp : ∀ data, (family.timestamp data).records = []
  encoder : ∀ b, (family.encoder b).records = []
  decoder : ∀ b, (family.decoder b).records = []
  adjust : ∀ b, (family.adjust b).records = []
  codecName : ∀ b, (family.codecName b).records = []
  describe : ∀ b, (family.describe b).records = []
  indexName : ∀ direction, (family.indexName direction).records = []

theorem Family.isSilent (family : Family) : family.IsSilent := by
  cases family with
  | codec c => constructor <;> intros <;> rfl
  | nominal n => constructor <;> intros <;> rfl

private theorem Reported.quiet_value {α : Type} {x : Reported α} (h : x.records = []) :
    Reported.quiet x.value = x := by
  obtain ⟨value, records⟩ := x
  exact congrArg (Reported.mk value) h.symm

namespace Direct

/-! ## Families -/

/-- Puts a question to a family: a codec answers it by direct access, and a nominal family needs no
access. -/
def onFamily {α : Type} (codec : Codec → Option (Reported α)) (answer : Family → Reported α) :
    Family → Option (Reported α)
  | .codec c => codec c
  | .nominal n => some (answer (.nominal n))

/-- A codec that has nothing to report beside its answer. -/
def quietly {α : Type} (codec : Codec → Option α) (c : Codec) : Option (Reported α) := do
  let answer ← codec c
  return .quiet answer

section Questions

variable {α : Type}

private theorem onFamily_eq {codec : Codec → Option (Reported α)} {answer : Family → Reported α}
    (h : ∀ c : Codec, codec c = some (answer (.codec c))) (family : Family) :
    onFamily codec answer family = some (answer family) := by
  cases family with
  | codec c => exact h c
  | nominal n => rfl

private theorem onFamily_quietly_eq {codec : Codec → Option α} {answer : Family → Reported α}
    (hsilent : ∀ family, (answer family).records = [])
    (h : ∀ c : Codec, codec c = some (answer (.codec c)).value) (family : Family) :
    onFamily (quietly codec) answer family = some (answer family) := by
  apply onFamily_eq
  intro c
  rw [quietly, h c, ← Reported.quiet_value (hsilent (.codec c))]
  rfl

end Questions

/-! ## Registries -/

section Registry

variable (r : Registry)

def lookup (b : Octets) : Option (Reported (Option Family)) := do
  match ← (key b).run with
  | .ok key =>
    match r.resolve key with
    | some family => return .quiet (some family)
    | none => return .noting none (.unregistered key)
  | .error cause => return .noting none (.unidentified cause)

def lookupFor (role : Role) (b : Octets) : Option (Reported (Option Family)) := do
  let found ← lookup r b
  return found.bind fun
    | some family =>
      if family.roles.supports role then .quiet (some family)
      else .noting none (.roleNotSupported family.name role)
    | none => .quiet none

def askFound {α : Type} (found : Reported (Option Family)) (unknown : α)
    (question : Family → Option (Reported α)) : Option (Reported α) :=
  match found.value with
  | some family => do
    let answer ← question family
    return found.bind fun _ => answer
  | none => some (found.bind fun _ => .quiet unknown)

def ask {α : Type} (b : Octets) (unknown : α) (question : Family → Option (Reported α)) :
    Option (Reported α) := do
  let found ← lookup r b
  askFound found unknown question

def askFor {α : Type} (role : Role) (b : Octets) (unknown : α)
    (question : Family → Option (Reported α)) : Option (Reported α) := do
  let found ← lookupFor r role b
  askFound found unknown question

def sharedKey? (a b : Octets) : Option (Option CodecKey) := do
  if (← isVendor a) && (← isVendor b) then
    match ← (key a).run, ← (key b).run with
    | .ok k, .ok l => return if k = l then some k else none
    | _, _ => return none
  else return none

def compareTypes (a b : Octets) : Option (Reported Bool) := do
  match ← sharedKey? a b with
  | some key =>
    match r.resolve key with
    | some family => onFamily (quietly (typeEquals · a b)) (·.typeEquals a b) family
    | none => return .noting true (.comparedByKey key)
  | none => return .quiet false

def compareConfigs (a b : Octets) : Option (Reported Bool) := do
  let shared ← sharedKey? a b
  match shared.bind r.resolve with
  | some family => do
    let sameType ← onFamily (quietly (typeEquals · a b)) (·.typeEquals a b) family
    -- Asked also where the types differ: the accesses are in range without that answer.
    let sameConfig ← onFamily (quietly (configEquals · a b)) (·.configEquals a b) family
    return sameType.bind fun same => if same then sameConfig else .quiet false
  | none => return .quiet false

def unsupportedText (b : Octets) : Option String := do
  match ← (key b).run with
  | .ok key =>
    return "Unsupported codec vendor_id: " ++ key.vendorText ++ " codec_id: " ++ key.codecText
  | .error cause => return "Unsupported codec: " ++ cause.message

def initialiseIndex (index : CodecIndex) (e : Endpoint) : Option (Reported (Bool × Endpoint)) :=
  match index.owner with
  | .standard | .unimplemented => some (.quiet (false, e))
  | .vendor key =>
    match r.resolve key with
    | some family =>
      onFamily (initialise · r.scmsT index.direction e.reset)
        (·.initialise r.scmsT index.direction e.reset) family
    | none => some (.noting (false, e) (.indexNotServed index))

private theorem lookup_eq (b : Octets) : lookup r b = some (r.lookup b) := by
  rw [lookup, run_key, Registry.lookup]
  cases Header.key b with
  | error cause => rfl
  | ok key =>
    simp only [bind, Option.bind_some]
    cases r.resolve key <;> rfl

private theorem lookupFor_eq (role : Role) (b : Octets) :
    lookupFor r role b = some (r.lookupFor role b) := by
  rw [lookupFor, lookup_eq]
  rfl

section Ask

variable {r} {α : Type} {question : Family → Option (Reported α)}
  {answer : Family → Reported α} (h : ∀ family, question family = some (answer family))
include h

private theorem askFound_eq (found : Reported (Option Family)) (unknown : α) :
    askFound found unknown question = some (found.bind fun
      | some family => answer family
      | none => .quiet unknown) := by
  rw [askFound]
  cases hfound : found.value with
  | none => simp [Reported.bind, hfound]
  | some family => simp [Reported.bind, hfound, h family]

private theorem ask_eq (b : Octets) (unknown : α) :
    ask r b unknown question = some (r.ask b unknown answer) := by
  rw [ask, lookup_eq]
  exact askFound_eq h (r.lookup b) unknown

private theorem askFor_eq (role : Role) (b : Octets) (unknown : α) :
    askFor r role b unknown question = some (r.askFor role b unknown answer) := by
  rw [askFor, lookupFor_eq]
  exact askFound_eq h (r.lookupFor role b) unknown

end Ask

private theorem sharedKey?_eq (a b : Octets) : sharedKey? a b = some (Registry.sharedKey? a b) := by
  rw [sharedKey?, isVendor_eq, isVendor_eq, run_key, run_key, Registry.sharedKey?]
  cases Header.isVendor a <;> cases Header.isVendor b <;> cases Header.key a <;>
    cases Header.key b <;> rfl

private theorem family_typeEquals_eq (a b : Octets) (family : Family) :
    onFamily (quietly (typeEquals · a b)) (·.typeEquals a b) family =
      some (family.typeEquals a b) :=
  onFamily_quietly_eq (·.isSilent.typeEquals a b) (typeEquals_eq · a b) family

private theorem family_configEquals_eq (a b : Octets) (family : Family) :
    onFamily (quietly (configEquals · a b)) (·.configEquals a b) family =
      some (family.configEquals a b) :=
  onFamily_quietly_eq (·.isSilent.configEquals a b) (configEquals_eq · a b) family

private theorem compareTypes_eq (a b : Octets) : compareTypes r a b = some (r.typeEquals a b) := by
  rw [compareTypes, sharedKey?_eq, Registry.typeEquals]
  cases Registry.sharedKey? a b with
  | none => rfl
  | some key =>
    simp only [bind, Option.bind_some]
    cases r.resolve key with
    | none => rfl
    | some family => exact family_typeEquals_eq a b family

private theorem compareConfigs_eq (a b : Octets) :
    compareConfigs r a b = some (r.configEquals a b) := by
  rw [compareConfigs, sharedKey?_eq, Registry.configEquals]
  simp only [bind, Option.bind_some]
  cases (Registry.sharedKey? a b).bind r.resolve with
  | none => rfl
  | some family =>
    simp only [family_typeEquals_eq, family_configEquals_eq, Option.bind_some]
    rfl

private theorem unsupportedText_eq (b : Octets) :
    unsupportedText b = some (Registry.unsupportedText b) := by
  rw [unsupportedText, run_key, Registry.unsupportedText]
  cases Header.key b <;> rfl

private theorem initialiseIndex_eq (index : CodecIndex) (e : Endpoint) :
    initialiseIndex r index e = some (r.initialise index e) := by
  unfold initialiseIndex Registry.initialise
  cases index.owner with
  | standard => rfl
  | unimplemented => rfl
  | vendor key =>
    simp only
    cases r.resolve key with
    | none => rfl
    | some family =>
      exact onFamily_eq (fun c => initialise_eq c r.scmsT index.direction e.reset) family

end Registry

/-! ## The content protection of a default -/

/-- The octets of the first entry, as many as its own length octet announces. -/
def protection (e : Endpoint) : Option Octets := do
  let count ←
    if 0 < e.protectionCount then (e.protection.at? 0).map fun length => length.toNat + 1
    else some 0
  e.protection.range? 0 count

private theorem protection_eq {report : Probe.EndpointReport} (h : report.endpoint.IsOrderly) :
    protection report.endpoint = some report.protection := by
  obtain ⟨-, counted, guarded, hshape⟩ := h
  rw [Probe.EndpointReport.protection, hshape]
  cases guarded <;> rfl

private theorem isOrderly_defaultEndpoint {r : Registry} {index : CodecIndex} {d : Endpoint}
    (h : (r.defaultEndpoint index).value = some d) : d.IsOrderly := by
  have hrun := Endpoint.IsOrderly.empty.perform (.initialise r index)
  simp only [Registry.defaultEndpoint, Reported.value_map] at h
  split at h
  · cases h
    exact hrun
  · cases h

/-! ## Defaults are always written -/

theorem records_initialise (family : Family) (scmsT : Bool) (direction : Direction)
    (e : Endpoint) : (family.initialise scmsT direction e).records = [] := by
  cases family with
  | nominal n => rfl
  | codec c =>
    change (c.profile.initialise scmsT direction e).records = []
    cases hoffer : c.profile.offer direction with
    | none => simp [Profile.initialise, Option.map_eq_none_iff.mp hoffer]
    | some offer => rw [Profile.initialise_of_offer hoffer c.losc_fits, Reported.records_quiet]

private theorem defaultNotWritten_notMem (r : Registry) (index : CodecIndex) (e : Endpoint)
    (name : String) (cause : Error) :
    .defaultNotWritten name cause ∉ (r.initialise index e).records := by
  unfold Registry.initialise
  cases index.owner with
  | standard => simp
  | unimplemented => simp
  | vendor key =>
    simp only
    cases r.resolve key with
    | none => simp
    | some family => simp [records_initialise]

/-! ## All operations -/

/-- The accessors of a header, the check and the writing of one stay in range. -/
structure HeaderInRange (b : Octets) : Prop where
  losc : (octet b 0).run = some (Header.losc b)
  mediaType : (mediaType b).run = some (Header.mediaType b)
  codecType : (codecType b).run = some (Header.codecType b)
  vendorId : (vendorId b).run = some (Header.vendorId b)
  codecId : (codecId b).run = some (Header.codecId b)
  key : (key b).run = some (Header.key b)
  isVendor : isVendor b = some (Header.isVendor b)
  check : ∀ losc k, (check b losc k).run = some (Header.check b losc k)
  write : ∀ losc media k, write b losc media k = some (Header.write b losc media k)

/-- The operations of a codec stay in range, on buffers that are not its own too. -/
structure CodecInRange (c : Codec) : Prop where
  isValid : ∀ b, isValid c b = some (c.profile.isValid b)
  isSupported : ∀ role b, isSupported c role b = some (c.profile.isSupported role b)
  typeEquals : ∀ a b, typeEquals c a b = some (c.profile.typeEquals a b)
  configEquals : ∀ a b, configEquals c a b = some (c.profile.configEquals a b)
  bitRate : ∀ b, bitRate c b = some (c.profile.bitRate b)
  number : ∀ setting b, number c setting b = some (c.profile.number setting b)
  sinkChannels : ∀ b, sinkChannels c b = some (c.profile.sinkChannels b)
  buildHeader : ∀ packet frames,
    buildHeader c packet frames = some (c.profile.buildHeader packet frames)
  timestamp : ∀ data, timestamp data = some (Profile.timestamp data)
  encoder : ∀ b, encoder c b = some (c.profile.encoder b)
  decoder : ∀ b, decoder c b = some (c.profile.decoder b)
  adjust : ∀ b, adjust c b = some (c.profile.adjust b)
  describe : ∀ b, describe c b = some (c.profile.describe b)
  initialise : ∀ scmsT direction e,
    initialise c scmsT direction e = some (c.profile.initialise scmsT direction e)

/-- A packet is made, looked at, grown and handed over in range. -/
structure PacketInRange (packet : Packet) : Prop where
  ofPayload : ∀ headroom payload,
    ofPayload headroom payload = some (Packet.ofPayload headroom payload)
  data : data packet = some packet.data
  freeze : Direct.data packet = some packet.freeze
  grow : ∀ count, (grow packet count).run = some ((packet.grow count).map fun grown =>
    (grown, (grown.buffer.drop grown.headroom).take count))

/-- The queries of a registry stay in range. -/
structure RegistryInRange (r : Registry) (b : Octets) : Prop where
  resolveBuffer : (key b >>= fun k => pure (r.resolve k)).run = some (r.resolveBuffer b)
  isValidFor : ∀ role,
    askFor r role b false (onFamily (quietly (isValid · b)) (·.isValid b)) =
      some (r.isValidFor role b)
  isLocalSinkSupported :
    askFor r .localSink b false
        (onFamily (quietly (isSupported · .localSink b)) (·.isSupported .localSink b)) =
      some (r.isLocalSinkSupported b)
  isPeerSourceSupported :
    askFor r .peerSource b false
        (onFamily (quietly (isSupported · .peerSource b)) (·.isSupported .peerSource b)) =
      some (r.isPeerSourceSupported b)
  typeEquals : ∀ a, compareTypes r a b = some (r.typeEquals a b)
  configEquals : ∀ a, compareConfigs r a b = some (r.configEquals a b)
  bitRate :
    (ask r b none (onFamily (bitRate · b) (·.bitRate b))).map (·.map Registry.answer) =
      some (r.bitRate b)
  trackNumber : ∀ setting,
    (ask r b none (onFamily (number · setting b) (·.number setting b))).map
        (·.map Registry.answer) =
      some (r.trackNumber setting b)
  sinkChannelType :
    (askFor r .localSink b none (onFamily (sinkChannels · b) (·.sinkChannels b))).map
        (·.map fun channels => Registry.answer (channels.map SinkChannels.number)) =
      some (r.sinkChannelType b)
  usesRtpHeader : ∀ contentProtection,
    ask r b true (fun family => some (family.usesRtp r.scmsT contentProtection)) =
      some (r.usesRtpHeader contentProtection b)
  buildHeader : ∀ packet frames,
    ask r b (false, packet)
        (onFamily (buildHeader · packet frames) (·.buildHeader packet frames)) =
      some (r.buildHeader b packet frames)
  packetTimestamp : ∀ data,
    ask r b none (onFamily (quietly fun _ => timestamp data) (·.timestamp data)) =
      some (r.packetTimestamp b data)
  encoder :
    askFor r .localSource b none (onFamily (quietly (encoder · b)) (·.encoder b)) =
      some (r.encoder b)
  decoder :
    askFor r .localSink b none (onFamily (quietly (decoder · b)) (·.decoder b)) =
      some (r.decoder b)
  adjust :
    ask r b (false, b) (onFamily (quietly (adjust · b)) (·.adjust b)) = some (r.adjust b)
  sourceIndex :
    askFor r .localSource b none
        (fun family => some (.quiet (CodecIndex.ofKey? family.key .source))) =
      some (r.sourceIndex b)
  sinkIndex :
    askFor r .localSink b none
        (fun family => some (.quiet (CodecIndex.ofKey? family.key .sink))) =
      some (r.sinkIndex b)
  codecName :
    ask r b "UNKNOWN VENDOR CODEC" (fun family => some (family.codecName b)) =
      some (r.codecName b)
  describe :
    ((unsupportedText b).bind fun text =>
        ask r b text (onFamily (quietly (describe · b)) (·.describe b))) =
      some (r.describe b)
  initialise : ∀ index e, initialiseIndex r index e = some (r.initialise index e)
  defaultEndpoint : ∀ index,
    (initialiseIndex r index .empty).map
        (·.map fun result => if result.1 then some result.2 else none) =
      some (r.defaultEndpoint index)

private theorem headerInRange (b : Octets) : HeaderInRange b where
  losc := run_octet b 0
  mediaType := run_mediaType b
  codecType := run_codecType b
  vendorId := run_vendorId b
  codecId := run_codecId b
  key := run_key b
  isVendor := isVendor_eq b
  check := run_check b
  write := write_eq b

private theorem codecInRange (c : Codec) : CodecInRange c where
  isValid := isValid_eq c
  isSupported := isSupported_eq c
  typeEquals := typeEquals_eq c
  configEquals := configEquals_eq c
  bitRate := bitRate_eq c
  number := number_eq c
  sinkChannels := sinkChannels_eq c
  buildHeader := buildHeader_eq c
  timestamp := timestamp_eq
  encoder := encoder_eq c
  decoder := decoder_eq c
  adjust := adjust_eq c
  describe := describe_eq c
  initialise := initialise_eq c

private theorem packetInRange (packet : Packet) : PacketInRange packet where
  ofPayload := ofPayload_eq
  data := data_eq packet
  freeze := freeze_eq packet
  grow := run_grow packet

private theorem registryInRange (r : Registry) (b : Octets) : RegistryInRange r b where
  resolveBuffer := run_map r.resolve (run_key b)
  isValidFor role :=
    askFor_eq (onFamily_quietly_eq (·.isSilent.isValid b) (isValid_eq · b)) role b false
  isLocalSinkSupported :=
    askFor_eq (onFamily_quietly_eq (·.isSilent.isSupported _ b) (isSupported_eq · _ b)) _ b false
  isPeerSourceSupported :=
    askFor_eq (onFamily_quietly_eq (·.isSilent.isSupported _ b) (isSupported_eq · _ b)) _ b false
  typeEquals a := compareTypes_eq r a b
  configEquals a := compareConfigs_eq r a b
  bitRate := congrArg (Option.map _) (ask_eq (onFamily_eq fun c => bitRate_eq c b) b none)
  trackNumber setting :=
    congrArg (Option.map _) (ask_eq (onFamily_eq fun c => number_eq c setting b) b none)
  sinkChannelType :=
    congrArg (Option.map _) (askFor_eq (onFamily_eq fun c => sinkChannels_eq c b) _ b none)
  usesRtpHeader _ := ask_eq (fun _ => rfl) b true
  buildHeader packet frames :=
    ask_eq (onFamily_eq fun c => buildHeader_eq c packet frames) b (false, packet)
  packetTimestamp data :=
    ask_eq (onFamily_quietly_eq (·.isSilent.timestamp data) fun _ => timestamp_eq data) b none
  encoder := askFor_eq (onFamily_quietly_eq (·.isSilent.encoder b) (encoder_eq · b)) _ b none
  decoder := askFor_eq (onFamily_quietly_eq (·.isSilent.decoder b) (decoder_eq · b)) _ b none
  adjust := ask_eq (onFamily_quietly_eq (·.isSilent.adjust b) (adjust_eq · b)) b (false, b)
  sourceIndex := askFor_eq (fun _ => rfl) _ b none
  sinkIndex := askFor_eq (fun _ => rfl) _ b none
  codecName := ask_eq (fun _ => rfl) b _
  describe := by
    rw [unsupportedText_eq]
    exact ask_eq (onFamily_quietly_eq (·.isSilent.describe b) (describe_eq · b)) b _
  initialise := initialiseIndex_eq r
  defaultEndpoint index := congrArg (Option.map _) (initialiseIndex_eq r index .empty)

/-- Whatever the octets are, no operation on a header, of a codec, of a registry or on a packet
leaves their range, and no product is too large. The room of an endpoint holds its capability, the
content protection of a default its first entry, and every codec finds room for its default. -/
theorem every_access_in_range :
    (∀ b, HeaderInRange b) ∧ (∀ c, CodecInRange c) ∧ (∀ r b, RegistryInRange r b) ∧
      (∀ packet, PacketInRange packet) ∧
      (∀ e : Endpoint, capability e = some e.capability) ∧
      (∀ (r : Registry) (report : Probe.EndpointReport),
        (r.defaultEndpoint report.index).value = some report.endpoint →
          protection report.endpoint = some report.protection) ∧
      (∀ (c : Codec) (e : Endpoint), ∃ total,
        Header.room e.buffer.length c.profile.losc = .ok total) ∧
      (∀ (family : Family) (scmsT : Bool) (direction : Direction) (e : Endpoint),
        (family.initialise scmsT direction e).records = []) ∧
      ∀ (r : Registry) (index : CodecIndex) (e : Endpoint) (name : String) (cause : Error),
        .defaultNotWritten name cause ∉ (r.initialise index e).records := by
  refine ⟨headerInRange, codecInRange, registryInRange, packetInRange, capability_eq, ?_, ?_,
    records_initialise, defaultNotWritten_notMem⟩
  · intro r report hdefault
    exact protection_eq (isOrderly_defaultEndpoint hdefault)
  · intro c e
    exact ⟨_, Profile.room_buffer c.losc_fits e⟩

end Direct

end A2dp
