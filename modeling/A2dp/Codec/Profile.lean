import A2dp.Codec.Settings
import A2dp.Endpoint
import A2dp.Header
import A2dp.Packet

/-!
# Profiles

A profile is all that is particular to a codec, as data: its identity, roles and handles, the layout
of its octets, the stores that write its default capabilities, what its sink accepts, and rules for
bit rate, channels, packet header and transport. Each of these is stated on its own, and the profile
carries the proof that they fit together. The operations are the same for every profile.
-/

namespace A2dp

/-- How the bit rate of a stream follows from its settings. -/
inductive BitRateRule where
  /-- A quarter of the uncompressed rate. -/
  | quarterOfPcm
  /-- A table by the bits of a choice. -/
  | byBits (setting : Setting) (table : List (UInt8 × Nat))
  /-- The rate that the rate code numbers. -/
  | byCode
  deriving DecidableEq, Repr

inductive SinkChannels where
  | mono
  | stereo
  deriving DecidableEq, Repr

namespace SinkChannels

def number : SinkChannels → Nat
  | .mono => 1
  | .stereo => 3

def text : SinkChannels → String
  | .mono => "mono"
  | .stereo => "stereo"

end SinkChannels

/-- How the channels that a sink plays follow from the settings of a stream. -/
inductive SinkChannelRule where
  /-- Mono for these bits of the channel mode, stereo for any others. -/
  | monoFor (bits : UInt8)
  | always (channels : SinkChannels)
  deriving DecidableEq, Repr

def SinkChannelRule.channels (rule : SinkChannelRule) (settings : Settings) : SinkChannels :=
  match rule with
  | .monoFor bits => if settings.bits? .channelMode = some bits then .mono else .stereo
  | .always channels => channels

structure Handle where
  name : String
  key : CodecKey
  deriving DecidableEq, Repr

/-- What is particular to a codec. -/
structure Profile where
  name : String
  key : CodecKey
  /-- The length octet of a capability. -/
  losc : UInt8
  roles : RoleSet
  layout : Layout
  /-- Settings that are the same for every stream. -/
  constants : List (Setting × Nat)
  bitRateRule : BitRateRule
  /-- Left out where there is nothing to say about played channels. -/
  sinkChannelRule : Option SinkChannelRule
  /-- The header of a packet, if packets have one. -/
  frameHeader : Option FrameHeader
  /-- Packets have an RTP header also without content protection. -/
  alwaysRtp : Bool
  /-- The source announces SCMS-T where that is built in. -/
  announcesScmsT : Bool
  sourceName : String
  sinkName : Option String
  encoderHandle : Handle
  decoderHandle : Option Handle
  /-- The stores that put the default of a local source behind the header. -/
  sourceStores : List Store
  sinkStores : Option (List Store)
  /-- What the local sink accepts, an octet for each field. -/
  accepted : Option (List UInt8)
  /-- The length octet counts the header after itself, and the layout. -/
  losc_toNat : losc.toNat = 8 + layout.length := by decide
  /-- Two bits have room for every rate code. -/
  rateCount_le : ∀ fields ∈ layout, ∀ field ∈ fields, field.rateCount ≤ 4 := by decide
  /-- A codec that can be received has all roles, any other those of a source. -/
  roles_eq : roles = if sinkStores.isSome then .all else .sourceOnly := by decide
  accepted_isSome : accepted.isSome = sinkStores.isSome := by decide
  sourceName_eq : sourceName = name := by decide
  sinkName_eq : sinkName = if sinkStores.isSome then some (sourceName ++ " SINK") else none := by
    decide
  encoderHandle_eq : encoderHandle = ⟨name, key⟩ := by decide
  decoderHandle_eq : decoderHandle = if sinkStores.isSome then some encoderHandle else none := by
    decide
  /-- A default fills the octets of the layout, whatever they held. -/
  sourceStores_fill : Store.Fill Header.size layout.length sourceStores := by decide
  sinkStores_fill : ∀ stores ∈ sinkStores, Store.Fill Header.size layout.length stores := by decide

namespace Profile

/-- The settings in a buffer, under one reading. -/
def read (p : Profile) (reading : Reading) (b : Octets) : Except Error Settings := do
  Header.check b p.losc p.key
  let octets ← b.slice Header.size p.layout.length
  p.layout.read reading octets

/-- The settings in a buffer, read as a configuration and, if it is none, as a capability. -/
def readAny (p : Profile) (b : Octets) : Except Error Settings :=
  match p.read .configuration b with
  | .ok settings => .ok settings
  | .error _ => p.read .capability b

/-- The buffer is a configuration or a capability of the codec. -/
def isValid (p : Profile) (b : Octets) : Bool := (p.readAny b).isOk

/-- The buffer, under the reading, has something in common with all that the local sink accepts. -/
def meetsSink (p : Profile) (reading : Reading) (b : Octets) : Bool :=
  match p.read reading b, p.accepted with
  | .ok settings, some accepted => settings.meets accepted
  | _, _ => false

/-- The local sink can take the stream: of a configuration it receives, or of what a peer source
offers. Other roles have nothing to be supported by a sink. -/
def isSupported (p : Profile) (role : Role) (b : Octets) : Bool :=
  match role with
  | .localSink => p.meetsSink .configuration b
  | .peerSource => p.meetsSink .capability b
  | .localSource | .peerSink => false

/-- Both buffers are capabilities of the codec. -/
def typeEquals (p : Profile) (a b : Octets) : Bool :=
  (p.read .capability a).isOk && (p.read .capability b).isOk

/-- Both buffers say the same. -/
def configEquals (p : Profile) (a b : Octets) : Bool :=
  match p.readAny a, p.readAny b with
  | .ok s, .ok t => s == t
  | _, _ => false

def configuration (p : Profile) (b : Octets) : Reported (Option Settings) :=
  match p.read .configuration b with
  | .ok settings => .quiet (some settings)
  | .error cause => .noting none (.notConfiguration p.name cause)

/-- The number of a setting, from the fields or from the constants. -/
def number? (p : Profile) (settings : Settings) (setting : Setting) : Option Nat :=
  (settings.number? setting).or (p.constants.lookup setting)

/-- The bit rate of a configuration in bits per second. -/
def bitRate? (p : Profile) (settings : Settings) : Option Nat :=
  match p.bitRateRule with
  | .quarterOfPcm => do
    let rate ← p.number? settings .sampleRate
    let depth ← p.number? settings .bitDepth
    let channels ← p.number? settings .channelMode
    return rate * depth * channels / 4
  | .byBits setting table => (settings.bits? setting).bind fun bits => table.lookup bits
  | .byCode => settings.rate?

def bitRate (p : Profile) (b : Octets) : Reported (Option Nat) :=
  (p.configuration b).map (·.bind p.bitRate?)

def number (p : Profile) (setting : Setting) (b : Octets) : Reported (Option Nat) :=
  (p.configuration b).map (·.bind fun settings => p.number? settings setting)

def sinkChannels (p : Profile) (b : Octets) : Reported (Option SinkChannels) :=
  match p.sinkChannelRule with
  | some rule => (p.configuration b).map fun settings? => settings?.map rule.channels
  | none => .quiet none

def usesRtp (p : Profile) (scmsT : Bool) : Bool := p.alwaysRtp || scmsT

def buildHeader (p : Profile) (packet : Packet) (frames : UInt16) : Reported (Bool × Packet) :=
  match p.frameHeader with
  | some header => header.write packet frames
  | none => .quiet (true, packet)

/-- The time stamp at the start of encoded data, least significant octet first. -/
def timestamp (data : Octets) : Option UInt32 :=
  if 4 ≤ data.length then some (UInt32.ofNat (Octets.toNat (data.take 4))) else none

def encoder (p : Profile) (b : Octets) : Option Handle :=
  if p.isValid b then some p.encoderHandle else none

/-- The decoder for a valid buffer, if the codec has one. -/
def decoder (p : Profile) (b : Octets) : Option Handle :=
  p.decoderHandle.filter fun _ => p.isValid b

/-- The buffer with the octets of the codec in normal form, and whether any of them differs.
A buffer with another header stays. -/
def adjust (p : Profile) (b : Octets) : Bool × Octets :=
  match Header.check b p.losc p.key with
  | .ok _ =>
    let body := p.layout.normalise (b.drop Header.size)
    (body.1, b.take Header.size ++ body.2)
  | .error _ => (false, b)

def describe (p : Profile) (b : Octets) : String :=
  match p.readAny b with
  | .ok settings => "\tname: " ++ p.name ++ "\n" ++ settings.text
  | .error cause => p.name ++ " parse failed: " ++ cause.message

def indexName (p : Profile) : Direction → Option String
  | .source => some p.sourceName
  | .sink => p.sinkName

/-- The stores that write the default of a direction behind the header. -/
def stores (p : Profile) : Direction → Option (List Store)
  | .source => some p.sourceStores
  | .sink => p.sinkStores

/-- Announces the default capability of a direction. Refused, the configuration stays. -/
def initialise (p : Profile) (scmsT : Bool) (direction : Direction) (e : Endpoint) :
    Reported (Bool × Endpoint) :=
  match p.stores direction with
  | none => .quiet (false, e)
  | some stores =>
    match Header.room e.buffer.length p.losc with
    | .error cause => .noting (false, e) (.defaultNotWritten p.name cause)
    | .ok _ =>
      let filled := (e.write 0 (Header.octets p.losc .audio p.key)).store stores
      .quiet (true, if scmsT && p.announcesScmsT then filled.addScmsT else filled)

end Profile

end A2dp
