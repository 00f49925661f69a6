import A2dp.Registry

/-!
# Queries

Every question about a buffer goes to the family that its key names. Without a family the answer
is the one for "unknown": not valid, not supported, not applicable, an RTP header, a fixed name.
A short buffer is reported and treated like that of an unknown codec.
-/

namespace A2dp.Registry

/-- The answer to a question for a number that has none. -/
def notApplicable : Int := -1

/-- A number as an answer. Numbers from `2 ^ 31` on cannot be given. -/
def answer : Option Nat → Int
  | some n => if n < 0x80000000 then n else notApplicable
  | none => notApplicable

/-- The family that answers for a buffer. -/
def lookup (r : Registry) (b : Octets) : Reported (Option Family) :=
  match Header.key b with
  | .ok key =>
    match r.resolve key with
    | some family => .quiet (some family)
    | none => .noting none (.unregistered key)
  | .error cause => .noting none (.unidentified cause)

/-- The family that answers for a buffer, if it takes part in the role. -/
def lookupFor (r : Registry) (role : Role) (b : Octets) : Reported (Option Family) :=
  (r.lookup b).bind fun
    | some family =>
      if family.roles.supports role then .quiet (some family)
      else .noting none (.roleNotSupported family.name role)
    | none => .quiet none

/-- The answer of the family of a buffer, or the one for an unknown codec. -/
def ask {α : Type} (r : Registry) (b : Octets) (unknown : α) (question : Family → Reported α) :
    Reported α :=
  (r.lookup b).bind fun
    | some family => question family
    | none => .quiet unknown

/-- The same for a question that only a family with the role is asked. -/
def askFor {α : Type} (r : Registry) (role : Role) (b : Octets) (unknown : α)
    (question : Family → Reported α) : Reported α :=
  (r.lookupFor role b).bind fun
    | some family => question family
    | none => .quiet unknown

def isValidFor (r : Registry) (role : Role) (b : Octets) : Reported Bool :=
  r.askFor role b false fun family => family.isValid b

/-- The local sink takes this configuration. -/
def isLocalSinkSupported (r : Registry) (b : Octets) : Reported Bool :=
  r.askFor .localSink b false fun family => family.isSupported .localSink b

/-- The local sink can take something of what a peer source offers. -/
def isPeerSourceSupported (r : Registry) (b : Octets) : Reported Bool :=
  r.askFor .peerSource b false fun family => family.isSupported .peerSource b

/-- The key that two buffers of vendor codecs share. -/
def sharedKey? (a b : Octets) : Option CodecKey :=
  if Header.isVendor a && Header.isVendor b then
    match Header.key a, Header.key b with
    | .ok k, .ok l => if k = l then some k else none
    | _, _ => none
  else none

/-- The buffers describe the same type of codec. Without a family the key decides. -/
def typeEquals (r : Registry) (a b : Octets) : Reported Bool :=
  match sharedKey? a b with
  | some key =>
    match r.resolve key with
    | some family => family.typeEquals a b
    | none => .noting true (.comparedByKey key)
  | none => .quiet false

/-- The buffers say the same. Without a family they never do. -/
def configEquals (r : Registry) (a b : Octets) : Reported Bool :=
  match (sharedKey? a b).bind r.resolve with
  | some family =>
    (family.typeEquals a b).bind fun sameType =>
      if sameType then family.configEquals a b else .quiet false
  | none => .quiet false

def bitRate (r : Registry) (b : Octets) : Reported Int :=
  (r.ask b none fun family => family.bitRate b).map answer

def trackNumber (r : Registry) (setting : Setting) (b : Octets) : Reported Int :=
  (r.ask b none fun family => family.number setting b).map answer

def sampleRate (r : Registry) (b : Octets) : Reported Int := r.trackNumber .sampleRate b

def bitsPerSample (r : Registry) (b : Octets) : Reported Int := r.trackNumber .bitDepth b

def channelCount (r : Registry) (b : Octets) : Reported Int := r.trackNumber .channelMode b

/-- The number of the channel layout in which the local sink plays. -/
def sinkChannelType (r : Registry) (b : Octets) : Reported Int :=
  (r.askFor .localSink b none fun family => family.sinkChannels b).map
    fun channels => answer (channels.map SinkChannels.number)

def usesRtpHeader (r : Registry) (contentProtection : Bool) (b : Octets) : Reported Bool :=
  r.ask b true fun family => family.usesRtp r.scmsT contentProtection

def buildHeader (r : Registry) (b : Octets) (packet : Packet) (frames : UInt16) :
    Reported (Bool × Packet) :=
  r.ask b (false, packet) fun family => family.buildHeader packet frames

def packetTimestamp (r : Registry) (b : Octets) (data : Octets) : Reported (Option UInt32) :=
  r.ask b none fun family => family.timestamp data

def encoder (r : Registry) (b : Octets) : Reported (Option Handle) :=
  r.askFor .localSource b none fun family => family.encoder b

def decoder (r : Registry) (b : Octets) : Reported (Option Handle) :=
  r.askFor .localSink b none fun family => family.decoder b

def adjust (r : Registry) (b : Octets) : Reported (Bool × Octets) :=
  r.ask b (false, b) fun family => family.adjust b

def sourceIndex (r : Registry) (b : Octets) : Reported (Option CodecIndex) :=
  r.askFor .localSource b none fun family => .quiet (CodecIndex.ofKey? family.key .source)

def sinkIndex (r : Registry) (b : Octets) : Reported (Option CodecIndex) :=
  r.askFor .localSink b none fun family => .quiet (CodecIndex.ofKey? family.key .sink)

def codecName (r : Registry) (b : Octets) : Reported String :=
  r.ask b "UNKNOWN VENDOR CODEC" fun family => family.codecName b

/-- What is said of a buffer without a family. -/
def unsupportedText (b : Octets) : String :=
  match Header.key b with
  | .ok key =>
    "Unsupported codec vendor_id: " ++ key.vendorText ++ " codec_id: " ++ key.codecText
  | .error cause => "Unsupported codec: " ++ cause.message

def describe (r : Registry) (b : Octets) : Reported String :=
  r.ask b (unsupportedText b) fun family => family.describe b

def indexName (r : Registry) (index : CodecIndex) : Reported String :=
  match index.owner with
  | .standard => .quiet "UNKNOWN CODEC INDEX"
  | .unimplemented => .quiet "LC3 not implemented"
  | .vendor key =>
    match r.resolve key with
    | some family => (family.indexName index.direction).map (·.getD "UNKNOWN CODEC INDEX")
    | none => .quiet "UNKNOWN CODEC INDEX"

/-- Announces the default capability of an index. What an earlier codec left in the
configuration is cleared before the family is asked. -/
def initialise (r : Registry) (index : CodecIndex) (e : Endpoint) : Reported (Bool × Endpoint) :=
  match index.owner with
  | .standard | .unimplemented => .quiet (false, e)
  | .vendor key =>
    match r.resolve key with
    | some family => family.initialise r.scmsT index.direction e.reset
    | none => .noting (false, e) (.indexNotServed index)

def defaultEndpoint (r : Registry) (index : CodecIndex) : Reported (Option Endpoint) :=
  (r.initialise index .empty).map fun result => if result.1 then some result.2 else none

end A2dp.Registry
