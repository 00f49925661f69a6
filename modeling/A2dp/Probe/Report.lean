import A2dp.Registry.Query
import A2dp.Text.Json

/-!
# Reports

What the probe prints: all answers about one capability, the families of a registry, and the
default configuration of an index; each as lines of text or as a JSON document.
-/

namespace A2dp.Probe

open Text (Json)

def line (text : String) : String := text ++ "\n"

def flagText (value : Bool) : String := if value then "true" else "false"

/-- A value, or why there is none. -/
def valueOrCause {α : Type} (text : α → String) : Except Error α → String
  | .ok value => text value
  | .error cause => cause.message

/-- A member of a document that is there only with a value. -/
def optionalMember {α : Type} (name : String) (value : Option α) (json : α → Json) :
    List (String × Json) :=
  match value with
  | some value => [(name, json value)]
  | none => []

/-- A line that is there only with a value. -/
def optionalLine (label : String) : Option String → String
  | some text => line (label ++ text)
  | none => ""

/-- All answers about a capability. -/
structure CapabilityReport where
  buffer : Octets
  codecType : Except Error CodecType
  vendorId : Except Error UInt32
  codecId : Except Error UInt16
  name : String
  validLocalSource : Bool
  validLocalSink : Bool
  validPeerSource : Bool
  validPeerSink : Bool
  localSinkSupported : Bool
  peerSourceSupported : Bool
  bitRate : Int
  sampleRate : Int
  bitsPerSample : Int
  channels : Int
  sinkChannelType : Int
  usesRtpHeader : Bool
  sourceIndex : Option CodecIndex
  sinkIndex : Option CodecIndex
  encoder : Option Handle
  decoder : Option Handle
  description : String
  /-- The buffer in normal form, where it differs. -/
  adjusted : Option Octets

namespace CapabilityReport

/-- Asks a registry everything about a capability. -/
def make (r : Registry) (b : Octets) (contentProtection : Bool) : Reported CapabilityReport := do
  let name ← r.codecName b
  let validLocalSource ← r.isValidFor .localSource b
  let validLocalSink ← r.isValidFor .localSink b
  let validPeerSource ← r.isValidFor .peerSource b
  let validPeerSink ← r.isValidFor .peerSink b
  let localSinkSupported ← r.isLocalSinkSupported b
  let peerSourceSupported ← r.isPeerSourceSupported b
  let bitRate ← r.bitRate b
  let sampleRate ← r.sampleRate b
  let bitsPerSample ← r.bitsPerSample b
  let channels ← r.channelCount b
  let sinkChannelType ← r.sinkChannelType b
  let usesRtpHeader ← r.usesRtpHeader contentProtection b
  let sourceIndex ← r.sourceIndex b
  let sinkIndex ← r.sinkIndex b
  let encoder ← r.encoder b
  let decoder ← r.decoder b
  let description ← r.describe b
  let adjusted ← r.adjust b
  return {
    buffer := b
    codecType := Header.codecType b
    vendorId := Header.vendorId b
    codecId := Header.codecId b
    name, validLocalSource, validLocalSink, validPeerSource, validPeerSink
    localSinkSupported, peerSourceSupported
    bitRate, sampleRate, bitsPerSample, channels, sinkChannelType
    usesRtpHeader, sourceIndex, sinkIndex, encoder, decoder, description
    adjusted := if adjusted.1 then some adjusted.2 else none }

/-- A number that is applicable. -/
def applicable (n : Int) : Option Int := if n = Registry.notApplicable then none else some n

def codecTypeText (report : CapabilityReport) : String :=
  valueOrCause CodecType.text report.codecType

def vendorIdText (report : CapabilityReport) : String :=
  valueOrCause (fun id => Hex.numeral 8 id.toNat) report.vendorId

def codecIdText (report : CapabilityReport) : String :=
  valueOrCause (fun id => Hex.numeral 4 id.toNat) report.codecId

def numbers (report : CapabilityReport) : List (String × Int) :=
  [("bit_rate", report.bitRate), ("sample_rate", report.sampleRate),
    ("bits_per_sample", report.bitsPerSample), ("channels", report.channels),
    ("sink_channel_type", report.sinkChannelType)]

def json (report : CapabilityReport) : Json :=
  .object <|
    [("codec_info", .string (Hex.text report.buffer)),
      ("codec_type", .string report.codecTypeText),
      ("vendor_id", .string report.vendorIdText),
      ("codec_id", .string report.codecIdText),
      ("name", .string report.name),
      ("valid", .object
        [("local_source", .bool report.validLocalSource),
          ("local_sink", .bool report.validLocalSink),
          ("peer_source", .bool report.validPeerSource),
          ("peer_sink", .bool report.validPeerSink)]),
      ("local_sink_supported", .bool report.localSinkSupported),
      ("peer_source_supported", .bool report.peerSourceSupported)] ++
    report.numbers.flatMap (fun row => optionalMember row.1 (applicable row.2) .number) ++
    [("uses_rtp_header", .bool report.usesRtpHeader)] ++
    optionalMember "source_index" report.sourceIndex (fun index => .string index.name) ++
    optionalMember "sink_index" report.sinkIndex (fun index => .string index.name) ++
    optionalMember "encoder" report.encoder (fun handle => .string handle.name) ++
    optionalMember "decoder" report.decoder (fun handle => .string handle.name) ++
    optionalMember "adjusted" report.adjusted (fun octets => .string (Hex.text octets)) ++
    [("info", .string report.description)]

def numberLine (label : String) (n : Int) : String :=
  match applicable n with
  | some n => line (label ++ "=" ++ toString n)
  | none => line (label ++ "=N/A")

/-- The description, ended by a line end. -/
def descriptionText (report : CapabilityReport) : String :=
  if report.description.toList.getLast? = some '\n' then report.description
  else line report.description

def text (report : CapabilityReport) : String :=
  line "[CODEC]" ++
    line ("codec_info=" ++ Hex.text report.buffer) ++
    line ("codec_type=" ++ report.codecTypeText) ++
    line ("vendor_id=" ++ report.vendorIdText) ++
    line ("codec_id=" ++ report.codecIdText) ++
    line ("name=" ++ report.name) ++
    line ("valid=local_source:" ++ flagText report.validLocalSource ++
      " local_sink:" ++ flagText report.validLocalSink ++
      " peer_source:" ++ flagText report.validPeerSource ++
      " peer_sink:" ++ flagText report.validPeerSink) ++
    line ("local_sink_supported=" ++ flagText report.localSinkSupported) ++
    line ("peer_source_supported=" ++ flagText report.peerSourceSupported) ++
    String.join (report.numbers.map fun row => numberLine row.1 row.2) ++
    line ("uses_rtp_header=" ++ flagText report.usesRtpHeader) ++
    optionalLine "source_index=" (report.sourceIndex.map CodecIndex.name) ++
    optionalLine "sink_index=" (report.sinkIndex.map CodecIndex.name) ++
    optionalLine "encoder=" (report.encoder.map Handle.name) ++
    optionalLine "decoder=" (report.decoder.map Handle.name) ++
    optionalLine "adjusted=" (report.adjusted.map Hex.text) ++
    line "[/CODEC]" ++
    report.descriptionText

end CapabilityReport

/-- A family with its display names. -/
structure FamilyReport where
  family : Family
  sourceName : Option String
  sinkName : Option String

namespace FamilyReport

def make (family : Family) : Reported FamilyReport := do
  let sourceName ← family.indexName .source
  let sinkName ← family.indexName .sink
  return ⟨family, sourceName, sinkName⟩

def json (report : FamilyReport) : Json :=
  .object <|
    [("name", .string report.family.name),
      ("key", .string report.family.key.text),
      ("roles", .array (report.family.roles.toList.map fun role => .string role.text))] ++
    optionalMember "source_index" report.sourceName .string ++
    optionalMember "sink_index" report.sinkName .string

/-- A text in at least ten places. -/
def column (text : String) : String :=
  text ++ String.ofList (List.replicate (10 - text.length) ' ')

def text (report : FamilyReport) : String :=
  line (column report.family.name ++ " " ++ report.family.key.text ++ "  roles: " ++
      ", ".intercalate (report.family.roles.toList.map Role.text)) ++
    optionalLine (column "" ++ " source: ") report.sourceName ++
    optionalLine (column "" ++ " sink:   ") report.sinkName

end FamilyReport

/-- The default configuration of an index. -/
structure EndpointReport where
  index : CodecIndex
  displayName : String
  endpoint : Endpoint

namespace EndpointReport

/-- The first entry of the content protection, if there is one. -/
def protection (report : EndpointReport) : Octets :=
  let e := report.endpoint
  if 0 < e.protectionCount then e.protection.take ((e.protection.headD 0).toNat + 1) else []

def json (report : EndpointReport) : Json :=
  .object
    [("index", .string report.index.name),
      ("display_name", .string report.displayName),
      ("codec_info", .string (Hex.text report.endpoint.capability)),
      ("num_codec", .number report.endpoint.codecCount.toNat),
      ("num_protect", .number report.endpoint.protectionCount.toNat),
      ("protect_info", .string (Hex.text report.protection)),
      ("psc_mask", .number report.endpoint.services.bits.toNat)]

def text (report : EndpointReport) : String :=
  let e := report.endpoint
  let protection := report.protection
  line "[ENDPOINT_CONFIG]" ++
    line ("index=" ++ report.index.name) ++
    line ("display_name=" ++ report.displayName) ++
    line ("codec_info=" ++ Hex.text e.capability) ++
    line ("num_codec=" ++ toString e.codecCount.toNat) ++
    line ("num_protect=" ++ toString e.protectionCount.toNat) ++
    (if protection.isEmpty then "" else line ("protect_info=" ++ Hex.text protection)) ++
    line ("psc_mask=" ++ Hex.numeral 4 e.services.bits.toNat) ++
    line "[/ENDPOINT_CONFIG]"

end EndpointReport

end A2dp.Probe
