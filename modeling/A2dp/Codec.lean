import A2dp.Codec.Profile

/-!
# The vendor codecs

The seven codecs that are known in full, each given by its profile.
-/

namespace A2dp

/-- A vendor codec that is known in full. -/
inductive Codec where
  | aptX
  | aptXHD
  | ldac
  | opus
  | lhdcV2
  | lhdcV3
  | lhdcV5
  deriving DecidableEq, Repr

namespace Codec

def all : List Codec := [.aptX, .aptXHD, .ldac, .opus, .lhdcV2, .lhdcV3, .lhdcV5]

def rate (bit : UInt8) (hertz : Nat) : Choice := ⟨bit, hertz, s!"{hertz}"⟩

def depth (bit : UInt8) (bits : Nat) : Choice := ⟨bit, bits, s!"{bits}"⟩

/-! ## aptX and aptX-HD -/

/-- Sample rate and channels in one octet. -/
def aptXSettings : List Field :=
  [.choice .sampleRate [rate 0x20 44100, rate 0x10 48000],
    .choice .channelMode [⟨0x01, 1, "MONO"⟩, ⟨0x02, 2, "STEREO"⟩]]

/-- Both rates in stereo, and so many reserved octets, clear. -/
def aptXStores (reserved : Nat) : List Store :=
  [.put Header.size 0x32, .clear (Header.size + 1) reserved]

/-- aptX: one octet for sample rate and channels, nothing before the payload. -/
def aptXProfile : Profile where
  name := "aptX"
  key := .aptX
  losc := 9
  roles := .sourceOnly
  layout := [aptXSettings]
  constants := [(.bitDepth, 16)]
  bitRateRule := .quarterOfPcm
  sinkChannelRule := none
  frameHeader := none
  alwaysRtp := false
  announcesScmsT := true
  sourceName := "aptX"
  sinkName := none
  encoderHandle := ⟨"aptX", .aptX⟩
  decoderHandle := none
  sourceStores := aptXStores 0
  sinkStores := none
  accepted := none

/-- aptX-HD: aptX with 24 bits, always over RTP, and four reserved octets. -/
def aptXHDProfile : Profile where
  name := "aptX-HD"
  key := .aptXHD
  losc := 13
  roles := .sourceOnly
  layout := [aptXSettings, [.reserved], [.reserved], [.reserved], [.reserved]]
  constants := [(.bitDepth, 24)]
  bitRateRule := .quarterOfPcm
  sinkChannelRule := none
  frameHeader := none
  alwaysRtp := true
  announcesScmsT := true
  sourceName := "aptX-HD"
  sinkName := none
  encoderHandle := ⟨"aptX-HD", .aptXHD⟩
  decoderHandle := none
  sourceStores := aptXStores 4
  sinkStores := none
  accepted := none

/-! ## LDAC -/

/-- The sample rates and channel modes of a default. -/
abbrev LdacCaps := UInt8 × UInt8

def ldacSinkCaps : LdacCaps := (0x3C, 0x07)

def ldacStores (caps : LdacCaps) : List Store :=
  [.put Header.size caps.1, .put (Header.size + 1) caps.2]

/-- LDAC: an octet for the sample rate and one for the channels. -/
def ldacProfile : Profile where
  name := "LDAC"
  key := .ldac
  losc := 10
  roles := .all
  layout :=
    [[.choice .sampleRate [rate 0x20 44100, rate 0x10 48000, rate 0x08 88200, rate 0x04 96000,
        rate 0x02 176400, rate 0x01 192000]],
      [.choice .channelMode [⟨0x04, 1, "MONO"⟩, ⟨0x02, 2, "DUAL"⟩, ⟨0x01, 2, "STEREO"⟩]]]
  constants := [(.bitDepth, 32)]
  bitRateRule := .byBits .sampleRate
    [(0x20, 909000), (0x08, 909000), (0x02, 909000), (0x10, 990000), (0x04, 990000),
      (0x01, 990000)]
  sinkChannelRule := some (.monoFor 0x04)
  frameHeader := some ⟨1, 15⟩
  alwaysRtp := true
  announcesScmsT := false
  sourceName := "LDAC"
  sinkName := some "LDAC SINK"
  encoderHandle := ⟨"LDAC", .ldac⟩
  decoderHandle := some ⟨"LDAC", .ldac⟩
  sourceStores := ldacStores (0x3C, 0x03)
  sinkStores := some (ldacStores ldacSinkCaps)
  accepted := some [ldacSinkCaps.1, ldacSinkCaps.2]

/-! ## Opus -/

/-- The one rate, frames of 20 ms and all channel modes. -/
def opusSinkCaps : UInt8 := 0x97

/-- Opus: one octet for sample rate, frame size and channels. What the sink accepts of each of them
is looked up in the whole octet. -/
def opusProfile : Profile where
  name := "Opus"
  key := .opus
  losc := 9
  roles := .all
  layout :=
    [[.choice .sampleRate [rate 0x80 48000],
      .choice .frameSize [⟨0x08, 10, "10ms"⟩, ⟨0x10, 20, "20ms"⟩],
      .choice .channelMode [⟨0x01, 1, "MONO"⟩, ⟨0x02, 2, "STEREO"⟩, ⟨0x04, 2, "DUAL"⟩]]]
  constants := [(.bitDepth, 16)]
  bitRateRule := .byBits .channelMode [(0x01, 128000), (0x02, 256000), (0x04, 256000)]
  sinkChannelRule := some (.monoFor 0x01)
  frameHeader := some ⟨1, 15⟩
  alwaysRtp := true
  announcesScmsT := false
  sourceName := "Opus"
  sinkName := some "Opus SINK"
  encoderHandle := ⟨"Opus", .opus⟩
  decoderHandle := some ⟨"Opus", .opus⟩
  sourceStores := [.put Header.size 0x92]
  sinkStores := some [.put Header.size opusSinkCaps]
  accepted := some [opusSinkCaps, opusSinkCaps, opusSinkCaps]

/-! ## LHDC -/

/-- Where a version of LHDC has its fields. -/
structure LhdcPlaces where
  sampleRate : Nat
  bitDepth : Nat
  rateCode : Nat
  version : Option Nat
  features : Nat

/-- What a version of LHDC offers, field by field. -/
structure LhdcCaps where
  sampleRate : UInt8
  bitDepth : UInt8
  rateCode : UInt8
  version : UInt8
  features : UInt8

/-- Everything up to the announced length is cleared first: the bits of two fields may share an
octet, and are added to it one after the other. -/
def LhdcCaps.stores (caps : LhdcCaps) (losc : UInt8) (places : LhdcPlaces) : List Store :=
  [.clear Header.size (losc.toNat + 1 - Header.size), .add places.sampleRate caps.sampleRate,
    .add places.bitDepth caps.bitDepth, .put places.rateCode caps.rateCode] ++
  (places.version.map fun index => Store.put index caps.version).toList ++
  [.put places.features caps.features]

def lhdcFeatures : Field := .features [⟨0x40, "LL"⟩, ⟨0x80, "JAS"⟩]

/-- The octets of the second and the third version of LHDC. -/
def lhdcV3Layout : Layout :=
  [[.choice .sampleRate [rate 0x08 44100, rate 0x04 48000, rate 0x02 88200, rate 0x01 96000],
      .choice .bitDepth [depth 0x20 16, depth 0x10 24]],
    [.rateCode [400000, 500000, 900000]],
    [lhdcFeatures]]

def lhdcV3Places : LhdcPlaces := ⟨9, 9, 10, none, 11⟩

def lhdcV5Places : LhdcPlaces := ⟨9, 10, 11, some 12, 13⟩

def lhdcV3SinkCaps : LhdcCaps := ⟨0x0D, 0x30, 2, 0x00, 0xC0⟩

def lhdcV5SinkCaps : LhdcCaps := ⟨0x1C, 0x06, 3, 0x01, 0xC0⟩

/-- LHDC, second version: two channels, three highest bit rates, sent only. -/
def lhdcV2Profile : Profile where
  name := "LHDC V2"
  key := .lhdcV2
  losc := 11
  roles := .sourceOnly
  layout := lhdcV3Layout
  constants := [(.channelMode, 2)]
  bitRateRule := .byCode
  sinkChannelRule := some (.always .stereo)
  frameHeader := some ⟨2, 63⟩
  alwaysRtp := true
  announcesScmsT := false
  sourceName := "LHDC V2"
  sinkName := none
  encoderHandle := ⟨"LHDC V2", .lhdcV2⟩
  decoderHandle := none
  sourceStores := LhdcCaps.stores ⟨0x0C, 0x30, 2, 0x00, 0x00⟩ 11 lhdcV3Places
  sinkStores := none
  accepted := none

/-- LHDC, third version: the octets of the second version, also received. -/
def lhdcV3Profile : Profile where
  name := "LHDC V3"
  key := .lhdcV3
  losc := 11
  roles := .all
  layout := lhdcV3Layout
  constants := [(.channelMode, 2)]
  bitRateRule := .byCode
  sinkChannelRule := some (.always .stereo)
  frameHeader := some ⟨2, 63⟩
  alwaysRtp := true
  announcesScmsT := false
  sourceName := "LHDC V3"
  sinkName := some "LHDC V3 SINK"
  encoderHandle := ⟨"LHDC V3", .lhdcV3⟩
  decoderHandle := some ⟨"LHDC V3", .lhdcV3⟩
  sourceStores := LhdcCaps.stores ⟨0x0D, 0x30, 2, 0x00, 0x40⟩ 11 lhdcV3Places
  sinkStores := some (lhdcV3SinkCaps.stores 11 lhdcV3Places)
  accepted := some [lhdcV3SinkCaps.sampleRate, lhdcV3SinkCaps.bitDepth, lhdcV3SinkCaps.rateCode,
    lhdcV3SinkCaps.features]

/-- LHDC, fifth version: more rates and depths, a version octet, four highest bit rates. -/
def lhdcV5Profile : Profile where
  name := "LHDC V5"
  key := .lhdcV5
  losc := 13
  roles := .all
  layout :=
    [[.choice .sampleRate [rate 0x10 44100, rate 0x08 48000, rate 0x04 96000, rate 0x02 192000]],
      [.choice .bitDepth [depth 0x04 16, depth 0x02 24, depth 0x01 32]],
      [.rateCode [400000, 500000, 900000, 1000000]],
      [.version],
      [lhdcFeatures]]
  constants := [(.channelMode, 2)]
  bitRateRule := .byCode
  sinkChannelRule := some (.always .stereo)
  frameHeader := some ⟨2, 63⟩
  alwaysRtp := true
  announcesScmsT := false
  sourceName := "LHDC V5"
  sinkName := some "LHDC V5 SINK"
  encoderHandle := ⟨"LHDC V5", .lhdcV5⟩
  decoderHandle := some ⟨"LHDC V5", .lhdcV5⟩
  sourceStores := LhdcCaps.stores ⟨0x1E, 0x07, 3, 0x01, 0x40⟩ 13 lhdcV5Places
  sinkStores := some (lhdcV5SinkCaps.stores 13 lhdcV5Places)
  accepted := some [lhdcV5SinkCaps.sampleRate, lhdcV5SinkCaps.bitDepth, lhdcV5SinkCaps.rateCode,
    lhdcV5SinkCaps.version, lhdcV5SinkCaps.features]

/-! ## All of them -/

def profile : Codec → Profile
  | .aptX => aptXProfile
  | .aptXHD => aptXHDProfile
  | .ldac => ldacProfile
  | .opus => opusProfile
  | .lhdcV2 => lhdcV2Profile
  | .lhdcV3 => lhdcV3Profile
  | .lhdcV5 => lhdcV5Profile

def name (c : Codec) : String := c.profile.name

def ofName? (name : String) : Option Codec := all.find? fun c => c.name == name

end Codec

end A2dp
