import A2dp.CodecKey

/-!
# Codec indexes

The stable names by which the rest of a system refers to a codec in one direction. The sending
and the receiving side of one codec have different indexes and the same key.
-/

namespace A2dp

/-- The direction of a stream, seen from the local endpoint. -/
inductive Direction where
  | source
  | sink
  deriving DecidableEq, Repr

def Direction.text : Direction → String
  | .source => "source"
  | .sink => "sink"

/-- A codec in one direction. -/
inductive CodecIndex where
  | sourceSbc
  | sourceAac
  | sourceAptX
  | sourceAptXHD
  | sourceLdac
  | sourceLc3
  | sourceOpus
  | sourceLhdcV2
  | sourceLhdcV3
  | sourceLhdcV5
  | sinkSbc
  | sinkAac
  | sinkLdac
  | sinkOpus
  | sinkLhdcV3
  | sinkLhdcV5
  deriving DecidableEq, Repr

/-- Who answers for a codec index. -/
inductive IndexOwner where
  /-- A codec of the standard, outside the reach of a registry. -/
  | standard
  /-- Reserved for a codec that is not there yet. -/
  | unimplemented
  /-- The vendor codec with this key. -/
  | vendor (key : CodecKey)
  deriving DecidableEq, Repr

namespace CodecKey

def aptX : CodecKey := ⟨0x4F, 0x0001⟩

def aptXHD : CodecKey := ⟨0xD7, 0x0024⟩

def ldac : CodecKey := ⟨0x12D, 0x00AA⟩

def opus : CodecKey := ⟨0xE0, 0x0001⟩

/-- LHDC, second version. -/
def lhdcV2 : CodecKey := ⟨0x53A, 0x4C32⟩

/-- LHDC, third version. -/
def lhdcV3 : CodecKey := ⟨0x53A, 0x4C33⟩

/-- LHDC, fifth version. -/
def lhdcV5 : CodecKey := ⟨0x53A, 0x4C35⟩

end CodecKey

namespace CodecIndex

def all : List CodecIndex :=
  [.sourceSbc, .sourceAac, .sourceAptX, .sourceAptXHD, .sourceLdac, .sourceLc3, .sourceOpus,
    .sourceLhdcV2, .sourceLhdcV3, .sourceLhdcV5, .sinkSbc, .sinkAac, .sinkLdac, .sinkOpus,
    .sinkLhdcV3, .sinkLhdcV5]

def direction : CodecIndex → Direction
  | .sourceSbc | .sourceAac | .sourceAptX | .sourceAptXHD | .sourceLdac | .sourceLc3
  | .sourceOpus | .sourceLhdcV2 | .sourceLhdcV3 | .sourceLhdcV5 => .source
  | .sinkSbc | .sinkAac | .sinkLdac | .sinkOpus | .sinkLhdcV3 | .sinkLhdcV5 => .sink

def owner : CodecIndex → IndexOwner
  | .sourceSbc | .sourceAac | .sinkSbc | .sinkAac => .standard
  | .sourceLc3 => .unimplemented
  | .sourceAptX => .vendor .aptX
  | .sourceAptXHD => .vendor .aptXHD
  | .sourceLdac | .sinkLdac => .vendor .ldac
  | .sourceOpus | .sinkOpus => .vendor .opus
  | .sourceLhdcV2 => .vendor .lhdcV2
  | .sourceLhdcV3 | .sinkLhdcV3 => .vendor .lhdcV3
  | .sourceLhdcV5 | .sinkLhdcV5 => .vendor .lhdcV5

def name : CodecIndex → String
  | .sourceSbc => "source_sbc"
  | .sourceAac => "source_aac"
  | .sourceAptX => "source_aptx"
  | .sourceAptXHD => "source_aptx_hd"
  | .sourceLdac => "source_ldac"
  | .sourceLc3 => "source_lc3"
  | .sourceOpus => "source_opus"
  | .sourceLhdcV2 => "source_lhdcv2"
  | .sourceLhdcV3 => "source_lhdcv3"
  | .sourceLhdcV5 => "source_lhdcv5"
  | .sinkSbc => "sink_sbc"
  | .sinkAac => "sink_aac"
  | .sinkLdac => "sink_ldac"
  | .sinkOpus => "sink_opus"
  | .sinkLhdcV3 => "sink_lhdcv3"
  | .sinkLhdcV5 => "sink_lhdcv5"

def ofName? (name : String) : Option CodecIndex := all.find? fun index => index.name == name

/-- The index that a vendor codec has in a direction. -/
def ofKey? (key : CodecKey) (direction : Direction) : Option CodecIndex :=
  all.find? fun index => index.direction == direction && index.owner == .vendor key

/-- The key of the vendor codec that owns an index. -/
def key? (index : CodecIndex) : Option CodecKey :=
  match index.owner with
  | .vendor key => some key
  | .standard | .unimplemented => none

end CodecIndex

end A2dp
