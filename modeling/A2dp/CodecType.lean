/-!
# Codec types

The octet that tells the standard codecs from each other and from those of a vendor.
-/

namespace A2dp

inductive CodecType where
  | sbc
  | mpeg12
  | aac
  | usac
  | atrac
  /-- A codec of a vendor, identified by its key. -/
  | vendor
  | reserved (value : UInt8)
  deriving DecidableEq, Repr

namespace CodecType

def ofOctet (octet : UInt8) : CodecType :=
  if octet = 0x00 then .sbc
  else if octet = 0x01 then .mpeg12
  else if octet = 0x02 then .aac
  else if octet = 0x03 then .usac
  else if octet = 0x04 then .atrac
  else if octet = 0xFF then .vendor
  else .reserved octet

def toOctet : CodecType → UInt8
  | .sbc => 0x00
  | .mpeg12 => 0x01
  | .aac => 0x02
  | .usac => 0x03
  | .atrac => 0x04
  | .vendor => 0xFF
  | .reserved octet => octet

def text : CodecType → String
  | .sbc => "Sbc"
  | .mpeg12 => "Mpeg12"
  | .aac => "Aac"
  | .usac => "Usac"
  | .atrac => "Atrac"
  | .vendor => "NonA2dp"
  | .reserved octet => s!"Reserved({octet.toNat})"

/-- Writing the type of an octet gives the octet back. -/
@[simp] theorem toOctet_ofOctet (octet : UInt8) : (ofOctet octet).toOctet = octet := by
  unfold ofOctet
  repeat' split
  all_goals simp_all [toOctet]

end CodecType

end A2dp
