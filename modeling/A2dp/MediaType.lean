import A2dp.Text.Hex

/-!
# Media types

The kind of a stream, a four-bit number in the high half of its octet.
-/

namespace A2dp

/-- The kind of a media stream. -/
inductive MediaType where
  | audio
  | video
  | multimedia
  | reserved (value : UInt8)
  deriving DecidableEq, Repr

namespace MediaType

def ofNumber (n : UInt8) : MediaType :=
  if n = 0 then .audio else if n = 1 then .video else if n = 2 then .multimedia else .reserved n

def number : MediaType → UInt8
  | .audio => 0
  | .video => 1
  | .multimedia => 2
  | .reserved n => n

/-- The media type in the high half of an octet. -/
def ofOctet (octet : UInt8) : MediaType := ofNumber (octet >>> 4)

/-- The octet with the number in its high half; of a wider number the high bits are lost. -/
def toOctet (media : MediaType) : UInt8 := media.number <<< 4

def text : MediaType → String
  | .audio => "音频"
  | .video => "视频"
  | .multimedia => "多媒体"
  | .reserved n => "保留(" ++ Hex.shortNumeral n.toNat ++ ")"

/-- Reading a number back gives the same number. -/
@[simp] theorem number_ofNumber (n : UInt8) : (ofNumber n).number = n := by
  unfold ofNumber
  split
  · simp_all [number]
  split
  · simp_all [number]
  split <;> simp_all [number]

end MediaType

end A2dp
