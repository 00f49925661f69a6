import A2dp.CodecType
import A2dp.MediaType
import A2dp.Octets

/-!
# The header of a vendor capability

| octets | meaning |
|---|---|
| 0 | LOSC, the number of octets that follow |
| 1 | media type, in the high half |
| 2 | codec type, `0xFF` for the codec of a vendor |
| 3 to 6 | vendor number, least significant octet first |
| 7 and 8 | codec number, least significant octet first |
| from 9 | the octets of the codec family |

This is the only place that knows where the identity of a codec stands.
-/

namespace A2dp.Header

/-- The number of octets before those of the family. -/
def size : Nat := 9

def losc (b : Octets) : Except Error UInt8 := b.octet 0

def mediaType (b : Octets) : Except Error MediaType := (b.octet 1).map MediaType.ofOctet

def codecType (b : Octets) : Except Error CodecType := (b.octet 2).map CodecType.ofOctet

def vendorId (b : Octets) : Except Error UInt32 :=
  (b.slice 3 4).map fun octets => UInt32.ofNat octets.toNat

/-- The number of the codec among those of its vendor. -/
def codecId (b : Octets) : Except Error UInt16 :=
  (b.slice 7 2).map fun octets => UInt16.ofNat octets.toNat

/-- The identity key. A short buffer fails at the first of the two numbers that is cut off. -/
def key (b : Octets) : Except Error CodecKey := do
  let vendorId ← vendorId b
  let codecId ← codecId b
  return ⟨vendorId, codecId⟩

/-- The buffer describes the codec of a vendor. A buffer without a codec type does not. -/
def isVendor (b : Octets) : Bool :=
  match codecType b with
  | .ok .vendor => true
  | _ => false

/-- The header is that of an audio codec with this key and length octet, and all octets that
the length announces are there. Causes are found in this order: length of the header, length
octet, announced length, media type, codec type, key. -/
def check (b : Octets) (losc : UInt8) (key : CodecKey) : Except Error Unit := do
  b.require size
  let actual ← b.octet 0
  demand (actual = losc) (.wrongLength losc actual)
  b.require (losc.toNat + 1)
  let media ← b.octet 1
  demand (MediaType.ofOctet media = .audio) (.wrongMedia media)
  let type ← b.octet 2
  demand (CodecType.ofOctet type = .vendor) (.wrongCodecType type)
  let found ← Header.key b
  demand (found = key) (.wrongCodec found)

/-- The nine octets of a header. -/
def octets (losc : UInt8) (media : MediaType) (key : CodecKey) : Octets :=
  losc :: media.toOctet :: CodecType.vendor.toOctet ::
    (Octets.ofNat 4 key.vendorId.toNat ++ Octets.ofNat 2 key.codecId.toNat)

/-- The number of octets that a capability with this length octet takes in a buffer of the
given size, if it is long enough for a header and the buffer holds it. -/
def room (capacity : Nat) (losc : UInt8) : Except Error Nat :=
  let total := losc.toNat + 1
  if capacity < total ∨ total < size then .error (.doesNotFit capacity losc) else .ok total

/-- Writes a header at the start of a buffer and gives the length of the capability that it
announces, with the buffer afterwards. A refused buffer stays as it is. -/
def write (b : Octets) (losc : UInt8) (media : MediaType) (key : CodecKey) :
    Except Error Nat × Octets :=
  match room b.length losc with
  | .ok total => (.ok total, b.overwrite 0 (octets losc media key))
  | .error cause => (.error cause, b)

end A2dp.Header
