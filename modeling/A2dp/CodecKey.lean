import A2dp.Text.Hex

/-!
# Identity keys

A vendor codec is identified by the pair of its vendor's number and the number that the vendor
gave to the codec. Keys are ordered by vendor first.
-/

namespace A2dp

/-- The identity of a vendor codec. -/
structure CodecKey where
  vendorId : UInt32
  codecId : UInt16
  deriving DecidableEq, Repr

namespace CodecKey

def vendorText (key : CodecKey) : String := Hex.numeral 8 key.vendorId.toNat

def codecText (key : CodecKey) : String := Hex.numeral 4 key.codecId.toNat

/-- Both numbers, divided by a colon: seventeen characters for every key. -/
def text (key : CodecKey) : String := key.vendorText ++ ":" ++ key.codecText

/-- Keys are compared by vendor, keys of one vendor by codec. -/
def compare (a b : CodecKey) : Ordering :=
  (Ord.compare a.vendorId b.vendorId).then (Ord.compare a.codecId b.codecId)

end CodecKey

end A2dp
