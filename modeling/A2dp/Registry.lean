import A2dp.Family

/-!
# Registries

A registry lists families; the first one with a key answers for it. It also knows whether SCMS-T
is built in.
-/

namespace A2dp

/-- A list of families, and whether SCMS-T is built in. -/
structure Registry where
  families : List Family
  scmsT : Bool := false

namespace Registry

def version : String := "0.1.0"

/-- All codecs that are known in full. -/
def builtin (scmsT : Bool := false) : Registry := ⟨Codec.all.map .codec, scmsT⟩

def resolve (r : Registry) (key : CodecKey) : Option Family :=
  r.families.find? fun family => family.key == key

/-- The family of a buffer, by its key. -/
def resolveBuffer (r : Registry) (b : Octets) : Except Error (Option Family) :=
  (Header.key b).map r.resolve

/-- The family that answers for an index. -/
def familyOfIndex (r : Registry) (index : CodecIndex) : Option Family :=
  index.key?.bind r.resolve

end Registry

end A2dp
