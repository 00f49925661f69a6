/-!
# Roles

Who describes itself by a capability, seen from the local endpoint, and the roles in which a
codec family takes part.
-/

namespace A2dp

/-- The role of the endpoint whose capability is judged. -/
inductive Role where
  | localSource
  | localSink
  | peerSource
  | peerSink
  deriving DecidableEq, Repr

namespace Role

def all : List Role := [.localSource, .localSink, .peerSource, .peerSink]

def text : Role → String
  | .localSource => "local-source"
  | .localSink => "local-sink"
  | .peerSource => "peer-source"
  | .peerSink => "peer-sink"

def bit : Role → UInt8
  | .localSource => 0x01
  | .localSink => 0x02
  | .peerSource => 0x04
  | .peerSink => 0x08

end Role

/-- A set of roles. Bits without a meaning are kept. -/
structure RoleSet where
  bits : UInt8
  deriving DecidableEq, Repr

namespace RoleSet

def single (role : Role) : RoleSet := ⟨role.bit⟩

def all : RoleSet := ⟨0x0F⟩

/-- The roles of a family that only sends: we are the source, the peer is the sink. -/
def sourceOnly : RoleSet := ⟨0x09⟩

/-- Every bit of the second set is in the first. -/
def contains (s t : RoleSet) : Bool := s.bits &&& t.bits == t.bits

def supports (s : RoleSet) (role : Role) : Bool := s.contains (single role)

def toList (s : RoleSet) : List Role := Role.all.filter s.supports

end RoleSet

end A2dp
