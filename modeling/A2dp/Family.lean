import A2dp.Codec

/-!
# Codec families

A family is what a registry lists: a codec that is known in full, or one that is known by name,
key and roles alone. The second kind refuses whatever it is asked to judge; it may answer every
question for a number with the same one.

Asked directly, a family does not look at roles or at the key that brought a buffer to it. Whatever
it is asked, it may have something to report beside its answer.
-/

namespace A2dp

/-- A family that is known by name, key and roles alone. -/
structure NominalFamily where
  name : String
  key : CodecKey
  roles : RoleSet
  /-- The answer to every question for a number. -/
  number : Option UInt32 := none
  deriving DecidableEq, Repr

inductive Family where
  | codec (codec : Codec)
  | nominal (family : NominalFamily)
  deriving DecidableEq, Repr

namespace Family

def name : Family → String
  | .codec c => c.profile.name
  | .nominal n => n.name

def key : Family → CodecKey
  | .codec c => c.profile.key
  | .nominal n => n.key

def roles : Family → RoleSet
  | .codec c => c.profile.roles
  | .nominal n => n.roles

def isValid (f : Family) (b : Octets) : Reported Bool :=
  match f with
  | .codec c => .quiet (c.profile.isValid b)
  | .nominal _ => .quiet false

/-- The local sink can take what the buffer describes. -/
def isSupported (f : Family) (role : Role) (b : Octets) : Reported Bool :=
  match f with
  | .codec c => .quiet (c.profile.isSupported role b)
  | .nominal _ => .quiet false

/-- The buffers describe the same type of codec. For a nominal family the key alone decides. -/
def typeEquals (f : Family) (a b : Octets) : Reported Bool :=
  match f with
  | .codec c => .quiet (c.profile.typeEquals a b)
  | .nominal _ => .quiet true

def configEquals (f : Family) (a b : Octets) : Reported Bool :=
  match f with
  | .codec c => .quiet (c.profile.configEquals a b)
  | .nominal _ => .quiet false

def bitRate (f : Family) (b : Octets) : Reported (Option Nat) :=
  match f with
  | .codec c => c.profile.bitRate b
  | .nominal n => .quiet (n.number.map UInt32.toNat)

def number (f : Family) (setting : Setting) (b : Octets) : Reported (Option Nat) :=
  match f with
  | .codec c => c.profile.number setting b
  | .nominal n => .quiet (n.number.map UInt32.toNat)

def sinkChannels (f : Family) (b : Octets) : Reported (Option SinkChannels) :=
  match f with
  | .codec c => c.profile.sinkChannels b
  | .nominal _ => .quiet none

/-- Packets have an RTP header. Whether content is protected does not matter to any family. -/
def usesRtp (f : Family) (scmsT _contentProtection : Bool) : Reported Bool :=
  match f with
  | .codec c => .quiet (c.profile.usesRtp scmsT)
  | .nominal _ => .quiet true

def buildHeader (f : Family) (packet : Packet) (frames : UInt16) : Reported (Bool × Packet) :=
  match f with
  | .codec c => c.profile.buildHeader packet frames
  | .nominal _ => .quiet (false, packet)

def timestamp (f : Family) (data : Octets) : Reported (Option UInt32) :=
  match f with
  | .codec _ => .quiet (Profile.timestamp data)
  | .nominal _ => .quiet none

def encoder (f : Family) (b : Octets) : Reported (Option Handle) :=
  match f with
  | .codec c => .quiet (c.profile.encoder b)
  | .nominal _ => .quiet none

def decoder (f : Family) (b : Octets) : Reported (Option Handle) :=
  match f with
  | .codec c => .quiet (c.profile.decoder b)
  | .nominal _ => .quiet none

/-- The buffer in normal form, and whether it differs. -/
def adjust (f : Family) (b : Octets) : Reported (Bool × Octets) :=
  match f with
  | .codec c => .quiet (c.profile.adjust b)
  | .nominal _ => .quiet (false, b)

/-- The name for a buffer. No family has more than one. -/
def codecName (f : Family) (_b : Octets) : Reported String := .quiet f.name

def describe (f : Family) (b : Octets) : Reported String :=
  match f with
  | .codec c => .quiet (c.profile.describe b)
  | .nominal n => .quiet ("\tname: " ++ n.name ++ "\n")

def indexName (f : Family) (direction : Direction) : Reported (Option String) :=
  match f with
  | .codec c => .quiet (c.profile.indexName direction)
  | .nominal _ => .quiet none

def initialise (f : Family) (scmsT : Bool) (direction : Direction) (e : Endpoint) :
    Reported (Bool × Endpoint) :=
  match f with
  | .codec c => c.profile.initialise scmsT direction e
  | .nominal _ => .quiet (false, e)

end Family

end A2dp
