import A2dp.Store

/-!
# Endpoint configurations

What a local stream endpoint announces: a capability, content protection, and the service
categories that go with them.
-/

namespace A2dp

/-- A set of service categories. Bits without a meaning are kept. -/
structure Services where
  bits : UInt16
  deriving DecidableEq, Repr

namespace Services

def none : Services := ⟨0⟩

def contentProtection : Services := ⟨0x08⟩

def mediaCodec : Services := ⟨0x40⟩

def union (s t : Services) : Services := ⟨s.bits ||| t.bits⟩

def without (s t : Services) : Services := ⟨s.bits &&& ~~~t.bits⟩

end Services

/-- The configuration of a stream endpoint. -/
@[ext]
structure Endpoint where
  /-- Room for a capability. -/
  buffer : Octets
  /-- Room for content protection. -/
  protection : Octets
  codecCount : UInt8
  protectionCount : UInt8
  services : Services
  buffer_length : buffer.length = 20
  protection_length : protection.length = 90
  deriving DecidableEq

namespace Endpoint

def empty : Endpoint where
  buffer := List.replicate 20 0
  protection := List.replicate 90 0
  codecCount := 0
  protectionCount := 0
  services := .none
  buffer_length := by simp
  protection_length := by simp

/-- The capability in the buffer: as many octets as its length octet announces, or all. -/
def capability (e : Endpoint) : Octets :=
  e.buffer.take (min ((e.buffer.headD 0).toNat + 1) 20)

/-- Replaces octets of the capability buffer. -/
def write (e : Endpoint) (start : Nat) (new : Octets) : Endpoint :=
  { e with
    buffer := e.buffer.overwrite start new
    buffer_length := by simpa using e.buffer_length }

/-- Runs stores on the capability buffer. -/
def store (e : Endpoint) (stores : List Store) : Endpoint :=
  { e with
    buffer := Store.run stores e.buffer
    buffer_length := by simpa using e.buffer_length }

def writeProtection (e : Endpoint) (start : Nat) (new : Octets) : Endpoint :=
  { e with
    protection := e.protection.overwrite start new
    protection_length := by simpa using e.protection_length }

def clearProtection (e : Endpoint) : Endpoint :=
  { e with
    protection := List.replicate 90 0
    protectionCount := 0
    services := e.services.without .contentProtection
    protection_length := by simp }

/-- Announces content protection by SCMS-T: one entry of two octets, its number. -/
def addScmsT (e : Endpoint) : Endpoint :=
  { e.writeProtection 0 [2, 2, 0] with
    protectionCount := 1
    services := e.services.union .contentProtection }

/-- Empties the configuration for a media codec. Services other than content protection stay. -/
def reset (e : Endpoint) : Endpoint :=
  { e.clearProtection with
    buffer := List.replicate 20 0
    codecCount := 1
    services := e.clearProtection.services.union .mediaCodec
    buffer_length := by simp }

end Endpoint

end A2dp
