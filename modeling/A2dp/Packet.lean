import A2dp.Diagnostic
import A2dp.Octets

/-!
# Media packets

A packet is a buffer whose front is kept free for headers. Growing to the front turns the end of
the free room into data; the payload never moves.
-/

namespace A2dp

/-- A buffer whose free front and data make up all of it. -/
@[ext]
structure Packet where
  buffer : Octets
  /-- The free octets at the front. -/
  headroom : Nat
  /-- The octets of data behind them. -/
  length : Nat
  headroom_add_length : headroom + length = buffer.length

namespace Packet

/-- A packet with this payload behind cleared free room. -/
def ofPayload (headroom : Nat) (payload : Octets) : Packet where
  buffer := List.replicate headroom 0 ++ payload
  headroom := headroom
  length := payload.length
  headroom_add_length := by simp

/-- The octets that would be sent. -/
def data (p : Packet) : Octets := (p.buffer.drop p.headroom).take p.length

def isEmpty (p : Packet) : Bool := p.length == 0

/-- What is handed over for sending: the part of the buffer between its free front and the end of
the data. -/
def freeze (p : Packet) : Octets := (p.buffer.take (p.headroom + p.length)).drop p.headroom

/-- Adds the last octets of the free room to the data, if there are enough. -/
def grow (p : Packet) (count : Nat) : Except Error Packet :=
  if h : count ≤ p.headroom then
    .ok {
      buffer := p.buffer
      headroom := p.headroom - count
      length := p.length + count
      headroom_add_length := by
        have hsum := p.headroom_add_length
        omega }
  else .error (.noHeadroom count p.headroom)

def overwrite (p : Packet) (new : Octets) : Packet where
  buffer := p.buffer.overwrite p.headroom new
  headroom := p.headroom
  length := p.length
  headroom_add_length := by simpa using p.headroom_add_length

end Packet

/-- A header that counts the frames of a packet: the count in its first octet, the rest clear. -/
structure FrameHeader where
  size : Nat
  maxFrames : UInt16
  deriving DecidableEq, Repr

/-- Puts the header before the data of a packet. A refused packet stays as it is. -/
def FrameHeader.write (header : FrameHeader) (p : Packet) (frames : UInt16) :
    Reported (Bool × Packet) :=
  if header.maxFrames < frames then .noting (false, p) (.tooManyFrames frames header.maxFrames)
  else
    match p.grow header.size with
    | .ok grown =>
      .quiet (true, grown.overwrite (frames.toUInt8 :: List.replicate (header.size - 1) 0))
    | .error cause => .noting (false, p) (.headerNotWritten cause)

end A2dp
