import A2dp.Octets

/-!
# Layouts

A layout says what the octets after the header of a capability hold: for each octet, its fields.
It is read in two ways. A capability offers settings and has at least one bit in each choice; a
configuration has made up its mind and has exactly one.

The normal form of the octets clears all bits that no field gives a meaning and lowers a rate
code that is out of range.
-/

namespace A2dp

/-- What a buffer is taken for. -/
inductive Reading where
  /-- An offer, with one or more bits in each choice. -/
  | capability
  /-- An agreement, with exactly one bit in each choice. -/
  | configuration
  deriving DecidableEq, Repr

/-- The number of bits that are set. -/
def bitCount (x : UInt8) : Nat := (List.range 8).countP fun i => x.toNat.testBit i

/-- The bits of a choice suit the reading. -/
def Reading.admits : Reading → UInt8 → Bool
  | .capability, bits => bits != 0
  | .configuration, bits => bitCount bits == 1

/-- One alternative of a choice: its bit, what the bit stands for, and its name. -/
structure Choice where
  bit : UInt8
  value : Nat
  name : String
  deriving DecidableEq, Repr

/-- A feature that may be there or not. -/
structure Feature where
  bit : UInt8
  name : String
  deriving DecidableEq, Repr

/-- A field of an octet. -/
inductive Field where
  /-- Bits that select a setting. -/
  | choice (setting : Setting) (choices : List Choice)
  /-- The two low bits number the highest bit rate in a table. -/
  | rateCode (rates : List Nat)
  /-- A version number, any octet. -/
  | version
  /-- Bits for features, in any combination. -/
  | features (table : List Feature)
  /-- An octet without a meaning yet. It is read, and cleared in the normal form. -/
  | reserved
  deriving DecidableEq, Repr

namespace Field

def known : Field → UInt8
  | .choice _ choices => choices.foldr (fun c bits => c.bit ||| bits) 0
  | .rateCode _ => 0x03
  | .version => 0xFF
  | .features table => table.foldr (fun f bits => f.bit ||| bits) 0
  | .reserved => 0xFF

/-- The value of a field in its octet, if the reading admits it. -/
def read (field : Field) (reading : Reading) (octet : UInt8) : Except Error UInt8 :=
  let value := octet &&& field.known
  match field with
  | .choice setting _ =>
    if reading.admits value then .ok value else .error (.badSetting setting octet)
  | .rateCode rates => if value.toNat < rates.length then .ok value else .error (.badRateCode octet)
  | .version | .features _ | .reserved => .ok value

def rateCount : Field → Nat
  | .rateCode rates => rates.length
  | _ => 0

/-- The bits of a field that stay in the normal form. -/
def kept : Field → UInt8
  | .reserved => 0
  | field => field.known

/-- Lowers a rate code that is not in the table to the last one that is. -/
def clamp : Field → UInt8 → UInt8
  | .rateCode rates, octet =>
    if octet.toNat < rates.length then octet else UInt8.ofNat (rates.length - 1)
  | _, octet => octet

end Field

structure Entry where
  field : Field
  value : UInt8
  deriving DecidableEq, Repr

/-- What the octets of a capability say, field by field. -/
abbrev Settings := List Entry

/-- The fields of each octet after the header. -/
abbrev Layout := List (List Field)

namespace Layout

/-- The values of the fields of one octet. The first field that is not admitted fails. -/
def readOctet (reading : Reading) (octet : UInt8) : List Field → Except Error Settings
  | [] => .ok []
  | field :: fields => do
    let value ← field.read reading octet
    let entries ← readOctet reading octet fields
    return ⟨field, value⟩ :: entries

/-- The values of all fields, in the order of the octets. -/
def read (reading : Reading) : Layout → Octets → Except Error Settings
  | fields :: layout, octet :: octets => do
    let entries ← readOctet reading octet fields
    let settings ← read reading layout octets
    return entries ++ settings
  | _, _ => .ok []

/-- The bits of an octet that stay in the normal form. -/
def keptBits (fields : List Field) : UInt8 :=
  fields.foldr (fun field bits => field.kept ||| bits) 0

/-- The normal form of an octet, and whether it differs. -/
def normalOctet (fields : List Field) (octet : UInt8) : Bool × UInt8 :=
  let kept := octet &&& keptBits fields
  let clamped := fields.foldl (fun x field => field.clamp x) kept
  (kept != octet || clamped != kept, clamped)

/-- The normal form of the octets that the layout covers, and whether any of them differs.
Octets beyond stay. -/
def normalise : Layout → Octets → Bool × Octets
  | fields :: layout, octet :: octets =>
    let head := normalOctet fields octet
    let tail := normalise layout octets
    (head.1 || tail.1, head.2 :: tail.2)
  | _, octets => (false, octets)

end Layout

end A2dp
