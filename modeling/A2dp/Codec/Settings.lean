import A2dp.Codec.Layout

/-!
# Settings as numbers and text

What decoded fields stand for, how they are described, and when a sink that accepts some settings
can take others.
-/

namespace A2dp

/-- The names of the set bits in the order of the table, or `NONE`, and the bits in hexadecimal. -/
def describeBits (value : UInt8) (table : List (UInt8 × String)) : String :=
  let names := (table.filter fun row => value &&& row.1 != 0).map (·.2)
  let listed := if names.isEmpty then "NONE" else " ".intercalate names
  listed ++ " (" ++ Hex.numeral 2 value.toNat ++ ")"

namespace Entry

/-- The number that the entry gives to a setting: that of the one alternative whose bit is its
value. -/
def number? (entry : Entry) (setting : Setting) : Option Nat :=
  match entry.field with
  | .choice s choices =>
    if s = setting then (choices.find? fun c => c.bit == entry.value).map (·.value) else none
  | _ => none

/-- The bits that the entry has of a setting. -/
def bits? (entry : Entry) (setting : Setting) : Option UInt8 :=
  match entry.field with
  | .choice s _ => if s = setting then some entry.value else none
  | _ => none

/-- The highest bit rate, if the entry is a rate code. -/
def rate? (entry : Entry) : Option Nat :=
  match entry.field with
  | .rateCode rates => rates[entry.value.toNat]?
  | _ => none

/-- The text of an entry behind its label. -/
def text (entry : Entry) : String :=
  match entry.field with
  | .choice _ choices => describeBits entry.value (choices.map fun c => (c.bit, c.name))
  | .rateCode rates =>
    let kilobits := (rates.getD entry.value.toNat 0) / 1000
    let code := entry.value.toNat
    s!"{kilobits} kbit/s (code {code})"
  | .version => Hex.numeral 2 entry.value.toNat
  | .features table => describeBits entry.value (table.map fun f => (f.bit, f.name))
  | .reserved => ""

/-- The label of an entry. Reserved octets have none and are not described. -/
def label? (entry : Entry) : Option String :=
  match entry.field with
  | .choice setting _ => some setting.label
  | .rateCode _ => some "max_bit_rate"
  | .version => some "version"
  | .features _ => some "features"
  | .reserved => none

def line (entry : Entry) : String :=
  match entry.label? with
  | some label => "\t" ++ label ++ ": " ++ entry.text ++ "\n"
  | none => ""

/-- The entry has something in common with what is accepted of its field. -/
def meets (entry : Entry) (accepted : UInt8) : Bool :=
  match entry.field with
  | .choice _ _ => entry.value &&& accepted != 0
  | .rateCode _ => entry.value ≤ accepted
  | .version | .features _ | .reserved => true

end Entry

namespace Settings

/-- The number of a setting, from the first field that gives one. -/
def number? (settings : Settings) (setting : Setting) : Option Nat :=
  settings.findSome? fun entry => entry.number? setting

/-- The bits of a setting, from the first field that is a choice for it. -/
def bits? (settings : Settings) (setting : Setting) : Option UInt8 :=
  settings.findSome? fun entry => entry.bits? setting

def rate? (settings : Settings) : Option Nat :=
  settings.findSome? Entry.rate?

def text (settings : Settings) : String :=
  String.join (settings.map Entry.line)

/-- Each entry has something in common with what is accepted of its field. -/
def meets (settings : Settings) (accepted : List UInt8) : Bool :=
  (settings.zip accepted).all fun pair => pair.1.meets pair.2

end Settings

end A2dp
