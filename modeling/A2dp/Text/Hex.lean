/-!
# Hexadecimal text

Numerals of a fixed number of digits, and octet strings as pairs of digits. Writing uses lower
case; reading takes either case, works on the octets of the text and names the first fault.
-/

namespace A2dp.Hex

/-- The lower-case digit of a value below sixteen. -/
def digit (n : Nat) : Char :=
  if n < 10 then Char.ofNat (48 + n) else Char.ofNat (87 + n)

/-- The value of a digit of either case. -/
def digitValue? (c : Char) : Option Nat :=
  if '0' ≤ c ∧ c ≤ '9' then some (c.toNat - 48)
  else if 'a' ≤ c ∧ c ≤ 'f' then some (c.toNat - 87)
  else if 'A' ≤ c ∧ c ≤ 'F' then some (c.toNat - 55)
  else none

/-- The last `width` digits of a number, the most significant one first. -/
def digits : Nat → Nat → List Char
  | 0, _ => []
  | width + 1, n => digits width (n / 16) ++ [digit (n % 16)]

@[simp] theorem length_digits (width n : Nat) : (digits width n).length = width := by
  induction width generalizing n with
  | zero => rfl
  | succ width ih => simp [digits, ih]

/-- A number below `16 ^ width` as `0x` and exactly `width` digits. -/
def numeral (width n : Nat) : String :=
  "0x" ++ String.ofList (digits width n)

/-- As few digits as a number needs, at least one. -/
def minimalDigits (n : Nat) : List Char := digits (n.log2 / 4 + 1) n

/-- A number as `0x` and as few digits as it needs. -/
def shortNumeral (n : Nat) : String := "0x" ++ String.ofList (minimalDigits n)

/-- The digits of an octet string, two to an octet. -/
def ofOctets (octets : List UInt8) : List Char :=
  octets.flatMap fun octet => digits 2 octet.toNat

def text (octets : List UInt8) : String :=
  String.ofList (ofOctets octets)

/-- Why a text spells no octet string. -/
inductive Fault where
  /-- The text has an odd number of octets. -/
  | oddLength
  /-- The octet at the position is no digit. -/
  | notDigit (octet : UInt8) (position : Nat)
  deriving DecidableEq, Repr

/-- The value of the digit that an octet of text stands for. -/
def nibble (position : Nat) (octet : UInt8) : Except Fault Nat :=
  match digitValue? (Char.ofNat octet.toNat) with
  | some value => .ok value
  | none => .error (.notDigit octet position)

/-- The octets spelled by consecutive pairs of digits, the first of which is at the position. -/
def ofPairs (position : Nat) : List UInt8 → Except Fault (List UInt8)
  | [] => .ok []
  | [_] => .error .oddLength
  | high :: low :: rest => do
    let high ← nibble position high
    let low ← nibble (position + 1) low
    let tail ← ofPairs (position + 2) rest
    return UInt8.ofNat (16 * high + low) :: tail

/-- The octets that a text spells. An odd length is a fault before any digit is looked at. -/
def decode (text : List UInt8) : Except Fault (List UInt8) :=
  if text.length % 2 = 1 then .error .oddLength else ofPairs 0 text

end A2dp.Hex
