import A2dp.Octets
import A2dp.Text.Blank
import A2dp.Text.Quoted

/-!
# Hexadecimal input

A capability is typed as hexadecimal digits. Blanks and colons may stand anywhere between them,
also inside an octet, and each part between may start with `0x` marks, then `0X` marks.
-/

namespace A2dp.Probe

def isDivider (c : Char) : Bool := Text.isBlank c || c == ':'

/-- The parts between dividers, of which any may be empty. -/
def parts : List Char → List (List Char)
  | [] => [[]]
  | c :: cs =>
    if isDivider c then [] :: parts cs
    else
      match parts cs with
      | [] => [[c]]
      | part :: rest => (c :: part) :: rest

/-- What is left of a part after the marks at its start: a zero and the letter. -/
def stripMarks (letter : Char) : List Char → List Char
  | '0' :: c :: rest => if c = letter then stripMarks letter rest else '0' :: c :: rest
  | cs => cs

/-- The digits of the input, in order. -/
def cleaned (input : List Char) : List Char :=
  (parts input).flatMap fun part => stripMarks 'X' (stripMarks 'x' part)

/-- Why an input is no capability. -/
inductive InputFault where
  /-- The digits spell no octets. -/
  | malformed (cause : Hex.Fault)
  /-- There are no digits. -/
  | empty
  deriving DecidableEq, Repr

/-- The octets of an input, by some way to decode its digits. -/
def readHexBy (decode : Octets → Except Hex.Fault Octets) (input : List Char) :
    Except InputFault Octets :=
  match decode ((cleaned input).flatMap String.utf8EncodeChar) with
  | .ok [] => .error .empty
  | .ok octets => .ok octets
  | .error cause => .error (.malformed cause)

def readHex : List Char → Except InputFault Octets := readHexBy Hex.decode

/-- The wording of a fault in hexadecimal text. The octet is shown as the character with its
number. -/
def faultText : Hex.Fault → String
  | .oddLength => "Odd number of digits"
  | .notDigit octet position =>
    "Invalid character " ++ Text.quotedChar (Char.ofNat octet.toNat) ++ s!" at position {position}"

end A2dp.Probe
