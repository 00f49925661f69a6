import A2dp.Text.Hex

/-!
# Reading JSON

Readers take the characters before them and give the rest, or nothing if the text is malformed.
Values that are not needed are passed over: they have to be well formed, but a string among them
may hold half of a surrogate pair, which spells no character.
-/

namespace A2dp.Text.JsonReader

def skipBlanks (cs : List Char) : List Char :=
  cs.dropWhile fun c => c == ' ' || c == '\t' || c == '\n' || c == '\r'

/-- A part of a string: a character, or a code unit written as a number. -/
inductive Piece where
  | char (c : Char)
  | unit (n : Nat)

/-- The number of four hexadecimal digits. -/
def codeUnit (a b c d : Char) : Option Nat := do
  let a ← Hex.digitValue? a
  let b ← Hex.digitValue? b
  let c ← Hex.digitValue? c
  let d ← Hex.digitValue? d
  return ((a * 16 + b) * 16 + c) * 16 + d

/-- The character that a letter stands for after a backslash. -/
def shortEscape (c : Char) : Option Char :=
  if c = '"' ∨ c = '\\' ∨ c = '/' then some c
  else if c = 'b' then some '\x08'
  else if c = 'f' then some '\x0c'
  else if c = 'n' then some '\n'
  else if c = 'r' then some '\r'
  else if c = 't' then some '\t'
  else none

/-- The parts of a string up to its closing quote, the opening one being passed. -/
def pieces : List Char → Option (List Piece × List Char)
  | [] => none
  | '"' :: rest => some ([], rest)
  | '\\' :: 'u' :: a :: b :: c :: d :: rest => do
    let n ← codeUnit a b c d
    let tail ← pieces rest
    return (.unit n :: tail.1, tail.2)
  | '\\' :: letter :: rest => do
    let c ← shortEscape letter
    let tail ← pieces rest
    return (.char c :: tail.1, tail.2)
  | c :: rest =>
    if c.toNat < 0x20 then none
    else do
      let tail ← pieces rest
      return (.char c :: tail.1, tail.2)

/-- The first half of a surrogate pair. -/
def isHigh (n : Nat) : Bool := 0xD800 ≤ n && n ≤ 0xDBFF

def isLow (n : Nat) : Bool := 0xDC00 ≤ n && n ≤ 0xDFFF

/-- The characters that the parts spell. Half of a surrogate pair spells none. -/
def assemble : List Piece → Option (List Char)
  | [] => some []
  | .char c :: rest => do return c :: (← assemble rest)
  | .unit high :: .unit low :: rest =>
    if isHigh high && isLow low then do
      return Char.ofNat (0x10000 + (high - 0xD800) * 0x400 + (low - 0xDC00)) :: (← assemble rest)
    else if isHigh high || isLow high then none
    else do return Char.ofNat high :: (← assemble (.unit low :: rest))
  | .unit n :: rest =>
    if isHigh n || isLow n then none else do return Char.ofNat n :: (← assemble rest)

/-- A string and its text. -/
def string (cs : List Char) : Option (String × List Char) :=
  match skipBlanks cs with
  | '"' :: rest => do
    let literal ← pieces rest
    let chars ← assemble literal.1
    return (String.ofList chars, literal.2)
  | _ => none

def bool (cs : List Char) : Option (Bool × List Char) :=
  match skipBlanks cs with
  | 't' :: 'r' :: 'u' :: 'e' :: rest => some (true, rest)
  | 'f' :: 'a' :: 'l' :: 's' :: 'e' :: rest => some (false, rest)
  | _ => none

/-- A mark such as a bracket or a comma. -/
def mark (m : Char) (cs : List Char) : Option (List Char) :=
  match skipBlanks cs with
  | c :: rest => if c = m then some rest else none
  | [] => none

/-- Passes over one or more digits. -/
def skipDigits : List Char → Option (List Char)
  | c :: rest => if c.isDigit then some (rest.dropWhile Char.isDigit) else none
  | [] => none

/-- Passes over the whole part of a number: no zero before another digit. -/
def skipWhole : List Char → Option (List Char)
  | '0' :: c :: rest => if c.isDigit then none else some (c :: rest)
  | cs => skipDigits cs

def skipNumber (cs : List Char) : Option (List Char) := do
  let cs ← match cs with
    | '-' :: rest => skipWhole rest
    | cs => skipWhole cs
  let cs ← match cs with
    | '.' :: rest => skipDigits rest
    | cs => some cs
  match cs with
  | e :: rest =>
    if e = 'e' ∨ e = 'E' then
      match rest with
      | '+' :: rest | '-' :: rest => skipDigits rest
      | rest => skipDigits rest
    else some (e :: rest)
  | [] => some []

mutual

/-- Passes over a value that is nested less deeply than the fuel. -/
def skipValue : Nat → List Char → Option (List Char)
  | 0, _ => none
  | fuel + 1, cs =>
    match skipBlanks cs with
    | '"' :: rest => (pieces rest).map (·.2)
    | 'n' :: 'u' :: 'l' :: 'l' :: rest => some rest
    | 't' :: 'r' :: 'u' :: 'e' :: rest => some rest
    | 'f' :: 'a' :: 'l' :: 's' :: 'e' :: rest => some rest
    | '[' :: rest =>
      match mark ']' rest with
      | some rest => some rest
      | none => skipItems fuel rest
    | '\x7b' :: rest =>
      match mark '\x7d' rest with
      | some rest => some rest
      | none => skipMembers fuel rest
    | cs => skipNumber cs

/-- Passes over the items of an array, up to its closing bracket. -/
def skipItems : Nat → List Char → Option (List Char)
  | 0, _ => none
  | fuel + 1, cs => do
    let rest ← skipValue fuel cs
    match mark ',' rest with
    | some rest => skipItems fuel rest
    | none => mark ']' rest

/-- Passes over the members of an object, up to its closing bracket. -/
def skipMembers : Nat → List Char → Option (List Char)
  | 0, _ => none
  | fuel + 1, cs => do
    let rest ← mark '"' cs
    let name ← pieces rest
    let rest ← mark ':' name.2
    let rest ← skipValue fuel rest
    match mark ',' rest with
    | some rest => skipMembers fuel rest
    | none => mark '\x7d' rest

end

/-- Passes over any value. Each bracket and each comma takes a character, so that the fuel
suffices. -/
def skip (cs : List Char) : Option (List Char) := skipValue (2 * cs.length + 2) cs

end A2dp.Text.JsonReader
