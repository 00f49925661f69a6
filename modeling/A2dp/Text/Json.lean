import A2dp.Text.Hex

/-!
# JSON documents

A document and its text over several lines: two spaces for each level, members in the order in
which they are given, brackets without content on one line.
-/

namespace A2dp.Text

inductive Json where
  | bool (value : Bool)
  | number (value : Int)
  | string (value : String)
  | array (items : List Json)
  | object (members : List (String × Json))

namespace Json

/-- A character as it stands in a string. -/
def escapedChar (c : Char) : List Char :=
  if c = '"' ∨ c = '\\' then ['\\', c]
  else if c = '\x08' then ['\\', 'b']
  else if c = '\t' then ['\\', 't']
  else if c = '\n' then ['\\', 'n']
  else if c = '\x0c' then ['\\', 'f']
  else if c = '\r' then ['\\', 'r']
  else if c.toNat < 0x20 then ['\\', 'u'] ++ Hex.digits 4 c.toNat
  else [c]

def stringText (s : String) : String :=
  String.ofList ('"' :: (s.toList.flatMap escapedChar ++ ['"']))

def indent (depth : Nat) : String := String.ofList (List.replicate (2 * depth) ' ')

mutual

/-- The text of a document that starts at a level. -/
def text (depth : Nat) : Json → String
  | .bool true => "true"
  | .bool false => "false"
  | .number n => toString n
  | .string s => stringText s
  | .array [] => "[]"
  | .array (item :: items) =>
    "[\n" ++ indent (depth + 1) ++ text (depth + 1) item ++ itemsText (depth + 1) items ++ "\n" ++
      indent depth ++ "]"
  | .object [] => "\x7b\x7d"
  | .object ((name, value) :: members) =>
    "\x7b\n" ++ indent (depth + 1) ++ stringText name ++ ": " ++ text (depth + 1) value ++
      membersText (depth + 1) members ++ "\n" ++ indent depth ++ "\x7d"

/-- The items after the first one. -/
def itemsText (depth : Nat) : List Json → String
  | [] => ""
  | item :: items => ",\n" ++ indent depth ++ text depth item ++ itemsText depth items

/-- The members after the first one. -/
def membersText (depth : Nat) : List (String × Json) → String
  | [] => ""
  | (name, value) :: members =>
    ",\n" ++ indent depth ++ stringText name ++ ": " ++ text depth value ++
      membersText depth members

end

def pretty (j : Json) : String := text 0 j

end Json

end A2dp.Text
