import A2dp.Text.Hex
import A2dp.Text.Shapeless

/-!
# Quoted text

Text between quotes, with a backslash before the quote and before itself, short forms for line
ends and tabulators, and code points in hexadecimal for what would not show.
-/

namespace A2dp.Text

/-- A character as it stands between these quotes. -/
def escaped (quote : Char) (c : Char) : List Char :=
  if c = '\x00' then ['\\', '0']
  else if c = '\t' then ['\\', 't']
  else if c = '\n' then ['\\', 'n']
  else if c = '\r' then ['\\', 'r']
  else if c = '\\' ∨ c = quote then ['\\', c]
  else if isShapeless c then ['\\', 'u', '\x7b'] ++ Hex.minimalDigits c.toNat ++ ['\x7d']
  else [c]

/-- A string between double quotes. -/
def quoted (s : String) : String :=
  String.ofList ('"' :: (s.toList.flatMap (escaped '"') ++ ['"']))

/-- A character between single quotes. -/
def quotedChar (c : Char) : String :=
  String.ofList ('\'' :: (escaped '\'' c ++ ['\'']))

/-- Strings between quotes, divided by commas, in square brackets. -/
def quotedList (items : List String) : String :=
  "[" ++ ", ".intercalate (items.map quoted) ++ "]"

end A2dp.Text
