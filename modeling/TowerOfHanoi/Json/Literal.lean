/-
TowerOfHanoi/Json/Literal.lean

JSON string literals.  Quotes, backslashes and control characters below
U+0020 are escaped, by a letter where there is one and otherwise by four
hexadecimal digits; every other character stands for itself.
-/
import TowerOfHanoi.Text.Escape

namespace TowerOfHanoi.Json

/-- A character inside a string literal. -/
def escapeChar (c : Char) : List Char :=
  if c = '"' then ['\\', '"']
  else if c = '\\' then ['\\', '\\']
  else if c = '\x08' then ['\\', 'b']
  else if c = '\x0c' then ['\\', 'f']
  else if c = '\n' then ['\\', 'n']
  else if c = '\r' then ['\\', 'r']
  else if c = '\t' then ['\\', 't']
  else if c.toNat < 0x20 then ['\\', 'u'] ++ Text.hexPadded 4 c.toNat
  else [c]

/-- The text between the quotes of a string literal. -/
def escapeText (s : String) : String :=
  String.ofList (s.toList.flatMap escapeChar)

/-- A string literal. -/
def quote (s : String) : String :=
  "\"" ++ escapeText s ++ "\""

end TowerOfHanoi.Json
