/-
TowerOfHanoi/Text/Escape.lean

Escaped characters in messages.  A label that cannot be shown is written as
an escape sequence of printable ASCII: the usual letters for tab, carriage
return and newline, a backslash before quotes and backslashes, and the
hexadecimal code point in braces for everything else.
-/

namespace TowerOfHanoi.Text

/-- The character of a hexadecimal digit, in lower case. -/
def hexChar (d : Nat) : Char :=
  if d < 10 then Char.ofNat ('0'.toNat + d) else Char.ofNat ('a'.toNat + (d - 10))

/-- The hexadecimal digits of a number, most significant first. -/
def hexDigits (n : Nat) : List Char :=
  if n < 16 then [hexChar n] else hexDigits (n / 16) ++ [hexChar (n % 16)]
termination_by n
decreasing_by omega

/-- The hexadecimal digits padded with zeros to at least `width` digits. -/
def hexPadded (width n : Nat) : List Char :=
  let ds := hexDigits n
  List.replicate (width - ds.length) '0' ++ ds

/-- The escape sequence that gives a code point in braces. -/
def codePoint (c : Char) : String :=
  String.ofList (['\\', 'u', '\x7b'] ++ hexDigits c.toNat ++ ['\x7d'])

/-- A character in printable ASCII: escaped unless it is printable ASCII itself. -/
def escape (c : Char) : String :=
  if c = '\t' then "\\t"
  else if c = '\r' then "\\r"
  else if c = '\n' then "\\n"
  else if c = '\x27' || c = '"' || c = '\\' then String.ofList ['\\', c]
  else if 0x20 ≤ c.toNat && c.toNat ≤ 0x7E then String.ofList [c]
  else codePoint c

end TowerOfHanoi.Text
