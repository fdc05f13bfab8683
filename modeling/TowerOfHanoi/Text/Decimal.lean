/-
TowerOfHanoi/Text/Decimal.lean

Decimal notation.  `digits` writes a number without leading zeros and
`value` reads a row of digits back; `integer?` reads an optional sign
followed by digits, and accepts only what fits in 64 bits.
-/
import TowerOfHanoi.Text.Class

namespace TowerOfHanoi.Text

/-! ### Writing -/

/-- The character of a digit below ten. -/
def digitChar (d : Nat) : Char :=
  Char.ofNat ('0'.toNat + d)

/-- The decimal digits of a number, most significant first. -/
def digits (n : Nat) : List Char :=
  if n < 10 then [digitChar n] else digits (n / 10) ++ [digitChar (n % 10)]
termination_by n
decreasing_by omega

/-- A natural number in decimal notation. -/
def decimal (n : Nat) : String :=
  String.ofList (digits n)

/-- An integer in decimal notation, a negative one with a leading minus sign. -/
def integer : Int → String
  | .ofNat n => decimal n
  | .negSucc n => "-" ++ decimal (n + 1)

/-! ### Reading -/

/-- The value of a digit character. -/
def digitValue (c : Char) : Nat :=
  c.toNat - '0'.toNat

/-- The number that a row of digits denotes, leading zeros allowed. -/
def value (ds : List Char) : Nat :=
  ds.foldl (fun n c => 10 * n + digitValue c) 0

/-- A non-empty row of digits read as a number. -/
def natural? (cs : List Char) : Option Nat :=
  if !cs.isEmpty && cs.all isDigit then some (value cs) else none

/-- The signed 64-bit range. -/
def inInt64 (n : Int) : Bool :=
  -9223372036854775808 ≤ n && n < 9223372036854775808

/-- An optional sign and a row of digits, accepted when the number fits in 64 bits. -/
def integer? (s : String) : Option Int :=
  let signed : Option Int :=
    match s.toList with
    | '+' :: cs => (natural? cs).map Int.ofNat
    | '-' :: cs => (natural? cs).map fun n => -(n : Int)
    | cs => (natural? cs).map Int.ofNat
  signed.filter inInt64

end TowerOfHanoi.Text
