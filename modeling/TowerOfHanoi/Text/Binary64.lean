/-
TowerOfHanoi/Text/Binary64.lean

When a decimal number is too large for a 64-bit binary floating-point number.
Everything is done with natural numbers: a number is too large when it is at
least as far from the largest finite one as half the gap that would follow.
-/

namespace TowerOfHanoi.Text.Binary64

/-- The smallest magnitude that rounds to infinity. -/
def overflow : Nat := Nat.pow 2 1024 - Nat.pow 2 970

/-- A number rounded to 53 significant binary digits, a tie going to the even neighbour. -/
def round (n : Nat) : Nat :=
  let excess := (Nat.log2 n + 1) - 53
  let unit := Nat.pow 2 excess
  let quotient := n / unit
  let twice := 2 * (n % unit)
  let up := unit < twice || (twice == unit && quotient % 2 == 1)
  (if up then quotient + 1 else quotient) * unit

/-- Whether the rounded significand, times the rounded power of ten, overflows. -/
def productOverflows (significand : Nat) (exponent : Int) : Bool :=
  if significand == 0 || exponent < 0 then false
  else if 308 < exponent then true
  else overflow ≤ round significand * round (Nat.pow 10 exponent.toNat)

/-- Whether `significand * 10 ^ exponent`, rounded once, overflows.  A negative exponent only
matters for a significand that overflows by itself, so its power is never larger than that
significand. -/
def decimalOverflows (significand : Nat) (exponent : Int) : Bool :=
  if significand == 0 then false
  else if 309 < exponent then true
  else if 0 ≤ exponent then overflow ≤ significand * Nat.pow 10 exponent.toNat
  else if significand < overflow then false
  else if (Nat.log2 significand : Int) < -exponent then false
  else overflow * Nat.pow 10 (-exponent).toNat ≤ significand

end TowerOfHanoi.Text.Binary64
