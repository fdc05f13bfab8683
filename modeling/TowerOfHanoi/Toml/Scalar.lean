/-
TowerOfHanoi/Toml/Scalar.lean

Unquoted values: truth values, numbers, dates and times.  The whole word has
to be one of them.

* Integers are decimal without leading zeros, or follow a lower-case base
  mark; underscores stand between digits only.
* Floating-point numbers have a fraction, an exponent or both, or are
  infinite or not a number.
* Dates exist in the calendar; a time may leave out its seconds, and sixty
  of them are allowed for a leap second.
-/
import TowerOfHanoi.Text.Binary64
import TowerOfHanoi.Text.Decimal
import TowerOfHanoi.Toml.Value

namespace TowerOfHanoi.Toml

/-! ### Digits -/

/-- Digits with single underscores between them; the result is the digits alone. -/
def separatedDigits? (isDigit : Char → Bool) : List Char → Option (List Char)
  | [] => none
  | [c] => if isDigit c then some [c] else none
  | c :: '_' :: rest => if isDigit c then (separatedDigits? isDigit rest).map (c :: ·) else none
  | c :: rest => if isDigit c then (separatedDigits? isDigit rest).map (c :: ·) else none

/-- Decimal digits in which a leading zero stands alone. -/
def unsigned? (cs : List Char) : Option (List Char) :=
  match separatedDigits? Text.isDigit cs with
  | some ('0' :: _ :: _) => none
  | ds => ds

/-- A number in a base up to sixteen. -/
def radix? (base : Nat) (cs : List Char) : Option Nat :=
  let isDigit (c : Char) : Bool :=
    match Text.hexValue? c with
    | some d => d < base
    | none => false
  (separatedDigits? isDigit cs).map fun ds =>
    ds.foldl (fun n c => base * n + (Text.hexValue? c).getD 0) 0

/-! ### Numbers -/

/-- An exponent with an optional sign. -/
def exponent? (cs : List Char) : Option Int :=
  let digits? (cs : List Char) : Option Nat := (separatedDigits? Text.isDigit cs).map Text.value
  match cs with
  | '+' :: cs => (digits? cs).map Int.ofNat
  | '-' :: cs => (digits? cs).map fun n => -(n : Int)
  | cs => (digits? cs).map Int.ofNat

/-- A floating-point number without its sign. -/
def float? (cs : List Char) : Option Scalar := do
  let isMark (c : Char) : Bool := c == 'e' || c == 'E'
  let mantissa := cs.takeWhile fun c => !isMark c
  let exponent ←
    match cs.dropWhile fun c => !isMark c with
    | [] => some none
    | _ :: rest => (exponent? rest).map some
  let whole := mantissa.takeWhile (· != '.')
  let fraction ←
    match mantissa.dropWhile (· != '.') with
    | [] => some none
    | _ :: rest => (separatedDigits? Text.isDigit rest).map some
  let whole ← unsigned? whole
  if fraction.isNone && exponent.isNone then none
  else
    let fraction := fraction.getD []
    let significand := Text.value (whole ++ fraction)
    let exponent := exponent.getD 0 - fraction.length
    return .float (Text.Binary64.decimalOverflows significand exponent)

/-- A decimal integer or a floating-point number, without its sign. -/
def number? (negative : Bool) (cs : List Char) : Option Scalar :=
  match cs with
  | ['i', 'n', 'f'] | ['n', 'a', 'n'] => some (.float false)
  | _ =>
    match unsigned? cs with
    | some ds =>
      let n : Int := Text.value ds
      some (.integer (if negative then -n else n))
    | none => float? cs

/-! ### Dates and times -/

/-- Two digits as a number. -/
def twoDigits? : List Char → Option (Nat × List Char)
  | a :: b :: rest => if Text.isDigit a && Text.isDigit b then some (Text.value [a, b], rest) else none
  | _ => none

/-- The number of days of a month. -/
def daysIn (year month : Nat) : Nat :=
  if month = 2 then
    if (year % 4 = 0 && year % 100 ≠ 0) || year % 400 = 0 then 29 else 28
  else if month = 4 || month = 6 || month = 9 || month = 11 then 30
  else 31

/-- A date that exists. -/
def date? : List Char → Option (List Char)
  | a :: b :: c :: d :: '-' :: rest => do
    if [a, b, c, d].all Text.isDigit then
      match ← twoDigits? rest with
      | (month, '-' :: rest) =>
        let (day, rest) ← twoDigits? rest
        if 1 ≤ month && month ≤ 12 && 1 ≤ day && day ≤ daysIn (Text.value [a, b, c, d]) month then
          some rest
        else none
      | _ => none
    else none
  | _ => none

/-- The fraction of a second, if there is one. -/
def secondFraction? : List Char → Option (List Char)
  | '.' :: rest =>
    match rest.takeWhile Text.isDigit with
    | [] => none
    | _ :: _ => some (rest.dropWhile Text.isDigit)
  | rest => some rest

/-- A time of day. -/
def time? (cs : List Char) : Option (List Char) := do
  match ← twoDigits? cs with
  | (hour, ':' :: rest) =>
    let (minute, rest) ← twoDigits? rest
    if 23 < hour || 59 < minute then none
    else
      match rest with
      | ':' :: rest =>
        let (second, rest) ← twoDigits? rest
        if 60 < second then none else secondFraction? rest
      | rest => some rest
  | _ => none

/-- The offset from universal time, if there is one, up to the end of the word. -/
def offset? : List Char → Option Unit
  | [] | ['Z'] | ['z'] => some ()
  | '+' :: rest | '-' :: rest => do
    match ← twoDigits? rest with
    | (hour, ':' :: rest) =>
      let (minute, rest) ← twoDigits? rest
      if 23 < hour || 59 < minute || !rest.isEmpty then none else some ()
    | _ => none
  | _ => none

/-- A date, a time, or a date with a time. -/
def dateTime? (cs : List Char) : Option Scalar :=
  match date? cs with
  | some [] => some .dateTime
  | some (c :: rest) =>
    if c = 'T' || c = 't' || c = ' ' then
      ((time? rest).bind offset?).map fun _ => .dateTime
    else none
  | none =>
    match time? cs with
    | some [] => some .dateTime
    | _ => none

/-! ### Words -/

/-- An unquoted value. -/
def word? : List Char → Option Scalar
  | ['t', 'r', 'u', 'e'] => some (.boolean true)
  | ['f', 'a', 'l', 's', 'e'] => some (.boolean false)
  | '0' :: 'x' :: cs => (radix? 16 cs).map fun n => .integer n
  | '0' :: 'o' :: cs => (radix? 8 cs).map fun n => .integer n
  | '0' :: 'b' :: cs => (radix? 2 cs).map fun n => .integer n
  | '+' :: cs => number? false cs
  | '-' :: cs => number? true cs
  | cs => (number? false cs).or (dateTime? cs)

end TowerOfHanoi.Toml
