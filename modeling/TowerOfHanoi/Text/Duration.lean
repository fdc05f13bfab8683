/-
TowerOfHanoi/Text/Duration.lean

Points and spans of time in messages.  A span is written in the largest unit
of which it holds at least one, with as many decimals as it needs.
-/
import TowerOfHanoi.Text.Decimal

namespace TowerOfHanoi.Text

/-- A number padded with zeros to at least `width` digits. -/
def padded (width n : Nat) : List Char :=
  let ds := digits n
  List.replicate (width - ds.length) '0' ++ ds

/-- The decimals of `n` out of `10 ^ width`, without zeros at the end, after a point if there are
any. -/
def decimals (width n : Nat) : List Char :=
  match ((padded width n).reverse.dropWhile (· == '0')).reverse with
  | [] => []
  | ds => '.' :: ds

/-- A span of time, given in nanoseconds. -/
def duration (nanos : Nat) : String :=
  let inUnit (width : Nat) (unit : String) : String :=
    String.ofList (digits (nanos / Nat.pow 10 width) ++ decimals width (nanos % Nat.pow 10 width)) ++ unit
  if 1000000000 ≤ nanos then inUnit 9 "s"
  else if 1000000 ≤ nanos then inUnit 6 "ms"
  else if 1000 ≤ nanos then inUnit 3 "µs"
  else inUnit 0 "ns"

/-! ### Moments -/

/-- A date and a time of day with microseconds. -/
structure Moment where
  year : Nat
  month : Nat
  day : Nat
  hour : Nat
  minute : Nat
  second : Nat
  micros : Nat

/-- The moment that lies a number of microseconds after the start of 1970.  Days are counted from
the first of March of the year zero, so that a leap day is the last of its year, in eras of 400
years or 146097 days. -/
def Moment.ofMicros (micros : Nat) : Moment :=
  let seconds := micros / 1000000
  let days := seconds / 86400 + 719468
  let dayOfEra := days % 146097
  let yearOfEra :=
    (dayOfEra - dayOfEra / 1460 + dayOfEra / 36524 - dayOfEra / 146096) / 365
  let dayOfYear := dayOfEra - (365 * yearOfEra + yearOfEra / 4 - yearOfEra / 100)
  let monthFromMarch := (5 * dayOfYear + 2) / 153
  let month := if monthFromMarch < 10 then monthFromMarch + 3 else monthFromMarch - 9
  { year := days / 146097 * 400 + yearOfEra + (if month ≤ 2 then 1 else 0)
    month
    day := dayOfYear - (153 * monthFromMarch + 2) / 5 + 1
    hour := seconds / 3600 % 24
    minute := seconds / 60 % 60
    second := seconds % 60
    micros := micros % 1000000 }

/-- A moment of universal time, in the form `2000-01-31T23:59:59.000000Z`. -/
def Moment.text (m : Moment) : String :=
  String.ofList (padded 4 m.year ++ '-' :: padded 2 m.month ++ '-' :: padded 2 m.day ++
    'T' :: padded 2 m.hour ++ ':' :: padded 2 m.minute ++ ':' :: padded 2 m.second ++
    '.' :: padded 6 m.micros ++ ['Z'])

end TowerOfHanoi.Text
