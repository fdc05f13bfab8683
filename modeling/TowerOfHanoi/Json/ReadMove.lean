/-
TowerOfHanoi/Json/ReadMove.lean

Reading a move from JSON.  A move is an object with the keys `disk`, `from`
and `to`, in any order and among other keys, or a list of the three values.
A key that repeats is refused where it repeats, before its value is read.
-/
import TowerOfHanoi.Json.Scan
import TowerOfHanoi.Move

namespace TowerOfHanoi.Json

/-- The disk of a move is below this bound. -/
def diskBound : Nat := 4294967296

/-! ### Values -/

/-- Refuses a value of the wrong kind, or the grammar of a value that is not even one. -/
def mistyped {α : Type} (cs : List Char) : Except Fault α :=
  let after {β : Type} (result : Except Fault β) : Except Fault α :=
    match result with
    | .error fault => .error fault
    | .ok _ => .error .mistyped
  match cs with
  | 'n' :: rest => after (word ['u', 'l', 'l'] rest)
  | 't' :: rest => after (word ['r', 'u', 'e'] rest)
  | 'f' :: rest => after (word ['a', 'l', 's', 'e'] rest)
  | '"' :: rest => after (stringBody rest)
  | '-' :: rest => after (number false rest)
  | '[' :: _ | '\x7b' :: _ => .error .mistyped
  | c :: rest =>
    if Text.isDigit c then after (number true (c :: rest)) else .error .malformed
  | [] => .error .malformed

/-- The disk of a move: a natural number below the bound. -/
def readDisk (cs : List Char) : Except Fault (Nat × List Char) :=
  match skipSpace cs with
  | [] => .error .truncated
  | c :: rest =>
    if Text.isDigit c then
      match number true (c :: rest) with
      | .error fault => .error fault
      | .ok (.natural n, rest) => if n < diskBound then .ok (n, rest) else .error .mistyped
      | .ok (.other, _) => .error .mistyped
    else mistyped (c :: rest)

/-- A rod of a move: a string that is a label. -/
def readPeg (cs : List Char) : Except Fault (Peg × List Char) :=
  match skipSpace cs with
  | [] => .error .truncated
  | c :: rest =>
    if c = '"' then
      match stringBody rest with
      | .error fault => .error fault
      | .ok (text, rest) =>
        match Peg.ofString (String.ofList text) with
        | .ok peg => .ok (peg, rest)
        | .error _ => .error .mistyped
    else mistyped (c :: rest)

/-! ### Objects -/

/-- The members of a move read so far. -/
structure Members where
  disk : Option Nat := none
  source : Option Peg := none
  target : Option Peg := none

/-- The colon between a key and its value. -/
def colon (cs : List Char) : Except Fault (List Char) :=
  match skipSpace cs with
  | [] => .error .truncated
  | ':' :: rest => .ok rest
  | _ => .error .malformed

/-- One member, after the opening quote of its key. -/
def readMember (members : Members) (cs : List Char) : Except Fault (Members × List Char) := do
  let (key, cs) ← stringBody cs
  if key = "disk".toList then
    if members.disk.isSome then .error .mistyped
    else
      let (disk, cs) ← readDisk (← colon cs)
      return ({ members with disk := some disk }, cs)
  else if key = "from".toList then
    if members.source.isSome then .error .mistyped
    else
      let (source, cs) ← readPeg (← colon cs)
      return ({ members with source := some source }, cs)
  else if key = "to".toList then
    if members.target.isSome then .error .mistyped
    else
      let (target, cs) ← readPeg (← colon cs)
      return ({ members with target := some target }, cs)
  else
    let cs ← skipValue (← colon cs)
    return (members, cs)

/-- The opening quote of the next key, after a comma unless it is the first; nothing at the end of
the object. -/
def nextKey (first : Bool) (cs : List Char) : Except Fault (Option (List Char) × List Char) :=
  match skipSpace cs with
  | [] => .error .truncated
  | '\x7d' :: rest => .ok (none, rest)
  | ',' :: rest =>
    if first then .error .malformed
    else
      match skipSpace rest with
      | [] => .error .truncated
      | '"' :: rest => .ok (some rest, rest)
      | _ => .error .malformed
  | '"' :: rest => if first then .ok (some rest, rest) else .error .malformed
  | _ => .error .malformed

/-- The members of an object up to its end; `fuel` bounds their number. -/
def readMembers : (fuel : Nat) → (first : Bool) → Members → List Char →
    Except Fault (Members × List Char)
  | 0, _, _, _ => .error .malformed
  | fuel + 1, first, members, cs =>
    match nextKey first cs with
    | .error fault => .error fault
    | .ok (none, cs) => .ok (members, cs)
    | .ok (some cs, _) =>
      match readMember members cs with
      | .error fault => .error fault
      | .ok (members, cs) => readMembers fuel false members cs

/-- A move as an object, after its opening brace. -/
def readObject (cs : List Char) : Except Fault (Move × List Char) := do
  let (members, cs) ← readMembers (cs.length + 1) true {} cs
  match members with
  | ⟨some disk, some source, some target⟩ => return (⟨disk, source, target⟩, cs)
  | _ => .error .mistyped

/-! ### Lists -/

/-- The start of an element of a list, after a comma unless it is the first; a list that ends here
is too short. -/
def nextElement (first : Bool) (cs : List Char) : Except Fault (List Char) :=
  match skipSpace cs with
  | [] => .error .truncated
  | ']' :: _ => .error .mistyped
  | c :: rest =>
    if first then .ok (c :: rest)
    else if c = ',' then
      match skipSpace rest with
      | [] => .error .truncated
      | ']' :: _ => .error .malformed
      | rest => .ok rest
    else .error .malformed

/-- A move as a list, after its opening bracket. -/
def readList (cs : List Char) : Except Fault (Move × List Char) := do
  let (disk, cs) ← readDisk (← nextElement true cs)
  let (source, cs) ← readPeg (← nextElement false cs)
  let (target, cs) ← readPeg (← nextElement false cs)
  match skipSpace cs with
  | [] => .error .truncated
  | ']' :: rest => return (⟨disk, source, target⟩, rest)
  | _ => .error .malformed

/-! ### Moves -/

/-- Reads a move from a whole text. -/
def readMove (s : String) : Except Fault Move := do
  let (m, rest) ←
    match skipSpace s.toList with
    | [] => .error .truncated
    | '\x7b' :: rest => readObject rest
    | '[' :: rest => readList rest
    | cs => mistyped cs
  if (skipSpace rest).isEmpty then return m else .error .malformed

end TowerOfHanoi.Json
