/-
TowerOfHanoi/Choice.lean

The two named choices of a run: how the moves are produced and in which
format they are written.  Each choice has a lower-case name, and reading a
name is the inverse of writing it.  Names in data are decoded one by one; on a
command line the choices are gone through for one with the name, and the reader
may be told to ignore the case of ASCII letters.
-/

namespace TowerOfHanoi

/-- How the moves are produced: depth first, or by a cursor with an explicit stack. -/
inductive Strategy where
  | recursive
  | iterative
deriving DecidableEq, Repr

/-- How the moves are written. -/
inductive Format where
  | text
  | json
  | csv
deriving DecidableEq, Repr

namespace Strategy

/-- The strategies, in the order in which they are listed to the user. -/
def all : List Strategy := [recursive, iterative]

/-- The name of a strategy. -/
def name : Strategy → String
  | recursive => "recursive"
  | iterative => "iterative"

/-- The strategy that a name in data is decoded to. -/
def decode? : String → Option Strategy
  | "recursive" => some recursive
  | "iterative" => some iterative
  | _ => none

/-- The strategy with exactly this name. -/
def ofName? (s : String) : Option Strategy :=
  all.find? fun x => x.name == s

/-- The strategy with this name up to the case of ASCII letters. -/
def ofNameAnyCase? (s : String) : Option Strategy :=
  all.find? fun x => x.name == s.map Char.toLower

end Strategy

namespace Format

/-- The formats, in the order in which they are listed to the user. -/
def all : List Format := [text, json, csv]

/-- The name of a format. -/
def name : Format → String
  | text => "text"
  | json => "json"
  | csv => "csv"

/-- The format that a name in data is decoded to. -/
def decode? : String → Option Format
  | "text" => some text
  | "json" => some json
  | "csv" => some csv
  | _ => none

/-- The format with exactly this name. -/
def ofName? (s : String) : Option Format :=
  all.find? fun x => x.name == s

/-- The format with this name up to the case of ASCII letters. -/
def ofNameAnyCase? (s : String) : Option Format :=
  all.find? fun x => x.name == s.map Char.toLower

end Format

end TowerOfHanoi
