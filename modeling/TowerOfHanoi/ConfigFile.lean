/-
TowerOfHanoi/ConfigFile.lean

Configuration files.  A file has four sections, and every section and key may
be left out.  Reading a file replaces environment variables in its text,
parses the document and takes the known keys out of it; what is unknown is
ignored as long as its numbers can be represented at all.  Whether the values
make sense is decided afterwards, by `validate`.
-/
import TowerOfHanoi.Choice
import TowerOfHanoi.Environment
import TowerOfHanoi.Puzzle
import TowerOfHanoi.Toml.Document
import TowerOfHanoi.Validation

namespace TowerOfHanoi

/-! ### Sections -/

/-- The puzzle to solve. -/
structure PuzzleSection where
  disks : Option Int := none
  source : Option String := none
  target : Option String := none
  spare : Option String := none
deriving DecidableEq

/-- How to write the moves. -/
structure OutputSection where
  format : Option String := none
  strategy : Option String := none
  verify : Option Bool := none
  summary : Option Bool := none
deriving DecidableEq

/-- Limits on what is accepted. -/
structure LimitsSection where
  maxDisks : Option Nat := none
deriving DecidableEq

/-- How to report. -/
structure LoggingSection where
  verbose : Option Bool := none
  json : Option Bool := none
deriving DecidableEq

/-- A configuration file. -/
structure ConfigFile where
  puzzle : PuzzleSection := {}
  output : OutputSection := {}
  limits : LimitsSection := {}
  logging : LoggingSection := {}
deriving DecidableEq

/-! ### Taking values out of a document -/

open Toml (Node Scalar Entries)

namespace ConfigFile

/-- A signed 64-bit integer. -/
def readInt : Node → Except String Int
  | .scalar (.integer n) => if Text.inInt64 n then .ok n else .error "integer out of range"
  | _ => .error "expected an integer"

/-- An unsigned 32-bit integer. -/
def readCount : Node → Except String Nat
  | .scalar (.integer n) =>
    if 0 ≤ n && n < 4294967296 then .ok n.toNat else .error "integer out of range"
  | _ => .error "expected an integer"

/-- A string. -/
def readText : Node → Except String String
  | .scalar (.string s) => .ok s
  | _ => .error "expected a string"

/-- A truth value. -/
def readBool : Node → Except String Bool
  | .scalar (.boolean b) => .ok b
  | _ => .error "expected true or false"

/-- A scalar under an unknown key: its numbers must be representable in 128 bits, or finite. -/
def ignoreScalar : Scalar → Except String Unit
  | .integer n =>
    if -0x80000000000000000000000000000000 ≤ n && n < 0x100000000000000000000000000000000 then .ok ()
    else .error "integer out of range"
  | .float overflows => if overflows then .error "number out of range" else .ok ()
  | _ => .ok ()

mutual

/-- A value under an unknown key. -/
def ignore : Node → Except String Unit
  | .scalar s => ignoreScalar s
  | .array _ elements => ignoreAll elements
  | .table _ entries => ignoreEntries entries

/-- The elements of an array under an unknown key. -/
def ignoreAll : List Node → Except String Unit
  | [] => .ok ()
  | node :: nodes => do
    ignore node
    ignoreAll nodes

/-- The entries of a table under an unknown key. -/
def ignoreEntries : List (String × Node) → Except String Unit
  | [] => .ok ()
  | (_, node) :: entries => do
    ignore node
    ignoreEntries entries

end

/-- How to take the fields of a section, in the order in which they are declared: each has a key
and a function that stores its value. -/
abbrev Fields (σ : Type) := List (String × (σ → Node → Except String σ))

/-- A field with its key, its reader and the place where it is stored. -/
def fieldOf {σ α : Type} (key : String) (read : Node → Except String α) (store : σ → α → σ) :
    String × (σ → Node → Except String σ) :=
  (key, fun s node => (read node).map (store s))

/-- Takes the fields of a section from a table; unknown keys are ignored. -/
def readTable {σ : Type} (fields : Fields σ) (s : σ) : Entries → Except String σ
  | [] => .ok s
  | (key, node) :: entries => do
    match fields.lookup key with
    | some store => readTable fields (← store s node) entries
    | none =>
      ignore node
      readTable fields s entries

/-- Takes the fields of a section from an array, by position; missing elements leave fields out
and further elements are not looked at. -/
def readArray {σ : Type} (s : σ) : Fields σ → List Node → Except String σ
  | (_, store) :: fields, node :: nodes => do readArray (← store s node) fields nodes
  | _, _ => .ok s

/-- Takes a section from a value: a table, an array of its fields, or a date, which has none. -/
def readSection {σ : Type} (fields : Fields σ) (s : σ) : Node → Except String σ
  | .table _ entries => readTable fields s entries
  | .array _ nodes => readArray s fields nodes
  | .scalar .dateTime => .ok s
  | _ => .error "expected a table"

/-- The fields of the puzzle section. -/
def puzzleFields : Fields PuzzleSection :=
  [fieldOf "disks" readInt fun s v => { s with disks := some v },
    fieldOf "from" readText fun s v => { s with source := some v },
    fieldOf "to" readText fun s v => { s with target := some v },
    fieldOf "aux" readText fun s v => { s with spare := some v }]

/-- The fields of the output section. -/
def outputFields : Fields OutputSection :=
  [fieldOf "format" readText fun s v => { s with format := some v },
    fieldOf "strategy" readText fun s v => { s with strategy := some v },
    fieldOf "verify" readBool fun s v => { s with verify := some v },
    fieldOf "summary" readBool fun s v => { s with summary := some v }]

/-- The fields of the limits section. -/
def limitsFields : Fields LimitsSection :=
  [fieldOf "max_disks" readCount fun s v => { s with maxDisks := some v }]

/-- The fields of the logging section. -/
def loggingFields : Fields LoggingSection :=
  [fieldOf "verbose" readBool fun s v => { s with verbose := some v },
    fieldOf "json" readBool fun s v => { s with json := some v }]

/-- The sections of a file. -/
def sections : Fields ConfigFile :=
  [fieldOf "puzzle" (readSection puzzleFields {}) fun f v => { f with puzzle := v },
    fieldOf "output" (readSection outputFields {}) fun f v => { f with output := v },
    fieldOf "limits" (readSection limitsFields {}) fun f v => { f with limits := v },
    fieldOf "logging" (readSection loggingFields {}) fun f v => { f with logging := v }]

/-- Reads a file from its text. -/
def parse (env : Environment) (text : String) : Except Error ConfigFile :=
  match (Toml.parse (env.substitute text)).bind (readTable sections {}) with
  | .ok file => .ok file
  | .error detail => .error (.malformedFile detail)

/-! ### Values -/

/-- The rod that a label in a field stands for. -/
def peg (field : String) : Option String → Except Error (Option Peg)
  | none => .ok none
  | some label => do
    let c ← Validation.singleChar field label
    return some (← Peg.ofChar c)

/-- The source rod, if the file names one. -/
def sourcePeg (f : ConfigFile) : Except Error (Option Peg) :=
  peg "puzzle.from" f.puzzle.source

/-- The target rod, if the file names one. -/
def targetPeg (f : ConfigFile) : Except Error (Option Peg) :=
  peg "puzzle.to" f.puzzle.target

/-- The spare rod, if the file names one. -/
def sparePeg (f : ConfigFile) : Except Error (Option Peg) :=
  peg "puzzle.aux" f.puzzle.spare

/-- What a name in a field stands for, if it is one of those allowed there. -/
def choice {α : Type} (field : String) (allowed : List String) (read : String → α) :
    Option String → Except Error (Option α)
  | none => .ok none
  | some name => do
    Validation.oneOf field name allowed
    return some (read name)

/-- The format of an allowed name; one that is not any of the others is text. -/
def readFormat : String → Format
  | "json" => .json
  | "csv" => .csv
  | _ => .text

/-- The strategy of an allowed name; one that is not the other is recursive. -/
def readStrategy : String → Strategy
  | "iterative" => .iterative
  | _ => .recursive

/-- The format, if the file names one. -/
def format (f : ConfigFile) : Except Error (Option Format) :=
  choice "output.format" ["text", "json", "csv"] readFormat f.output.format

/-- The strategy, if the file names one. -/
def strategy (f : ConfigFile) : Except Error (Option Strategy) :=
  choice "output.strategy" ["recursive", "iterative"] readStrategy f.output.strategy

/-- The ceiling on the number of disks. -/
def maxDisks (f : ConfigFile) : Nat :=
  f.limits.maxDisks.getD DiskCount.max

/-- Checks the values of a file: the ceiling, the labels, the format and the strategy. -/
def validate (f : ConfigFile) : Except Error Unit := do
  match f.limits.maxDisks with
  | some n => Validation.range "limits.max_disks" n 1 DiskCount.max
  | none => .ok ()
  let _ ← f.sourcePeg
  let _ ← f.targetPeg
  let _ ← f.sparePeg
  let _ ← f.format
  let _ ← f.strategy
  return ()

end ConfigFile

end TowerOfHanoi
