/-
TowerOfHanoi/Log/Event.lean

What a run logs.  Every event has a level, a target and a message; what the
message says about the clock and about the inside of a parser is left to a
`View`, since it is not for the run to decide.
-/
import TowerOfHanoi.Engine
import TowerOfHanoi.Log.Filter
import TowerOfHanoi.Settings
import TowerOfHanoi.Text.Printable

namespace TowerOfHanoi.Log

/-- How a reader sees what a run does not decide: the time, how long the moves took, as text and
in milliseconds, and a parser's account of what it refuses. -/
structure View where
  time : String
  elapsed : String
  millis : Nat
  detail : String → String := id

/-- Something that happens in a run. -/
inductive Event where
  | resolved (settings : Settings)
  | verifying
  | started (puzzle : Puzzle)
  | solving (puzzle : Puzzle) (strategy : Strategy)
  | verified (moves : UInt64)
  | finished (moves : UInt64)
  | failed (error : Error)
  | advised (error : Error)

/-- How much an event matters. -/
def Event.level : Event → Level
  | .resolved _ | .solving .. | .verified _ => .debug
  | .verifying | .started _ | .finished _ => .info
  | .failed _ | .advised _ => .error

/-- The part of the program that an event comes from. -/
def Event.target : Event → String
  | .resolved _ | .verifying | .failed _ | .advised _ => "hanoi"
  | .started _ | .finished _ => "hanoi_moves::core::engine"
  | .solving .. => "hanoi_moves::core::solver"
  | .verified _ => "hanoi_moves::adapters::sink"

/-- A truth value as text. -/
def boolText (b : Bool) : String :=
  if b then "true" else "false"

/-- The first letter in upper case. -/
def capitalized (s : String) : String :=
  match s.toList with
  | [] => ""
  | c :: cs => String.ofList (c.toUpper :: cs)

/-- The settings as they are logged. -/
def settingsText (s : Settings) : String :=
  let peg (p : Peg) : String := "Peg(" ++ Text.quoteChar p.label ++ ")"
  let fields : List (String × String) :=
    [("disks", Text.integer s.disks), ("from", peg s.source), ("to", peg s.target),
      ("aux", peg s.spare), ("max_disks", Text.decimal s.maxDisks),
      ("strategy", capitalized s.strategy.name), ("format", capitalized s.format.name),
      ("verify", boolText s.verify), ("summary", boolText s.summary),
      ("verbose", boolText s.verbose), ("json_logs", boolText s.jsonLogs)]
  "RunConfig \x7b " ++ ", ".intercalate (fields.map fun (key, value) => key ++ ": " ++ value) ++
    " \x7d"

/-- The message of an event. -/
def Event.message (view : View) : Event → String
  | .resolved settings => "Resolved config: " ++ settingsText settings
  | .verifying => "🔍 Verifying every move against a three-peg board"
  | .started p =>
    "🚀 Moving " ++ Text.decimal p.disks.count ++ " disks from rod " ++ p.rods.source.text ++
      " to rod " ++ p.rods.target.text ++ " (" ++ Text.decimal p.disks.moveCount.toNat ++
      " moves expected)"
  | .solving p strategy =>
    "Solving " ++ Text.decimal p.disks.count ++ " disks " ++ p.rods.source.text ++ " -> " ++
      p.rods.target.text ++ " via " ++ p.rods.spare.text ++ " (" ++ strategy.name ++ ")"
  | .verified moves => "Verified " ++ Text.decimal moves.toNat ++ " moves, tower complete"
  | .finished moves => "✅ Emitted " ++ Text.decimal moves.toNat ++ " moves in " ++ view.elapsed
  | .failed e => "❌ " ++ e.describe view.detail ++ " (Category: " ++ e.category.name ++ ")"
  | .advised e => "💡 Recovery suggestion: " ++ e.suggestion

end TowerOfHanoi.Log
