/-
TowerOfHanoi/Engine.lean

One run: solve a puzzle into a port, finish the port, and sum up.  The port is
finished only if every move was taken, and the first failure is the result of
the run.
-/
import TowerOfHanoi.Json.Literal
import TowerOfHanoi.Solver

namespace TowerOfHanoi

/-- What a run that succeeded did. -/
structure Summary where
  puzzle : Puzzle
  strategy : Strategy
  moves : UInt64
deriving DecidableEq

/-- A summary as a JSON object, with the time that the run took in milliseconds. -/
def Summary.json (s : Summary) (elapsed : Nat) : String :=
  let rods := s.puzzle.rods
  "\x7b\"disks\":" ++ Text.decimal s.puzzle.disks.count ++
    ",\"from\":" ++ Json.quote rods.source.text ++
    ",\"to\":" ++ Json.quote rods.target.text ++
    ",\"aux\":" ++ Json.quote rods.spare.text ++
    ",\"strategy\":" ++ Json.quote s.strategy.name ++
    ",\"moves\":" ++ Text.decimal s.moves.toNat ++
    ",\"elapsed_ms\":" ++ Text.decimal elapsed ++ "\x7d"

namespace Engine

/-- Solves a puzzle into a port and finishes it. -/
def drive {μ : Type → Type} [Monad μ] (port : Port μ) (strategy : Strategy) (p : Puzzle) :
    ExceptT Error μ Summary := do
  let moves ← port.solve strategy p
  port.finish
  return ⟨p, strategy, moves⟩

variable {σ : Type}

/-- Solves a puzzle into a sink and finishes it. -/
def run (sink : Sink σ) (strategy : Strategy) (p : Puzzle) (s : σ) : Except Error Summary × σ :=
  (drive sink.port strategy p).run s

/-- Runs puzzles one after another on the same sink, whatever becomes of each. -/
def runAll (sink : Sink σ) (strategy : Strategy) : List Puzzle → σ → List (Except Error Summary) × σ
  | [], s => ([], s)
  | p :: ps, s =>
    let (result, s) := run sink strategy p s
    let (results, s) := runAll sink strategy ps s
    (result :: results, s)

end Engine

end TowerOfHanoi
