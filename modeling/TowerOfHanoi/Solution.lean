/-
TowerOfHanoi/Solution.lean

The solution as a list of moves.  To carry a tower of `n + 1` disks, carry
the `n` smaller ones out of the way onto the spare rod, move the largest disk
directly, and carry the smaller ones from the spare rod on top of it.

Every other way of producing the moves is measured against this list.
-/
import TowerOfHanoi.Move
import TowerOfHanoi.Puzzle

namespace TowerOfHanoi

/-- The moves that carry the `n` smallest disks from `source` to `target` by way of `spare`. -/
def transfer : Nat → Peg → Peg → Peg → List Move
  | 0, _, _, _ => []
  | n + 1, source, target, spare =>
    transfer n source spare target ++ ⟨n + 1, source, target⟩ :: transfer n spare target source

/-- The number of moves that carry a tower of `n` disks: two smaller towers and one disk. -/
def towerMoves : Nat → Nat
  | 0 => 0
  | n + 1 => towerMoves n + 1 + towerMoves n

/-- The moves that solve a puzzle. -/
def Puzzle.solution (p : Puzzle) : List Move :=
  transfer p.disks.count p.rods.source p.rods.target p.rods.spare

end TowerOfHanoi
