/-
TowerOfHanoi/Move.lean

Moves.  A move names a disk, the rod it leaves and the rod it goes to;
whether a board allows it is another matter.  Disk 1 is the smallest.
-/
import TowerOfHanoi.Peg

namespace TowerOfHanoi

/-- One disk taken from the top of one rod and put on another. -/
structure Move where
  disk : Nat
  source : Peg
  target : Peg
deriving DecidableEq

namespace Move

/-- The sentence that describes a move. -/
def text (m : Move) : String :=
  "Move disk " ++ Text.decimal m.disk ++ " from rod " ++ m.source.text ++ " to rod " ++ m.target.text

/-- The move that undoes a move. -/
def reverse (m : Move) : Move :=
  ⟨m.disk, m.target, m.source⟩

end Move

end TowerOfHanoi
