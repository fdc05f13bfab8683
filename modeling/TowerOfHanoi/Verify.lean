/-
TowerOfHanoi/Verify.lean

Verified play.  A sink behind a board: each move is carried out on the board
before it goes on to the sink, so a move that the board refuses never gets
there, and the sink is finished only when the tower stands on the target rod.
-/
import TowerOfHanoi.Board
import TowerOfHanoi.Sink

namespace TowerOfHanoi

/-- A sink's state behind a board, with the lengths of the plays found complete, latest first. -/
structure Verified (σ : Type) where
  board : Board
  inner : σ
  completed : List UInt64 := []

/-- The board of a puzzle before the first move, in front of a sink. -/
def Verified.start {σ : Type} (p : Puzzle) (inner : σ) : Verified σ :=
  { board := Board.start p, inner }

/-- Replays every move on the board before it is forwarded. -/
def Sink.verified {σ : Type} (sink : Sink σ) : Sink (Verified σ) where
  emit s m :=
    match s.board.perform m with
    | (.error e, board) => (.error e, { s with board })
    | (.ok (), board) =>
      let (result, inner) := sink.emit s.inner m
      (result, { s with board, inner })
  finish s :=
    match s.board.ensureSolved with
    | .error e => (.error e, s)
    | .ok () =>
      let (result, inner) := sink.finish s.inner
      (result, { s with inner, completed := s.board.applied :: s.completed })

end TowerOfHanoi
