/-
TowerOfHanoi/Cursor.lean

A cursor over the moves of a puzzle.  The moves still to come are described
by a stack of frames: a transfer of a sub-tower, or a single move.  Asking
for the next move works on the top frame in rounds; a round yields a move, or
splits a transfer into a smaller transfer, one move and another smaller
transfer.

Main statement: `pending_lt_of_next?`, each move taken leaves fewer moves
pending, which is why loops over a cursor end.
-/
import TowerOfHanoi.Solution

namespace TowerOfHanoi

/-! ### Frames and rounds -/

/-- Work still to be done: carry a sub-tower, or make one move. -/
inductive Frame where
  | transfer (disks : Nat) (source target spare : Peg)
  | move (m : Move)
deriving DecidableEq

/-- What one round of work on a stack comes to. -/
inductive Round where
  | exhausted
  | yield (m : Move) (stack : List Frame)
  | split (stack : List Frame)

/-- One round of work on the top frame of a stack. -/
def round : List Frame → Round
  | [] => .exhausted
  | .move m :: rest => .yield m rest
  | .transfer 0 _ _ _ :: rest => .split rest
  | .transfer 1 source target _ :: rest => .yield ⟨1, source, target⟩ rest
  | .transfer (n + 2) source target spare :: rest =>
    .split (.transfer (n + 1) source spare target :: .move ⟨n + 2, source, target⟩ ::
      .transfer (n + 1) spare target source :: rest)

/-- Rounds until a move is yielded, at most `fuel` of them. -/
def runRounds : (fuel : Nat) → List Frame → Option (Move × List Frame)
  | 0, _ => none
  | fuel + 1, stack =>
    match round stack with
    | .exhausted => none
    | .yield m rest => some (m, rest)
    | .split stack => runRounds fuel stack

/-- The height of the sub-tower that the top frame is about. -/
def topHeight : List Frame → Nat
  | .transfer n _ _ _ :: _ => n
  | _ => 0

/-! ### Termination -/

/-- The number of moves that a frame stands for. -/
def Frame.moves : Frame → Nat
  | .transfer n _ _ _ => towerMoves n
  | .move _ => 1

/-- The number of moves that a stack stands for. -/
def pendingMoves : List Frame → Nat
  | [] => 0
  | frame :: stack => frame.moves + pendingMoves stack

/-- Splitting a frame neither adds nor removes moves. -/
theorem pendingMoves_split {stack stack' : List Frame} (h : round stack = .split stack') :
    pendingMoves stack' = pendingMoves stack := by
  unfold round at h
  split at h <;> simp only [Round.split.injEq, reduceCtorEq] at h
  · subst h
    simp [pendingMoves, Frame.moves, towerMoves]
  · rename_i n _ _ _ _
    subst h
    simp only [pendingMoves, Frame.moves, towerMoves]
    omega

/-- Yielding a move takes one move off the stack. -/
theorem pendingMoves_yield {stack rest : List Frame} {m : Move}
    (h : round stack = .yield m rest) : pendingMoves rest + 1 = pendingMoves stack := by
  unfold round at h
  split at h <;> simp only [Round.yield.injEq, reduceCtorEq] at h
  · obtain ⟨_, rfl⟩ := h
    simp [pendingMoves, Frame.moves, Nat.add_comm]
  · obtain ⟨_, rfl⟩ := h
    simp [pendingMoves, Frame.moves, towerMoves, Nat.add_comm]

theorem pendingMoves_runRounds {fuel : Nat} {stack rest : List Frame} {m : Move}
    (h : runRounds fuel stack = some (m, rest)) : pendingMoves rest + 1 = pendingMoves stack := by
  induction fuel generalizing stack with
  | zero => simp [runRounds] at h
  | succ fuel ih =>
    rw [runRounds] at h
    split at h
    · simp at h
    · rename_i hr
      simp only [Option.some.injEq, Prod.mk.injEq] at h
      obtain ⟨rfl, rfl⟩ := h
      exact pendingMoves_yield hr
    · rename_i hr
      rw [← pendingMoves_split hr]
      exact ih h

/-! ### The cursor -/

/-- A place in the solution of a puzzle, with the number of moves that follow it. -/
structure Cursor where
  stack : List Frame
  remaining : UInt64
deriving DecidableEq

namespace Cursor

/-- The cursor before the first move of a puzzle. -/
def start (p : Puzzle) : Cursor where
  stack :=
    if p.disks.count = 0 then []
    else [.transfer p.disks.count p.rods.source p.rods.target p.rods.spare]
  remaining := p.disks.moveCount

/-- The next move, with the cursor after it. -/
def next? (c : Cursor) : Option (Move × Cursor) :=
  (runRounds (topHeight c.stack + 1) c.stack).map fun (m, stack) => (m, ⟨stack, c.remaining - 1⟩)

/-- The number of values of a machine word. -/
def wordSize : Nat := 18446744073709551616

/-- The bounds on the number of moves that follow.  They agree if the number fits in a machine word,
and otherwise no upper bound is given. -/
def sizeHint (c : Cursor) : Nat × Option Nat :=
  let n := c.remaining.toNat
  if n < wordSize then (n, some n) else (wordSize - 1, none)

/-- Each move taken leaves fewer moves pending. -/
theorem pending_lt_of_next? {c c' : Cursor} {m : Move} (h : c.next? = some (m, c')) :
    pendingMoves c'.stack < pendingMoves c.stack := by
  obtain ⟨⟨m', stack⟩, hr, heq⟩ := Option.map_eq_some_iff.1 h
  simp only [Prod.mk.injEq] at heq
  obtain ⟨rfl, rfl⟩ := heq
  have := pendingMoves_runRounds hr
  simp only
  omega

/-! ### Operations on what follows -/

/-- At most `k` moves, with the cursor after them. -/
def take : Nat → Cursor → List Move × Cursor
  | 0, c => ([], c)
  | k + 1, c =>
    match c.next? with
    | none => ([], c)
    | some (m, c) =>
      let (ms, c) := take k c
      (m :: ms, c)

/-- Skips `k` moves and gives the next, with the cursor after it. -/
def nth? : Nat → Cursor → Option Move × Cursor
  | 0, c =>
    match c.next? with
    | none => (none, c)
    | some (m, c) => (some m, c)
  | k + 1, c =>
    match c.next? with
    | none => (none, c)
    | some (_, c) => nth? k c

/-- Folds over all moves that follow, with the cursor after them. -/
def fold {α : Type} (f : α → Move → α) (a : α) (c : Cursor) : α × Cursor :=
  match _h : c.next? with
  | none => (a, c)
  | some (m, c') => fold f (f a m) c'
termination_by pendingMoves c.stack
decreasing_by exact pending_lt_of_next? _h

/-- Consumes what follows and counts it. -/
def count (c : Cursor) : Nat × Cursor :=
  c.fold (fun n _ => n + 1) 0

/-- Consumes what follows and gives the last move. -/
def last? (c : Cursor) : Option Move × Cursor :=
  c.fold (fun _ m => some m) none

end Cursor

end TowerOfHanoi
