/-
TowerOfHanoi/Proofs/Transfer.lean

The solution is playable.  The induction needs more than a puzzle's own
board: in the middle of a solution the small disks move about on rods that
already hold larger ones.  So the statement is about any board `b` of disks
larger than `n`, with a tower of the disks `1` to `n` laid on one of its rods:

    (b.lay (tower n) x).replay (transfer n x y z) = .ok (b.lay (tower n) y)

(`replay_transfer`).  The step of the induction takes disk `n + 1` out of the
tower and counts it to the board below.

Main result: `replay_emitted`, the moves that either strategy emits for a
puzzle carry its tower to the target rod.
-/
import TowerOfHanoi.Proofs.Emission
import TowerOfHanoi.Proofs.Play

namespace TowerOfHanoi

namespace Board

/-! ### Laying disks on a rod -/

/-- The board with some disks laid on top of a rod. -/
def lay (b : Board) (ds : List Nat) (r : Role) : Board :=
  b.setStack (ds ++ b.stack r) r

/-- The board with its counter advanced. -/
def advance (b : Board) (k : Nat) : Board :=
  { b with applied := b.applied + UInt64.ofNat k }

section Views

variable (b : Board) (ds : List Nat) (r r' : Role) (k : Nat)

@[simp] theorem lay_rods : (b.lay ds r).rods = b.rods := setStack_rods ..

@[simp] theorem lay_applied : (b.lay ds r).applied = b.applied := setStack_applied ..

theorem stack_lay : (b.lay ds r).stack r' = if r' = r then ds ++ b.stack r else b.stack r' :=
  stack_setStack ..

@[simp] theorem stack_advance : (b.advance k).stack r = b.stack r := by
  cases r <;> rfl

@[simp] theorem advance_rods : (b.advance k).rods = b.rods := rfl

theorem lay_nil : b.lay [] r = b := by
  cases r <;> rfl

theorem lay_append (ds' : List Nat) : b.lay (ds' ++ ds) r = (b.lay ds r).lay ds' r := by
  cases r <;> simp [lay, stack, setStack]

theorem advance_lay : (b.advance k).lay ds r = (b.lay ds r).advance k := by
  cases r <;> rfl

theorem advance_advance (k' : Nat) : (b.advance k).advance k' = b.advance (k + k') := by
  simp [advance, UInt64.ofNat_add, UInt64.add_assoc]

end Views

/-- The largest disk of a tower goes straight from one rod to another while the others wait on the
third. -/
theorem carry_lay (b : Board) (d : Nat) (ds : List Nat) (k : Nat) {x y z : Role} (hxy : x ≠ y)
    (hxz : x ≠ z) (hyz : y ≠ z) :
    (((b.lay [d] x).lay ds z).advance k).carry d (b.stack x) x y
      = ((b.lay [d] y).advance (k + 1)).lay ds z := by
  refine ext_stack ?_ ?_ (fun r => ?_) ?_
  · simp [lay, advance]
  · simp
  · simp only [stack_carry, stack_lay, stack_advance]
    grind
  · simp [advance, UInt64.ofNat_add, UInt64.add_assoc]

/-! ### Carrying a sub-tower -/

/-- **A sub-tower can be carried** between any two rods of a board of larger disks, by the moves
of its transfer, and nothing else on the board changes. -/
theorem replay_transfer (n : Nat) (b : Board) {x y z : Role} (hxy : x ≠ y) (hxz : x ≠ z)
    (hyz : y ≠ z) (hb : ∀ r, ∀ d ∈ b.stack r, n < d) :
    (b.lay (tower n) x).replay (transfer n (b.rods.peg x) (b.rods.peg y) (b.rods.peg z))
      = .ok ((b.lay (tower n) y).advance (towerMoves n)) := by
  induction n generalizing b x y z with
  | zero => simp [tower, lay_nil, transfer, towerMoves, advance]
  | succ n ih =>
    -- disk `n + 1` counts to the board below, on `x` at first and on `y` in the end
    have hlarger : ∀ w r, ∀ d ∈ (b.lay [n + 1] w).stack r, n < d := by
      intro w r d hd
      rw [stack_lay] at hd
      split at hd
      · rcases List.mem_cons.1 hd with rfl | hd
        · exact Nat.lt_succ_self n
        · exact Nat.lt_of_succ_lt (hb w d hd)
      · exact Nat.lt_of_succ_lt (hb r d hd)
    have haway := ih (b.lay [n + 1] x) hxz hxy hyz.symm (hlarger x)
    have hback := ih ((b.lay [n + 1] y).advance (towerMoves n + 1)) hyz.symm hxz.symm hxy.symm
      (by simpa using hlarger y)
    simp only [advance_rods, lay_rods] at haway hback
    have hlargest : Legal (((b.lay [n + 1] x).lay (tower n) z).advance (towerMoves n))
        ⟨n + 1, b.rods.peg x, b.rods.peg y⟩ x y (b.stack x) := by
      refine ⟨by simp, by simp, hxy, by simp [stack_lay, hxz], ?_⟩
      intro d hd
      simp only [stack_advance, stack_lay, if_neg hyz, if_neg hxy.symm] at hd
      exact Nat.le_of_lt (hb y d (List.mem_of_mem_head? hd))
    rw [tower_succ, lay_append, lay_append, transfer, towerMoves]
    refine replay_append haway (replay_cons_eq_ok_iff.2 ⟨_, hlargest.apply, ?_⟩)
    rw [carry_lay b _ _ _ hxy hxz hyz]
    refine hback.trans ?_
    rw [advance_lay, advance_advance]

/-! ### Solving a puzzle -/

/-- The board of a puzzle without its disks. -/
def bare (p : Puzzle) : Board :=
  ⟨p.disks, p.rods, [], [], [], 0⟩

/-- The board after the last move: the whole tower on the target rod. -/
def solved (p : Puzzle) : Board :=
  ⟨p.disks, p.rods, [], tower p.disks.count, [], p.disks.moveCount⟩

theorem start_eq_lay (p : Puzzle) : start p = (bare p).lay (tower p.disks.count) .source := by
  simp [start, bare, lay, setStack, stack]

theorem solved_eq_lay (p : Puzzle) :
    solved p = ((bare p).lay (tower p.disks.count) .target).advance (towerMoves p.disks.count) := by
  simp [solved, bare, lay, setStack, stack, advance, DiskCount.moveCount_eq]

/-- The solution of a puzzle carries its tower from the source rod to the target rod. -/
theorem replay_solution (p : Puzzle) : (start p).replay p.solution = .ok (solved p) := by
  have hbare : ∀ r, ∀ d ∈ (bare p).stack r, p.disks.count < d := by
    intro r d hd
    cases r <;> cases hd
  rw [start_eq_lay, solved_eq_lay]
  exact replay_transfer (x := .source) (y := .target) (z := .spare) _ _ (by decide) (by decide)
    (by decide) hbare

end Board

/-- **The emitted moves solve the puzzle.**  Replayed from the start, the moves that a strategy
emits are all accepted, the tower ends up on the target rod, in order, the other rods end up empty,
and the board has counted `2 ^ n - 1` moves. -/
theorem replay_emitted (p : Puzzle) (strategy : Strategy) :
    ∃ b, (Board.start p).replay (solvePuzzle Sink.collect strategy p #[]).2.toList = .ok b ∧
      b.target = tower p.disks.count ∧ b.source = [] ∧ b.spare = [] ∧
      b.applied.toNat = 2 ^ p.disks.count - 1 ∧ b.ensureSolved = .ok () := by
  refine ⟨Board.solved p, ?_, rfl, rfl, rfl, p.disks.toNat_moveCount, ?_⟩
  · rw [solvePuzzle_collect]
    exact Board.replay_solution p
  · simp [Board.ensureSolved, Board.isSolved, Board.solved, tower]

end TowerOfHanoi
