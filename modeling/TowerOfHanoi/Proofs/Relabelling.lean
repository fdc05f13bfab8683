/-
TowerOfHanoi/Proofs/Relabelling.lean

Relabelling: carry a puzzle along an injective function `σ : Peg ↪ Peg` from
labels to labels.  Disks, roles and stacks have no labels and stay as they are.

The moves of a transfer are relabelled with its rods,

    transfer n (σ x) (σ y) (σ z) = (transfer n x y z).map (Move.relabel σ)

(`transfer_relabel`), whatever the rods are.  A board is another matter, since
it compares the labels of a move with its own: that finds the same roles because
`σ` is injective (`role?_relabel`), also for labels that are not on the board.
So a relabelled board does with a relabelled move what the board does with the
move, and refuses it with the same obstacle, relabelled (`perform_relabel`).

Main result: `label_independent`.
-/
import Mathlib.Logic.Embedding.Basic
import TowerOfHanoi.Proofs.Emission
import TowerOfHanoi.Proofs.Play

namespace TowerOfHanoi

variable (σ : Peg ↪ Peg)

/-! ### Relabelling -/

/-- Another label for a label; other characters are left alone. -/
def relabelChar (c : Char) : Char :=
  if h : Text.isVisible c = true then (σ ⟨c, h⟩).label else c

theorem relabelChar_label (p : Peg) : relabelChar σ p.label = (σ p).label :=
  dif_pos p.visible

/-- The same move between rods with other labels. -/
def Move.relabel (m : Move) : Move :=
  ⟨m.disk, σ m.source, σ m.target⟩

@[simp] theorem Move.relabel_disk (m : Move) : (m.relabel σ).disk = m.disk := rfl

@[simp] theorem Move.relabel_source (m : Move) : (m.relabel σ).source = σ m.source := rfl

@[simp] theorem Move.relabel_target (m : Move) : (m.relabel σ).target = σ m.target := rfl

/-- The same three rods with other labels, which differ again. -/
def Rods.relabel (rods : Rods) : Rods :=
  ⟨σ rods.source, σ rods.target, σ rods.spare, σ.injective.ne rods.source_ne_target,
    σ.injective.ne rods.source_ne_spare, σ.injective.ne rods.target_ne_spare⟩

/-- The same puzzle on rods with other labels. -/
def Puzzle.relabel (p : Puzzle) : Puzzle :=
  ⟨p.disks, p.rods.relabel σ⟩

/-- The same obstacle on rods with other labels. -/
def Obstacle.relabel : Obstacle → Obstacle
  | .absentRod label => .absentRod (relabelChar σ label)
  | obstacle => obstacle

/-- The same failure on rods with other labels. -/
def Error.relabel : Error → Error
  | .duplicatePeg label => .duplicatePeg (relabelChar σ label)
  | .illegalMove disk source target obstacle =>
    .illegalMove disk (relabelChar σ source) (relabelChar σ target) (obstacle.relabel σ)
  | .unsolved disks target => .unsolved disks (relabelChar σ target)
  | e => e

/-! ### Solutions -/

theorem transfer_relabel (n : Nat) (x y z : Peg) :
    transfer n (σ x) (σ y) (σ z) = (transfer n x y z).map (Move.relabel σ) := by
  induction n generalizing x y z with
  | zero => rfl
  | succ n ih =>
    rw [transfer, transfer, ih, ih, List.map_append, List.map_cons]
    rfl

theorem Puzzle.solution_relabel (p : Puzzle) :
    (p.relabel σ).solution = p.solution.map (Move.relabel σ) :=
  transfer_relabel σ ..

/-! ### Boards -/

/-- A label means the same rod before and after. -/
theorem Rods.role?_relabel (rods : Rods) (p : Peg) :
    (rods.relabel σ).role? (σ p) = rods.role? p := by
  unfold role? relabel
  simp only [σ.injective.eq_iff]

namespace Board

/-- The same board with other labels on its rods. -/
def relabel (b : Board) : Board :=
  { b with rods := b.rods.relabel σ }

@[simp] theorem stack_relabel (b : Board) (r : Role) : (b.relabel σ).stack r = b.stack r := by
  cases r <;> rfl

theorem start_relabel (p : Puzzle) : start (p.relabel σ) = (start p).relabel σ :=
  rfl

theorem carry_relabel (b : Board) (d : Nat) (rest : List Nat) (x y : Role) :
    (b.relabel σ).carry d rest x y = (b.carry d rest x y).relabel σ := by
  cases x <;> cases y <;> rfl

@[simp] theorem relabel_rods (b : Board) : (b.relabel σ).rods = b.rods.relabel σ := rfl

/-- The check finds the same roles, or the same obstacle. -/
theorem check_relabel (b : Board) (m : Move) :
    (b.relabel σ).check (m.relabel σ) = (b.check m).mapError (Error.relabel σ) := by
  have hrefuse (obstacle : Obstacle) :
      (.error (.illegalMove m.disk (σ m.source).label (σ m.target).label (obstacle.relabel σ)) :
          Except Error (Role × Role))
        = Except.mapError (Error.relabel σ)
            (.error (.illegalMove m.disk m.source.label m.target.label obstacle)) := by
    rw [← relabelChar_label, ← relabelChar_label]
    rfl
  have habsent (p : Peg) :
      Obstacle.absentRod (σ p).label = (Obstacle.absentRod p.label).relabel σ := by
    rw [← relabelChar_label]
    rfl
  -- the obstacles in the order of `check`; only the first two have a label in them
  unfold check
  simp only [relabel_rods, Move.relabel_disk, Move.relabel_source, Move.relabel_target,
    Rods.role?_relabel, stack_relabel]
  rcases b.rods.role? m.source with - | x
  · simp only [habsent]
    exact hrefuse _
  rcases b.rods.role? m.target with - | y
  · simp only [habsent]
    exact hrefuse _
  by_cases hxy : x = y
  · simp only [if_pos hxy]
    exact hrefuse .sameRod
  simp only [if_neg hxy]
  rcases b.stack x with - | ⟨top, rest⟩
  · exact hrefuse .emptySource
  by_cases htop : top ≠ m.disk
  · simp only [if_pos htop]
    exact hrefuse (.covered top)
  simp only [if_neg htop]
  rcases b.stack y with - | ⟨below, more⟩
  · rfl
  by_cases hbelow : below < m.disk
  · simp only [hbelow, if_true]
    exact hrefuse (.smallerBelow below)
  · simp only [hbelow, if_false]
    rfl

/-- **A relabelled board deals with a relabelled move as the board does with the move.** -/
theorem perform_relabel (b : Board) (m : Move) :
    (b.relabel σ).perform (m.relabel σ)
      = ((b.perform m).1.mapError (Error.relabel σ), (b.perform m).2.relabel σ) := by
  have hcheck := check_relabel σ b m
  rcases hc : b.check m with e | ⟨x, y⟩ <;> rw [hc] at hcheck
  · rw [perform_of_error hc, perform_of_error hcheck]
    rfl
  · obtain ⟨rest, hl⟩ := check_eq_ok_iff.1 hc
    obtain ⟨rest', hl'⟩ := check_eq_ok_iff.1 hcheck
    have hrest : m.disk :: rest' = m.disk :: rest := by
      rw [← hl.top, ← stack_relabel σ]
      exact hl'.top.symm
    obtain rfl := (List.cons.inj hrest).2
    rw [hl.perform, hl'.perform]
    exact congrArg (Prod.mk _) (carry_relabel σ b ..)

/-- The outcomes of the moves of a list, tried in order, each with the board that it has left; a
refused move does not end the list. -/
def history (b : Board) : List Move → List (Except Error Unit × Board)
  | [] => []
  | m :: ms => b.perform m :: (b.perform m).2.history ms

theorem history_relabel (b : Board) (ms : List Move) :
    (b.relabel σ).history (ms.map (Move.relabel σ))
      = (b.history ms).map fun r => (r.1.mapError (Error.relabel σ), r.2.relabel σ) := by
  induction ms generalizing b with
  | nil => rfl
  | cons m ms ih =>
    rw [List.map_cons, history, history, List.map_cons, perform_relabel]
    exact congrArg (List.cons _) (ih _)

end Board

/-! ### Label independence -/

/-- **Labels play no part.**  Let every label be replaced by another one, different labels by
different ones.  Under either strategy the moves emitted for the relabelled puzzle are those emitted
for the puzzle, relabelled, and there are as many.  And whatever moves are tried on its board, legal
or not, between rods of the board or not: the relabelled moves, tried on the board of the relabelled
puzzle, are accepted and refused in the same places, for the same reasons, and take the three stacks
through the same states. -/
theorem label_independent (p : Puzzle) :
    (∀ strategy,
      solvePuzzle Sink.collect strategy (p.relabel σ) #[]
        = ((solvePuzzle Sink.collect strategy p #[]).1,
            (solvePuzzle Sink.collect strategy p #[]).2.map (Move.relabel σ))) ∧
      ∀ ms : List Move,
        let run := (Board.start p).history ms
        let run' := (Board.start (p.relabel σ)).history (ms.map (Move.relabel σ))
        (run'.map fun r => r.1.isOk) = (run.map fun r => r.1.isOk) ∧
          (∀ role, (run'.map fun r => r.2.stack role) = run.map fun r => r.2.stack role) ∧
          (run'.map fun r => r.1) = run.map fun r => r.1.mapError (Error.relabel σ) := by
  refine ⟨fun strategy => ?_, fun ms => ?_⟩
  · rw [solvePuzzle_collect, solvePuzzle_collect, Puzzle.solution_relabel, List.map_toArray]
    rfl
  · intro run run'
    have hrun : run' = run.map fun r => (r.1.mapError (Error.relabel σ), r.2.relabel σ) := by
      show (Board.start (p.relabel σ)).history _ = _
      rw [Board.start_relabel]
      exact (Board.start p).history_relabel σ ms
    rw [hrun, List.map_map, List.map_map]
    refine ⟨List.map_congr_left fun r _ => ?_, fun role => ?_, rfl⟩
    · rcases r with ⟨e | ⟨⟨⟩⟩, b⟩ <;> rfl
    · rw [List.map_map]
      exact List.map_congr_left fun r _ => r.2.stack_relabel σ role

end TowerOfHanoi
