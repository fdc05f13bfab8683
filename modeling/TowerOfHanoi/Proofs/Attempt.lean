/-
TowerOfHanoi/Proofs/Attempt.lean

Moves tried on a board, good and bad ones alike.  A board is changed in place,
also by a move that it refuses; that such a move leaves it as it was has to be
shown (`perform_eq`).  So of a list of moves only those count that are accepted
when their turn comes (`accepted`), and these by themselves are a play that
ends on the same board:

    b.replay (b.accepted ms) = .ok (ms.foldl (fun b m => (b.perform m).2) b)

(`replay_accepted`).  What holds along every play therefore holds after any
attempts, whatever was refused in between.

Main result: `attempt_invariant`, the three stacks of a board are at all times
what the rules of the puzzle say, and its counter is the number of moves made.
-/
import TowerOfHanoi.Proofs.Order

namespace TowerOfHanoi.Board

/-! ### Attempts -/

/-- The moves of a list that are accepted when they are tried in order, each on the board that the
ones before it have left. -/
def accepted (b : Board) : List Move → List Move
  | [] => []
  | m :: ms =>
    match b.perform m with
    | (.error _, b) => b.accepted ms
    | (.ok (), b) => m :: b.accepted ms

variable {b b' : Board} {ms : List Move}

/-- Without the refused moves, the attempts are a play. -/
theorem replay_accepted (b : Board) (ms : List Move) :
    b.replay (b.accepted ms) = .ok (ms.foldl (fun b m => (b.perform m).2) b) := by
  induction ms generalizing b with
  | nil => rfl
  | cons m ms ih =>
    rw [accepted, List.foldl_cons, perform_eq]
    rcases ha : b.apply m with e | b₁
    · -- refused: the move is missing from one side and has done nothing on the other
      exact ih b
    · exact replay_cons_eq_ok_iff.2 ⟨b₁, ha, ih b₁⟩

/-- A play advances the counter by its length. -/
theorem applied_of_replay (h : b.replay ms = .ok b') :
    b'.applied = b.applied + UInt64.ofNat ms.length := by
  induction ms generalizing b with
  | nil =>
    cases h
    simp
  | cons m ms ih =>
    obtain ⟨b₁, ha, hr⟩ := replay_cons_eq_ok_iff.1 h
    obtain ⟨x, y, rest, -, rfl⟩ := apply_eq_ok_iff.1 ha
    rw [ih hr, carry_applied, List.length_cons, UInt64.ofNat_add, UInt64.add_assoc,
      UInt64.add_comm 1]
    rfl

/-! ### The stacks after any attempts -/

/-- Each disk of the puzzle lies on a rod once, and nothing else does. -/
theorem Sound.count_eq (hb : b.Sound) (d : Nat) :
    (b.source ++ b.target ++ b.spare).count d = if 1 ≤ d ∧ d ≤ b.disks.count then 1 else 0 := by
  rw [hb.complete.count_eq d, (nodup_tower _).count]
  simp only [mem_tower]

/-- A board is solved exactly if the whole tower stands on the target rod. -/
theorem Sound.isSolved_iff (hb : b.Sound) :
    b.isSolved = true ↔ b.target = tower b.disks.count ∧ b.source = [] ∧ b.spare = [] := by
  refine ⟨hb.of_isSolved, ?_⟩
  rintro ⟨htarget, -, -⟩
  simp [isSolved, htarget]

/-- **The rules hold at all times.**  Whatever moves have been tried on the board of a puzzle, and
however many of them were refused: from the top down the disks of each stack grow, the three stacks
together hold each of the disks `1` to `n` once and nothing else, the counter tells how many moves
were accepted, as far as 64 bits can tell, and the board counts as solved exactly if the whole tower
stands on the target rod. -/
theorem attempt_invariant (p : Puzzle) (ms : List Move) :
    let b := ms.foldl (fun b m => (b.perform m).2) (start p)
    let made := ((start p).accepted ms).length
    (∀ r, (b.stack r).Pairwise (· < ·)) ∧
      (∀ d, (b.source ++ b.target ++ b.spare).count d
        = if 1 ≤ d ∧ d ≤ p.disks.count then 1 else 0) ∧
      b.applied = UInt64.ofNat made ∧ (made < UInt64.size → b.applied.toNat = made) ∧
      (b.isSolved = true ↔ b.target = tower p.disks.count ∧ b.source = [] ∧ b.spare = []) := by
  intro b made
  have hplay : (start p).replay ((start p).accepted ms) = .ok b := replay_accepted _ ms
  have hsound : b.Sound := (sound_start p).replay hplay
  have hdisks : b.disks = p.disks := disks_of_replay hplay
  have happlied : b.applied = UInt64.ofNat made := by
    rw [applied_of_replay hplay]
    exact UInt64.zero_add _
  rw [← hdisks]
  refine ⟨hsound.ordered, hsound.count_eq, happlied, fun hmade => ?_, hsound.isSolved_iff⟩
  rw [happlied]
  exact UInt64.toNat_ofNat_of_lt' hmade

end TowerOfHanoi.Board
