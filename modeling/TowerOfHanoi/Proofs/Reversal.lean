/-
TowerOfHanoi/Proofs/Reversal.lean

Play taken back.  A move that a board has made can be made the other way round:
the disk is on top of the rod that it went to, and on the rod that it came from
all disks are larger.  So a play can be run backwards, last move first, and
ends where it began,

    b'.replay (backwards ms) = .ok (b.advance (2 * ms.length))

(`Sound.replay_backwards`), except that the counter goes up both ways.  Nothing
ever depends on the counter (`replay_advance`).

The solution of a puzzle, run backwards, is the solution of the puzzle in which
the source and the target have changed places,

    backwards (transfer n x y z) = transfer n y x z

(`backwards_transfer`): the two sub-towers change places in the list, and each
is itself carried backwards.

Main result: `time_reversal`.
-/
import TowerOfHanoi.Proofs.Attempt
import TowerOfHanoi.Proofs.Transfer

namespace TowerOfHanoi

/-- The moves that take back a play, last move first. -/
def backwards (ms : List Move) : List Move :=
  (ms.map Move.reverse).reverse

theorem backwards_append (ms ms' : List Move) :
    backwards (ms ++ ms') = backwards ms' ++ backwards ms := by
  simp [backwards]

theorem backwards_cons (m : Move) (ms : List Move) :
    backwards (m :: ms) = backwards ms ++ [m.reverse] :=
  backwards_append [m] ms

namespace Board

variable {b b' : Board} {m : Move} {ms : List Move} {x y : Role} {rest : List Nat}

/-! ### The counter plays no part -/

theorem check_advance (b : Board) (m : Move) (k : Nat) : (b.advance k).check m = b.check m := by
  unfold check
  simp only [advance_rods, stack_advance]

theorem carry_advance (b : Board) (d : Nat) (rest : List Nat) (x y : Role) (k : Nat) :
    (b.advance k).carry d rest x y = (b.carry d rest x y).advance k := by
  refine ext_stack ?_ ?_ (fun r => ?_) ?_
  · simp [advance]
  · simp
  · simp only [stack_carry, stack_advance]
  · simp only [carry_applied, advance]
    rw [UInt64.add_assoc, UInt64.add_comm _ 1, ← UInt64.add_assoc]

theorem apply_advance (b : Board) (m : Move) (k : Nat) :
    (b.advance k).apply m = (b.apply m).map (·.advance k) := by
  have hadvance := check_advance b m k
  rcases hc : b.check m with e | ⟨x, y⟩ <;> rw [hc] at hadvance
  · rw [apply, apply, perform_of_error hc, perform_of_error hadvance]
    rfl
  · obtain ⟨rest, hl⟩ := check_eq_ok_iff.1 hc
    obtain ⟨rest', hl'⟩ := check_eq_ok_iff.1 hadvance
    have hrest : m.disk :: rest' = m.disk :: rest := by
      rw [← hl'.top, ← hl.top, stack_advance]
    obtain rfl := (List.cons.inj hrest).2
    rw [hl'.apply, hl.apply, carry_advance]
    rfl

/-- A play goes the same way wherever the counter stands. -/
theorem replay_advance (b : Board) (ms : List Move) (k : Nat) :
    (b.advance k).replay ms = (b.replay ms).map (·.advance k) := by
  induction ms generalizing b with
  | nil => rfl
  | cons m ms ih =>
    rw [replay, replay, apply_advance]
    rcases b.apply m with e | b₁
    · rfl
    · exact ih b₁

/-! ### One move back -/

/-- A move that has been made can be made the other way round. -/
theorem Sound.legal_reverse (hb : b.Sound) (hl : b.Legal m x y rest) :
    (b.carry m.disk rest x y).Legal m.reverse y x (b.stack y) where
  source := by simp [Move.reverse, hl.target]
  target := by simp [Move.reverse, hl.source]
  distinct := hl.distinct.symm
  top := by simp [stack_carry, Move.reverse]
  fits := by
    -- the disks that were below it on `x` are larger
    intro d hd
    have hord := hb.ordered x
    rw [hl.top] at hord
    rw [stack_carry, if_neg hl.distinct, if_pos rfl] at hd
    exact Nat.le_of_lt ((List.pairwise_cons.1 hord).1 d (List.mem_of_mem_head? hd))

theorem Legal.carry_reverse (hl : b.Legal m x y rest) :
    (b.carry m.disk rest x y).carry m.disk (b.stack y) y x = b.advance 2 := by
  have hxy := hl.distinct
  refine ext_stack ?_ ?_ (fun r => ?_) ?_
  · simp [advance]
  · simp
  · rw [stack_advance]
    by_cases hrx : r = x
    · subst hrx
      rw [stack_carry, if_pos rfl, stack_carry, if_neg hxy, if_pos rfl, hl.top]
    · rw [stack_carry, if_neg hrx]
      by_cases hry : r = y
      · rw [if_pos hry, hry]
      · rw [if_neg hry, stack_carry, if_neg hry, if_neg hrx]
  · simp only [carry_applied, advance]
    rw [UInt64.add_assoc]
    rfl

/-- A board takes a move back. -/
theorem Sound.apply_reverse (hb : b.Sound) (h : b.apply m = .ok b') :
    b'.apply m.reverse = .ok (b.advance 2) := by
  obtain ⟨x, y, rest, hl, rfl⟩ := apply_eq_ok_iff.1 h
  rw [(hb.legal_reverse hl).apply]
  exact congrArg Except.ok hl.carry_reverse

/-! ### Whole plays back -/

/-- **A play can be run backwards**, and ends where it began. -/
theorem Sound.replay_backwards (hb : b.Sound) (h : b.replay ms = .ok b') :
    b'.replay (backwards ms) = .ok (b.advance (2 * ms.length)) := by
  induction ms generalizing b with
  | nil =>
    cases h
    simp [backwards, advance]
  | cons m ms ih =>
    obtain ⟨b₁, ha, hr⟩ := replay_cons_eq_ok_iff.1 h
    have hb₁ : b₁.Sound := by
      obtain ⟨x, y, rest, hl, rfl⟩ := apply_eq_ok_iff.1 ha
      exact hb.carry hl
    have hlast : (b₁.advance (2 * ms.length)).apply m.reverse
        = .ok ((b.advance 2).advance (2 * ms.length)) := by
      rw [apply_advance, hb.apply_reverse ha]
      rfl
    rw [backwards_cons, List.length_cons, Nat.mul_succ, Nat.add_comm, ← advance_advance]
    exact replay_append (ih hb₁ hr) (replay_cons_eq_ok_iff.2 ⟨_, hlast, rfl⟩)

end Board

/-! ### The solution backwards -/

/-- The rods with the source and the target exchanged. -/
def Rods.reverse (rods : Rods) : Rods :=
  ⟨rods.target, rods.source, rods.spare, rods.source_ne_target.symm, rods.target_ne_spare,
    rods.source_ne_spare⟩

/-- The puzzle of carrying the tower back. -/
def Puzzle.reverse (p : Puzzle) : Puzzle :=
  ⟨p.disks, p.rods.reverse⟩

/-- A transfer backwards is the transfer back. -/
theorem backwards_transfer (n : Nat) (x y z : Peg) :
    backwards (transfer n x y z) = transfer n y x z := by
  induction n generalizing x y z with
  | zero => rfl
  | succ n ih =>
    -- the sub-tower that came to the target last is the first to leave it
    calc backwards (transfer n x z y ++ ⟨n + 1, x, y⟩ :: transfer n z y x)
        = backwards (transfer n z y x) ++ ⟨n + 1, y, x⟩ :: backwards (transfer n x z y) := by
          rw [backwards_append, backwards_cons, List.append_assoc]
          rfl
      _ = transfer n y z x ++ ⟨n + 1, y, x⟩ :: transfer n z x y := by rw [ih, ih]

theorem Puzzle.backwards_solution (p : Puzzle) : backwards p.solution = p.reverse.solution :=
  backwards_transfer ..

/-! ### Time reversal -/

/-- **Time can be reversed.**  On a board on which any moves have been tried, every play that it
accepts can be taken back: the moves in reverse order, each with its source and its target exchanged,
are accepted one after another as well and put every disk back where it was, with a counter that has
gone up by twice the length of the play, as far as 64 bits can tell.  And the moves that a strategy
emits for a puzzle, taken back in this way, are those that either strategy emits for the puzzle of
carrying the tower back. -/
theorem time_reversal (p : Puzzle) :
    (∀ (tried ms : List Move) (b' : Board),
      let b := tried.foldl (fun b m => (b.perform m).2) (Board.start p)
      b.replay ms = .ok b' →
        ∃ b'', b'.replay (ms.map Move.reverse).reverse = .ok b'' ∧
          (∀ r, b''.stack r = b.stack r) ∧
          b''.applied = b.applied + UInt64.ofNat (2 * ms.length) ∧
          (b.applied.toNat + 2 * ms.length < UInt64.size →
            b''.applied.toNat = b.applied.toNat + 2 * ms.length)) ∧
      ∀ strategy strategy',
        ((solvePuzzle Sink.collect strategy p #[]).2.toList.map Move.reverse).reverse
          = (solvePuzzle Sink.collect strategy' p.reverse #[]).2.toList := by
  refine ⟨fun tried ms b' => ?_, fun strategy strategy' => ?_⟩
  · intro b hplay
    have hreached : (Board.start p).replay ((Board.start p).accepted tried) = .ok b :=
      Board.replay_accepted _ tried
    have hsound : b.Sound := (Board.sound_start p).replay hreached
    refine ⟨b.advance (2 * ms.length), hsound.replay_backwards hplay, fun r => b.stack_advance r _,
      rfl, fun hfits => ?_⟩
    show (b.applied + UInt64.ofNat (2 * ms.length)).toNat = _
    have hlength : 2 * ms.length < UInt64.size := by omega
    rw [UInt64.toNat_add, UInt64.toNat_ofNat_of_lt' hlength]
    exact Nat.mod_eq_of_lt hfits
  · rw [solvePuzzle_collect, solvePuzzle_collect]
    exact p.backwards_solution

/-- Two moves taken back in the middle of a play, after one that was refused. -/
theorem time_reversal_two :
    let p : Puzzle := ⟨⟨2, by decide⟩, .classic⟩
    let b := [⟨2, .a, .c⟩, ⟨1, .a, .c⟩].foldl (fun b m => (b.perform m).2) (Board.start p)
    ∃ b' b'', b.replay [⟨2, .a, .b⟩, ⟨1, .c, .b⟩] = .ok b' ∧ b'.stack .spare = [1, 2] ∧
      b'.replay [⟨1, .b, .c⟩, ⟨2, .b, .a⟩] = .ok b'' ∧
      (∀ r, b''.stack r = b.stack r) ∧ b''.applied.toNat = 5 := by
  intro p b
  have hplay : b.replay [⟨2, .a, .b⟩, ⟨1, .c, .b⟩] = .ok ⟨p.disks, p.rods, [], [], [1, 2], 3⟩ := by
    rfl
  obtain ⟨b'', hback, hstack, -, hcount⟩ := (time_reversal p).1 _ _ _ hplay
  exact ⟨_, b'', hplay, rfl, hback, hstack, hcount (by decide)⟩

end TowerOfHanoi
