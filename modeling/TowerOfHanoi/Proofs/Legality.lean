/-
TowerOfHanoi/Proofs/Legality.lean

The rules of the puzzle, as they are told and as they are checked.  They are
told in terms of all the disks on two rods:

    Allowed b m x y

says that `m` takes a disk from rod `x`, where all others are larger, to
another rod `y`, where all are larger.  The check looks at no more than the top
of either rod, and lets a disk be put on one of its own size.  That comes to
the same on a board where the stacks are ordered and no disk lies twice
(`Sound.legal_iff`), and such are all boards that moves can lead to, refused
ones included.

Main result: `perform_exact`, on every such board a move is made if it is
allowed, and otherwise the board is left alone.
-/
import TowerOfHanoi.Proofs.Attempt

namespace TowerOfHanoi.Board

/-- The move takes a disk from rod `x` to another rod `y`, and all other disks on either of them are
larger. -/
structure Allowed (b : Board) (m : Move) (x y : Role) : Prop where
  source : m.source = b.rods.peg x
  target : m.target = b.rods.peg y
  distinct : x ≠ y
  present : m.disk ∈ b.stack x
  smallest : ∀ d ∈ b.stack x, d ≠ m.disk → m.disk < d
  fits : ∀ d ∈ b.stack y, m.disk < d

variable {b : Board} {m : Move} {x y : Role}

/-- **It is enough to look at the tops of two rods.** -/
theorem Sound.legal_iff (hb : b.Sound) : (∃ rest, b.Legal m x y rest) ↔ b.Allowed m x y := by
  constructor
  · rintro ⟨rest, hl⟩
    refine ⟨hl.source, hl.target, hl.distinct, by simp [hl.top], ?_, ?_⟩
    · intro d hd hne
      have hord := hb.ordered x
      rw [hl.top] at hd hord
      rcases List.mem_cons.1 hd with rfl | hd
      · exact absurd rfl hne
      · exact (List.pairwise_cons.1 hord).1 d hd
    · -- the check would let a disk of the same size pass, but there is only one of each size
      exact fun d hd => hb.lt_of_mem_target hl hd
  · intro ha
    have hmin : ∀ d ∈ b.stack x, m.disk ≤ d := by
      intro d hd
      by_cases hne : d = m.disk
      · exact Nat.le_of_eq hne.symm
      · exact Nat.le_of_lt (ha.smallest d hd hne)
    obtain ⟨rest, htop⟩ := hb.exists_top ha.present hmin
    refine ⟨rest, ha.source, ha.target, ha.distinct, htop, fun d hd => ?_⟩
    exact Nat.le_of_lt (ha.fits d (List.mem_of_mem_head? hd))

/-- **A board makes the moves that the rules allow, as a whole, and no others.**  On a board on which
any moves have been tried, a move is made exactly if it takes a disk from one rod of the board to
another, and all other disks on either of them are larger.  Then the disk goes from the top of the one
to the top of the other, and neither the third stack nor the rods nor the number of disks change.  A
move that is refused leaves everything as it was, the counter included. -/
theorem perform_exact (p : Puzzle) (tried : List Move) (m : Move) :
    let b := tried.foldl (fun b m => (b.perform m).2) (start p)
    let result := (b.perform m).1
    let after := (b.perform m).2
    (result = .ok () ↔ ∃ x y, b.Allowed m x y) ∧
      (result = .ok () → ∃ x y z, b.Allowed m x y ∧ x ≠ z ∧ y ≠ z ∧
        b.stack x = m.disk :: after.stack x ∧ after.stack y = m.disk :: b.stack y ∧
        after.stack z = b.stack z ∧ after.rods = b.rods ∧ after.disks = b.disks ∧
        after.applied = b.applied + 1) ∧
      ∀ e, result = .error e → after = b := by
  intro b result after
  have hplay : (start p).replay ((start p).accepted tried) = .ok b :=
    replay_accepted _ tried
  have hsound : b.Sound := (sound_start p).replay hplay
  have hperform : (result, after) = _ := b.perform_eq m
  clear_value result after
  rcases ha : b.apply m with e | b' <;> rw [ha] at hperform <;>
    obtain ⟨rfl, rfl⟩ := Prod.mk.inj hperform
  · have hrefused : ∀ x y, ¬ b.Allowed m x y := by
      intro x y hallowed
      obtain ⟨rest, hl⟩ := hsound.legal_iff.2 hallowed
      rw [hl.apply] at ha
      cases ha
    exact ⟨by simpa using hrefused, by simp, fun _ _ => rfl⟩
  · obtain ⟨x, y, rest, hl, rfl⟩ := apply_eq_ok_iff.1 ha
    have hallowed : b.Allowed m x y := hsound.legal_iff.1 ⟨rest, hl⟩
    refine ⟨⟨fun _ => ⟨x, y, hallowed⟩, fun _ => rfl⟩, fun _ => ?_, by simp⟩
    obtain ⟨z, hxz, hyz⟩ := Role.exists_third x y
    refine ⟨x, y, z, hallowed, hxz, hyz, ?_, ?_, ?_, carry_rods .., carry_disks .., carry_applied ..⟩
    · rw [hl.top, stack_carry, if_neg hl.distinct, if_pos rfl]
    · rw [stack_carry, if_pos rfl]
    · rw [stack_carry, if_neg hyz.symm, if_neg hxz.symm]

end TowerOfHanoi.Board
