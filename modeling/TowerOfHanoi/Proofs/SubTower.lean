/-
TowerOfHanoi/Proofs/SubTower.lean

A sub-tower carried in the middle of a play.  On a board that has been played
on, the larger disks may lie on any of the rods.  As long as the disks `1` to
`n` are together on one rod, they are the top of it and the board is a board
of larger disks with a tower laid on it,

    b = below.lay (tower n) x

(`Sound.exists_eq_lay`).  To this the transfer of a sub-tower applies, and what
it comes to is the same tower, laid on another rod of the same board
(`Sound.replay_transfer`).  What lies below has never been touched: a disk that
is not of the tower has its place, counted from the bottom of its rod, whether
the tower stands there or not (`diskAt?_lay`).

Main result: `sub_tower_carried`.
-/
import TowerOfHanoi.Proofs.Attempt
import TowerOfHanoi.Proofs.Transfer

namespace TowerOfHanoi

namespace Board

variable {b : Board} {n : Nat} {x y z : Role}

/-! ### A tower on a board of larger disks -/

/-- A board on which the smallest disks lie on one rod is a board of larger disks with a tower laid
on it. -/
theorem Sound.exists_eq_lay (hb : b.Sound) (hx : tower n ⊆ b.stack x) :
    ∃ below : Board, b = below.lay (tower n) x ∧ ∀ r, ∀ d ∈ below.stack r, n < d := by
  obtain ⟨rest, hstack, hlarger⟩ := hb.exists_tower_append hx
  refine ⟨b.setStack rest x, ?_, fun r d hd => ?_⟩
  · refine ext_stack ?_ ?_ (fun r => ?_) ?_
    · simp [lay]
    · simp
    · rw [stack_lay, stack_setStack, stack_setStack, if_pos rfl, ← hstack]
      split
      · rename_i hr
        rw [hr]
      · rfl
    · simp
  · rw [stack_setStack] at hd
    split at hd
    · exact hlarger d hd
    · -- a disk of the tower would lie on two rods
      rename_i hr
      have hpos := (mem_tower.1 (hb.tower_of_mem hd)).1
      refine Nat.lt_of_not_le fun hle => hr ?_
      exact hb.role_unique hd (hx (mem_tower.2 ⟨hpos, hle⟩))

/-- **A sub-tower can be carried at any time**, from the rod on which its disks lie together to any
other. -/
theorem Sound.replay_transfer (hb : b.Sound) (hx : tower n ⊆ b.stack x) (hxy : x ≠ y) (hxz : x ≠ z)
    (hyz : y ≠ z) :
    ∃ below : Board, b = below.lay (tower n) x ∧
      b.replay (transfer n (b.rods.peg x) (b.rods.peg y) (b.rods.peg z))
        = .ok ((below.lay (tower n) y).advance (towerMoves n)) := by
  obtain ⟨below, rfl, hlarger⟩ := hb.exists_eq_lay hx
  refine ⟨below, rfl, ?_⟩
  rw [lay_rods]
  exact Board.replay_transfer n below hxy hxz hyz hlarger

/-! ### Places -/

/-- The disk at a place on a rod, counted from the bottom. -/
def diskAt? (b : Board) (r : Role) (i : Nat) : Option Nat :=
  (b.stack r).reverse[i]?

@[simp] theorem diskAt?_advance (b : Board) (k : Nat) (r : Role) (i : Nat) :
    (b.advance k).diskAt? r i = b.diskAt? r i := by
  rw [diskAt?, diskAt?, stack_advance]

/-- Disks that are laid on a rod leave all others at their places. -/
theorem diskAt?_lay (b : Board) {ds : List Nat} {d : Nat} (hd : d ∉ ds) (w r : Role) (i : Nat) :
    (b.lay ds w).diskAt? r i = some d ↔ b.diskAt? r i = some d := by
  rw [diskAt?, diskAt?, stack_lay]
  split
  · rename_i hr
    subst hr
    rw [List.reverse_append, List.getElem?_append]
    split
    · rfl
    · -- above the old top there are the new disks on one side, and nothing on the other
      rename_i hi
      constructor
      · intro h
        exact absurd (List.mem_reverse.1 (List.mem_of_getElem? h)) hd
      · intro h
        exact absurd (List.getElem?_eq_some_iff.1 h).1 hi
  · rfl

end Board

/-! ### Carrying the sub-tower -/

/-- The moves that are emitted for a sub-tower are those of its transfer. -/
theorem emitRecursive_collect (n : Nat) (x y z : Peg) :
    emitRecursive Sink.collect n x y z #[]
      = (.ok (UInt64.ofNat (towerMoves n)), (transfer n x y z).toArray) := by
  rw [emitRecursive_eq, Sink.emitAll_collect]
  simp [counted]

/-- **A sub-tower is carried and nothing else moves.**  Let any moves have been tried on the board of
a puzzle, after which the disks `1` to `n` all lie on one rod `x`, and let `y` and `z` be the other two
in either order.  Then there are `2 ^ n - 1` moves that the recursive strategy emits to carry `n` disks
from `x` to `y` by way of `z`, and the board accepts them one after another.  In the end the disks `n`
to `1` stand on top of what was on `y`, in that order, and what was below them on `x` is left there.
The stack on `z` is as it was, and every disk larger than `n` is at its place on its rod. -/
theorem sub_tower_carried (p : Puzzle) (tried : List Move) (n : Nat) {x y z : Role} (hxy : x ≠ y)
    (hxz : x ≠ z) (hyz : y ≠ z) :
    let b := tried.foldl (fun b m => (b.perform m).2) (Board.start p)
    let emitted := emitRecursive Sink.collect n (p.rods.peg x) (p.rods.peg y) (p.rods.peg z) #[]
    let ms := emitted.2.toList
    (∀ d, 1 ≤ d → d ≤ n → d ∈ b.stack x) →
      emitted.1 = .ok (UInt64.ofNat (2 ^ n - 1)) ∧ ms.length = 2 ^ n - 1 ∧
        ∃ b', b.replay ms = .ok b' ∧ b'.applied = b.applied + UInt64.ofNat (2 ^ n - 1) ∧
          b.stack x = tower n ++ b'.stack x ∧ b'.stack y = tower n ++ b.stack y ∧
          b'.stack z = b.stack z ∧
          ∀ r i d, n < d → (b'.diskAt? r i = some d ↔ b.diskAt? r i = some d) := by
  intro b emitted ms hx
  have hemitted : emitted = _ := emitRecursive_collect n (p.rods.peg x) (p.rods.peg y) (p.rods.peg z)
  have hms : ms = transfer n (p.rods.peg x) (p.rods.peg y) (p.rods.peg z) := by
    show emitted.2.toList = _
    rw [hemitted]
  have hreached : (Board.start p).replay ((Board.start p).accepted tried) = .ok b :=
    Board.replay_accepted _ tried
  have hsound : b.Sound := (Board.sound_start p).replay hreached
  have hrods : b.rods = p.rods := Board.rods_of_replay hreached
  have htower : tower n ⊆ b.stack x := fun d hd => hx d (mem_tower.1 hd).1 (mem_tower.1 hd).2
  obtain ⟨below, hb, hplay⟩ := hsound.replay_transfer htower hxy hxz hyz
  rw [hrods, ← hms] at hplay
  rw [← towerMoves_eq]
  refine ⟨by rw [hemitted], by rw [hms, length_transfer], _, hplay, ?_, ?_, ?_, ?_, fun r i d hd => ?_⟩
  · rw [Board.applied_of_replay hplay, hms, length_transfer]
  · rw [hb, Board.stack_advance, Board.stack_lay, Board.stack_lay, if_pos rfl, if_neg hxy]
  · rw [hb, Board.stack_advance, Board.stack_lay, Board.stack_lay, if_pos rfl, if_neg hxy.symm]
  · rw [hb, Board.stack_advance, Board.stack_lay, Board.stack_lay, if_neg hyz.symm, if_neg hxz.symm]
  · -- with the tower on either rod, a larger disk is where it is without the tower
    have hlarger : d ∉ tower n := by
      rw [mem_tower]
      omega
    rw [hb, Board.diskAt?_advance, Board.diskAt?_lay below hlarger, Board.diskAt?_lay below hlarger]

/-- Four disks on three rods: the two smallest go from the target rod, where nothing is below them,
to the third disk on the spare rod, while the largest waits on the source rod. -/
theorem sub_tower_carried_two :
    let p : Puzzle := ⟨⟨4, by decide⟩, .classic⟩
    let tried : List Move := [⟨1, .a, .b⟩, ⟨2, .a, .c⟩, ⟨1, .b, .c⟩, ⟨3, .a, .c⟩, ⟨3, .a, .b⟩]
    let b := tried.foldl (fun b m => (b.perform m).2) (Board.start p)
    (∀ d, 1 ≤ d → d ≤ 2 → d ∈ b.stack .target) ∧
      ∃ b', b.replay [⟨1, .c, .a⟩, ⟨2, .c, .b⟩, ⟨1, .a, .b⟩] = .ok b' ∧
        b'.stack .target = [] ∧ b'.stack .spare = [1, 2, 3] ∧ b'.stack .source = [4] := by
  intro p tried b
  have hboard : tried.foldl (fun b m => (b.perform m).2) (Board.start p)
      = ⟨p.disks, p.rods, [4], [1, 2], [3], 4⟩ := by
    decide +kernel +revert
  have htogether : ∀ d, 1 ≤ d → d ≤ 2 → d ∈ b.stack .target := by
    intro d hpos hle
    rw [show b = _ from hboard]
    exact mem_tower.2 ⟨hpos, hle⟩
  obtain ⟨-, -, b', hplay, -, htarget, hspare, hsource, -⟩ :=
    sub_tower_carried p tried 2 (x := .target) (y := .spare) (z := .source) (by decide) (by decide)
      (by decide) htogether
  rw [hboard] at htarget hspare hsource
  have hempty : b'.stack .target = [] := List.append_right_eq_self.1 htarget.symm
  exact ⟨htogether, b', hplay, hempty, hspare, hsource⟩

end TowerOfHanoi
