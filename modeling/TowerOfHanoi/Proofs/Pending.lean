/-
TowerOfHanoi/Proofs/Pending.lean

The moves that a stack of frames stands for.  A frame expands to a list of
moves, the transfer of a sub-tower to its solution and a single move to
itself, and a cursor stands for the expansions of its frames, top first:

    c.moves = c.stack.flatMap Frame.expand.

A round of work never changes what a stack stands for: a split leaves the list
as it is, and a yield takes its head (`expand_round`).  The fuel of
`Cursor.next?` is the height of the top frame, which a split lowers by one as
long as no frame is about an empty tower (`Proper`), so a cursor yields the
head of its list and stops only when the list is empty (`next?_spec`).  The
cursor of a puzzle starts out with the puzzle's solution (`moves_start`).
-/
import Mathlib.Algebra.Group.Nat.Defs
import TowerOfHanoi.Cursor

namespace TowerOfHanoi

/-! ### How many moves -/

theorem towerMoves_add_one (n : Nat) : towerMoves n + 1 = 2 ^ n := by
  induction n with
  | zero => rfl
  | succ n ih =>
    rw [towerMoves, Nat.pow_succ]
    omega

theorem towerMoves_eq (n : Nat) : towerMoves n = 2 ^ n - 1 := by
  have := towerMoves_add_one n
  omega

@[simp] theorem length_transfer (n : Nat) (x y z : Peg) :
    (transfer n x y z).length = towerMoves n := by
  induction n generalizing x y z with
  | zero => rfl
  | succ n ih =>
    simp only [transfer, towerMoves, List.length_append, List.length_cons, ih]
    omega

@[simp] theorem Puzzle.length_solution (p : Puzzle) :
    p.solution.length = towerMoves p.disks.count :=
  length_transfer ..

/-- The power of two fits in 64 bits: at 63 disks there is still room. -/
theorem DiskCount.toNat_shiftLeft (n : DiskCount) :
    ((1 : UInt64) <<< UInt64.ofNat n.count).toNat = 2 ^ n.count := by
  have hn : n.count < 64 := Nat.lt_succ_of_le n.le_max
  have hpow : 2 ^ n.count < 2 ^ 64 := Nat.pow_lt_pow_right (by decide) hn
  rw [UInt64.toNat_shiftLeft, UInt64.toNat_ofNat_of_lt' (Nat.lt_trans hn (by decide)),
    Nat.mod_eq_of_lt hn, Nat.shiftLeft_eq, UInt64.toNat_one, Nat.one_mul, Nat.mod_eq_of_lt hpow]

theorem DiskCount.one_le_shiftLeft (n : DiskCount) :
    (1 : UInt64) ≤ (1 : UInt64) <<< UInt64.ofNat n.count := by
  rw [UInt64.le_iff_toNat_le, toNat_shiftLeft]
  exact Nat.one_le_two_pow

/-- The 64-bit count is exact. -/
theorem DiskCount.toNat_moveCount (n : DiskCount) : n.moveCount.toNat = 2 ^ n.count - 1 := by
  rw [moveCount, UInt64.toNat_sub_of_le _ _ n.one_le_shiftLeft, toNat_shiftLeft, UInt64.toNat_one]

theorem DiskCount.moveCount_eq (n : DiskCount) :
    n.moveCount = UInt64.ofNat (towerMoves n.count) := by
  rw [towerMoves_eq, ← toNat_moveCount, UInt64.ofNat_toNat]

/-! ### What frames stand for -/

/-- The moves that a frame stands for. -/
def Frame.expand : Frame → List Move
  | .transfer n source target spare => TowerOfHanoi.transfer n source target spare
  | .move m => [m]

/-- A frame that stands for at least one move. -/
def Frame.Proper : Frame → Prop
  | .transfer n _ _ _ => 1 ≤ n
  | .move _ => True

/-- One round of work, on a stack of proper frames: nothing is left, or the head of the list is
yielded, or the list stays and the top frame is about a lower tower. -/
theorem expand_round {stack : List Frame} (hp : ∀ f ∈ stack, f.Proper) :
    match round stack with
    | .exhausted => stack = []
    | .yield m rest =>
      stack.flatMap Frame.expand = m :: rest.flatMap Frame.expand ∧ ∀ f ∈ rest, f.Proper
    | .split stack' =>
      stack'.flatMap Frame.expand = stack.flatMap Frame.expand ∧ (∀ f ∈ stack', f.Proper) ∧
        stack' ≠ [] ∧ topHeight stack' + 1 = topHeight stack := by
  rcases stack with - | ⟨f, rest⟩
  · rfl
  have hrest : ∀ g ∈ rest, g.Proper := fun g hg => hp g (by simp [hg])
  cases f with
  | move m => exact ⟨rfl, hrest⟩
  | transfer n x y z =>
    have hn : 1 ≤ n := hp (.transfer n x y z) (by simp)
    -- the height `1` yields at once, without frames for the empty towers around its move
    obtain _ | _ | n := n
    · omega
    · exact ⟨rfl, hrest⟩
    · refine ⟨?_, ?_, by simp, rfl⟩
      · simp [Frame.expand, transfer]
      · simpa [Frame.Proper] using hrest

/-- Rounds with enough fuel yield the head of the list, if there is one. -/
theorem runRounds_spec {fuel : Nat} {stack : List Frame} (hp : ∀ f ∈ stack, f.Proper)
    (hf : topHeight stack < fuel) :
    match runRounds fuel stack with
    | none => stack = []
    | some (m, rest) =>
      stack.flatMap Frame.expand = m :: rest.flatMap Frame.expand ∧ ∀ f ∈ rest, f.Proper := by
  induction fuel generalizing stack with
  | zero => omega
  | succ fuel ih =>
    have hround := expand_round hp
    rw [runRounds]
    rcases hr : round stack with - | ⟨m, rest⟩ | stack' <;> rw [hr] at hround
    · exact hround
    · exact hround
    · obtain ⟨hsame, hp', hne, hlower⟩ := hround
      have hih := ih hp' (by omega)
      simp only
      rcases hrun : runRounds fuel stack' with - | ⟨m, rest⟩ <;> rw [hrun] at hih
      · exact absurd hih hne
      · rw [← hsame]
        exact hih

/-! ### Cursors -/

namespace Cursor

variable {c : Cursor}

/-- The moves that follow a cursor. -/
def moves (c : Cursor) : List Move :=
  c.stack.flatMap Frame.expand

/-- No frame of the cursor is about an empty tower. -/
def Proper (c : Cursor) : Prop :=
  ∀ f ∈ c.stack, f.Proper

theorem moves_start (p : Puzzle) : (start p).moves = p.solution := by
  unfold moves start
  split
  · rename_i h
    simp [Puzzle.solution, h, transfer]
  · simp [Frame.expand, Puzzle.solution]

theorem proper_start (p : Puzzle) : (start p).Proper := by
  unfold Proper start
  split
  · simp
  · rename_i h
    simpa [Frame.Proper] using Nat.one_le_iff_ne_zero.2 h

/-- A cursor yields the head of its list and goes on with the tail. -/
theorem next?_spec (hc : c.Proper) :
    match c.next? with
    | none => c.moves = []
    | some (m, c') => c.moves = m :: c'.moves ∧ c'.Proper ∧ c'.remaining = c.remaining - 1 := by
  have hspec := runRounds_spec hc (Nat.lt_succ_self _)
  unfold next?
  rcases hr : runRounds (topHeight c.stack + 1) c.stack with - | ⟨m, rest⟩ <;> rw [hr] at hspec
  · simp only at hspec
    simp [moves, hspec]
  · exact ⟨hspec.1, hspec.2, rfl⟩

theorem next?_of_moves_nil (hc : c.Proper) (h : c.moves = []) : c.next? = none := by
  have hspec := next?_spec hc
  rcases hn : c.next? with - | ⟨m, c'⟩
  · rfl
  · rw [hn, h] at hspec
    simp at hspec

theorem next?_of_moves_cons {m : Move} {ms : List Move} (hc : c.Proper) (h : c.moves = m :: ms) :
    ∃ c', c.next? = some (m, c') ∧ c'.moves = ms ∧ c'.Proper := by
  have hspec := next?_spec hc
  rcases hn : c.next? with - | ⟨m', c'⟩ <;> rw [hn, h] at hspec
  · simp at hspec
  · obtain ⟨hcons, hp, -⟩ := hspec
    obtain ⟨rfl, rfl⟩ := List.cons.inj hcons
    exact ⟨c', rfl, rfl, hp⟩

section Fold

variable {α : Type} (f : α → Move → α) (a : α)

theorem fold_of_none (h : c.next? = none) : c.fold f a = (a, c) := by
  rw [fold]
  split
  · rfl
  · rename_i h'
    rw [h] at h'
    cases h'

theorem fold_of_some {m : Move} {c' : Cursor} (h : c.next? = some (m, c')) :
    c.fold f a = c'.fold f (f a m) := by
  rw [fold]
  split
  · rename_i h'
    rw [h] at h'
    cases h'
  · rename_i h'
    rw [h] at h'
    obtain ⟨rfl, rfl⟩ := Prod.mk.inj (Option.some.inj h')
    rfl

/-- Folding over a cursor is folding over its list. -/
theorem fold_eq_foldl (hc : c.Proper) : (c.fold f a).1 = c.moves.foldl f a := by
  -- on the list and not on the stack, which grows with every split
  induction hms : c.moves generalizing c a with
  | nil => rw [fold_of_none f a (next?_of_moves_nil hc hms), List.foldl_nil]
  | cons m ms ih =>
    obtain ⟨c', hn, hms', hc'⟩ := next?_of_moves_cons hc hms
    rw [fold_of_some f a hn, List.foldl_cons]
    exact ih (f a m) hc' hms'

end Fold

end Cursor

end TowerOfHanoi
