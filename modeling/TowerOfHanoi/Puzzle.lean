/-
TowerOfHanoi/Puzzle.lean

The puzzle: a tower of disks and three rods.  A tower has at most 63 disks,
so that the number of moves, one less than a power of two, fits in 64 bits;
the rods play the roles of source, target and spare and carry three different
labels.  Both conditions are part of the types.
-/
import TowerOfHanoi.Peg
import TowerOfHanoi.Validation

namespace TowerOfHanoi

/-! ### Disk counts -/

/-- The number of disks of a tower. -/
structure DiskCount where
  count : Nat
  le_max : count ≤ 63
deriving DecidableEq

namespace DiskCount

/-- The height of the tallest tower. -/
def max : Nat := 63

/-- A disk count under a ceiling of the caller's choice, which is never above `max`. -/
def withLimit (disks : Int) (limit : Nat) : Except Error DiskCount :=
  let ceiling := min limit max
  if disks < 0 then .error (.negativeDiskCount disks)
  else if h : disks.toNat ≤ ceiling then .ok ⟨disks.toNat, Nat.le_trans h (Nat.min_le_right ..)⟩
  else .error (.tooManyDisks disks ceiling)

/-- A disk count of at most `max`. -/
def ofInt (disks : Int) : Except Error DiskCount :=
  withLimit disks max

/-- The number of moves that solve a tower of this height, in 64-bit arithmetic. -/
def moveCount (n : DiskCount) : UInt64 :=
  ((1 : UInt64) <<< UInt64.ofNat n.count) - 1

end DiskCount

/-! ### Rods -/

/-- The part that a rod plays in a puzzle. -/
inductive Role where
  | source
  | target
  | spare
deriving DecidableEq, Repr

/-- Three rods with different labels, by role. -/
structure Rods where
  source : Peg
  target : Peg
  spare : Peg
  source_ne_target : source ≠ target
  source_ne_spare : source ≠ spare
  target_ne_spare : target ≠ spare
deriving DecidableEq

namespace Rods

/-- Rods differ if their labels do, and the other way round. -/
theorem distinct_labels_iff {source target spare : Peg} :
    Validation.distinct [source.label, target.label, spare.label] = .ok () ↔
      source ≠ target ∧ source ≠ spare ∧ target ≠ spare := by
  rw [Validation.distinct_eq_ok_iff]
  cases source
  cases target
  cases spare
  simp [and_assoc]

/-- Three rods by role; the first label that repeats an earlier one is refused. -/
def ofPegs (source target spare : Peg) : Except Error Rods :=
  match h : Validation.distinct [source.label, target.label, spare.label] with
  | .error e => .error e
  | .ok () =>
    have hrods := distinct_labels_iff.1 h
    .ok ⟨source, target, spare, hrods.1, hrods.2.1, hrods.2.2⟩

/-- The classic rods: from `A` to `C` by way of `B`. -/
def classic : Rods :=
  ⟨.a, .c, .b, by decide, by decide, by decide⟩

/-- The rod that plays a role. -/
def peg (rods : Rods) : Role → Peg
  | .source => rods.source
  | .target => rods.target
  | .spare => rods.spare

/-- The role that a rod plays, if it is one of the three. -/
def role? (rods : Rods) (p : Peg) : Option Role :=
  if p = rods.source then some .source
  else if p = rods.target then some .target
  else if p = rods.spare then some .spare
  else none

end Rods

/-! ### Puzzles -/

/-- A tower to be carried from the source rod to the target rod. -/
structure Puzzle where
  disks : DiskCount
  rods : Rods
deriving DecidableEq

/-- A puzzle from its four parts: the disk count is checked before the labels. -/
def Puzzle.ofParts (disks : Int) (source target spare : Peg) : Except Error Puzzle := do
  let disks ← DiskCount.ofInt disks
  let rods ← Rods.ofPegs source target spare
  return ⟨disks, rods⟩

end TowerOfHanoi
