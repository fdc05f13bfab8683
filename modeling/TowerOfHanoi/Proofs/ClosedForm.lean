/-
TowerOfHanoi/Proofs/ClosedForm.lean

Every move of a solution from its number alone.  Let the rods be numbered around
a circle of three, so that a tower of `n` disks on rod `c` goes to rod `c + 2 ^ n`
by way of rod `c + 2 ^ (n + 1)`.  As `2 ^ (n + 2)` and `2 ^ n` are the same modulo
three, the two smaller towers around the largest disk go along with that,

    from  c          to  c + 2 ^ n        by way of  c + 2 ^ (n + 1),
    from  c + 2 ^ n  to  c + 2 ^ (n + 1)  by way of  c,

and the moves of the second are those of the first, `2 ^ n` numbers later and
`2 ^ n` rods further on.  A power of two in front of a smaller number leaves its
lower bits alone (`two_pow_add_and`, `two_pow_add_or`, `padicValNat_two_pow_add`),
so what the bits of the number say about a move is right at every height
(`transfer_eq_map`).

Main result: `move_eq_closed_form`.
-/
import Mathlib.Data.Nat.MaxPowDiv
import TowerOfHanoi.Proofs.Emission

namespace TowerOfHanoi

/-! ### A power of two in front of a smaller number -/

section Bits

variable {n i j : Nat}

theorem two_pow_add_eq_or (hi : i < 2 ^ n) : 2 ^ n + i = 2 ^ n ||| i := by
  simpa using Nat.two_pow_add_eq_or_of_lt hi 1

theorem two_pow_add_and (hi : i < 2 ^ n) (hj : j < 2 ^ n) :
    (2 ^ n + i) &&& (2 ^ n + j) = 2 ^ n + (i &&& j) := by
  rw [two_pow_add_eq_or hi, two_pow_add_eq_or hj, two_pow_add_eq_or (Nat.and_lt_two_pow i hj),
    Nat.or_and_distrib_left]

theorem two_pow_add_or (hi : i < 2 ^ n) (hj : j < 2 ^ n) :
    (2 ^ n + i) ||| (2 ^ n + j) = 2 ^ n + (i ||| j) := by
  rw [two_pow_add_eq_or hi, two_pow_add_eq_or hj, two_pow_add_eq_or (Nat.or_lt_two_pow hi hj),
    Nat.or_comm (2 ^ n) i, Nat.or_assoc, ← Nat.or_assoc (2 ^ n), Nat.or_self, ← Nat.or_assoc,
    Nat.or_comm i, Nat.or_assoc]

/-- The lowest bit of a number does not change when a higher one is added. -/
theorem padicValNat_two_pow_add (hpos : 0 < i) (hi : i < 2 ^ n) :
    padicValNat 2 (2 ^ n + i) = padicValNat 2 i := by
  have hdvd : ∀ e, 2 ^ e ∣ 2 ^ n + i ↔ 2 ^ e ∣ i := by
    intro e
    by_cases he : e ≤ n
    · exact (Nat.dvd_add_iff_right (Nat.pow_dvd_pow 2 he)).symm
    · -- a higher power than `2 ^ n` divides neither of the two, which are too small
      have hpow : 2 ^ (n + 1) ≤ 2 ^ e := Nat.pow_le_pow_right (by decide) (by omega)
      rw [Nat.pow_succ] at hpow
      exact iff_of_false (Nat.not_dvd_of_pos_of_lt (by omega) (by omega))
        (Nat.not_dvd_of_pos_of_lt hpos (by omega))
  have hval : ∀ {k}, k ≠ 0 → ∀ e, 2 ^ e ∣ k ↔ e ≤ padicValNat 2 k :=
    fun hk e => Nat.pow_dvd_iff_le_padicValNat (by decide) hk
  apply Nat.le_antisymm
  · exact (hval (by omega) _).1 ((hdvd _).1 pow_padicValNat_dvd)
  · exact (hval (by omega) _).1 ((hdvd _).2 pow_padicValNat_dvd)

end Bits

/-! ### Moves by number -/

/-- The move with the number `k`, counted from one, when the rods are numbered around a circle from
rod `c` on. -/
def numberedMove (rod : Nat → Peg) (c k : Nat) : Move where
  disk := 1 + padicValNat 2 k
  source := rod ((c + (k &&& (k - 1))) % 3)
  target := rod ((c + ((k ||| (k - 1)) + 1)) % 3)

/-- The move in the middle is that of the largest disk. -/
theorem numberedMove_two_pow (rod : Nat → Peg) (c n : Nat) :
    numberedMove rod c (2 ^ n) = ⟨n + 1, rod (c % 3), rod ((c + 2 ^ (n + 1)) % 3)⟩ := by
  have hpos : 0 < 2 ^ n := Nat.two_pow_pos n
  have hdisk : padicValNat 2 (2 ^ n) = n := padicValNat_base_pow (by decide) n
  have hand : 2 ^ n &&& (2 ^ n - 1) = 0 := by
    rw [Nat.and_two_pow_sub_one_eq_mod, Nat.mod_self]
  have hor : (2 ^ n ||| (2 ^ n - 1)) + 1 = 2 ^ (n + 1) := by
    rw [← two_pow_add_eq_or (by omega), Nat.pow_succ]
    omega
  rw [numberedMove, hdisk, hand, hor, Nat.add_comm 1 n, Nat.add_zero c]

/-- `2 ^ n` moves later, the same happens `2 ^ n` rods further on. -/
theorem numberedMove_two_pow_add (rod : Nat → Peg) (c : Nat) {n k : Nat} (hpos : 0 < k)
    (hk : k < 2 ^ n) : numberedMove rod c (2 ^ n + k) = numberedMove rod (c + 2 ^ n) k := by
  have hpred : 2 ^ n + k - 1 = 2 ^ n + (k - 1) := by omega
  have hlt : k - 1 < 2 ^ n := by omega
  rw [numberedMove, numberedMove, hpred, padicValNat_two_pow_add hpos hk, two_pow_add_and hk hlt,
    two_pow_add_or hk hlt, Nat.add_assoc c, Nat.add_assoc c, Nat.add_assoc (2 ^ n)]

/-- The numbers of the moves of a taller tower: those of the tower on top, that of the largest disk,
and those of the tower on top again, `2 ^ n` later. -/
theorem range'_towerMoves_succ (n : Nat) :
    List.range' 1 (towerMoves (n + 1))
      = List.range' 1 (towerMoves n) ++
          2 ^ n :: (List.range' 1 (towerMoves n)).map (2 ^ n + ·) := by
  have htower := towerMoves_add_one n
  rw [List.map_add_range', ← List.range'_succ, ← htower, Nat.add_comm (towerMoves n) 1,
    List.range'_append_1, towerMoves]
  congr 1
  omega

theorem map_numberedMove_two_pow_add (rod : Nat → Peg) (c n : Nat) :
    ((List.range' 1 (towerMoves n)).map (2 ^ n + ·)).map (numberedMove rod c)
      = (List.range' 1 (towerMoves n)).map (numberedMove rod (c + 2 ^ n)) := by
  have htower := towerMoves_add_one n
  rw [List.map_map]
  refine List.map_congr_left fun k hk => ?_
  rw [List.mem_range'_1] at hk
  exact numberedMove_two_pow_add rod c (by omega) (by omega)

/-- **The moves of a transfer are given by their numbers**, if the rods are numbered as the height
of the tower demands. -/
theorem transfer_eq_map (rod : Nat → Peg) (n c : Nat) :
    transfer n (rod (c % 3)) (rod ((c + 2 ^ n) % 3)) (rod ((c + 2 ^ (n + 1)) % 3))
      = (List.range' 1 (towerMoves n)).map (numberedMove rod c) := by
  induction n generalizing c with
  | zero => rfl
  | succ n ih =>
    -- the rods of the tower on top, before and after the largest disk moves
    have hspare : (c + 2 ^ (n + 1 + 1)) % 3 = (c + 2 ^ n) % 3 := by
      rw [Nat.pow_succ, Nat.pow_succ]
      omega
    have hsource : c % 3 = (c + 2 ^ n + 2 ^ (n + 1)) % 3 := by
      rw [Nat.pow_succ]
      omega
    have htarget : (c + 2 ^ (n + 1)) % 3 = (c + 2 ^ n + 2 ^ n) % 3 := by
      rw [Nat.pow_succ]
      omega
    rw [transfer, range'_towerMoves_succ, List.map_append, List.map_cons,
      map_numberedMove_two_pow_add, numberedMove_two_pow, ← ih, ← ih, hspare, ← htarget, ← hsource]

/-! ### The solution of a puzzle -/

/-- The rods of a puzzle by number.  The source is rod `0`, and the way round depends on whether the
number of disks is odd. -/
def Puzzle.rod (p : Puzzle) : Nat → Peg
  | 0 => p.rods.source
  | 1 => if p.disks.count % 2 = 1 then p.rods.spare else p.rods.target
  | _ => if p.disks.count % 2 = 1 then p.rods.target else p.rods.spare

theorem two_pow_mod_three (n : Nat) : 2 ^ n % 3 = if n % 2 = 1 then 2 else 1 := by
  induction n with
  | zero => rfl
  | succ n ih =>
    rw [Nat.pow_succ]
    split at ih <;> split <;> omega

theorem Puzzle.rod_target (p : Puzzle) : p.rod (2 ^ p.disks.count % 3) = p.rods.target := by
  rw [two_pow_mod_three]
  split <;> rename_i h <;> simp [rod, h]

theorem Puzzle.rod_spare (p : Puzzle) : p.rod (2 ^ (p.disks.count + 1) % 3) = p.rods.spare := by
  rw [Nat.pow_succ, Nat.mul_mod, two_pow_mod_three]
  split <;> rename_i h <;> simp [rod, h]

theorem Puzzle.solution_eq_map (p : Puzzle) :
    p.solution = (List.range' 1 (towerMoves p.disks.count)).map (numberedMove p.rod 0) := by
  rw [← transfer_eq_map, Nat.zero_add, Nat.zero_add, p.rod_target, p.rod_spare]
  rfl

/-- **Every move is known from its number.**  With either strategy, the `k`-th of the `2 ^ n - 1`
moves is about the disk that has as many smaller ones as `k` has zeros at its end in binary.  It
leaves the rod with the number that is left of `k` without its lowest bit, modulo three, and goes to
the rod with the number that comes of adding that bit to `k`. -/
theorem move_eq_closed_form (p : Puzzle) (strategy : Strategy) (k : Nat) (hpos : 1 ≤ k)
    (hle : k ≤ 2 ^ p.disks.count - 1) :
    (solvePuzzle Sink.collect strategy p #[]).2[k - 1]? =
      some ⟨1 + padicValNat 2 k, p.rod ((k &&& (k - 1)) % 3),
        p.rod (((k ||| (k - 1)) + 1) % 3)⟩ := by
  have hlt : k - 1 < towerMoves p.disks.count := by
    rw [towerMoves_eq]
    omega
  have hmove : numberedMove p.rod 0 k = ⟨1 + padicValNat 2 k, p.rod ((k &&& (k - 1)) % 3),
      p.rod (((k ||| (k - 1)) + 1) % 3)⟩ := by
    rw [numberedMove, Nat.zero_add, Nat.zero_add]
  rw [solvePuzzle_collect, List.getElem?_toArray, p.solution_eq_map, List.getElem?_map,
    List.getElem?_range' hlt, ← hmove, Nat.one_mul, Nat.add_sub_cancel' hpos]
  rfl

/-- The last but one of the seven moves of three disks: `6` is `110` in binary, so it is about disk
`2`, which goes from rod `4` to rod `8`, and these are the spare rod and the target. -/
theorem move_eq_closed_form_six :
    let p : Puzzle := ⟨⟨3, by decide⟩, .classic⟩
    6 ≤ 2 ^ 3 - 1 ∧ (solvePuzzle Sink.collect .iterative p #[]).2[5]? = some ⟨2, .b, .c⟩ := by
  intro p
  have hzeros : padicValNat 2 6 = 1 := by decide +kernel
  refine ⟨by decide, (move_eq_closed_form p .iterative 6 (by decide) (by decide)).trans ?_⟩
  rw [hzeros]
  decide

end TowerOfHanoi
