/-
TowerOfHanoi/Proofs/Optimal.lean

No play is shorter than the solution, and no other play is as short.  The
argument is about an arbitrary play in which the disks `1` to `n` go from one
rod to another, whatever the larger disks do in between; of its moves only
those of the `n` smallest disks count (`small n ms`).

The largest of the `n + 1` disks has to move.  Before its first move the others
have all gone to a rod that it neither leaves nor enters, and after its last
move they have to come back from such a rod (`exists_first_move`,
`exists_last_move`): two plays of `n` disks, with at least one move between
them.  A play without a move to spare has exactly one, the rods of the two
smaller plays are then forced, and the induction says what they are.

Main result: `solution_optimal`.
-/
import TowerOfHanoi.Proofs.Order
import TowerOfHanoi.Proofs.Pending

namespace TowerOfHanoi

/-! ### The moves of the smallest disks -/

/-- The moves of a list that are about the `n` smallest disks. -/
def small (n : Nat) (ms : List Move) : List Move :=
  ms.filter (·.disk ≤ n)

@[simp] theorem small_append (n : Nat) (ms ms' : List Move) :
    small n (ms ++ ms') = small n ms ++ small n ms' :=
  List.filter_append ..

theorem small_cons_largest (n : Nat) (x y : Peg) (ms : List Move) :
    small n (⟨n, x, y⟩ :: ms) = ⟨n, x, y⟩ :: small n ms := by
  simp [small]

theorem small_succ {n : Nat} {ms : List Move} (h : ∀ m ∈ ms, m.disk ≠ n + 1) :
    small (n + 1) ms = small n ms := by
  refine List.filter_congr fun m hm => ?_
  have := h m hm
  rw [decide_eq_decide]
  omega

theorem small_eq_self {n : Nat} {ms : List Move} (h : ∀ m ∈ ms, m.disk ≤ n) : small n ms = ms := by
  simpa [small] using h

namespace Board

variable {b b' : Board} {ms : List Move} {n : Nat} {x y z : Role}

/-! ### The largest disk -/

/-- A disk that changes its rod is moved. -/
theorem Sound.exists_move (hb : b.Sound) (h : b.replay ms = .ok b') (hxy : x ≠ y) {d : Nat}
    (hx : d ∈ b.stack x) (hy : d ∈ b'.stack y) : ∃ m ∈ ms, m.disk = d := by
  by_cases hd : ∀ m ∈ ms, m.disk ≠ d
  · exact absurd (hb.role_unique hx ((mem_stack_of_replay h hd).1 hy)) hxy
  · simpa using hd

/-- The first move of a disk takes it from where it was, with all smaller disks on a third rod. -/
theorem Sound.exists_first_move (hb : b.Sound) (h : b.replay ms = .ok b')
    (hx : n + 1 ∈ b.stack x) (hmoved : ∃ m ∈ ms, m.disk = n + 1) :
    ∃ before after b₁ y z, ms = before ++ ⟨n + 1, b.rods.peg x, b.rods.peg y⟩ :: after ∧
      (∀ m ∈ before, m.disk ≠ n + 1) ∧ b.replay before = .ok b₁ ∧
      x ≠ y ∧ x ≠ z ∧ y ≠ z ∧ tower n ⊆ b₁.stack z := by
  induction ms generalizing b with
  | nil => simp at hmoved
  | cons m ms ih =>
    obtain ⟨b₁, ha, hr⟩ := replay_cons_eq_ok_iff.1 h
    obtain ⟨x', y, rest, hl, rfl⟩ := apply_eq_ok_iff.1 ha
    by_cases hm : m.disk = n + 1
    · have hx' : x' = x := hb.role_unique (by simp [hl.top, hm]) hx
      subst hx'
      obtain ⟨z, hxz, hyz⟩ := Role.exists_third x' y
      refine ⟨[], ms, b, y, z, ?_, by simp, rfl, hl.distinct, hxz, hyz, fun d hd => ?_⟩
      · rw [List.nil_append, ← hl.source, ← hl.target, ← hm]
      · obtain ⟨hpos, hle⟩ := mem_tower.1 hd
        exact hb.smaller_on_third hl hxz hyz hpos (by omega)
    · have hstay := (hl.mem_stack_carry (Ne.symm hm)).2 hx
      have hlater : ∃ k ∈ ms, k.disk = n + 1 := by simpa [hm] using hmoved
      obtain ⟨before, after, b₁, y, z, hms, hbefore, hb₁, hrods⟩ :=
        ih (hb.carry hl) hr hstay hlater
      refine ⟨m :: before, after, b₁, y, z, by simp [hms], ?_, ?_, hrods⟩
      · simpa [hm] using hbefore
      · exact replay_cons_eq_ok_iff.2 ⟨_, ha, hb₁⟩

/-- The last move of a disk takes it to where it ends up, with all smaller disks on a third rod. -/
theorem Sound.exists_last_move (hb : b.Sound) (h : b.replay ms = .ok b')
    (hy : n + 1 ∈ b'.stack y) (hmoved : ∃ m ∈ ms, m.disk = n + 1) :
    ∃ before after, ∃ b₂ : Board, ∃ x z,
      ms = before ++ ⟨n + 1, b.rods.peg x, b.rods.peg y⟩ :: after ∧
      (∀ m ∈ after, m.disk ≠ n + 1) ∧ b₂.Sound ∧ b₂.rods = b.rods ∧ b₂.replay after = .ok b' ∧
      x ≠ y ∧ x ≠ z ∧ y ≠ z ∧ tower n ⊆ b₂.stack z := by
  -- from the front again: the head is the last move of the disk if no later move is
  induction ms generalizing b with
  | nil => simp at hmoved
  | cons m ms ih =>
    obtain ⟨b₁, ha, hr⟩ := replay_cons_eq_ok_iff.1 h
    obtain ⟨x, y', rest, hl, rfl⟩ := apply_eq_ok_iff.1 ha
    by_cases hlater : ∃ k ∈ ms, k.disk = n + 1
    · obtain ⟨before, after, b₂, x, z, hms, hafter, hb₂, hrods, hrest⟩ :=
        ih (hb.carry hl) hr hlater
      rw [carry_rods] at hms hrods
      exact ⟨m :: before, after, b₂, x, z, by simp [hms], hafter, hb₂, hrods, hrest⟩
    · have hm : m.disk = n + 1 := by simpa [hlater] using hmoved
      have hafter : ∀ k ∈ ms, k.disk ≠ n + 1 := by simpa using hlater
      have hy' : y' = y := by
        refine (hb.carry hl).role_unique ?_ ((mem_stack_of_replay hr hafter).1 hy)
        simp [stack_carry, hm]
      subst hy'
      obtain ⟨z, hxz, hyz⟩ := Role.exists_third x y'
      refine ⟨[], ms, _, x, z, ?_, hafter, hb.carry hl, carry_rods .., hr, hl.distinct, hxz, hyz,
        fun d hd => ?_⟩
      · rw [List.nil_append, ← hl.source, ← hl.target, ← hm]
      · obtain ⟨hpos, hle⟩ := mem_tower.1 hd
        refine (hl.mem_stack_carry (by omega)).2 ?_
        exact hb.smaller_on_third hl hxz hyz hpos (by omega)

/-! ### Plays of a sub-tower -/

/-- **A sub-tower cannot be carried in fewer moves** than its transfer has, and in as few moves only
by that transfer. -/
theorem Sound.small_moves (hb : b.Sound) (h : b.replay ms = .ok b') (hxy : x ≠ y) (hxz : x ≠ z)
    (hyz : y ≠ z) (hx : tower n ⊆ b.stack x) (hy : tower n ⊆ b'.stack y) :
    towerMoves n ≤ (small n ms).length ∧
      ((small n ms).length = towerMoves n →
        small n ms = transfer n (b.rods.peg x) (b.rods.peg y) (b.rods.peg z)) := by
  induction n generalizing b b' ms x y z with
  | zero => simp [towerMoves, transfer]
  | succ n ih =>
    rw [tower_succ, List.append_subset, List.cons_subset] at hx hy
    obtain ⟨hxs, hxl, -⟩ := hx
    obtain ⟨hys, hyl, -⟩ := hy
    -- the largest disk first moves from `x` to `w`, the others being on `u`
    obtain ⟨before, rest, b₁, w, u, rfl, hbefore, hplay₁, hxw, hxu, hwu, hu⟩ :=
      hb.exists_first_move h hxl (hb.exists_move h hxy hxl hyl)
    obtain ⟨b₁', hplay₁', hrest⟩ := replay_append_eq_ok_iff.1 h
    obtain rfl : b₁ = b₁' := Except.ok.inj (hplay₁.symm.trans hplay₁')
    have hrods₁ := rods_of_replay hplay₁
    -- and last from `v` to `y`, the others being on `t`; the two moves may be the same
    obtain ⟨between, after, b₂, v, t, hsplit, hafter, hb₂, hrods₂, hplay₂, hvy, hvt, hyt, ht⟩ :=
      (hb.replay hplay₁).exists_last_move hrest hyl ⟨_, List.mem_cons_self, rfl⟩
    obtain ⟨hmin₁, huniq₁⟩ := ih hb hplay₁ hxu hxw hwu.symm hxs hu
    obtain ⟨hmin₂, huniq₂⟩ := ih hb₂ hplay₂ hyt.symm hvt.symm hvy.symm ht hys
    rw [hrods₁] at hrods₂ hsplit
    rw [hrods₂] at huniq₂
    rw [small_append, hsplit, small_append, small_cons_largest, small_succ hbefore,
      small_succ hafter]
    rcases between with - | ⟨first, between⟩
    · -- one move of the largest disk: its rods are `x` and `y`, so the others wait on `z`
      obtain ⟨hfirst, -⟩ := List.cons.inj hsplit
      simp only [Move.mk.injEq, true_and] at hfirst
      obtain rfl : v = x := (Rods.peg_injective hfirst.1).symm
      obtain rfl : w = y := Rods.peg_injective hfirst.2
      obtain rfl : u = z := Role.eq_third hxy hxz hyz hxu.symm hwu.symm
      obtain rfl : t = u := Role.eq_third hxy hxz hyz hvt.symm hyt.symm
      simp only [towerMoves, transfer, small, List.filter_nil, List.nil_append, List.length_append,
        List.length_cons] at *
      refine ⟨by omega, fun hlen => ?_⟩
      rw [huniq₁ (by omega), huniq₂ (by omega)]
    · -- two moves of the largest disk are one too many
      obtain ⟨rfl, -⟩ := List.cons.inj hsplit
      rw [small_cons_largest]
      simp only [towerMoves, List.length_append, List.length_cons]
      exact ⟨by omega, fun hlen => by omega⟩

end Board

/-! ### Plays that solve a puzzle -/

/-- **The solution is the shortest play, and the only one of its length.**  Whatever moves a board
accepts on the way from the start to a solved board, there are at least `2 ^ n - 1` of them, and if
there are no more, they are the moves that the cursor yields. -/
theorem solution_optimal (p : Puzzle) (ms : List Move) (b : Board)
    (h : (Board.start p).replay ms = .ok b) (hsolved : b.isSolved = true) :
    2 ^ p.disks.count - 1 ≤ ms.length ∧
      (ms.length = 2 ^ p.disks.count - 1 →
        ms = ((Cursor.start p).fold Array.push #[]).1.toList) := by
  have hstart := Board.sound_start p
  have hsmall : small p.disks.count ms = ms := small_eq_self (hstart.disk_le_of_replay h)
  have hend : b.target = tower p.disks.count := by
    rw [((hstart.replay h).of_isSolved hsolved).1, Board.disks_of_replay h]
    rfl
  have hcursor : ((Cursor.start p).fold Array.push #[]).1.toList = p.solution := by
    rw [Cursor.fold_eq_foldl _ _ (Cursor.proper_start p), Cursor.moves_start]
    simp
  have hmoves := hstart.small_moves (x := .source) (y := .target) (z := .spare) h (by decide)
    (by decide) (by decide) (List.Subset.refl _) (hend ▸ List.Subset.refl _)
  rw [hsmall, towerMoves_eq] at hmoves
  rw [hcursor]
  exact hmoves

theorem solution_optimal_two :
    ∃ b, (Board.start ⟨⟨2, by decide⟩, .classic⟩).replay
        [⟨1, .a, .b⟩, ⟨2, .a, .c⟩, ⟨1, .b, .c⟩] = .ok b ∧ b.isSolved = true ∧ 2 ^ 2 - 1 ≤ 3 ∧
      [⟨1, .a, .b⟩, ⟨2, .a, .c⟩, ⟨1, .b, .c⟩]
        = ((Cursor.start ⟨⟨2, by decide⟩, .classic⟩).fold Array.push #[]).1.toList := by
  obtain ⟨hle, huniq⟩ := solution_optimal ⟨⟨2, by decide⟩, .classic⟩
    [⟨1, .a, .b⟩, ⟨2, .a, .c⟩, ⟨1, .b, .c⟩] _ rfl rfl
  exact ⟨_, rfl, rfl, hle, huniq rfl⟩

end TowerOfHanoi
