/-
TowerOfHanoi/Proofs/Order.lean

The order of the disks.  `Board.apply` looks only at the tops of two stacks,
and `Board.isSolved` only at a length.  Both are enough because of what holds
of every board in a play (`Sound`): each stack is ordered, and the three
stacks together hold each disk of the puzzle once.

From it follows where the other disks are when one of them moves: all smaller
ones lie on the third rod (`Sound.smaller_on_third`).
-/
import TowerOfHanoi.Proofs.Play

namespace TowerOfHanoi

namespace Board

/-! ### Soundness -/

/-- Every stack is ordered, smallest disk on top, and the stacks together hold each disk of the
puzzle once. -/
structure Sound (b : Board) : Prop where
  ordered : ∀ r, (b.stack r).Pairwise (· < ·)
  complete : (b.source ++ b.target ++ b.spare).Perm (tower b.disks.count)

variable {b b' : Board} {m : Move} {ms : List Move} {x y z : Role} {rest : List Nat} {d : Nat}

theorem sound_start (p : Puzzle) : (start p).Sound where
  ordered := by
    intro r
    cases r with
    | source => exact List.pairwise_lt_range'
    | target => exact .nil
    | spare => exact .nil
  complete := by
    simp [start]

theorem Sound.tower_of_mem (hb : b.Sound) {r : Role} (hd : d ∈ b.stack r) :
    d ∈ tower b.disks.count := by
  refine hb.complete.subset ?_
  cases r <;> simp only [stack] at hd <;> simp [hd]

/-- Every disk is on some rod. -/
theorem Sound.exists_mem_stack (hb : b.Sound) (hd : d ∈ tower b.disks.count) :
    ∃ r, d ∈ b.stack r := by
  have hmem := hb.complete.symm.subset hd
  simpa [Role.exists_iff, stack, or_assoc] using hmem

/-- No disk is on two rods. -/
theorem Sound.role_unique (hb : b.Sound) (hx : d ∈ b.stack x) (hy : d ∈ b.stack y) : x = y := by
  have hnodup := hb.complete.nodup_iff.2 (nodup_tower _)
  simp only [List.nodup_append, List.mem_append] at hnodup
  obtain ⟨⟨-, -, hst⟩, -, hsp⟩ := hnodup
  cases x <;> cases y <;> simp only [stack] at hx hy <;> grind

/-! ### Soundness along a play -/

/-- The disks of a stack that a legal move puts a disk on are all larger. -/
theorem Sound.lt_of_mem_target (hb : b.Sound) (hl : b.Legal m x y rest) (hd : d ∈ b.stack y) :
    m.disk < d := by
  have hx : m.disk ∈ b.stack x := by simp [hl.top]
  have hne : m.disk ≠ d := by
    rintro rfl
    exact hl.distinct (hb.role_unique hx hd)
  have hord := hb.ordered y
  rcases hs : b.stack y with - | ⟨top, below⟩ <;> rw [hs] at hd hord
  · cases hd
  · have htop : m.disk ≤ top := hl.fits top (by simp [hs])
    rcases List.mem_cons.1 hd with rfl | hd
    · omega
    · have := (List.pairwise_cons.1 hord).1 d hd
      omega

theorem Sound.carry (hb : b.Sound) (hl : b.Legal m x y rest) :
    (b.carry m.disk rest x y).Sound where
  ordered := by
    intro r
    rw [stack_carry]
    split
    · exact List.pairwise_cons.2 ⟨fun d hd => hb.lt_of_mem_target hl hd, hb.ordered y⟩
    · split
      · have hx := hb.ordered x
        rw [hl.top] at hx
        exact (List.pairwise_cons.1 hx).2
      · exact hb.ordered r
  complete := by
    have hall := hb.complete
    have htop := hl.top
    have hxy := hl.distinct
    rw [carry_disks]
    refine List.Perm.trans ?_ hall
    -- the moved disk changes its place among the three stacks, so the order of the lists is
    -- different for each pair of rods, and the counts are not
    rw [List.perm_iff_count]
    intro a
    cases x <;> cases y <;> simp only [stack] at htop <;>
      simp_all [Board.carry, setStack, stack, List.count_cons] <;> omega

theorem Sound.replay (hb : b.Sound) (h : b.replay ms = .ok b') : b'.Sound :=
  replay_induction (fun hl hc => hc.carry hl) h hb

/-- A play moves only disks of the puzzle. -/
theorem Sound.disk_le_of_replay (hb : b.Sound) (h : b.replay ms = .ok b') :
    ∀ m ∈ ms, m.disk ≤ b.disks.count := by
  induction ms generalizing b with
  | nil => simp
  | cons m ms ih =>
    obtain ⟨b₁, ha, hr⟩ := replay_cons_eq_ok_iff.1 h
    obtain ⟨x, y, rest, hl, rfl⟩ := apply_eq_ok_iff.1 ha
    have htop : m.disk ∈ b.stack x := by simp [hl.top]
    have hrest := ih (hb.carry hl) hr
    rintro k (_ | ⟨_, hk⟩)
    · exact (mem_tower.1 (hb.tower_of_mem htop)).2
    · simpa using hrest k hk

/-! ### Where disks are -/

/-- A legal move leaves every other disk on its rod. -/
theorem Legal.mem_stack_carry (hl : b.Legal m x y rest) (hd : d ≠ m.disk) {r : Role} :
    d ∈ (b.carry m.disk rest x y).stack r ↔ d ∈ b.stack r := by
  have htop := hl.top
  rw [stack_carry]
  split
  · simp_all
  · split <;> simp_all

/-- A disk with only larger ones on its rod is the top of it. -/
theorem Sound.exists_top (hb : b.Sound) (hd : d ∈ b.stack x) (hmin : ∀ e ∈ b.stack x, d ≤ e) :
    ∃ rest, b.stack x = d :: rest := by
  have hord := hb.ordered x
  rcases hs : b.stack x with - | ⟨top, rest⟩ <;> rw [hs] at hd hmin hord
  · cases hd
  · refine ⟨rest, ?_⟩
    rcases List.mem_cons.1 hd with rfl | hd
    · rfl
    · have hlt := (List.pairwise_cons.1 hord).1 d hd
      have hle := hmin top List.mem_cons_self
      omega

/-- The smallest disks, if they lie on one rod, are the top of it in their order. -/
theorem Sound.exists_tower_append {n : Nat} (hb : b.Sound) (hx : tower n ⊆ b.stack x) :
    ∃ rest, b.stack x = tower n ++ rest ∧ ∀ d ∈ rest, n < d := by
  induction n with
  | zero => exact ⟨b.stack x, rfl, fun d hd => (mem_tower.1 (hb.tower_of_mem hd)).1⟩
  | succ n ih =>
    rw [tower_succ, List.append_subset] at hx
    obtain ⟨rest, hstack, hlarger⟩ := ih hx.1
    have hord := hb.ordered x
    rw [hstack, List.pairwise_append] at hord
    have hnext : n + 1 ∈ rest := by
      have hmem : n + 1 ∈ b.stack x := hx.2 List.mem_cons_self
      rw [hstack, List.mem_append] at hmem
      rcases hmem with hmem | hmem
      · have := (mem_tower.1 hmem).2
        omega
      · exact hmem
    -- below the tower there are only larger disks, and disk `n + 1` is the smallest of these
    rcases rest with - | ⟨top, below⟩
    · cases hnext
    have hbelow := (List.pairwise_cons.1 hord.2.1).1
    have htop : n < top := hlarger top List.mem_cons_self
    obtain rfl : n + 1 = top := by
      rcases List.mem_cons.1 hnext with h | h
      · exact h
      · have := hbelow (n + 1) h
        omega
    refine ⟨below, ?_, hbelow⟩
    rw [hstack, tower_succ, List.append_assoc]
    rfl

/-- When a disk moves, all smaller disks lie on the third rod. -/
theorem Sound.smaller_on_third (hb : b.Sound) (hl : b.Legal m x y rest) (hxz : x ≠ z)
    (hyz : y ≠ z) (hpos : 1 ≤ d) (hd : d < m.disk) : d ∈ b.stack z := by
  have hx : m.disk ∈ b.stack x := by simp [hl.top]
  have hle := (mem_tower.1 (hb.tower_of_mem hx)).2
  obtain ⟨r, hr⟩ := hb.exists_mem_stack (mem_tower.2 ⟨hpos, by omega⟩)
  -- on `x` it would lie above the disk that moves, on `y` below it when it has moved
  have hrx : r ≠ x := by
    rintro rfl
    have hord := hb.ordered r
    rw [hl.top] at hr hord
    rcases List.mem_cons.1 hr with rfl | hr
    · omega
    · have := (List.pairwise_cons.1 hord).1 d hr
      omega
  have hry : r ≠ y := by
    rintro rfl
    have := hb.lt_of_mem_target hl hr
    omega
  rwa [← Role.eq_third hl.distinct hxz hyz hrx hry]

/-- A disk that no move of a play names stays on its rod. -/
theorem mem_stack_of_replay (h : b.replay ms = .ok b') (hd : ∀ m ∈ ms, m.disk ≠ d) {r : Role} :
    d ∈ b'.stack r ↔ d ∈ b.stack r := by
  induction ms generalizing b with
  | nil =>
    cases h
    rfl
  | cons m ms ih =>
    obtain ⟨b₁, ha, hr⟩ := replay_cons_eq_ok_iff.1 h
    obtain ⟨x, y, rest, hl, rfl⟩ := apply_eq_ok_iff.1 ha
    rw [ih hr fun k hk => hd k (by simp [hk])]
    exact hl.mem_stack_carry (hd m (by simp)).symm

/-! ### Solved boards -/

/-- Counting the disks on the target rod is enough to see that the whole tower stands there. -/
theorem Sound.of_isSolved (hb : b.Sound) (h : b.isSolved = true) :
    b.target = tower b.disks.count ∧ b.source = [] ∧ b.spare = [] := by
  have htarget : b.target.length = b.disks.count := by simpa [isSolved] using h
  have hlength := hb.complete.length_eq
  simp only [List.length_append, length_tower] at hlength
  have hsource : b.source = [] := List.eq_nil_of_length_eq_zero (by omega)
  have hspare : b.spare = [] := List.eq_nil_of_length_eq_zero (by omega)
  have hall := hb.complete
  rw [hsource, hspare, List.nil_append, List.append_nil] at hall
  refine ⟨hall.eq_of_pairwise ?_ (hb.ordered .target) List.pairwise_lt_range', hsource, hspare⟩
  intro i j _ _ hij hji
  omega

end Board

end TowerOfHanoi
