/-
TowerOfHanoi/Proofs/Reachability.lean

Every position can be reached, and none is a dead end.  A position is any way
to lay the disks on the three rods that the rules allow (`Arrangement`).

From any of them the smallest disks can be brought together on any rod.  For
the `k + 1` smallest, if the largest of them is there already, gather the others
there; if not, gather the others on the third rod, move it, and gather them on
top of it.  That takes no more than

    towerMoves k + 1 + towerMoves k

moves, however the disks were lying (`Sound.gather`).  With all disks brought
to the target rod the puzzle is solved.  With all disks brought to the source
rod the board is as it was at the start, and the play that led there, run
backwards, leads from the start to the position.

Main result: `every_arrangement_reached`.
-/
import TowerOfHanoi.Proofs.Attempt
import TowerOfHanoi.Proofs.Reversal

namespace TowerOfHanoi

namespace Board

variable {b : Board} {n k : Nat} {x y z : Role}

/-! ### Gathering disks -/

/-- A disk is free to move between two rods if all smaller ones lie on the third. -/
theorem Sound.exists_legal (hb : b.Sound) (hxy : x ≠ y) (hxz : x ≠ z) (hyz : y ≠ z)
    (hx : n + 1 ∈ b.stack x) (hz : tower n ⊆ b.stack z) :
    ∃ rest, b.Legal ⟨n + 1, b.rods.peg x, b.rods.peg y⟩ x y rest := by
  have hlarger : ∀ r, r ≠ z → ∀ d ∈ b.stack r, n + 1 ≤ d := by
    intro r hrz d hd
    have hpos := (mem_tower.1 (hb.tower_of_mem hd)).1
    refine Nat.le_of_not_lt fun hlt => ?_
    have hdz : d ∈ b.stack z := hz (mem_tower.2 ⟨hpos, by omega⟩)
    exact hrz (hb.role_unique hd hdz)
  obtain ⟨rest, htop⟩ := hb.exists_top hx (hlarger x hxz)
  refine ⟨rest, rfl, rfl, hxy, htop, fun d hd => ?_⟩
  exact hlarger y hyz d (List.mem_of_mem_head? hd)

theorem tower_succ_subset {s : List Nat} (h : tower n ⊆ s) (hn : n + 1 ∈ s) : tower (n + 1) ⊆ s := by
  rw [tower_succ, List.append_subset]
  exact ⟨h, by simpa using hn⟩

/-- Moves of smaller disks leave a disk where it is. -/
theorem mem_stack_of_replay_smaller {b b' : Board} {ms : List Move} (h : b.replay ms = .ok b')
    (hdisks : ∀ m ∈ ms, m.disk ≤ k) (hx : k + 1 ∈ b.stack x) : k + 1 ∈ b'.stack x := by
  refine (mem_stack_of_replay h fun m hm => ?_).2 hx
  have := hdisks m hm
  omega

/-- **The smallest disks can be gathered on any rod**, wherever they lie, in no more moves than it
takes to carry a tower of them. -/
theorem Sound.gather (hb : b.Sound) (hk : k ≤ b.disks.count) (y : Role) :
    ∃ ms b', b.replay ms = .ok b' ∧ ms.length ≤ towerMoves k ∧ (∀ m ∈ ms, m.disk ≤ k) ∧
      tower k ⊆ b'.stack y := by
  induction k generalizing b y with
  | zero => exact ⟨[], b, rfl, Nat.le_refl _, by simp, by simp [tower]⟩
  | succ k ih =>
    obtain ⟨x, hx⟩ := hb.exists_mem_stack (mem_tower.2 ⟨Nat.succ_pos k, hk⟩)
    by_cases hxy : x = y
    · subst hxy
      obtain ⟨ms, b', hplay, hlength, hdisks, htower⟩ := ih hb (by omega) x
      refine ⟨ms, b', hplay, ?_, fun m hm => Nat.le_succ_of_le (hdisks m hm), ?_⟩
      · rw [towerMoves]
        omega
      · exact tower_succ_subset htower (mem_stack_of_replay_smaller hplay hdisks hx)
    · obtain ⟨z, hxz, hyz⟩ := Role.exists_third x y
      obtain ⟨before, b₁, hplay₁, hlength₁, hdisks₁, haside⟩ := ih hb (by omega) z
      have hb₁ : b₁.Sound := hb.replay hplay₁
      -- disk `k + 1` is still on rod `x`, and there is nothing above it any more
      have hx₁ : k + 1 ∈ b₁.stack x := mem_stack_of_replay_smaller hplay₁ hdisks₁ hx
      obtain ⟨rest, hl⟩ := hb₁.exists_legal hxy hxz hyz hx₁ haside
      have hcount : k ≤ (b₁.carry (k + 1) rest x y).disks.count := by
        rw [carry_disks, disks_of_replay hplay₁]
        omega
      obtain ⟨after, b₂, hplay₂, hlength₂, hdisks₂, htower⟩ := ih (hb₁.carry hl) hcount y
      refine ⟨before ++ ⟨k + 1, b₁.rods.peg x, b₁.rods.peg y⟩ :: after, b₂, ?_, ?_, ?_, ?_⟩
      · exact replay_append hplay₁ (replay_cons_eq_ok_iff.2 ⟨_, hl.apply, hplay₂⟩)
      · rw [List.length_append, List.length_cons, towerMoves]
        omega
      · intro m hm
        rcases List.mem_append.1 hm with hm | hm
        · exact Nat.le_succ_of_le (hdisks₁ m hm)
        · rcases List.mem_cons.1 hm with rfl | hm
          · exact Nat.le_refl _
          · exact Nat.le_succ_of_le (hdisks₂ m hm)
      · refine tower_succ_subset htower (mem_stack_of_replay_smaller hplay₂ hdisks₂ ?_)
        rw [stack_carry, if_pos rfl]
        exact List.mem_cons_self

/-- When all disks lie on one rod, they stand there as a tower, and the other rods are empty. -/
theorem Sound.stack_eq_tower (hb : b.Sound) (h : tower b.disks.count ⊆ b.stack y) :
    b.stack y = tower b.disks.count ∧ ∀ r, r ≠ y → b.stack r = [] := by
  constructor
  · obtain ⟨rest, hstack, hlarger⟩ := hb.exists_tower_append h
    have hrest : rest = [] := by
      refine List.eq_nil_iff_forall_not_mem.2 fun d hd => Nat.not_le_of_lt (hlarger d hd) ?_
      have hmem : d ∈ b.stack y := by
        rw [hstack]
        exact List.mem_append_right _ hd
      exact (mem_tower.1 (hb.tower_of_mem hmem)).2
    rw [hstack, hrest, List.append_nil]
  · intro r hr
    refine List.eq_nil_iff_forall_not_mem.2 fun d hd => hr ?_
    exact hb.role_unique hd (h (hb.tower_of_mem hd))

end Board

/-! ### Positions -/

/-- A way to lay the disks `1` to `n` on the three rods: every stack is ordered, smallest disk on
top, and together they hold each disk once. -/
structure Arrangement (n : Nat) where
  stack : Role → List Nat
  ordered : ∀ r, (stack r).Pairwise (· < ·)
  complete : (stack .source ++ stack .target ++ stack .spare).Perm (tower n)

namespace Board

variable {p : Puzzle} {a : Arrangement p.disks.count}

/-- A board of the puzzle on which the disks lie in this way. -/
structure Shows (b : Board) (p : Puzzle) (a : Arrangement p.disks.count) : Prop where
  disks : b.disks = p.disks
  rods : b.rods = p.rods
  stack : ∀ r, b.stack r = a.stack r

theorem Shows.sound {b : Board} (h : b.Shows p a) : b.Sound where
  ordered r := by
    rw [h.stack]
    exact a.ordered r
  complete := by
    have hcomplete := a.complete
    rw [← h.stack, ← h.stack, ← h.stack, ← h.disks] at hcomplete
    exact hcomplete

/-- A board on which the disks lie in a given way, before any move. -/
def showing (p : Puzzle) (a : Arrangement p.disks.count) : Board :=
  ⟨p.disks, p.rods, a.stack .source, a.stack .target, a.stack .spare, 0⟩

theorem shows_showing (p : Puzzle) (a : Arrangement p.disks.count) : (showing p a).Shows p a where
  disks := rfl
  rods := rfl
  stack r := by cases r <;> rfl

/-- From every position the puzzle can be solved. -/
theorem Shows.exists_solution {b : Board} (h : b.Shows p a) :
    ∃ ms b', ms.length ≤ towerMoves p.disks.count ∧ b.replay ms = .ok b' ∧ b'.isSolved = true := by
  obtain ⟨ms, b', hplay, hlength, -, htower⟩ := h.sound.gather (Nat.le_refl _) .target
  rw [h.disks] at hlength
  rw [← disks_of_replay hplay] at htower
  refine ⟨ms, b', hlength, hplay, ?_⟩
  have htarget : b'.target = tower b'.disks.count := ((h.sound.replay hplay).stack_eq_tower htower).1
  rw [isSolved, htarget, length_tower, beq_self_eq_true]

/-- From every position the disks can be brought back to where they were at the start. -/
theorem exists_replay_eq_start (p : Puzzle) (a : Arrangement p.disks.count) :
    ∃ ms, (showing p a).replay ms = .ok ((start p).advance ms.length) := by
  have hsound := (shows_showing p a).sound
  obtain ⟨ms, b', hplay, -, -, htower⟩ := hsound.gather (Nat.le_refl _) .source
  have hdisks : b'.disks = p.disks := disks_of_replay hplay
  have hrods : b'.rods = p.rods := rods_of_replay hplay
  rw [← disks_of_replay hplay] at htower
  obtain ⟨hsource, hempty⟩ := (hsound.replay hplay).stack_eq_tower htower
  refine ⟨ms, hplay.trans (congrArg Except.ok (ext_stack hdisks hrods (fun r => ?_) ?_))⟩
  · rw [stack_advance]
    cases r with
    | source =>
      rw [hsource, hdisks]
      rfl
    | target => exact hempty .target (by decide)
    | spare => exact hempty .spare (by decide)
  · rw [applied_of_replay hplay]
    rfl

/-- **Every position can be reached, and none is a dead end.**  However the disks of a puzzle are
laid on its rods in order of size, some moves that the board accepts one after another lead from the
start to a board on which they lie so.  And from every such board, whatever its counter says, at most
`2 ^ n - 1` moves, again accepted one after another, solve the puzzle. -/
theorem every_arrangement_reached (p : Puzzle) (a : Arrangement p.disks.count) :
    (∃ ms b, (start p).replay ms = .ok b ∧ b.Shows p a) ∧
      ∀ b : Board, b.Shows p a → ∃ ms b', ms.length ≤ 2 ^ p.disks.count - 1 ∧
        b.replay ms = .ok b' ∧ b'.isSolved = true := by
  refine ⟨?_, fun b h => ?_⟩
  · obtain ⟨ms, hplay⟩ := exists_replay_eq_start p a
    have hback := (shows_showing p a).sound.replay_backwards hplay
    rw [replay_advance] at hback
    -- the counter of the start is not where the play has left it, which makes no difference
    rcases hr : (start p).replay (backwards ms) with e | b <;> rw [hr] at hback
    · cases hback
    · have hb : b.advance ms.length = (showing p a).advance (2 * ms.length) := Except.ok.inj hback
      refine ⟨backwards ms, b, hr, disks_of_replay hr, rods_of_replay hr, fun r => ?_⟩
      rw [← (shows_showing p a).stack r, ← stack_advance b r ms.length, hb, stack_advance]
  · rw [← towerMoves_eq]
    exact h.exists_solution

/-- Three disks on three rods, the largest of them in nobody's way and out of its own. -/
theorem every_arrangement_reached_apart :
    let p : Puzzle := ⟨⟨3, by decide⟩, .classic⟩
    let b : Board := ⟨p.disks, p.rods, [2], [1], [3], 0⟩
    (∃ ms b', (start p).replay ms = .ok b' ∧ ∀ r, b'.stack r = b.stack r) ∧
      ∃ ms b', ms.length ≤ 7 ∧ b.replay ms = .ok b' ∧ b'.isSolved = true := by
  intro p b
  have hordered : ∀ r, (b.stack r).Pairwise (· < ·) := by
    intro r
    cases r <;> decide
  let a : Arrangement p.disks.count := ⟨b.stack, hordered, by decide⟩
  obtain ⟨⟨ms, b', hplay, hshows⟩, hsolve⟩ := every_arrangement_reached p a
  exact ⟨⟨ms, b', hplay, hshows.stack⟩, hsolve b ⟨rfl, rfl, fun r => rfl⟩⟩

end Board

end TowerOfHanoi
