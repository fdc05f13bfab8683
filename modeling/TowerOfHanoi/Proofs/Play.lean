/-
TowerOfHanoi/Proofs/Play.lean

Play on a board, as a relation.  `Board.check` finds out step by step whether
a move is possible; here the possible moves are described outright:

    Legal b m x y rest

says that `m` takes the top disk of rod `x`, with `rest` below it, to another
rod `y` on which no smaller disk lies.  These are the moves that pass the check
(`check_eq_ok_iff`).  A board is changed in place, but only after the check
(`perform_of_error`, `Legal.perform`), so it accepts a move exactly when it is
legal (`apply_eq_ok_iff`), and what an accepted move does is `carry`.

Everything else about a play follows from these two: a replay splits where
its list does (`replay_append_eq_ok_iff`), and a property that legal moves
preserve holds along a whole play (`replay_induction`).
-/
import TowerOfHanoi.Board
import TowerOfHanoi.Proofs.Outcome

namespace TowerOfHanoi

/-! ### Rods and roles -/

namespace Rods

variable {rods : Rods}

theorem role?_eq_some_iff {p : Peg} {r : Role} : rods.role? p = some r ↔ p = rods.peg r := by
  have h₁ := rods.source_ne_target
  have h₂ := rods.source_ne_spare
  have h₃ := rods.target_ne_spare
  unfold role?
  cases r <;> simp only [peg] <;> grind

@[simp] theorem role?_peg (r : Role) : rods.role? (rods.peg r) = some r :=
  role?_eq_some_iff.2 rfl

theorem peg_injective : ∀ {r r' : Role}, rods.peg r = rods.peg r' → r = r' := by
  intro r r' h
  have h' : rods.role? (rods.peg r) = some r := role?_peg r
  rw [h, role?_peg] at h'
  exact (Option.some.inj h').symm

end Rods

namespace Role

theorem exists_iff {P : Role → Prop} : (∃ r, P r) ↔ P .source ∨ P .target ∨ P .spare := by
  constructor
  · rintro ⟨r, h⟩
    cases r <;> simp [h]
  · rintro (h | h | h) <;> exact ⟨_, h⟩

/-- Two rods leave a third. -/
theorem exists_third (x y : Role) : ∃ z, x ≠ z ∧ y ≠ z := by
  rw [exists_iff]
  cases x <;> cases y <;> simp

/-- There are only three rods. -/
theorem eq_third {x y z r : Role} (hxy : x ≠ y) (hxz : x ≠ z) (hyz : y ≠ z) (hx : r ≠ x)
    (hy : r ≠ y) : r = z := by
  cases x <;> cases y <;> cases z <;> cases r <;> simp_all

end Role

/-! ### Towers -/

theorem tower_succ (n : Nat) : tower (n + 1) = tower n ++ [n + 1] := by
  rw [tower, List.range'_1_concat, Nat.add_comm 1 n]
  rfl

@[simp] theorem length_tower (n : Nat) : (tower n).length = n :=
  List.length_range'

theorem mem_tower {n d : Nat} : d ∈ tower n ↔ 1 ≤ d ∧ d ≤ n := by
  rw [tower, List.mem_range'_1]
  omega

theorem nodup_tower (n : Nat) : (tower n).Nodup :=
  List.nodup_range'

namespace Board

/-! ### Stacks -/

section Stacks

variable (b : Board) (s : List Nat) (r : Role)

@[simp] theorem setStack_disks : (b.setStack s r).disks = b.disks := by
  cases r <;> rfl

@[simp] theorem setStack_rods : (b.setStack s r).rods = b.rods := by
  cases r <;> rfl

@[simp] theorem setStack_applied : (b.setStack s r).applied = b.applied := by
  cases r <;> rfl

theorem stack_setStack (r' : Role) :
    (b.setStack s r).stack r' = if r' = r then s else b.stack r' := by
  cases r <;> cases r' <;> rfl

end Stacks

/-- A board is given by its stacks, role by role, and its counter. -/
theorem ext_stack {b b' : Board} (hd : b.disks = b'.disks) (hr : b.rods = b'.rods)
    (hs : ∀ r, b.stack r = b'.stack r) (ha : b.applied = b'.applied) : b = b' := by
  obtain ⟨_, _, _, _, _, _⟩ := b
  obtain ⟨_, _, _, _, _, _⟩ := b'
  have h₁ := hs .source
  have h₂ := hs .target
  have h₃ := hs .spare
  simp only [stack] at hd hr h₁ h₂ h₃ ha
  rw [hd, hr, h₁, h₂, h₃, ha]

/-! ### Legal moves -/

/-- `Legal b m x y rest`: the move takes the top disk of rod `x`, with `rest` below it, to another
rod `y`, on top of which there is no smaller disk. -/
structure Legal (b : Board) (m : Move) (x y : Role) (rest : List Nat) : Prop where
  source : m.source = b.rods.peg x
  target : m.target = b.rods.peg y
  distinct : x ≠ y
  top : b.stack x = m.disk :: rest
  fits : ∀ d ∈ (b.stack y).head?, m.disk ≤ d

/-- The board after disk `d` has left rod `x`, where `rest` remains, for rod `y`. -/
def carry (b : Board) (d : Nat) (rest : List Nat) (x y : Role) : Board :=
  let b := (b.setStack rest x).setStack (d :: b.stack y) y
  { b with applied := b.applied + 1 }

section Carry

variable (b : Board) (d : Nat) (rest : List Nat) (x y : Role)

@[simp] theorem carry_disks : (b.carry d rest x y).disks = b.disks := by
  simp [carry]

@[simp] theorem carry_rods : (b.carry d rest x y).rods = b.rods := by
  simp [carry]

@[simp] theorem carry_applied : (b.carry d rest x y).applied = b.applied + 1 := by
  simp [carry]

theorem stack_carry (r : Role) :
    (b.carry d rest x y).stack r
      = if r = y then d :: b.stack y else if r = x then rest else b.stack r := by
  cases x <;> cases y <;> cases r <;> rfl

end Carry

variable {b b' : Board} {m : Move} {ms : List Move}

/-- The check passes exactly the legal moves, and finds their rods. -/
theorem check_eq_ok_iff {x y : Role} : b.check m = .ok (x, y) ↔ ∃ rest, b.Legal m x y rest := by
  constructor
  · -- the obstacles of `check`, in its order; each one that is found contradicts `h`
    intro h
    unfold check at h
    rcases hx : b.rods.role? m.source with - | x'
    · simp [hx] at h
    rcases hy : b.rods.role? m.target with - | y'
    · simp [hx, hy] at h
    by_cases hxy : x' = y'
    · simp [hx, hy, hxy] at h
    rcases hs : b.stack x' with - | ⟨top, rest⟩
    · simp [hx, hy, hxy, hs] at h
    by_cases htop : top = m.disk
    · subst htop
      have hsrc := Rods.role?_eq_some_iff.1 hx
      have htgt := Rods.role?_eq_some_iff.1 hy
      rcases ht : b.stack y' with - | ⟨below, more⟩ <;> simp only [hx, hy, hxy, hs, ht] at h
      · obtain ⟨rfl, rfl⟩ : x' = x ∧ y' = y := by simpa using h
        exact ⟨rest, hsrc, htgt, hxy, hs, by simp [ht]⟩
      · by_cases hbelow : below < m.disk
        · simp [hbelow] at h
        · obtain ⟨rfl, rfl⟩ : x' = x ∧ y' = y := by simpa [hbelow] using h
          exact ⟨rest, hsrc, htgt, hxy, hs, by simpa [ht] using hbelow⟩
    · simp [hx, hy, hxy, hs, htop] at h
  · rintro ⟨rest, hsrc, htgt, hxy, hs, hfits⟩
    rcases ht : b.stack y with - | ⟨below, more⟩
    · simp [check, hsrc, htgt, hxy, hs, ht]
    · have hle : m.disk ≤ below := hfits below (by simp [ht])
      simp [check, hsrc, htgt, hxy, hs, ht, Nat.not_lt.2 hle]

/-! ### Moves in place -/

/-- A move that does not pass the check is not made, not even in part. -/
theorem perform_of_error {e : Error} (h : b.check m = .error e) : b.perform m = (.error e, b) := by
  simp only [perform, make, run_bind, run_get, run_check, h]

theorem run_pop_of_cons {x : Role} {top : Nat} {rest : List Nat} (h : b.stack x = top :: rest) :
    (pop x).run b = (.ok (some top), b.setStack rest x) := by
  simp only [pop, run_bind, run_get, h]
  rfl

theorem run_push (d : Nat) (y : Role) :
    (push d y).run b = (.ok (), b.setStack (d :: b.stack y) y) :=
  rfl

/-- A legal move carries its disk. -/
theorem Legal.perform {x y : Role} {rest : List Nat} (h : b.Legal m x y rest) :
    b.perform m = (.ok (), b.carry m.disk rest x y) := by
  have hcheck : b.check m = .ok (x, y) := check_eq_ok_iff.2 ⟨rest, h⟩
  have hbelow : (b.setStack rest x).stack y = b.stack y := by
    rw [stack_setStack, if_neg h.distinct.symm]
  simp only [Board.perform, make, run_bind, run_get, run_check, hcheck, run_pop_of_cons h.top,
    run_push, hbelow]
  rfl

/-- The board accepts exactly the legal moves, and an accepted move carries its disk. -/
theorem apply_eq_ok_iff :
    b.apply m = .ok b' ↔ ∃ x y rest, b.Legal m x y rest ∧ b' = b.carry m.disk rest x y := by
  constructor
  · intro h
    rcases hc : b.check m with e | ⟨x, y⟩
    · rw [apply, perform_of_error hc] at h
      cases h
    · obtain ⟨rest, hl⟩ := check_eq_ok_iff.1 hc
      rw [apply, hl.perform] at h
      cases h
      exact ⟨x, y, rest, hl, rfl⟩
  · rintro ⟨x, y, rest, hl, rfl⟩
    rw [apply, hl.perform]

theorem Legal.apply {x y : Role} {rest : List Nat} (h : b.Legal m x y rest) :
    b.apply m = .ok (b.carry m.disk rest x y) :=
  apply_eq_ok_iff.2 ⟨x, y, rest, h, rfl⟩

/-- **A move is made as a whole or not at all**: a board that refuses it is left as it was. -/
theorem perform_eq (b : Board) (m : Move) :
    b.perform m =
      match b.apply m with
      | .error e => (.error e, b)
      | .ok b' => (.ok (), b') := by
  rcases hc : b.check m with e | ⟨x, y⟩
  · rw [apply, perform_of_error hc]
  · obtain ⟨rest, hl⟩ := check_eq_ok_iff.1 hc
    rw [hl.apply, hl.perform]

/-! ### Whole plays -/

@[simp] theorem replay_nil : b.replay [] = .ok b := rfl

theorem replay_cons_eq_ok_iff :
    b.replay (m :: ms) = .ok b' ↔ ∃ b₁, b.apply m = .ok b₁ ∧ b₁.replay ms = .ok b' := by
  rw [replay]
  rcases b.apply m with e | b₁ <;> simp

/-- A play of one list after another stops at the board between them. -/
theorem replay_append_eq_ok_iff {ms' : List Move} :
    b.replay (ms ++ ms') = .ok b' ↔ ∃ b₁, b.replay ms = .ok b₁ ∧ b₁.replay ms' = .ok b' := by
  induction ms generalizing b with
  | nil => simp
  | cons m ms ih =>
    simp only [List.cons_append, replay_cons_eq_ok_iff, ih]
    constructor
    · rintro ⟨b₁, ha, b₂, hr, hr'⟩
      exact ⟨b₂, ⟨b₁, ha, hr⟩, hr'⟩
    · rintro ⟨b₂, ⟨b₁, ha, hr⟩, hr'⟩
      exact ⟨b₁, ha, b₂, hr, hr'⟩

theorem replay_append {b₁ : Board} {ms' : List Move} (h : b.replay ms = .ok b₁)
    (h' : b₁.replay ms' = .ok b') : b.replay (ms ++ ms') = .ok b' :=
  replay_append_eq_ok_iff.2 ⟨b₁, h, h'⟩

/-- What every legal move preserves holds at the end of a play if it held at the beginning. -/
theorem replay_induction {P : Board → Prop}
    (step : ∀ {b m x y rest}, Legal b m x y rest → P b → P (b.carry m.disk rest x y))
    (h : b.replay ms = .ok b') (hb : P b) : P b' := by
  induction ms generalizing b with
  | nil =>
    cases h
    exact hb
  | cons m ms ih =>
    obtain ⟨b₁, ha, hr⟩ := replay_cons_eq_ok_iff.1 h
    obtain ⟨x, y, rest, hl, rfl⟩ := apply_eq_ok_iff.1 ha
    exact ih hr (step hl hb)

theorem rods_of_replay (h : b.replay ms = .ok b') : b'.rods = b.rods :=
  replay_induction (P := fun c => c.rods = b.rods) (fun _ hc => by simpa using hc) h rfl

theorem disks_of_replay (h : b.replay ms = .ok b') : b'.disks = b.disks :=
  replay_induction (P := fun c => c.disks = b.disks) (fun _ hc => by simpa using hc) h rfl

end Board

end TowerOfHanoi
