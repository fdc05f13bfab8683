/-
TowerOfHanoi/Proofs/Counts.lean

How many moves there are, as five parts of the program count them.  All of them
count in 64 bits, and the tallest tower, of 63 disks, takes

    2 ^ 63 - 1

moves, so that every count has room to spare but none of them can be seen to
have it by running the program.

* `DiskCount.moveCount` shifts and subtracts;
* the recursive strategy adds up the counts of two sub-towers and of the move
  between them, at every height (`count_of_emitRecursive`);
* the iterative strategy counts the moves that have been taken, and `Loop` is
  the loop that it goes through (`Loop.counted`);
* a board in front of a sink counts the moves that have been made on it
  (`Sink.applied_of_emitAll_verified`);
* a run reports what its strategy has counted.

That none of these operations wraps around is `Puzzle.noWrap`.

Main result: `counts_exact`.
-/
import TowerOfHanoi.Proofs.Attempt
import TowerOfHanoi.Proofs.Checks
import TowerOfHanoi.Proofs.Mismatch
import TowerOfHanoi.Proofs.Protocol

namespace TowerOfHanoi

variable {σ : Type}

/-! ### Sums of 64 bits -/

/-- The sum of two numbers fits in 64 bits, so that adding them does not wrap around. -/
def Fits (a b : UInt64) : Prop :=
  a.toNat + b.toNat < 2 ^ 64

theorem Fits.toNat_add {a b : UInt64} (h : Fits a b) : (a + b).toNat = a.toNat + b.toNat := by
  rw [UInt64.toNat_add]
  exact Nat.mod_eq_of_lt h

theorem towerMoves_lt {n : Nat} (hn : n ≤ 63) : towerMoves n < 2 ^ 63 := by
  have hpow : 2 ^ n ≤ 2 ^ 63 := Nat.pow_le_pow_right (by decide) hn
  have := towerMoves_add_one n
  omega

theorem toNat_ofNat_towerMoves {n : Nat} (hn : n ≤ 63) :
    (UInt64.ofNat (towerMoves n)).toNat = towerMoves n :=
  UInt64.toNat_ofNat_of_lt' (Nat.lt_trans (towerMoves_lt hn) (by decide))

/-! ### The recursive count -/

/-- Over any sink, a sub-tower that is carried to the end is counted in full. -/
theorem count_of_emitRecursive {sink : Sink σ} {n : Nat} {x y z : Peg} {s s' : σ} {count : UInt64}
    (h : emitRecursive sink n x y z s = (.ok count, s')) :
    count = UInt64.ofNat (towerMoves n) := by
  rw [emitRecursive_eq] at h
  generalize sink.emitAll s (transfer n x y z) = r at h
  obtain ⟨e | ⟨⟨⟩⟩, t⟩ := r <;> cases h
  rfl

/-! ### The iterative count -/

/-- The states that the loop of the iterative strategy goes through: the cursor, the count and the
sink.  It starts before the first move, and goes on whenever a move has been taken. -/
inductive Loop (sink : Sink σ) (p : Puzzle) (s : σ) : Cursor → UInt64 → σ → Prop
  | start : Loop sink p s (Cursor.start p) 0 s
  | next {c c' : Cursor} {emitted : UInt64} {t t' : σ} {m : Move} :
    Loop sink p s c emitted t → c.next? = some (m, c') → sink.emit t m = (.ok (), t') →
      Loop sink p s c' (emitted + 1) t'

namespace Loop

variable {sink : Sink σ} {p : Puzzle} {s t : σ} {c : Cursor} {emitted : UInt64}

/-- In each of these states the result of the strategy is what the rest of its loop comes to. -/
theorem solvePuzzle_eq (h : Loop sink p s c emitted t) :
    solvePuzzle sink .iterative p s = emitIterative sink c emitted t := by
  induction h with
  | start => rfl
  | @next c c' emitted t t' m _ hn hemit ih =>
    have hport : (sink.port.emit m).run t = (.ok (), t') := hemit
    rw [ih, emitIterative, Port.emitIterative_of_some _ hn, run_bind, hport]
    rfl

/-- What has been counted and what is still to come are the whole solution. -/
theorem counted (h : Loop sink p s c emitted t) :
    c.Proper ∧ emitted.toNat + c.moves.length = towerMoves p.disks.count := by
  induction h with
  | start =>
    refine ⟨Cursor.proper_start p, ?_⟩
    rw [Cursor.moves_start, Puzzle.length_solution, UInt64.toNat_zero, Nat.zero_add]
  | @next c c' emitted _ _ m _ hn _ ih =>
    obtain ⟨hproper, htotal⟩ := ih
    have hspec := Cursor.next?_spec hproper
    rw [hn] at hspec
    obtain ⟨hmoves, hproper', -⟩ := hspec
    refine ⟨hproper', ?_⟩
    rw [hmoves, List.length_cons] at htotal
    have hlt := towerMoves_lt p.disks.le_max
    have hfits : Fits emitted 1 := by
      rw [Fits, UInt64.toNat_one]
      omega
    rw [hfits.toNat_add, UInt64.toNat_one]
    omega

end Loop

/-! ### The count of a board -/

/-- A list of moves that passes a board is a play on it. -/
theorem Sink.replay_of_emitAll_verified {sink : Sink σ} {t t' : Verified σ} {ms : List Move}
    (h : sink.verified.emitAll t ms = (.ok (), t')) : t.board.replay ms = .ok t'.board := by
  induction ms generalizing t with
  | nil =>
    cases h
    rfl
  | cons m ms ih =>
    obtain ⟨b, inner, completed⟩ := t
    rw [Sink.emitAll] at h
    rcases ha : b.apply m with e | b₁
    · rw [sink.verified_emit_of_error ha] at h
      cases h
    · rw [sink.verified_emit_of_ok ha] at h
      generalize sink.emit inner m = r at h
      obtain ⟨e | ⟨⟨⟩⟩, inner'⟩ := r
      · cases h
      · exact Board.replay_cons_eq_ok_iff.2 ⟨b₁, ha, ih h⟩

/-- A board that is new at the beginning of a run counts the moves of that run. -/
theorem Sink.applied_of_emitAll_verified {sink : Sink σ} {p q : Puzzle} {s : σ} {t : Verified σ}
    {k : Nat} (h : sink.verified.emitAll (Verified.start q s) (p.solution.take k) = (.ok (), t)) :
    t.board.applied.toNat = min k (towerMoves p.disks.count) := by
  have hplay : (Board.start q).replay (p.solution.take k) = .ok t.board :=
    replay_of_emitAll_verified h
  have hlt := towerMoves_lt p.disks.le_max
  have hstart : (Board.start q).applied = 0 := rfl
  rw [Board.applied_of_replay hplay, List.length_take, Puzzle.length_solution, hstart,
    UInt64.zero_add]
  exact UInt64.toNat_ofNat_of_lt' (Nat.lt_of_le_of_lt (Nat.min_le_right ..)
    (Nat.lt_trans hlt (by decide)))

/-! ### No count wraps around -/

/-- None of the 64-bit operations wraps around, whatever the sink and wherever it fails: neither the
shift and the subtraction of `DiskCount.moveCount`, nor the sums of the recursive strategy at any
height, nor the steps of the iterative count, nor those of a board that stands in front of the sink
from the beginning.  The last two also say that these are the steps of a run: the rest of the loop
gives its result, and either strategy offers the solution from left to right. -/
structure Puzzle.NoWrap (p : Puzzle) : Prop where
  shift : p.disks.count < 64 ∧
    ((1 : UInt64) <<< UInt64.ofNat p.disks.count).toNat = 2 ^ p.disks.count
  subtraction : (1 : UInt64) ≤ (1 : UInt64) <<< UInt64.ofNat p.disks.count
  recursive : ∀ (σ : Type) (sink : Sink σ) (n : Nat), n < p.disks.count →
    ∀ (x y z x' y' z' : Peg) (s t s' t' : σ) (before after : UInt64),
      emitRecursive sink n x y z s = (.ok before, s') →
      emitRecursive sink n x' y' z' t = (.ok after, t') → Fits before 1 ∧ Fits (before + 1) after
  iterative : ∀ (σ : Type) (sink : Sink σ) (s t : σ) (c : Cursor) (emitted : UInt64),
    Loop sink p s c emitted t →
      solvePuzzle sink .iterative p s = emitIterative sink c emitted t ∧ Fits emitted 1
  board : ∀ (σ : Type) (sink : Sink σ) (q : Puzzle) (s : σ),
    (∀ strategy, solvePuzzle sink.verified strategy p (Verified.start q s)
      = counted p.disks.moveCount (sink.verified.emitAll (Verified.start q s) p.solution)) ∧
    ∀ (k : Nat) (t : Verified σ),
      sink.verified.emitAll (Verified.start q s) (p.solution.take k) = (.ok (), t) →
        Fits t.board.applied 1

theorem Puzzle.noWrap (p : Puzzle) : p.NoWrap where
  shift := ⟨Nat.lt_succ_of_le p.disks.le_max, p.disks.toNat_shiftLeft⟩
  subtraction := p.disks.one_le_shiftLeft
  recursive := by
    intro σ sink n hn x y z x' y' z' s t s' t' before after hbefore hafter
    have hmax := p.disks.le_max
    have hle : n ≤ 63 := by omega
    -- the sum is the count of the next height, which is still one of the tower
    have hsum : towerMoves (n + 1) < 2 ^ 63 := towerMoves_lt (by omega)
    rw [towerMoves] at hsum
    obtain rfl := count_of_emitRecursive hbefore
    obtain rfl := count_of_emitRecursive hafter
    have hone : Fits (UInt64.ofNat (towerMoves n)) 1 := by
      rw [Fits, toNat_ofNat_towerMoves hle, UInt64.toNat_one]
      omega
    refine ⟨hone, ?_⟩
    rw [Fits, hone.toNat_add, toNat_ofNat_towerMoves hle, UInt64.toNat_one]
    omega
  iterative := by
    intro σ sink s t c emitted h
    have htotal := h.counted.2
    have hlt := towerMoves_lt p.disks.le_max
    refine ⟨h.solvePuzzle_eq, ?_⟩
    rw [Fits, UInt64.toNat_one]
    omega
  board := by
    intro σ sink q s
    refine ⟨fun strategy => TowerOfHanoi.solvePuzzle_eq _ strategy p _, fun k t h => ?_⟩
    have hlt := towerMoves_lt p.disks.le_max
    rw [Fits, Sink.applied_of_emitAll_verified h, UInt64.toNat_one]
    omega

/-! ### All counts agree -/

namespace Sink.NeverFails

variable {sink : Sink σ}

/-- A sink that never fails takes every list, and is asked for all of it. -/
theorem takes (h : sink.NeverFails) (s : σ) (ms : List Move) :
    ∃ s', sink.emitAll s ms = (.ok (), s') ∧ sink.offered s ms = ms := by
  rcases sink.takes_or_refusesAt s ms with htakes | ⟨k, e, s', -, hrefused, -⟩
  · exact htakes
  · have hok := h.emitAll s ms
    rw [hrefused] at hok
    cases hok

theorem calls_solvePuzzle (h : sink.NeverFails) (strategy : Strategy) (p : Puzzle) (s : σ) :
    (solvePuzzle sink.logged strategy p ⟨[], s⟩).2.calls = p.solution.map .emit := by
  obtain ⟨s', htaken, hoffered⟩ := h.takes s p.solution
  rw [solvePuzzle_eq, emitAll_logged, htaken, hoffered]
  rfl

theorem solvePuzzle_fst (h : sink.NeverFails) (strategy : Strategy) (p : Puzzle) (s : σ) :
    (solvePuzzle sink strategy p s).1 = .ok p.disks.moveCount := by
  obtain ⟨s', htaken, -⟩ := h.takes s p.solution
  rw [solvePuzzle_eq, htaken]
  rfl

theorem run_fst (h : sink.NeverFails) (strategy : Strategy) (p : Puzzle) (s : σ) :
    (Engine.run sink strategy p s).1 = .ok ⟨p, strategy, p.disks.moveCount⟩ := by
  obtain ⟨s', htaken, -⟩ := h.takes s p.solution
  have hfinish := h.finish s'
  rw [Engine.run_eq, htaken]
  simp only
  generalize sink.finish s' = r at hfinish ⊢
  obtain ⟨result, s''⟩ := r
  obtain rfl : result = .ok () := hfinish
  rfl

end Sink.NeverFails

/-- **All counts are exact.**  A disk count is accepted exactly if it is not negative and neither
above the ceiling nor above 63.  In every puzzle with a count that is accepted, no 64-bit operation
wraps around, and there are `2 ^ n - 1` moves by each account: the expected number, the number that
is left to the cursor at the beginning, the number of moves that a sink that never fails is asked to
take, the number that either strategy returns, and the one in the summary of the run. -/
theorem counts_exact (disks : Int) (limit : Nat) :
    ((∃ n, DiskCount.withLimit disks limit = .ok n) ↔ 0 ≤ disks ∧ disks ≤ min (limit : Int) 63) ∧
      ∀ p : Puzzle, DiskCount.withLimit disks limit = .ok p.disks →
        let total := 2 ^ p.disks.count - 1
        (p.disks.count : Int) = disks ∧ p.NoWrap ∧
          p.disks.moveCount.toNat = total ∧ (Cursor.start p).remaining.toNat = total ∧
          ∀ (σ : Type) (sink : Sink σ), sink.NeverFails → ∀ (strategy : Strategy) (s : σ),
            ((solvePuzzle sink.logged strategy p ⟨[], s⟩).2.calls.filterMap
              Sink.Call.move?).length = total ∧
            (∃ count, (solvePuzzle sink strategy p s).1 = .ok count ∧ count.toNat = total) ∧
            ∃ summary, (Engine.run sink strategy p s).1 = .ok summary ∧
              summary.moves.toNat = total := by
  refine ⟨⟨?_, ?_⟩, ?_⟩
  · rintro ⟨n, hn⟩
    obtain ⟨hpos, hle, -⟩ := DiskCount.withLimit_eq_ok_iff.1 hn
    exact ⟨hpos, hle⟩
  · rintro ⟨hpos, hle⟩
    have hcount : ((disks.toNat : Nat) : Int) = disks := Int.toNat_of_nonneg hpos
    exact ⟨⟨disks.toNat, by omega⟩, DiskCount.withLimit_eq_ok_iff.2 ⟨hpos, hle, hcount⟩⟩
  · intro p hp total
    obtain ⟨-, -, hcount⟩ := DiskCount.withLimit_eq_ok_iff.1 hp
    have htotal : p.disks.moveCount.toNat = total := p.disks.toNat_moveCount
    refine ⟨hcount, p.noWrap, htotal, htotal, ?_⟩
    intro σ sink hsink strategy s
    refine ⟨?_, ⟨_, hsink.solvePuzzle_fst strategy p s, htotal⟩,
      ⟨_, hsink.run_fst strategy p s, htotal⟩⟩
    have hmoves : (p.solution.map Sink.Call.emit).filterMap Sink.Call.move? = p.solution := by
      simp [List.filterMap_map, Function.comp_def, Sink.Call.move?]
    rw [hsink.calls_solvePuzzle, hmoves, p.length_solution]
    exact towerMoves_eq _

/-- The tallest tower, under a ceiling that is too high. -/
theorem counts_exact_tallest :
    let p : Puzzle := ⟨⟨63, by decide⟩, .classic⟩
    DiskCount.withLimit 63 1000 = .ok p.disks ∧ p.NoWrap ∧
      p.disks.moveCount.toNat = 2 ^ 63 - 1 ∧
      ∃ summary, (Engine.run Sink.collect .iterative p #[]).1 = .ok summary ∧
        summary.moves.toNat = 2 ^ 63 - 1 := by
  intro p
  have hsink : Sink.collect.NeverFails := ⟨fun _ _ => rfl, fun _ => rfl⟩
  have hp : DiskCount.withLimit 63 1000 = .ok p.disks := rfl
  obtain ⟨-, hwrap, hcount, -, hsinks⟩ := (counts_exact 63 1000).2 p hp
  exact ⟨hp, hwrap, hcount, (hsinks _ Sink.collect hsink .iterative #[]).2.2⟩

end TowerOfHanoi
