/-
TowerOfHanoi/Proofs/Emission.lean

What a strategy does to a sink.  A list of moves is offered to a sink in
order, up to the first move that the sink refuses:

    sink.emitAll s ms.

Both strategies come down to offering the solution of the puzzle, whatever the
sink is and wherever it fails:

    solvePuzzle sink strategy p s = counted p.disks.moveCount (sink.emitAll s p.solution)

(`solvePuzzle_eq`).  That is shown for ports of any lawful monad first
(`Port.solve_eq`), where the recursion is followed by induction on the height of
the tower (`Port.emitRecursive_eq`) and the explicit stack by induction on the
list that it stands for (`Port.emitIterative_eq`).  Since the sink is arbitrary, it may
also write down the calls it receives: `Sink.logged` does, and
`strategies_agree` says that the two strategies cannot be told apart, by their
result, by the state they leave or by the calls they make.
-/
import TowerOfHanoi.Engine
import TowerOfHanoi.Proofs.Outcome
import TowerOfHanoi.Proofs.Pending

namespace TowerOfHanoi

variable {σ : Type}

/-! ### Offering a list of moves -/

namespace Sink

/-- Offers moves to a sink in order, up to the first that it refuses. -/
def emitAll (sink : Sink σ) (s : σ) : List Move → Except Error Unit × σ
  | [] => (.ok (), s)
  | m :: ms =>
    match sink.emit s m with
    | (.error e, s) => (.error e, s)
    | (.ok (), s) => sink.emitAll s ms

/-- The moves of a list that are offered: all up to the first that is refused, and that one. -/
def offered (sink : Sink σ) (s : σ) : List Move → List Move
  | [] => []
  | m :: ms =>
    match sink.emit s m with
    | (.error _, _) => [m]
    | (.ok (), s) => m :: sink.offered s ms

variable {sink : Sink σ} {s : σ}

/-- The sink that keeps every move takes every list. -/
theorem emitAll_collect (kept : Array Move) (ms : List Move) :
    collect.emitAll kept ms = (.ok (), kept ++ ms.toArray) := by
  induction ms generalizing kept with
  | nil => simp [emitAll]
  | cons m ms ih =>
    simp only [emitAll, collect] at ih ⊢
    rw [ih]
    simp

/-! ### Calls -/

/-- A call that a sink receives. -/
inductive Call where
  | emit (m : Move)
  | finish
deriving DecidableEq

/-- A sink's state with the calls received so far, in order. -/
structure Logged (σ : Type) where
  calls : List Call
  inner : σ

/-- Writes down every call on its way to a sink. -/
def logged (sink : Sink σ) : Sink (Logged σ) where
  emit s m :=
    let (result, inner) := sink.emit s.inner m
    (result, ⟨s.calls ++ [.emit m], inner⟩)
  finish s :=
    let (result, inner) := sink.finish s.inner
    (result, ⟨s.calls ++ [.finish], inner⟩)

theorem logged_emit (s : Logged σ) (m : Move) :
    sink.logged.emit s m =
      ((sink.emit s.inner m).1, ⟨s.calls ++ [.emit m], (sink.emit s.inner m).2⟩) := rfl

theorem logged_finish (s : Logged σ) :
    sink.logged.finish s =
      ((sink.finish s.inner).1, ⟨s.calls ++ [.finish], (sink.finish s.inner).2⟩) := rfl

/-- Writing down the calls changes nothing, and the calls are the moves offered. -/
theorem emitAll_logged (calls : List Call) (ms : List Move) :
    sink.logged.emitAll ⟨calls, s⟩ ms =
      ((sink.emitAll s ms).1,
        ⟨calls ++ (sink.offered s ms).map .emit, (sink.emitAll s ms).2⟩) := by
  induction ms generalizing s calls with
  | nil => simp [emitAll, offered]
  | cons m ms ih =>
    simp only [emitAll, offered, logged_emit]
    rcases sink.emit s m with ⟨e | ⟨⟨⟩⟩, s'⟩
    · rfl
    · simp [ih]

end Sink

/-! ### The two strategies -/

namespace Port

variable {μ : Type → Type} [Monad μ]

/-- Emits moves in order, up to the first that is refused. -/
def emitAll (port : Port μ) : List Move → ExceptT Error μ Unit
  | [] => return
  | m :: ms => do
    port.emit m
    port.emitAll ms

variable (port : Port μ)

theorem emitIterative_of_none {c : Cursor} (h : c.next? = none) (emitted : UInt64) :
    port.emitIterative c emitted = return emitted := by
  rw [emitIterative]
  split
  · rfl
  · rename_i hn
    rw [h] at hn
    cases hn

theorem emitIterative_of_some {c c' : Cursor} {m : Move} (h : c.next? = some (m, c'))
    (emitted : UInt64) :
    port.emitIterative c emitted = (do
      port.emit m
      port.emitIterative c' (emitted + 1)) := by
  rw [emitIterative]
  split
  · rename_i hn
    rw [h] at hn
    cases hn
  · rename_i hn
    rw [h] at hn
    obtain ⟨rfl, rfl⟩ := Prod.mk.inj (Option.some.inj hn)
    rfl

variable [LawfulMonad μ]

theorem emitAll_append (ms ms' : List Move) :
    port.emitAll (ms ++ ms') = (do
      port.emitAll ms
      port.emitAll ms') := by
  induction ms with
  | nil => rw [List.nil_append, emitAll, pure_bind]
  | cons m ms ih => rw [List.cons_append, emitAll, emitAll, ih, bind_assoc]

/-- A single disk is carried as any other: there is nothing above it to be carried first. -/
theorem emitRecursive_succ (n : Nat) (x y z : Peg) :
    port.emitRecursive (n + 1) x y z = (do
      let before ← port.emitRecursive n x z y
      port.emit ⟨n + 1, x, y⟩
      let after ← port.emitRecursive n z y x
      return before + 1 + after) := by
  cases n with
  | zero =>
    simp only [emitRecursive, pure_bind]
    rfl
  | succ n => rw [emitRecursive]

/-- Depth first, a tower is carried by emitting the moves of its transfer. -/
theorem emitRecursive_eq (n : Nat) (x y z : Peg) :
    port.emitRecursive n x y z = (do
      port.emitAll (transfer n x y z)
      return UInt64.ofNat (towerMoves n)) := by
  induction n generalizing x y z with
  | zero =>
    rw [emitRecursive, transfer, emitAll, pure_bind]
    rfl
  | succ n ih =>
    have hcount : UInt64.ofNat (towerMoves n) + 1 + UInt64.ofNat (towerMoves n)
        = UInt64.ofNat (towerMoves (n + 1)) := by
      simp [towerMoves, UInt64.ofNat_add]
    -- a refusal in either sub-tower ends the action, so no case is split on where it comes
    rw [emitRecursive_succ, transfer, emitAll_append, ih, ih]
    simp only [emitAll, bind_assoc, pure_bind, hcount]

/-- With a cursor, the moves emitted are those that follow it. -/
theorem emitIterative_eq {c : Cursor} (hc : c.Proper) (emitted : UInt64) :
    port.emitIterative c emitted = (do
      port.emitAll c.moves
      return emitted + UInt64.ofNat c.moves.length) := by
  induction hms : c.moves generalizing c emitted with
  | nil =>
    rw [port.emitIterative_of_none (Cursor.next?_of_moves_nil hc hms), emitAll, pure_bind]
    simp
  | cons m ms ih =>
    obtain ⟨c₁, hn, hms₁, hc₁⟩ := Cursor.next?_of_moves_cons hc hms
    have hcount : emitted + 1 + UInt64.ofNat ms.length
        = emitted + UInt64.ofNat (m :: ms).length := by
      rw [List.length_cons, UInt64.ofNat_add, UInt64.add_assoc, UInt64.add_comm 1]
      rfl
    rw [port.emitIterative_of_some hn, ih hc₁ _ hms₁, emitAll, bind_assoc, hcount]

/-- **Both strategies emit the solution**, into any port, and count its moves. -/
theorem solve_eq (strategy : Strategy) (p : Puzzle) :
    port.solve strategy p = (do
      port.emitAll p.solution
      return p.disks.moveCount) := by
  rw [DiskCount.moveCount_eq]
  cases strategy with
  | recursive => exact port.emitRecursive_eq _ _ _ _
  | iterative =>
    rw [solve, port.emitIterative_eq (Cursor.proper_start p), Cursor.moves_start,
      Puzzle.length_solution, UInt64.zero_add]

end Port

/-- The outcome of offering a list, with a count in place of success. -/
def counted (n : UInt64) : Except Error Unit × σ → Except Error UInt64 × σ
  | (.error e, s) => (.error e, s)
  | (.ok (), s) => (.ok n, s)

variable (sink : Sink σ)

/-- Emitting into the port of a sink is offering to the sink. -/
theorem Sink.run_emitAll (ms : List Move) (s : σ) :
    (sink.port.emitAll ms).run s = sink.emitAll s ms := by
  induction ms generalizing s with
  | nil => rfl
  | cons m ms ih =>
    have hemit : (sink.port.emit m).run s = sink.emit s m := rfl
    rw [Port.emitAll, run_bind, hemit, Sink.emitAll]
    rcases sink.emit s m with ⟨e | ⟨⟨⟩⟩, s₁⟩
    · rfl
    · exact ih s₁

theorem Sink.run_counted (ms : List Move) (n : UInt64) (s : σ) :
    (do sink.port.emitAll ms; return n : ExceptT Error (StateM σ) UInt64).run s
      = counted n (sink.emitAll s ms) := by
  rw [run_bind, run_emitAll]
  rcases sink.emitAll s ms with ⟨e | ⟨⟨⟩⟩, s'⟩ <;> rfl

/-- Depth first, a tower is carried by offering the moves of its transfer. -/
theorem emitRecursive_eq (n : Nat) (x y z : Peg) (s : σ) :
    emitRecursive sink n x y z s
      = counted (UInt64.ofNat (towerMoves n)) (sink.emitAll s (transfer n x y z)) := by
  rw [emitRecursive, Port.emitRecursive_eq, Sink.run_counted]

/-- **Both strategies offer the solution**, and on success count its moves. -/
theorem solvePuzzle_eq (strategy : Strategy) (p : Puzzle) (s : σ) :
    solvePuzzle sink strategy p s = counted p.disks.moveCount (sink.emitAll s p.solution) := by
  rw [solvePuzzle, Port.solve_eq, Sink.run_counted]

/-- A run offers the solution, and finishes the sink if all of it was taken. -/
theorem Engine.run_eq (strategy : Strategy) (p : Puzzle) (s : σ) :
    Engine.run sink strategy p s =
      match sink.emitAll s p.solution with
      | (.error e, s) => (.error e, s)
      | (.ok (), s) =>
        match sink.finish s with
        | (.error e, s) => (.error e, s)
        | (.ok (), s) => (.ok ⟨p, strategy, p.disks.moveCount⟩, s) := by
  have hsolve : (sink.port.solve strategy p).run s = _ := solvePuzzle_eq sink strategy p s
  rw [Engine.run, Engine.drive, run_bind, hsolve]
  rcases sink.emitAll s p.solution with ⟨e | ⟨⟨⟩⟩, s'⟩
  · rfl
  · have hfinish : sink.port.finish.run s' = sink.finish s' := rfl
    simp only [counted]
    rw [run_bind, hfinish]
    rcases sink.finish s' with ⟨e | ⟨⟨⟩⟩, s''⟩ <;> rfl

/-- The moves that a strategy emits are the solution. -/
theorem solvePuzzle_collect (strategy : Strategy) (p : Puzzle) :
    solvePuzzle Sink.collect strategy p #[] = (.ok p.disks.moveCount, p.solution.toArray) := by
  rw [solvePuzzle_eq, Sink.emitAll_collect]
  simp [counted]

/-- **The two strategies are the same strategy**: over any sink they give the same result and leave
the same state, and the calls they make are the moves of the solution up to the first refusal. -/
theorem strategies_agree (p : Puzzle) (s : σ) :
    solvePuzzle sink .recursive p s = solvePuzzle sink .iterative p s ∧
      ∀ strategy, solvePuzzle sink.logged strategy p ⟨[], s⟩
        = ((solvePuzzle sink strategy p s).1,
            ⟨(sink.offered s p.solution).map .emit, (solvePuzzle sink strategy p s).2⟩) := by
  refine ⟨?_, fun strategy => ?_⟩
  · rw [solvePuzzle_eq, solvePuzzle_eq]
  · rw [solvePuzzle_eq, solvePuzzle_eq, Sink.emitAll_logged, List.nil_append]
    rcases sink.emitAll s p.solution with ⟨e | ⟨⟨⟩⟩, s'⟩ <;> rfl

end TowerOfHanoi
