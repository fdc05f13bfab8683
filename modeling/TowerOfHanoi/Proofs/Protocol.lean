/-
TowerOfHanoi/Proofs/Protocol.lean

What passes between a run and its sink.  A run knows nothing of the sink but
the answers it gets, and what it may still ask depends on them: it offers the
moves of the solution one by one for as long as they are taken, finishes the
sink when the last one was, and falls silent at the first failure.

Where a list of moves fails is its place in the list,

    sink.RefusesAt s ms k e s',

and offering a list either ends at such a place or goes through
(`takes_or_refusesAt`).  Either way it is known which moves have been offered,
and those are the calls that `Sink.logged` writes down (`emitAll_logged`).

Main result: `run_follows_protocol`.
-/
import TowerOfHanoi.Proofs.Emission

namespace TowerOfHanoi

variable {σ : Type}

namespace Sink

/-! ### Where a list is refused -/

/-- The sink takes the first `k` moves of a list and refuses the next one with `e`, which leaves it
in the state `s'`. -/
def RefusesAt (sink : Sink σ) (s : σ) (ms : List Move) (k : Nat) (e : Error) (s' : σ) : Prop :=
  ∃ m s₁, ms[k]? = some m ∧ sink.emitAll s (ms.take k) = (.ok (), s₁) ∧
    sink.emit s₁ m = (.error e, s')

variable {sink : Sink σ} {s s' : σ} {m : Move} {ms : List Move} {k : Nat} {e : Error}

/-- A refusal stays where it is when a move that is taken goes before it. -/
theorem RefusesAt.cons {s₁ : σ} (hm : sink.emit s m = (.ok (), s₁))
    (h : sink.RefusesAt s₁ ms k e s') : sink.RefusesAt s (m :: ms) (k + 1) e s' := by
  obtain ⟨m', s₂, hget, htaken, hrefused⟩ := h
  refine ⟨m', s₂, by rwa [List.getElem?_cons_succ], ?_, hrefused⟩
  rw [List.take_succ_cons, emitAll, hm]
  exact htaken

/-- A list of moves is taken in full, or refused at one place. -/
theorem takes_or_refusesAt (sink : Sink σ) (s : σ) (ms : List Move) :
    (∃ s', sink.emitAll s ms = (.ok (), s') ∧ sink.offered s ms = ms) ∨
      ∃ k e s', sink.RefusesAt s ms k e s' ∧ sink.emitAll s ms = (.error e, s') ∧
        sink.offered s ms = ms.take (k + 1) := by
  induction ms generalizing s with
  | nil => exact .inl ⟨s, rfl, rfl⟩
  | cons m ms ih =>
    rw [emitAll, offered]
    rcases hm : sink.emit s m with ⟨e | ⟨⟨⟩⟩, s₁⟩
    · exact .inr ⟨0, e, s₁, ⟨m, s, rfl, rfl, hm⟩, rfl, rfl⟩
    · rcases ih s₁ with ⟨s', htaken, hoffered⟩ | ⟨k, e, s', hat, hrefused, hoffered⟩
      · exact .inl ⟨s', htaken, by simp only [hoffered]⟩
      · refine .inr ⟨k + 1, e, s', hat.cons hm, hrefused, ?_⟩
        simp only [hoffered, List.take_succ_cons]

end Sink

/-- **A run keeps to the protocol.**  Either the sink refuses the move at some place of the
solution: then the calls are the moves up to and including that one, and the result is that error.
Or it takes all `2 ^ n - 1` moves: then it is finished once, after the last of them, and the result
is its error or the summary of the puzzle.  Parts that are refused as a puzzle are refused with that
error before anything is asked of the sink. -/
theorem run_follows_protocol (sink : Sink σ) (s : σ) :
    (∀ (strategy : Strategy) (p : Puzzle),
      let plain := Engine.run sink strategy p s
      let run := Engine.run sink.logged strategy p ⟨[], s⟩
      p.solution.length = 2 ^ p.disks.count - 1 ∧
      run.1 = plain.1 ∧ run.2.inner = plain.2 ∧
        ((∃ k e, sink.RefusesAt s p.solution k e run.2.inner ∧ run.1 = .error e ∧
            run.2.calls = (p.solution.take (k + 1)).map .emit) ∨
          ∃ s', sink.emitAll s p.solution = (.ok (), s') ∧
            run.2.calls = p.solution.map .emit ++ [.finish] ∧
            ((∃ e, sink.finish s' = (.error e, run.2.inner) ∧ run.1 = .error e) ∨
              ∃ summary, sink.finish s' = (.ok (), run.2.inner) ∧ run.1 = .ok summary ∧
                summary.puzzle = p ∧ summary.strategy = strategy ∧
                summary.moves.toNat = 2 ^ p.disks.count - 1))) ∧
      ∀ disks source target spare e, Puzzle.ofParts disks source target spare = .error e →
        solve sink.logged disks source target spare ⟨[], s⟩ = (.error e, ⟨[], s⟩) := by
  refine ⟨?_, ?_⟩
  · intro strategy p plain run
    have hplain : plain = Engine.run sink strategy p s := rfl
    have hrun : run = Engine.run sink.logged strategy p ⟨[], s⟩ := rfl
    clear_value plain run
    rw [Engine.run_eq] at hplain
    rw [Engine.run_eq, Sink.emitAll_logged] at hrun
    refine ⟨by rw [Puzzle.length_solution, towerMoves_eq], ?_⟩
    rcases sink.takes_or_refusesAt s p.solution with
      ⟨s', htaken, hoffered⟩ | ⟨k, e, s', hat, hrefused, hoffered⟩
    · simp only [htaken] at hplain
      simp only [htaken, hoffered, Sink.logged_finish] at hrun
      rcases hfinish : sink.finish s' with ⟨e | ⟨⟨⟩⟩, s''⟩ <;> rw [hfinish] at hplain hrun <;>
        subst hplain hrun
      · exact ⟨rfl, rfl, .inr ⟨s', htaken, rfl, .inl ⟨e, hfinish, rfl⟩⟩⟩
      · refine ⟨rfl, rfl, .inr ⟨s', htaken, rfl, .inr ⟨_, hfinish, rfl, rfl, rfl, ?_⟩⟩⟩
        exact p.disks.toNat_moveCount
    · simp only [hrefused] at hplain
      simp only [hrefused, hoffered] at hrun
      subst hplain hrun
      exact ⟨rfl, rfl, .inl ⟨k, e, hat, rfl, rfl⟩⟩
  · intro disks source target spare e h
    rw [solve, h]

/-- A tower of `-1` disks is refused, and the sink hears nothing of it. -/
theorem run_follows_protocol_negative :
    solve Sink.collect.logged (-1) .a .c .b ⟨[], #[]⟩
      = (.error (.negativeDiskCount (-1)), ⟨[], #[]⟩) :=
  (run_follows_protocol Sink.collect #[]).2 (-1) .a .c .b _ rfl

end TowerOfHanoi
