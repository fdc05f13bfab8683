/-
TowerOfHanoi/Proofs/Forwarding.lean

What a board lets through to the sink behind it.  The sink behind a board is
arbitrary and may fail at any call; whoever makes the calls may go on after a
failure, with whatever moves.  The board is always in step with the moves that
have been forwarded,

    (Board.start q).replay forwarded = .ok board,

because the two are changed together or not at all: a call that the board
refuses changes nothing (`verified_emit_of_error`), and a move that it accepts
is forwarded at once, on the board whether or not the sink then fails
(`verified_emit_of_ok`).  That is one step (`InStep.call`), and a list of
calls is a list of steps (`InStep.callAll`).

Main result: `verified_forwards_legal_play`.
-/
import TowerOfHanoi.Proofs.Order
import TowerOfHanoi.Proofs.Verification

namespace TowerOfHanoi

variable {σ : Type}

namespace Sink

/-! ### Calls that go on after failures -/

/-- The move that a call offers. -/
def Call.move? : Call → Option Move
  | .emit m => some m
  | .finish => none

/-- Makes a call. -/
def call (sink : Sink σ) (s : σ) : Call → Except Error Unit × σ
  | .emit m => sink.emit s m
  | .finish => sink.finish s

/-- Makes calls in order, each on the state that the one before has left, whatever its result. -/
def callAll (sink : Sink σ) (s : σ) : List Call → List (Except Error Unit) × σ
  | [] => ([], s)
  | c :: cs => ((sink.call s c).1 :: (sink.callAll (sink.call s c).2 cs).1,
      (sink.callAll (sink.call s c).2 cs).2)

/-! ### Calls that the board refuses -/

variable (sink : Sink σ) {b : Board} {e : Error}

/-- A move that the board refuses changes nothing. -/
theorem verified_emit_of_error {m : Move} (h : b.apply m = .error e) (s : σ)
    (completed : List UInt64) :
    sink.verified.emit ⟨b, s, completed⟩ m = (.error e, ⟨b, s, completed⟩) := by
  simp only [verified, Board.perform_eq, h]

/-- A board that does not count as solved keeps the sink from being finished. -/
theorem verified_finish_of_error (h : b.ensureSolved = .error e) (s : σ)
    (completed : List UInt64) :
    sink.verified.finish ⟨b, s, completed⟩ = (.error e, ⟨b, s, completed⟩) := by
  simp only [verified, h]

end Sink

open Sink (Call Logged)

namespace Verified

/-! ### The calls behind a board -/

/-- The moves that have been forwarded to a sink that writes down its calls. -/
def forwarded (t : Verified (Logged σ)) : List Move :=
  t.inner.calls.filterMap Call.move?

/-- The state behind a board without the calls that were written down. -/
def unlogged (t : Verified (Logged σ)) : Verified σ :=
  ⟨t.board, t.inner.inner, t.completed⟩

/-- Whether the calls are written down makes no difference to any call. -/
theorem call_unlogged (sink : Sink σ) (t : Verified (Logged σ)) (c : Call) :
    sink.verified.call t.unlogged c
      = ((sink.logged.verified.call t c).1, (sink.logged.verified.call t c).2.unlogged) := by
  cases c with
  | emit m =>
    simp only [Sink.call, Sink.verified, unlogged]
    rcases t.board.perform m with ⟨e | ⟨⟨⟩⟩, b⟩ <;> rfl
  | finish =>
    simp only [Sink.call, Sink.verified, unlogged]
    rcases t.board.ensureSolved with e | ⟨⟨⟩⟩ <;> rfl

theorem callAll_unlogged (sink : Sink σ) (t : Verified (Logged σ)) (cs : List Call) :
    sink.verified.callAll t.unlogged cs
      = ((sink.logged.verified.callAll t cs).1,
          (sink.logged.verified.callAll t cs).2.unlogged) := by
  induction cs generalizing t with
  | nil => rfl
  | cons c cs ih => simp only [Sink.callAll, call_unlogged, ih]

/-! ### Boards in step -/

/-- The board is the one that the forwarded moves lead to. -/
def InStep (q : Puzzle) (t : Verified (Logged σ)) : Prop :=
  (Board.start q).replay t.forwarded = .ok t.board

theorem inStep_start (q : Puzzle) (s : σ) : (start q ⟨[], s⟩ : Verified (Logged σ)).InStep q :=
  rfl

variable {q : Puzzle} {t : Verified (Logged σ)}

/-- **One call keeps the board in step**, whether the board refuses it, the sink fails, or neither
does. -/
theorem InStep.call (h : t.InStep q) (sink : Sink σ) (c : Call) :
    (sink.logged.verified.call t c).2.InStep q := by
  obtain ⟨board, ⟨calls, s⟩, completed⟩ := t
  cases c with
  | emit m =>
    show (sink.logged.verified.emit _ m).2.InStep q
    rcases ha : board.apply m with e | b
    · rw [sink.logged.verified_emit_of_error ha]
      exact h
    · -- the move is on the board and among the calls, before the answer of the sink is known
      rw [sink.logged.verified_emit_of_ok ha]
      have hstep : board.replay [m] = .ok b := Board.replay_cons_eq_ok_iff.2 ⟨b, ha, rfl⟩
      have hplay := Board.replay_append h hstep
      simpa [InStep, forwarded, Sink.logged_emit, Call.move?] using hplay
  | finish =>
    show (sink.logged.verified.finish _).2.InStep q
    rcases hs : board.ensureSolved with e | ⟨⟨⟩⟩
    · rw [sink.logged.verified_finish_of_error hs]
      exact h
    · rw [sink.logged.verified_finish_of_ok hs]
      simpa [InStep, forwarded, Sink.logged_finish, Call.move?, List.filterMap_cons] using h

theorem InStep.callAll (h : t.InStep q) (sink : Sink σ) (cs : List Call) :
    (sink.logged.verified.callAll t cs).2.InStep q := by
  induction cs generalizing t with
  | nil => exact h
  | cons c cs ih => exact ih (h.call sink c)

/-- A board in step lets the sink be finished exactly if the whole tower stands on the target rod of
the puzzle. -/
theorem InStep.ensureSolved_iff (h : t.InStep q) :
    t.board.ensureSolved = .ok () ↔ t.board.disksOn q.rods.target = tower q.disks.count := by
  have hrods : t.board.rods = q.rods := Board.rods_of_replay h
  have hdisks : t.board.disks = q.disks := Board.disks_of_replay h
  have hsound : t.board.Sound := (Board.sound_start q).replay h
  have htarget : t.board.disksOn q.rods.target = t.board.target := by
    rw [Board.disksOn, hrods, show q.rods.target = q.rods.peg .target from rfl, Rods.role?_peg]
    rfl
  rw [htarget, ← hdisks, Board.ensureSolved]
  constructor
  · intro hsolved
    split at hsolved
    · rename_i hcount
      exact (hsound.of_isSolved hcount).1
    · cases hsolved
  · intro htower
    rw [Board.isSolved, htower, length_tower, beq_self_eq_true, if_pos rfl]

end Verified

/-- **Only legal play passes a board.**  Whatever calls are made on a sink behind the board of a
puzzle, failed ones included: the moves that the sink has been asked to take are a play of the
puzzle, and the board is where that play has led.  A move that the board refuses then changes
neither the board nor the sink, and one that it accepts is forwarded.  The sink is finished on a
call to finish exactly if the play has brought the whole tower onto the target rod.  The calls are
read off a sink that writes them down, which makes no difference to it. -/
theorem verified_forwards_legal_play (q : Puzzle) (sink : Sink σ) (s : σ) (cs : List Call) :
    let after := sink.logged.verified.callAll (Verified.start q ⟨[], s⟩) cs
    let t := after.2
    sink.verified.callAll (Verified.start q s) cs = (after.1, t.unlogged) ∧
      (Board.start q).replay t.forwarded = .ok t.board ∧
      (∀ m e, t.board.apply m = .error e → sink.logged.verified.emit t m = (.error e, t)) ∧
      (∀ m b, t.board.apply m = .ok b →
        (sink.logged.verified.emit t m).2.board = b ∧
          (sink.logged.verified.emit t m).2.inner.calls = t.inner.calls ++ [.emit m]) ∧
      ((sink.logged.verified.finish t).2.inner.calls = t.inner.calls ++ [.finish] ↔
        t.board.disksOn q.rods.target = tower q.disks.count) ∧
      (t.board.disksOn q.rods.target ≠ tower q.disks.count →
        (sink.logged.verified.finish t).2 = t) := by
  intro after t
  have hstep : t.InStep q := (Verified.inStep_start q s).callAll sink cs
  have hrefused : t.board.disksOn q.rods.target ≠ tower q.disks.count →
      (sink.logged.verified.finish t).2 = t := by
    intro hne
    rcases hs : t.board.ensureSolved with e | ⟨⟨⟩⟩
    · exact congrArg Prod.snd (sink.logged.verified_finish_of_error hs t.inner t.completed)
    · exact absurd (hstep.ensureSolved_iff.1 hs) hne
  refine ⟨Verified.callAll_unlogged sink (.start q ⟨[], s⟩) cs, hstep, ?_, ?_, ?_, hrefused⟩
  · intro m e h
    exact sink.logged.verified_emit_of_error h t.inner t.completed
  · intro m b h
    have hemit := sink.logged.verified_emit_of_ok h t.inner t.completed
    exact ⟨congrArg (·.2.board) hemit, congrArg (·.2.inner.calls) hemit⟩
  · constructor
    · -- a refused call would have left the calls as they were
      intro hcalls
      refine Decidable.byContradiction fun hne => ?_
      rw [hrefused hne] at hcalls
      simp at hcalls
    · intro htower
      have hs := hstep.ensureSolved_iff.2 htower
      have hfinish := sink.logged.verified_finish_of_ok hs t.inner t.completed
      exact congrArg (·.2.inner.calls) hfinish

/-- One disk, and a sink that refuses every move: the move is forwarded and on the board all the
same, so that it is refused when it is tried again, and the sink may be finished. -/
theorem verified_forwards_legal_play_one :
    let q : Puzzle := ⟨⟨1, by decide⟩, .classic⟩
    let m : Move := ⟨1, .a, .c⟩
    let sink : Sink (Sink.Gated (Array Move)) := Sink.collect.gated
    let t := (sink.logged.verified.callAll (Verified.start q ⟨[], ⟨0, #[]⟩⟩) [.emit m]).2
    t.inner.calls = [.emit m] ∧ (Board.start q).replay [m] = .ok t.board ∧
      sink.logged.verified.emit t m = (.error (.illegalMove 1 'A' 'C' .emptySource), t) ∧
      (sink.logged.verified.finish t).2.inner.calls = [.emit m, .finish] := by
  intro q m sink t
  obtain ⟨-, hplay, hrefused, -, hfinish, -⟩ :=
    verified_forwards_legal_play q sink ⟨0, #[]⟩ [.emit m]
  exact ⟨rfl, hplay, hrefused m _ rfl, hfinish.2 rfl⟩

end TowerOfHanoi
