/-
TowerOfHanoi/Proofs/Mismatch.lean

The solution of one puzzle on the board of another.  A sink that never fails
leaves the verdict to the board in front of it,

    (Engine.run sink.verified strategy p (Verified.start q s)).1
      = (Board.judge q p.solution).map fun _ => ⟨p, strategy, p.disks.moveCount⟩

(`Engine.run_verified_of_neverFails`).  The board looks at one move at a time, and
at a number of disks in the end.  That this tells puzzles apart is due to the
solution of `q` being the shortest play, and the only one of its length: a play of
`p.solution` that counts as solved has no fewer moves, and as it moves only disks
that are there, it has no more; so it is `q.solution`
(`Board.judge_solution_eq_ok_iff`).  Which parts of a puzzle show in its solution
is seen from the recursion (`Puzzle.solution_eq_iff`).

Main result: `verifier_accepts_iff`.
-/
import TowerOfHanoi.Proofs.Forwarding
import TowerOfHanoi.Proofs.Optimal

namespace TowerOfHanoi

variable {σ τ : Type}

/-! ### What a solution tells about its puzzle -/

/-- The largest disk of a transfer moves once, between the two rods that it is about. -/
theorem mem_transfer_succ (n : Nat) (x y z : Peg) : ⟨n + 1, x, y⟩ ∈ transfer (n + 1) x y z := by
  simp [transfer]

/-- The spare rod shows in a transfer of two disks or more, and the others in one of a single disk
already. -/
theorem transfer_eq_iff {n : Nat} {x y z x' y' z' : Peg} :
    transfer n x y z = transfer n x' y' z' ↔
      n = 0 ∨ x = x' ∧ y = y' ∧ (n = 1 ∨ z = z') := by
  induction n generalizing x y z x' y' z' with
  | zero => simp [transfer]
  | succ n ih =>
    constructor
    · intro h
      rw [transfer, transfer] at h
      obtain ⟨haway, hrest⟩ := List.append_inj h (by simp)
      obtain ⟨hlargest, -⟩ := List.cons.inj hrest
      simp only [Move.mk.injEq, true_and] at hlargest
      refine .inr ⟨hlargest.1, hlargest.2, ?_⟩
      rcases ih.1 haway with rfl | ⟨-, hspare, -⟩
      · exact .inl rfl
      · exact .inr hspare
    · rintro (h | ⟨rfl, rfl, h | rfl⟩)
      · omega
      · obtain rfl : n = 0 := by omega
        rfl
      · rfl

theorem towerMoves_le_iff {n m : Nat} : towerMoves n ≤ towerMoves m ↔ n ≤ m := by
  have hn := towerMoves_add_one n
  have hm := towerMoves_add_one m
  rw [← Nat.add_le_add_iff_right (n := 1), hn, hm, Nat.pow_le_pow_iff_right (by decide)]

/-- Two puzzles have the same solution if they have as many disks and the labels that it takes to
move these are the same. -/
theorem Puzzle.solution_eq_iff {p q : Puzzle} :
    p.solution = q.solution ↔
      p.disks.count = q.disks.count ∧
        (p.disks.count = 0 ∨ p.rods.source = q.rods.source ∧ p.rods.target = q.rods.target ∧
          (p.disks.count = 1 ∨ p.rods.spare = q.rods.spare)) := by
  constructor
  · intro h
    have hlength : towerMoves p.disks.count = towerMoves q.disks.count := by
      rw [← p.length_solution, h, q.length_solution]
    have hcount : p.disks.count = q.disks.count :=
      Nat.le_antisymm (towerMoves_le_iff.1 (Nat.le_of_eq hlength))
        (towerMoves_le_iff.1 (Nat.le_of_eq hlength.symm))
    rw [Puzzle.solution, Puzzle.solution, ← hcount] at h
    exact ⟨hcount, transfer_eq_iff.1 h⟩
  · rintro ⟨hcount, h⟩
    rw [Puzzle.solution, Puzzle.solution, ← hcount]
    exact transfer_eq_iff.2 h

/-! ### The solution of one puzzle on the board of another -/

namespace Board

/-- What the board of a puzzle has to say about a play: the first move that it refuses, or whether
the tower is complete in the end. -/
def judge (q : Puzzle) (ms : List Move) : Except Error Unit :=
  match (start q).replay ms with
  | .error e => .error e
  | .ok b => b.ensureSolved

theorem judge_eq_ok_iff {q : Puzzle} {ms : List Move} :
    judge q ms = .ok () ↔ ∃ b, (start q).replay ms = .ok b ∧ b.isSolved = true := by
  rw [judge]
  rcases (start q).replay ms with e | b <;> simp [ensureSolved]

/-- **Of all solutions of puzzles, a board accepts its own.** -/
theorem judge_solution_eq_ok_iff {p q : Puzzle} :
    judge q p.solution = .ok () ↔ p.solution = q.solution := by
  rw [judge_eq_ok_iff]
  constructor
  · rintro ⟨b, h, hsolved⟩
    have hstart := sound_start q
    have hdisks : ∀ m ∈ p.solution, m.disk ≤ q.disks.count := hstart.disk_le_of_replay h
    have hend : b.target = tower q.disks.count := by
      rw [((hstart.replay h).of_isSolved hsolved).1, disks_of_replay h]
      rfl
    obtain ⟨hmin, huniq⟩ := hstart.small_moves (x := .source) (y := .target) (z := .spare) h
      (by decide) (by decide) (by decide) (List.Subset.refl _) (hend ▸ List.Subset.refl _)
    rw [small_eq_self hdisks, p.length_solution] at hmin huniq
    -- the largest disk that moves is on the board, so the solution is not too long either
    have hle : p.disks.count ≤ q.disks.count := by
      rcases hn : p.disks.count with - | n
      · exact Nat.zero_le _
      · refine hdisks ⟨n + 1, p.rods.source, p.rods.target⟩ ?_
        rw [Puzzle.solution, hn]
        exact mem_transfer_succ ..
    exact huniq (Nat.le_antisymm (towerMoves_le_iff.2 hle) hmin)
  · intro h
    refine ⟨solved q, h ▸ replay_solution q, ?_⟩
    simp [isSolved, solved]

/-- A move that does not pass the check is named in the failure. -/
theorem failsWith_check (b : Board) (m : Move) :
    FailsWith (fun e => ∃ o, e = .illegalMove m.disk m.source.label m.target.label o)
      (b.check m) := by
  unfold check
  split
  · exact .error ⟨_, rfl⟩
  split
  · exact .error ⟨_, rfl⟩
  split
  · exact .error ⟨_, rfl⟩
  split
  · exact .error ⟨_, rfl⟩
  split
  · exact .error ⟨_, rfl⟩
  split
  · exact .ok _
  split
  · exact .error ⟨_, rfl⟩
  · exact .ok _

theorem failsWith_apply (b : Board) (m : Move) :
    FailsWith (fun e => ∃ o, e = .illegalMove m.disk m.source.label m.target.label o)
      (b.apply m) := by
  rcases hc : b.check m with e | ⟨x, y⟩
  · rw [apply, perform_of_error hc]
    exact .error ((b.failsWith_check m).of_error hc)
  · obtain ⟨rest, hl⟩ := check_eq_ok_iff.1 hc
    rw [hl.apply]
    exact .ok _

/-- A play fails at one of its moves. -/
theorem failsWith_replay (b : Board) (ms : List Move) :
    FailsWith (fun e => ∃ m ∈ ms, ∃ o, e = .illegalMove m.disk m.source.label m.target.label o)
      (b.replay ms) := by
  induction ms generalizing b with
  | nil => exact .ok b
  | cons m ms ih =>
    have happly := b.failsWith_apply m
    rw [replay]
    generalize b.apply m = r at happly ⊢
    cases happly with
    | error h => exact .error ⟨m, List.mem_cons_self, h⟩
    | ok b₁ =>
      refine (ih b₁).imp ?_
      rintro e ⟨k, hk, h⟩
      exact ⟨k, List.mem_cons_of_mem m hk, h⟩

theorem failsWith_judge (q : Puzzle) (ms : List Move) :
    FailsWith (fun e =>
      (∃ m ∈ ms, ∃ o, e = .illegalMove m.disk m.source.label m.target.label o) ∨
        e = .unsolved q.disks.count q.rods.target.label) (judge q ms) := by
  rw [judge]
  rcases hr : (start q).replay ms with e | b
  · exact .error (.inl ((failsWith_replay _ ms).of_error hr))
  · have hdisks : b.disks = q.disks := disks_of_replay hr
    have hrods : b.rods = q.rods := rods_of_replay hr
    simp only [ensureSolved, hdisks, hrods]
    split
    · exact .ok ()
    · exact .error (.inr rfl)

end Board

/-! ### Sinks that never fail -/

namespace Sink

/-- A sink that takes every move and can be finished at any time. -/
structure NeverFails (sink : Sink σ) : Prop where
  emit : ∀ s m, (sink.emit s m).1 = .ok ()
  finish : ∀ s, (sink.finish s).1 = .ok ()

variable {sink : Sink σ}

theorem NeverFails.logged (h : sink.NeverFails) : sink.logged.NeverFails where
  emit s m := h.emit s.inner m
  finish s := h.finish s.inner

theorem NeverFails.emitAll (h : sink.NeverFails) (s : σ) (ms : List Move) :
    (sink.emitAll s ms).1 = .ok () := by
  induction ms generalizing s with
  | nil => rfl
  | cons m ms ih =>
    have hemit := h.emit s m
    rw [Sink.emitAll]
    generalize sink.emit s m = r at hemit ⊢
    obtain ⟨result, s'⟩ := r
    obtain rfl : result = .ok () := hemit
    exact ih s'

/-- In front of such a sink, a list of moves fails where the board refuses it. -/
theorem NeverFails.emitAll_verified (h : sink.NeverFails) {b : Board} {e : Error} {ms : List Move}
    (hr : b.replay ms = .error e) (s : σ) (completed : List UInt64) :
    (sink.verified.emitAll ⟨b, s, completed⟩ ms).1 = .error e := by
  induction ms generalizing b s with
  | nil => cases hr
  | cons m ms ih =>
    rw [Board.replay] at hr
    rw [Sink.emitAll]
    rcases ha : b.apply m with e' | b₁ <;> rw [ha] at hr
    · cases hr
      rw [sink.verified_emit_of_error ha]
    · rw [sink.verified_emit_of_ok ha, h.emit]
      exact ih hr _

/-! ### Sinks that answer alike -/

/-- Two sinks answer alike, states of the one being seen as states of the other. -/
structure Alike (view : τ → σ) (sink' : Sink τ) (sink : Sink σ) : Prop where
  emit : ∀ t m, sink.emit (view t) m = ((sink'.emit t m).1, view (sink'.emit t m).2)
  finish : ∀ t, sink.finish (view t) = ((sink'.finish t).1, view (sink'.finish t).2)

variable {view : τ → σ} {sink' : Sink τ}

theorem Alike.emitAll (h : Alike view sink' sink) (t : τ) (ms : List Move) :
    sink.emitAll (view t) ms = ((sink'.emitAll t ms).1, view (sink'.emitAll t ms).2) := by
  induction ms generalizing t with
  | nil => rfl
  | cons m ms ih =>
    rw [Sink.emitAll, Sink.emitAll, h.emit]
    rcases sink'.emit t m with ⟨e | ⟨⟨⟩⟩, t'⟩
    · rfl
    · exact ih t'

/-- A run cannot tell such sinks apart. -/
theorem Alike.run (h : Alike view sink' sink) (strategy : Strategy) (p : Puzzle) (t : τ) :
    Engine.run sink strategy p (view t)
      = ((Engine.run sink' strategy p t).1, view (Engine.run sink' strategy p t).2) := by
  rw [Engine.run_eq, Engine.run_eq, h.emitAll]
  rcases sink'.emitAll t p.solution with ⟨e | ⟨⟨⟩⟩, t'⟩
  · rfl
  · simp only [h.finish]
    rcases sink'.finish t' with ⟨e | ⟨⟨⟩⟩, t''⟩ <;> rfl

theorem alike_unlogged (sink : Sink σ) :
    Alike Verified.unlogged sink.logged.verified sink.verified where
  emit t m := Verified.call_unlogged sink t (.emit m)
  finish t := Verified.call_unlogged sink t .finish

/-- Offering moves does not finish the sink behind the board. -/
theorem finish_notMem_emitAll (sink : Sink σ) (t : Verified (Logged σ)) (ms : List Move)
    (h : .finish ∉ t.inner.calls) :
    .finish ∉ (sink.logged.verified.emitAll t ms).2.inner.calls := by
  induction ms generalizing t with
  | nil => exact h
  | cons m ms ih =>
    obtain ⟨b, inner, completed⟩ := t
    rw [Sink.emitAll]
    rcases ha : b.apply m with e | b₁
    · rw [sink.logged.verified_emit_of_error ha]
      exact h
    · rw [sink.logged.verified_emit_of_ok ha, logged_emit]
      have hcalls : .finish ∉ inner.calls ++ [Call.emit m] := by simpa using h
      rcases sink.emit inner.inner m with ⟨e | ⟨⟨⟩⟩, s⟩
      · exact hcalls
      · exact ih _ hcalls

end Sink

/-! ### Runs against a board -/

/-- **The verdict on a run is the board's**, if the sink behind it never fails. -/
theorem Engine.run_verified_of_neverFails {sink : Sink σ} (h : sink.NeverFails)
    (strategy : Strategy) (p q : Puzzle) (s : σ) :
    (Engine.run sink.verified strategy p (Verified.start q s)).1
      = (Board.judge q p.solution).map fun _ => ⟨p, strategy, p.disks.moveCount⟩ := by
  rw [run_eq, Board.judge]
  rcases hr : (Board.start q).replay p.solution with e | b
  · have hemit : (sink.verified.emitAll (Verified.start q s) p.solution).1 = .error e :=
      h.emitAll_verified hr s []
    generalize sink.verified.emitAll (Verified.start q s) p.solution = r at hemit ⊢
    obtain ⟨result, t⟩ := r
    obtain rfl : result = .error e := hemit
    rfl
  · obtain ⟨board, hemit, hboard⟩ := sink.emitAll_verified hr s []
    rw [h.emitAll] at hemit hboard
    obtain rfl := hboard rfl
    have hemit' : sink.verified.emitAll (Verified.start q s) p.solution = _ := hemit
    rw [hemit']
    rcases hs : board.ensureSolved with e | ⟨⟨⟩⟩
    · simp only [sink.verified_finish_of_error hs, hs]
      rfl
    · simp only [sink.verified_finish_of_ok hs, h.finish, hs]
      rfl

/-- A run that fails over a sink that never does has not finished the sink. -/
theorem Engine.finish_notMem_of_error {sink : Sink σ} (h : sink.NeverFails) {strategy : Strategy}
    {p q : Puzzle} {s : σ} {e : Error}
    (hrun : (Engine.run sink.logged.verified strategy p (Verified.start q ⟨[], s⟩)).1 = .error e) :
    .finish ∉ (Engine.run sink.logged.verified strategy p
      (Verified.start q ⟨[], s⟩)).2.inner.calls := by
  have hcalls := sink.finish_notMem_emitAll (Verified.start q ⟨[], s⟩) p.solution List.not_mem_nil
  rw [run_eq] at hrun ⊢
  generalize sink.logged.verified.emitAll (Verified.start q ⟨[], s⟩) p.solution = r at hrun hcalls ⊢
  obtain ⟨e' | ⟨⟨⟩⟩, ⟨b, inner, completed⟩⟩ := r
  · exact hcalls
  · rcases hs : b.ensureSolved with e' | ⟨⟨⟩⟩
    · simp only [sink.logged.verified_finish_of_error hs]
      exact hcalls
    · -- the sink was finished, but then the run did not fail
      simp only [sink.logged.verified_finish_of_ok hs, h.logged.finish] at hrun
      cases hrun

/-- **A board accepts the right puzzle and no other.**  Over a sink that never fails, a run of one
puzzle against the board of another succeeds exactly if the two have the same number of disks and,
with one disk or more, the same source and target and, with two or more, the same spare rod.  Any
other run fails, at a move of the solution that the board refuses or because the tower is not
complete in the end, and then the sink is not finished.  The calls are read off a sink that writes
them down, which makes no difference. -/
theorem verifier_accepts_iff (sink : Sink σ) (hsink : sink.NeverFails) (strategy : Strategy)
    (p q : Puzzle) (s : σ) :
    let run := Engine.run sink.verified strategy p (Verified.start q s)
    let logged := Engine.run sink.logged.verified strategy p (Verified.start q ⟨[], s⟩)
    run = (logged.1, logged.2.unlogged) ∧
      ((∃ summary, run.1 = .ok summary) ↔
        p.disks.count = q.disks.count ∧
          (p.disks.count = 0 ∨ p.rods.source = q.rods.source ∧ p.rods.target = q.rods.target ∧
            (p.disks.count = 1 ∨ p.rods.spare = q.rods.spare))) ∧
      ∀ e, run.1 = .error e →
        .finish ∉ logged.2.inner.calls ∧
          ((∃ m ∈ p.solution, ∃ o, e = .illegalMove m.disk m.source.label m.target.label o) ∨
            e = .unsolved q.disks.count q.rods.target.label) := by
  intro run logged
  have halike : run = (logged.1, logged.2.unlogged) :=
    (Sink.alike_unlogged sink).run strategy p (Verified.start q ⟨[], s⟩)
  have hlogged : logged.1 = run.1 := by rw [halike]
  have hverdict : run.1 = _ := Engine.run_verified_of_neverFails hsink strategy p q s
  have hfails := Board.failsWith_judge q p.solution
  rw [← Puzzle.solution_eq_iff, ← Board.judge_solution_eq_ok_iff]
  generalize Board.judge q p.solution = verdict at hverdict hfails ⊢
  refine ⟨halike, ?_, fun e he => ⟨Engine.finish_notMem_of_error hsink (hlogged.trans he), ?_⟩⟩
  · rw [hverdict]
    cases verdict with
    | error e => simp [Except.map]
    | ok u => simp [Except.map]
  · cases hfails with
    | ok u =>
      rw [hverdict] at he
      cases he
    | error h =>
      cases hverdict.symm.trans he
      exact h

/-- Two disks on a board that has the target and the spare rod exchanged: every move is legal, and
the tower ends up on the wrong rod. -/
theorem verifier_accepts_iff_exchanged :
    let p : Puzzle := ⟨⟨2, by decide⟩, .classic⟩
    let q : Puzzle := ⟨⟨2, by decide⟩, ⟨.a, .b, .c, by decide, by decide, by decide⟩⟩
    let run q := Engine.run Sink.collect.verified .recursive p (Verified.start q #[])
    let logged := Engine.run Sink.collect.logged.verified .recursive p (Verified.start q ⟨[], #[]⟩)
    (∃ summary, (run p).1 = .ok summary) ∧ (run q).1 = .error (.unsolved 2 'B') ∧
      .finish ∉ logged.2.inner.calls := by
  intro p q run logged
  have hsink : Sink.collect.NeverFails := ⟨fun _ _ => rfl, fun _ => rfl⟩
  obtain ⟨-, hmatch, -⟩ := verifier_accepts_iff Sink.collect hsink .recursive p p #[]
  obtain ⟨-, -, hrefused⟩ := verifier_accepts_iff Sink.collect hsink .recursive p q #[]
  have hrun : (run q).1 = .error (.unsolved 2 'B') := rfl
  exact ⟨hmatch.2 ⟨rfl, .inr ⟨rfl, rfl, .inr rfl⟩⟩, hrun, (hrefused _ hrun).1⟩

end TowerOfHanoi
