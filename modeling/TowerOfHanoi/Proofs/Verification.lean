/-
TowerOfHanoi/Proofs/Verification.lean

Verification does not show.  A board in front of a sink refuses what is not
legal play, and the solution of a puzzle is legal play from the first move to
the last; so on the solution the board refuses nothing, and the sink behind it
receives the calls it would receive without the board:

    Engine.run sink.verified strategy p (Verified.start p s)
      = ((Engine.run sink strategy p s).1, ⟨board, (Engine.run sink strategy p s).2, completed⟩)

for some `board` and `completed` (`Engine.run_verified`).  This is proved along
the list of moves and not from its end, because the sink may fail at any move
and what came before it must already agree (`Sink.emitAll_verified`).

A run therefore fails only where its sink does, and the sinks of the program
fail only on output (`Writer.failsOnOutput`).

Main result: `verification_transparent`.
-/
import TowerOfHanoi.Proofs.Delivery
import TowerOfHanoi.Proofs.Refusal
import TowerOfHanoi.Proofs.Transfer

namespace TowerOfHanoi

variable {σ : Type}

/-! ### A board in front of a sink -/

namespace Sink

variable (sink : Sink σ) {b b' : Board}

/-- A move that the board accepts goes on to the sink. -/
theorem verified_emit_of_ok {m : Move} (h : b.apply m = .ok b') (s : σ) (completed : List UInt64) :
    sink.verified.emit ⟨b, s, completed⟩ m
      = ((sink.emit s m).1, ⟨b', (sink.emit s m).2, completed⟩) := by
  simp only [verified, Board.perform_eq, h]

/-- A board that counts as solved lets the sink be finished. -/
theorem verified_finish_of_ok (h : b.ensureSolved = .ok ()) (s : σ) (completed : List UInt64) :
    sink.verified.finish ⟨b, s, completed⟩
      = ((sink.finish s).1, ⟨b, (sink.finish s).2, b.applied :: completed⟩) := by
  simp only [verified, h]

/-- The moves of a play pass the board unhindered, and if the sink takes all of them, the board has
seen the whole play. -/
theorem emitAll_verified {ms : List Move} (h : b.replay ms = .ok b') (s : σ)
    (completed : List UInt64) :
    ∃ board, sink.verified.emitAll ⟨b, s, completed⟩ ms
        = ((sink.emitAll s ms).1, ⟨board, (sink.emitAll s ms).2, completed⟩) ∧
      ((sink.emitAll s ms).1 = .ok () → board = b') := by
  induction ms generalizing b s with
  | nil =>
    cases h
    exact ⟨b', rfl, fun _ => rfl⟩
  | cons m ms ih =>
    obtain ⟨b₁, ha, hr⟩ := Board.replay_cons_eq_ok_iff.1 h
    simp only [emitAll, verified_emit_of_ok sink ha]
    rcases sink.emit s m with ⟨e | ⟨⟨⟩⟩, s₁⟩
    · -- the sink fails here, after the board has moved the disk
      refine ⟨b₁, rfl, fun hok => ?_⟩
      cases hok
    · exact ih hr s₁

end Sink

theorem Board.ensureSolved_solved (p : Puzzle) : (solved p).ensureSolved = .ok () := by
  simp [ensureSolved, isSolved, solved]

/-- A run over a sink behind the puzzle's own board is the run over the sink. -/
theorem Engine.run_verified (sink : Sink σ) (strategy : Strategy) (p : Puzzle) (s : σ) :
    ∃ board completed, Engine.run sink.verified strategy p (Verified.start p s)
      = ((Engine.run sink strategy p s).1,
          ⟨board, (Engine.run sink strategy p s).2, completed⟩) := by
  obtain ⟨board, hemit, hboard⟩ := sink.emitAll_verified (Board.replay_solution p) s []
  have hemit' : sink.verified.emitAll (Verified.start p s) p.solution = _ := hemit
  rw [run_eq, run_eq, hemit']
  rcases hr : sink.emitAll s p.solution with ⟨e | ⟨⟨⟩⟩, s'⟩ <;> rw [hr] at hboard
  · exact ⟨board, [], rfl⟩
  · -- every move was taken, so the board stands at the end of the solution
    obtain rfl := hboard rfl
    simp only [Sink.verified_finish_of_ok sink (Board.ensureSolved_solved p)]
    rcases sink.finish s' with ⟨e | ⟨⟨⟩⟩, s''⟩
    · exact ⟨_, _, rfl⟩
    · exact ⟨_, _, rfl⟩

/-! ### Failures of output -/

/-- All failures of a sink are failures of output. -/
structure Sink.FailsOnOutput (sink : Sink σ) : Prop where
  emit : ∀ s m, FailsWith (·.category = .output) (sink.emit s m).1
  finish : ∀ s, FailsWith (·.category = .output) (sink.finish s).1

theorem Sink.FailsOnOutput.emitAll {sink : Sink σ} (h : sink.FailsOnOutput) (s : σ)
    (ms : List Move) : FailsWith (·.category = .output) (sink.emitAll s ms).1 := by
  induction ms generalizing s with
  | nil => exact .ok ()
  | cons m ms ih =>
    have hemit := h.emit s m
    rw [Sink.emitAll]
    generalize sink.emit s m = r at hemit ⊢
    obtain ⟨e | ⟨⟨⟩⟩, s'⟩ := r
    · exact .error (hemit.of_error rfl)
    · exact ih s'

/-- A run has no failures of its own. -/
theorem Sink.FailsOnOutput.run {sink : Sink σ} (h : sink.FailsOnOutput) (strategy : Strategy)
    (p : Puzzle) (s : σ) :
    FailsWith (·.category = .output) (Engine.run sink strategy p s).1 := by
  have hemit := h.emitAll s p.solution
  rw [Engine.run_eq]
  generalize sink.emitAll s p.solution = r at hemit ⊢
  obtain ⟨e | ⟨⟨⟩⟩, s'⟩ := r
  · exact .error (hemit.of_error rfl)
  · have hfinish := h.finish s'
    simp only
    generalize sink.finish s' = r at hfinish ⊢
    obtain ⟨e | ⟨⟨⟩⟩, s''⟩ := r
    · exact .error (hfinish.of_error rfl)
    · exact .ok _

namespace Output

theorem failsWith_ioResult {α : Type} (r : Except String Unit × α) :
    FailsWith (·.category = .output) (ioResult r).1 := by
  rcases r with ⟨fault | ⟨⟨⟩⟩, a⟩
  · exact .error rfl
  · exact .ok ()

/-- The sinks of the three formats fail on output only, whatever has happened to them before. -/
theorem Writer.failsOnOutput (f : Format) : (Writer.sink f).FailsOnOutput := by
  cases f with
  | text =>
    constructor
    · intro c m
      show FailsWith _ (Printer.console.printAll c (movePrints m)).1
      rw [printAll_console]
      exact failsWith_ioResult _
    · intro c
      show FailsWith _ (ioResult (Channel.flush c)).1
      exact failsWith_ioResult _
  | json =>
    constructor
    · intro c m
      simp only [Writer.sink, jsonSink]
      rcases Channel.writeEach c (m.jsonTokens.map String.toUTF8) with ⟨fault | ⟨⟨⟩⟩, c'⟩
      · exact .error rfl
      · exact failsWith_ioResult _
    · intro c
      show FailsWith _ (ioResult (Channel.flush c)).1
      exact failsWith_ioResult _
  | csv =>
    constructor
    · intro s m
      simp only [Writer.sink, csvSink]
      rcases Csv.writeMove s m with ⟨fault | ⟨⟨⟩⟩, s'⟩
      · exact .error rfl
      · exact .ok ()
    · intro s
      show FailsWith _ (ioResult (Csv.flush s)).1
      exact failsWith_ioResult _

end Output

/-! ### The program -/

namespace Program

open Output (Store Channel Writer)

/-- What the program plays does not depend on whether it verifies. -/
theorem play_eq (s : Settings) (p : Puzzle) (stdout : Store) :
    let run := Engine.run (Writer.sink s.format) s.strategy p
      (Writer.start s.format (Channel.withBuffer stdout))
    (play s p stdout).result = run.1 ∧ (play s p stdout).stdout = Writer.close s.format run.2 := by
  intro run
  rw [play]
  split
  · obtain ⟨board, completed, hrun⟩ := Engine.run_verified (Writer.sink s.format) s.strategy p
      (Writer.start s.format (Channel.withBuffer stdout))
    rw [hrun]
    exact ⟨rfl, rfl⟩
  · exact ⟨rfl, rfl⟩

/-- A failure of output is not an internal one. -/
theorem exitCode_ne_three {r : Except Error Summary} (h : FailsWith (·.category = .output) r) :
    exitCode r ≠ 3 := by
  cases h with
  | ok _ => exact Nat.zero_ne_add_one 2
  | error hcategory =>
    rw [exitCode, Error.exitCode, hcategory]
    decide

/-- The program never ends with the exit code of an internal failure. -/
theorem run_exitCode_ne_three (i : Invocation) : (run i).exitCode ≠ 3 := by
  -- the code 3 is that of an illegal or unfinished play, which no refusal and no sink reports
  rcases i.help_or_refused_or_asks with hhelp | ⟨e, hrefused⟩ | ⟨s, p, hasks, hpuzzle⟩
  · rw [run_of_help hhelp]
    decide
  · rw [(run_of_refused hrefused).1]
    rcases hrefused.exitCode with hcode | hcode <;> rw [hcode] <;> decide
  · rw [(run_of_asks hasks hpuzzle).1, (play_eq s p i.stdout).1]
    exact exitCode_ne_three ((Writer.failsOnOutput s.format).run s.strategy p _)

end Program

/-- **Verification is transparent.**  Over any sink, a run behind the puzzle's own board gives the
same result and leaves the sink in the same state as the run without the board.  Hence over a sink
that fails on output only, a verified run does not end as an internal failure; and the program does
not, whatever it is invoked with. -/
theorem verification_transparent (sink : Sink σ) (strategy : Strategy) (p : Puzzle) (s : σ) :
    let plain := Engine.run sink strategy p s
    let verified := Engine.run sink.verified strategy p (Verified.start p s)
    verified.1 = plain.1 ∧ verified.2.inner = plain.2 ∧
      (sink.FailsOnOutput → Program.exitCode verified.1 ≠ 3) ∧
      ∀ i : Program.Invocation, (Program.run i).exitCode ≠ 3 := by
  intro plain verified
  obtain ⟨board, completed, hrun⟩ := Engine.run_verified sink strategy p s
  have hresult : verified.1 = plain.1 := congrArg Prod.fst hrun
  have hinner : verified.2.inner = plain.2 := congrArg (·.2.inner) hrun
  refine ⟨hresult, hinner, fun hsink => ?_, Program.run_exitCode_ne_three⟩
  rw [hresult]
  exact Program.exitCode_ne_three (hsink.run strategy p s)

end TowerOfHanoi
