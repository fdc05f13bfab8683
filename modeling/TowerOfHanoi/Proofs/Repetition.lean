/-
TowerOfHanoi/Proofs/Repetition.lean

Many runs into one sink.  Between two runs the sink is finished, wherever its
buffers stand, and goes on from the state in which that leaves it.  A sink that
takes everything (`Sink.Takes`) does not notice: each run adds the solution of its
puzzle to what is held, and so a list of runs adds the solutions of a list of
puzzles, one behind the other (`Sink.Takes.runAll`).

In a table the header comes with the first row.  As no row looks like the header
(`Output.moveFields_ne_csvHeader`), it can be counted: there is one if there is a
row, hence if there is a puzzle with a disk (`Puzzle.solution_eq_nil_iff`).

Main result: `runs_concatenate`.
-/
import TowerOfHanoi.Proofs.CsvRecords
import TowerOfHanoi.Proofs.Lines

namespace TowerOfHanoi

/-! ### One run after another -/

namespace Sink

/-- An array of moves takes everything. -/
theorem takes_collect : collect.Takes fun kept ms => kept = ms.toArray where
  emit {kept ms} hkept m := by
    refine ⟨kept.push m, rfl, ?_⟩
    rw [hkept, List.push_toArray]
  finish {kept _} hkept := ⟨kept, rfl, hkept⟩

variable {σ : Type} {sink : Sink σ} {Holds : σ → List Move → Prop} {s : σ} {ms : List Move}

/-- **Every run succeeds, and the solutions are held one behind the other.** -/
theorem Takes.runAll (h : sink.Takes Holds) (hs : Holds s ms) (strategy : Strategy)
    (ps : List Puzzle) :
    ∃ s', Engine.runAll sink strategy ps s
        = (ps.map fun p => .ok ⟨p, strategy, p.disks.moveCount⟩, s') ∧
      Holds s' (ms ++ ps.flatMap Puzzle.solution) := by
  -- what is held when a run begins is arbitrary, so the sink may have been finished at any point
  induction ps generalizing s ms with
  | nil =>
    rw [List.flatMap_nil, List.append_nil]
    exact ⟨s, rfl, hs⟩
  | cons p ps ih =>
    obtain ⟨s₁, hrun, hs₁⟩ := h.run hs strategy p
    obtain ⟨s₂, hruns, hs₂⟩ := ih hs₁
    refine ⟨s₂, ?_, ?_⟩
    · simp only [Engine.runAll, hrun, hruns, List.map_cons]
    · rw [List.flatMap_cons, ← List.append_assoc]
      exact hs₂

end Sink

/-! ### When there is a move -/

theorem Puzzle.solution_eq_nil_iff {p : Puzzle} : p.solution = [] ↔ p.disks.count = 0 := by
  rw [← List.length_eq_zero_iff, Puzzle.length_solution]
  cases p.disks.count with
  | zero => simp [towerMoves]
  | succ n => simp [towerMoves]

/-- Puzzles without disks leave no moves. -/
theorem flatMap_solution_eq_nil_iff {ps : List Puzzle} :
    ps.flatMap Puzzle.solution = [] ↔ ¬ ∃ p ∈ ps, p.disks.count ≠ 0 := by
  rw [List.flatMap_eq_nil_iff]
  simp only [Puzzle.solution_eq_nil_iff, not_exists, not_and, ne_eq, Decidable.not_not]

namespace Output

/-- No row looks like the header, because a number does not begin with a letter. -/
theorem moveFields_ne_csvHeader (m : Move) : moveFields m ≠ csvHeader := by
  intro h
  have hdisk : Text.decimal m.disk = "disk" := (List.cons.inj h).1
  have hdigits : Text.digits m.disk = ['d', 'i', 's', 'k'] := by
    rw [← String.toList_ofList (l := Text.digits m.disk)]
    exact congrArg String.toList hdisk
  have hd : Text.isDigit 'd' = true :=
    Text.isDigit_of_mem_digits m.disk 'd' (by rw [hdigits]; exact List.mem_cons_self)
  revert hd
  decide

/-- **Runs add up.**  Let puzzles be run one after another on one sink, which is finished after each of
them: an array of moves, a text in memory, or the sink of a format over a store that takes
everything, buffered or not.  Every run succeeds, and what is left in the end is the encoding of all
solutions as of one list, the same as if these moves had been passed without ever finishing the sink.
A table of them has a header exactly if some puzzle has a disk; then it has one, which comes first. -/
theorem runs_concatenate (strategy : Strategy) (ps : List Puzzle) :
    let moves := ps.flatMap Puzzle.solution
    let summaries : List (Except Error Summary) :=
      ps.map fun p => .ok ⟨p, strategy, p.disks.moveCount⟩
    Engine.runAll Sink.collect strategy ps #[] = (summaries, moves.toArray) ∧
      Engine.runAll (textSink .memory) strategy ps "" = (summaries, encodeText moves) ∧
      (∀ (f : Format) (store : Store) (buffered : Bool), store.Reliable →
        let start := Writer.start f { store, buffered }
        ∃ s s', Engine.runAll (Writer.sink f) strategy ps start = (summaries, s) ∧
          (Writer.close f s).bytes = encode f moves ∧
          (Writer.sink f).emitAll start moves = (.ok (), s') ∧
          (Writer.close f s').bytes = encode f moves) ∧
      readCsv (encode .csv moves) = some
        ((if ∃ p ∈ ps, p.disks.count ≠ 0 then [csvHeader] else []) ++ moves.map moveFields) ∧
      csvHeader ∉ moves.map moveFields := by
  intro moves summaries
  refine ⟨?_, ?_, fun f store buffered hstore => ?_, ?_, ?_⟩
  · have hstart : #[] = ([] : List Move).toArray := rfl
    obtain ⟨kept, hruns, rfl⟩ := Sink.takes_collect.runAll hstart strategy ps
    exact hruns
  · have hstart : "" = lines Move.text [] := rfl
    obtain ⟨t, hruns, rfl⟩ := takes_memory.runAll hstart strategy ps
    exact hruns
  · have hstart := Writer.holds_start hstore.empty f buffered
    obtain ⟨s, hruns, hs⟩ := (Writer.takes hstore f).runAll hstart strategy ps
    obtain ⟨s', hemit, hs'⟩ := hstart.emitAll_of_reliable hstore moves
    exact ⟨s, s', hruns, hs.close_of_reliable hstore, hemit, hs'.close_of_reliable hstore⟩
  · show readCsv (encodeCsv moves).toUTF8 = _
    rw [readCsv_encodeCsv, csvRows]
    by_cases hdisk : ∃ p ∈ ps, p.disks.count ≠ 0
    · have hmoves : moves ≠ [] := fun h => flatMap_solution_eq_nil_iff.1 h hdisk
      rw [if_neg hmoves, if_pos hdisk]
      rfl
    · have hmoves : moves = [] := flatMap_solution_eq_nil_iff.2 hdisk
      rw [if_pos hmoves, if_neg hdisk, hmoves]
      rfl
  · intro hheader
    obtain ⟨m, -, hm⟩ := List.mem_map.1 hheader
    exact moveFields_ne_csvHeader m hm

/-- A tower without disks, a classic tower of one, and another one between rods of other labels. -/
theorem runs_concatenate_relabelled :
    let empty : Puzzle := ⟨⟨0, by decide⟩, .classic⟩
    let classic : Puzzle := ⟨⟨1, by decide⟩, .classic⟩
    let other : Puzzle := ⟨⟨1, by decide⟩, ⟨⟨'1', by decide⟩, ⟨',', by decide⟩, ⟨'x', by decide⟩,
      by decide, by decide, by decide⟩⟩
    let run := Engine.runAll (Writer.sink .csv) .iterative [empty, classic, other]
      (Writer.start .csv (.withBuffer {}))
    run.1 = [.ok ⟨empty, .iterative, 0⟩, .ok ⟨classic, .iterative, 1⟩, .ok ⟨other, .iterative, 1⟩] ∧
      readCsv (Writer.close .csv run.2).bytes
        = some [["disk", "from", "to"], ["1", "A", "C"], ["1", "1", ","]] := by
  intro empty classic other run
  obtain ⟨-, -, hruns, hread, -⟩ := runs_concatenate .iterative [empty, classic, other]
  obtain ⟨s, -, hrun, hclose, -⟩ := hruns .csv {} true ⟨rfl, rfl, rfl⟩
  have hrun : run = _ := hrun
  have hcounts : empty.disks.moveCount = 0 ∧ classic.disks.moveCount = 1 ∧
      other.disks.moveCount = 1 := by decide
  rw [hrun]
  refine ⟨?_, ?_⟩
  · simp only [List.map_cons, List.map_nil, hcounts]
  · rw [hclose, hread]
    decide +kernel

end Output

end TowerOfHanoi
