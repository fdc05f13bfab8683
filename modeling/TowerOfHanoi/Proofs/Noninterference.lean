/-
TowerOfHanoi/Proofs/Noninterference.lean

Standard output is a clean stream of moves.  Two settings that agree on the
puzzle and on the format (`Settings.Agree`) may differ in everything else: how
the moves are produced, whether they are verified, what is logged and where
the ceiling on the number of disks lies.  None of this reaches standard
output.  The reasons lie in three other modules: the strategies offer the same
list (`Engine.run_eq`), verification does not show (`Program.play_eq`), and
buffers lose nothing (`Writer.takes`); so the output of one program is already
known from the puzzle and the format (`Program.run_of_reliable`), and the
statement about two programs follows.

Main result: `stdout_noninterference`.
-/
import TowerOfHanoi.Proofs.Reliable
import TowerOfHanoi.Proofs.Verification

namespace TowerOfHanoi

/-! ### Settings that agree on the play -/

namespace Settings

/-- Two settings agree on the puzzle and on the format. -/
structure Agree (s s' : Settings) : Prop where
  disks : s.disks = s'.disks
  source : s.source = s'.source
  target : s.target = s'.target
  spare : s.spare = s'.spare
  format : s.format = s'.format

variable {s s' : Settings} {p p' : Puzzle}

/-- Settings that agree have one solution, whatever their ceilings are. -/
theorem Agree.solution_eq (h : s.Agree s') (hp : s.puzzle = .ok p) (hp' : s'.puzzle = .ok p') :
    p.solution = p'.solution := by
  obtain ⟨hdisks, hsource, htarget, hspare⟩ := parts_of_puzzle hp
  obtain ⟨hdisks', hsource', htarget', hspare'⟩ := parts_of_puzzle hp'
  rw [Puzzle.solution, Puzzle.solution, hdisks, hsource, htarget, hspare, hdisks', hsource',
    htarget', hspare', h.disks, h.source, h.target, h.spare]

end Settings

/-! ### What a program writes -/

namespace Program

open Output (Store Channel Writer encode)

variable {i i' : Invocation} {s s' : Settings} {p p' : Puzzle}

/-- Over a reliable output a play succeeds and leaves the encoding of the solution. -/
theorem play_of_reliable {stdout : Store} (h : stdout.Reliable) (s : Settings) (p : Puzzle) :
    (∃ summary, (play s p stdout).result = .ok summary) ∧
      (play s p stdout).stdout.bytes = encode s.format p.solution := by
  obtain ⟨hresult, hstdout⟩ := play_eq s p stdout
  rw [hresult, hstdout]
  have hstart : Writer.Holds stdout s.format
      (Writer.start s.format (Channel.withBuffer stdout)) [] :=
    Writer.holds_start h.empty s.format true
  obtain ⟨s', hrun, hholds⟩ := (Writer.takes h s.format).run hstart s.strategy p
  rw [hrun]
  exact ⟨⟨_, rfl⟩, hholds.close_of_reliable h⟩

/-- A program that is asked for a puzzle over a reliable output succeeds, and writes the encoding of
the solution. -/
theorem run_of_reliable (h : i.Asks s) (hp : s.puzzle = .ok p) (hout : i.stdout.Reliable) :
    (run i).exitCode = 0 ∧ (run i).stdout.bytes = encode s.format p.solution := by
  obtain ⟨hcode, hstdout⟩ := run_of_asks h hp
  obtain ⟨⟨summary, hresult⟩, hbytes⟩ := play_of_reliable hout s p
  rw [hcode, hstdout, hresult]
  exact ⟨rfl, hbytes⟩

/-- **Only the puzzle and the format reach standard output.**  Two programs whose settings agree on
them, over outputs that never fail, write the same bytes, which are the moves that the recursive
strategy emits in the common format, and both succeed.  A program that is refused before its run
writes nothing, and its exit code is 1 or 2. -/
theorem stdout_noninterference (i i' : Invocation) :
    (∀ s s' p p', i.Asks s → i'.Asks s' → s.puzzle = .ok p → s'.puzzle = .ok p' → s.Agree s' →
      i.stdout.Reliable → i'.stdout.Reliable →
        (run i).stdout.bytes = (run i').stdout.bytes ∧
        (run i).stdout.bytes
          = encode s.format (solvePuzzle Sink.collect .recursive p #[]).2.toList ∧
        (run i).exitCode = 0 ∧ (run i').exitCode = 0) ∧
      ∀ e, i.Refused e →
        (run i).stdout = i.stdout ∧ ((run i).exitCode = 1 ∨ (run i).exitCode = 2) := by
  refine ⟨?_, ?_⟩
  · -- each output is known from its own settings, so it is enough that these give the same bytes
    intro s s' p p' hasks hasks' hp hp' hagree hout hout'
    obtain ⟨hcode, hbytes⟩ := run_of_reliable hasks hp hout
    obtain ⟨hcode', hbytes'⟩ := run_of_reliable hasks' hp' hout'
    refine ⟨?_, ?_, hcode, hcode'⟩
    · rw [hbytes, hbytes', hagree.format, hagree.solution_eq hp hp']
    · rw [hbytes, solvePuzzle_collect]
  · intro e hrefused
    obtain ⟨hcode, hstdout⟩ := run_of_refused hrefused
    rw [hcode]
    exact ⟨hstdout, hrefused.exitCode⟩

/-- One disk, moved with the default settings and with everything that must not show; and a command
line that is refused. -/
theorem stdout_noninterference_one :
    let plain : Invocation :=
      { arguments := ["-n1"], files := fun _ => .missing, environment := fun _ => none }
    let busy : Invocation :=
      { arguments := ["-vn1", "--strategy=iterative", "--verify", "--summary", "--json-logs"]
        files := fun _ => .missing
        environment := fun name => if name = "RUST_LOG" then some "trace" else none }
    let refused : Invocation := { plain with arguments := ["--from=AB"] }
    ((run plain).stdout.bytes = (run busy).stdout.bytes ∧
        (run plain).stdout.bytes = encode .text [⟨1, .a, .c⟩] ∧
        (run plain).exitCode = 0 ∧ (run busy).exitCode = 0) ∧
      (run refused).stdout = {} ∧ ((run refused).exitCode = 1 ∨ (run refused).exitCode = 2) := by
  intro plain busy refused
  have hplain : plain.Asks { disks := 1 } := ⟨{ disks := some 1 }, rfl, rfl⟩
  have hbusy : busy.Asks
      { disks := 1, strategy := .iterative, verify := true, summary := true, verbose := true,
        jsonLogs := true } :=
    ⟨{ disks := some 1, strategy := some .iterative, verify := true, summary := true,
       verbose := true, jsonLogs := true }, rfl, rfl⟩
  have hrefused : refused.Refused (.argument (.malformedValue "--from" "AB")) := .arguments rfl
  have hout : Store.Reliable {} := ⟨rfl, rfl, rfl⟩
  refine ⟨?_, (stdout_noninterference refused plain).2 _ hrefused⟩
  exact (stdout_noninterference plain busy).1 _ _ _ _ hplain hbusy rfl rfl
    ⟨rfl, rfl, rfl, rfl, rfl⟩ hout hout

end Program

end TowerOfHanoi
